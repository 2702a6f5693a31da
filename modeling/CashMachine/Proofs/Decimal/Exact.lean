/-
Which numbers are amounts.

A number is representable when there is an amount of that value.  A sum or a difference that is
in range but not representable is rounded, and nothing says so.

* `IsRounding.value_eq_iff` — rounding keeps a number exactly when it is representable;
* `IsRounding.dist_le` — and otherwise moves it by at most half a unit of the last digit;
* `representable_of_cents` — whole cents in the range of cents are representable.
-/
import CashMachine.Proofs.Decimal.Sum

namespace CashMachine.Decimal

/-- Some amount is the number. -/
def Representable (v : ℚ) : Prop :=
  ∃ d : Decimal, d.value = v

theorem representable_of_cents {v : ℚ} {n : ℤ} (hn : v * 100 = n) (hv : |v| ≤ maxCents) :
    Representable v := by
  have hle : n.natAbs ≤ maxCoefficient := by
    have h : |(n : ℚ)| ≤ maxCoefficient := by
      rw [← hn, abs_mul, abs_of_pos (by norm_num : (0 : ℚ) < 100)]
      rw [maxCents, le_div_iff₀ (by norm_num)] at hv
      exact hv
    rw [← Int.cast_abs, Int.abs_eq_natAbs] at h
    exact_mod_cast h
  refine ⟨ofCoefficient n 2 hle (by decide), ?_⟩
  rw [value_eq_iff, coefficient_ofCoefficient, scale_ofCoefficient, ← hn]
  norm_num [tenTo]

namespace IsRounding

variable {v : ℚ} {c : Decimal}

/-- Rounding keeps the numbers that are representable, and no others. -/
theorem value_eq_iff (h : IsRounding v c) : c.value = v ↔ Representable v := by
  constructor
  · intro hc
    exact ⟨c, hc⟩
  · rintro ⟨d, rfl⟩
    have hd : d.value * (tenTo d.scale : ℕ) = d.coefficient := (Decimal.value_eq_iff.mp rfl).symm
    exact h.value_eq hd d.natAbs_coefficient_le

/-- A number is moved by at most half a unit of the last digit that is kept. -/
theorem dist_le (h : IsRounding v c) : |c.value - v| ≤ 1 / (2 * (tenTo c.scale : ℕ)) := by
  obtain ⟨r, n, hn, hr⟩ := h.finite
  have hdist := roundHalfEven_dist n (tenTo_pos (r - c.scale))
  rw [← h.nearest hn hr] at hdist
  have hs : tenTo r = tenTo c.scale * tenTo (r - c.scale) := by
    rw [← tenTo_add, Nat.add_sub_cancel' hr]
  generalize tenTo (r - c.scale) = d at hdist hs
  -- both numbers over the denominator that leaves nothing to be rounded
  have hdiff : (c.value - v) * (tenTo r : ℕ) = ((c.coefficient * d - n : ℤ) : ℚ) := by
    rw [sub_mul, hn, hs]
    push_cast
    rw [← mul_assoc, ← Decimal.value_eq_iff.mp rfl]
  have habs : 2 * |(c.value - v) * (tenTo r : ℕ)| ≤ d := by
    rw [hdiff, ← Int.cast_abs, Int.abs_eq_natAbs]
    exact_mod_cast hdist
  rw [abs_mul, abs_of_pos (cast_tenTo_pos r)] at habs
  have hd : (0 : ℚ) < d := by
    have hpos := tenTo_pos r
    rw [hs] at hpos
    exact_mod_cast Nat.pos_of_mul_pos_left hpos
  rw [le_div_iff₀ (by have := cast_tenTo_pos c.scale; linarith)]
  refine le_of_mul_le_mul_right ?_ hd
  rw [hs] at habs
  push_cast at habs
  linarith

theorem dist_le_half (h : IsRounding v c) : |c.value - v| ≤ 1 / 2 := by
  have hone : (1 : ℚ) ≤ (tenTo c.scale : ℕ) := by exact_mod_cast tenTo_pos c.scale
  refine h.dist_le.trans (one_div_le_one_div_of_le (by norm_num) ?_)
  linarith

end IsRounding

end CashMachine.Decimal
