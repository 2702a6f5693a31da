/-
Sums look at the numbers alone.

An amount can be written with more or fewer fraction digits.  Sums are made at the larger scale of
the two operands, so the digits that are rounded away, if there are any, are counted from another
place.  Still, where the numbers of the operands are the same, there is a sum in both cases or in
neither of them, and the sums are the same number.

* `IsRounding.natAbs_le` — what fits with some digits fits with fewer digits too;
* `IsRounding.value_unique` — a number has one rounding, however it is written;
* `exists_add?_of_isRounding` — and where it has one, there is a sum;
* `exists_add?_of_cents`, `exists_foldlM_add?_of_cents` — whole cents in the range of cents have an
  exact sum, two of them or a row;
* `Rescaled.add?`, `Rescaled.sub?` — sums and differences of the same numbers;
* `Rescaled.wholeUnits?_eq` — the whole units of the same number.
-/
import Mathlib.Algebra.Order.BigOperators.Group.List
import Mathlib.Data.Option.Basic
import CashMachine.Proofs.Decimal.Exact
import CashMachine.Proofs.Decimal.Whole

namespace CashMachine.Decimal

/-- The same number, whatever the number of fraction digits. -/
abbrev Rescaled (a b : Decimal) : Prop :=
  b.value = a.value

/-! ### One rounding -/

theorem natAbs_roundHalfEven_le_of_le {n : ℤ} {m d : ℕ} (hd : 0 < d) (h : n.natAbs ≤ m * d) :
    (roundHalfEven n d).natAbs ≤ m := by
  have hdist := roundHalfEven_dist n hd
  have hq : (roundHalfEven n d * d).natAbs = (roundHalfEven n d).natAbs * d := by
    rw [Int.natAbs_mul, Int.natAbs_natCast]
  by_contra hlt
  -- one unit too much would be a whole divisor away
  have h1 : (m + 1) * d ≤ (roundHalfEven n d).natAbs * d := Nat.mul_le_mul_right d (by omega)
  have h2 : (m + 1) * d = m * d + d := Nat.succ_mul m d
  omega

namespace IsRounding

variable {v : ℚ} {c d : Decimal}

/-- Wherever more digits of a number are dropped than a rounding drops, the rest fits too. -/
theorem natAbs_le (h : IsRounding v c) {r : ℕ} {n : ℤ} (hn : v * (tenTo r : ℕ) = n)
    (hr : c.scale ≤ r) {k : ℕ} (hk : k ≤ c.scale) :
    (roundHalfEven n (tenTo (r - k))).natAbs ≤ maxCoefficient := by
  have hc := h.nearest hn hr
  have hle := c.natAbs_coefficient_le
  rcases Nat.eq_or_lt_of_le hk with rfl | hlt
  · exact hc ▸ hle
  refine natAbs_roundHalfEven_le_of_le (tenTo_pos _) ?_
  -- the number is at most half a unit above the largest coefficient, and a unit is ten times less
  have hdist := roundHalfEven_dist n (tenTo_pos (r - c.scale))
  rw [← hc] at hdist
  have hpos := tenTo_pos (r - c.scale)
  have hsplit : tenTo (r - k) = tenTo (r - c.scale) * tenTo (c.scale - k) := by
    rw [← tenTo_add]
    congr 1
    omega
  have hten : 2 ≤ tenTo (c.scale - k) := by
    rw [show c.scale - k = c.scale - k - 1 + 1 by omega, tenTo_succ]
    have := tenTo_pos (c.scale - k - 1)
    omega
  have hcoefficient : (c.coefficient * tenTo (r - c.scale)).natAbs ≤
      maxCoefficient * tenTo (r - c.scale) := by
    rw [Int.natAbs_mul, Int.natAbs_natCast]
    exact Nat.mul_le_mul_right _ hle
  rw [hsplit]
  generalize tenTo (r - c.scale) = u at hdist hcoefficient hpos ⊢
  have hlarge : maxCoefficient * u * 2 ≤ maxCoefficient * (u * tenTo (c.scale - k)) := by
    rw [← Nat.mul_assoc]
    exact Nat.mul_le_mul_left _ hten
  have hone : u ≤ maxCoefficient * u := Nat.le_mul_of_pos_left u (by decide)
  omega

/-- A number has one rounding, up to the zeros at the end of its fraction. -/
theorem value_unique (hc : IsRounding v c) (hd : IsRounding v d) : c.value = d.value := by
  wlog hscale : c.scale ≤ d.scale generalizing c d
  · exact (this hd hc (Nat.le_of_not_le hscale)).symm
  obtain ⟨r, n, hn, hr⟩ := hd.finite
  rcases hc.finest hn (hscale.trans hr) with hexact | ⟨_, hlarge⟩
  · have hwhole : v * (tenTo c.scale : ℕ) = c.coefficient := (Decimal.value_eq_iff.mp hexact).symm
    rw [hexact, hd.value_eq_of_scale_le hwhole hscale]
  · rcases Nat.eq_or_lt_of_le hscale with heq | hlt
    · rw [value, value, hc.nearest hn (hscale.trans hr), hd.nearest hn hr, heq]
    · -- the second one keeps a digit that did not fit
      have hfits := hd.natAbs_le hn hr (k := c.scale + 1) hlt
      rw [Nat.sub_add_eq] at hfits
      omega

end IsRounding

/-! ### Sums and differences -/

theorem exists_add?_of_isRounding {a b c : Decimal} (h : IsRounding (a.value + b.value) c) :
    ∃ d, a.add? b = some d := by
  rw [add?]
  split
  · exact ⟨b, rfl⟩
  split
  · exact ⟨a, rfl⟩
  simp only
  have hsa : a.scale ≤ max a.scale b.scale := le_max_left _ _
  have hsb : b.scale ≤ max a.scale b.scale := le_max_right _ _
  have hs : max a.scale b.scale ≤ maxScale := max_le a.scale_le b.scale_le
  generalize max a.scale b.scale = s at hsa hsb hs ⊢
  generalize he : a.coefficientAt s + b.coefficientAt s = exact
  cases hf : fit exact s with
  | some d => exact ⟨d, rfl⟩
  | none =>
    -- the rounding shows that the number fits when all its digits are dropped
    have hn : (a.value + b.value) * (tenTo (s + c.scale) : ℕ) =
        ((exact * (tenTo c.scale : ℕ) : ℤ) : ℚ) := by
      rw [← he, tenTo_add]
      push_cast
      rw [coefficientAt_eq a hsa, coefficientAt_eq b hsb]
      ring
    have hfits := h.natAbs_le hn (Nat.le_add_left _ _) (Nat.zero_le _)
    rw [Nat.sub_zero, tenTo_add, roundHalfEven_mul_mul exact (tenTo_pos _)] at hfits
    have hlarge := fitFrom_eq_none hs hf
    rw [Nat.zero_add] at hlarge
    omega

/-! ### Cents -/

/-- Whole cents whose sum is in the range of cents have a sum, and it is exact. -/
theorem exists_add?_of_cents {a b : Decimal} (ha : a.IsCents) (hb : b.IsCents)
    (h : |a.value + b.value| ≤ maxCents) :
    ∃ c, a.add? b = some c ∧ c.value = a.value + b.value := by
  obtain ⟨n, hn⟩ := ha
  obtain ⟨k, hk⟩ := hb
  have hsum : (a.value + b.value) * 100 = ((n + k : ℤ) : ℚ) := by
    rw [add_mul, hn, hk, Int.cast_add]
  have hrepresentable := representable_of_cents hsum h
  obtain ⟨d, hd⟩ := hrepresentable
  obtain ⟨c, hc⟩ := exists_add?_of_isRounding (hd ▸ isRounding_self d)
  exact ⟨c, hc, (isRounding_add? hc).value_eq_iff.mpr ⟨d, hd⟩⟩

/-- Whole cents that are not negative are added up exactly, one after the other: no sum on the way
is larger than the last one. -/
theorem exists_foldlM_add?_of_cents {as : List Decimal} {sum : Decimal} (hsum : sum.IsCents)
    (hpos : 0 ≤ sum.value) (has : ∀ a ∈ as, a.IsCents ∧ 0 ≤ a.value)
    (hrange : sum.value + (as.map value).sum ≤ maxCents) :
    ∃ total, as.foldlM add? sum = some total ∧ total.value = sum.value + (as.map value).sum := by
  induction as generalizing sum with
  | nil => exact ⟨sum, rfl, by simp⟩
  | cons a as ih =>
    rw [List.forall_mem_cons] at has
    obtain ⟨⟨hcents, ha⟩, has⟩ := has
    have hrest : 0 ≤ (as.map value).sum := by
      refine List.sum_nonneg fun v hv => ?_
      obtain ⟨b, hb, rfl⟩ := List.mem_map.mp hv
      exact (has b hb).2
    rw [List.map_cons, List.sum_cons] at hrange ⊢
    obtain ⟨c, hc, hvalue⟩ := exists_add?_of_cents hsum hcents
      (by rw [abs_of_nonneg (by linarith)]; linarith)
    obtain ⟨total, htotal, hvalue'⟩ :=
      ih (hsum.add hcents hvalue) (by linarith) has (by linarith)
    refine ⟨total, ?_, by linarith⟩
    rw [List.foldlM_cons, hc]
    exact htotal

namespace Rescaled

variable {a b x y : Decimal}

theorem add? (hab : a.Rescaled b) (hxy : x.Rescaled y) :
    Option.Rel Rescaled (a.add? x) (b.add? y) := by
  have hsum : b.value + y.value = a.value + x.value := by rw [hab, hxy]
  cases hx : a.add? x with
  | some c =>
    have hc := isRounding_add? hx
    obtain ⟨d, hd⟩ := exists_add?_of_isRounding (hsum.symm ▸ hc)
    rw [hd]
    exact .some ((hsum ▸ isRounding_add? hd).value_unique hc)
  | none =>
    cases hy : b.add? y with
    | none => exact .none
    | some d =>
      obtain ⟨c, hc⟩ := exists_add?_of_isRounding (hsum ▸ isRounding_add? hy)
      rw [hx] at hc
      cases hc

theorem sub? (hab : a.Rescaled b) (hxy : x.Rescaled y) :
    Option.Rel Rescaled (a.sub? x) (b.sub? y) := by
  refine hab.add? ?_
  rw [Rescaled, value_neg, value_neg, hxy]

theorem wholeUnits?_eq (hab : a.Rescaled b) (hsign : b.negative = a.negative) :
    b.wholeUnits? = a.wholeUnits? := by
  ext n
  rw [wholeUnits?_eq_some_iff, wholeUnits?_eq_some_iff, hab, hsign]

theorem negative_eq (hab : a.Rescaled b) (ha : 0 < a.value) : b.negative = a.negative := by
  rw [negative_eq_false_of_pos ha, negative_eq_false_of_pos (hab ▸ ha)]

theorem truncate (hab : a.Rescaled b) (ha : 0 < a.value) : a.truncate.Rescaled b.truncate := by
  have hb : 0 < b.value := hab ▸ ha
  rw [Rescaled, value_truncate (negative_eq_false_of_pos ha),
    value_truncate (negative_eq_false_of_pos hb), hab]

end Rescaled

end CashMachine.Decimal
