/-
The numbers that amounts stand for.

`Decimal.value` is the number of an amount, a fraction; amounts of different scales can
have the same one.  Comparison and the tests for signs look at the number alone:

* `lt_iff_value_lt`, `equals_iff_value_eq`, `isPositive_iff`, `isNegative_iff`;
* `roundHalfEven_congr` — rounding looks at the quotient alone;
* `equals_round_iff` — an amount is its own rounding exactly when it is a whole number
  of cents (`IsCents`).
-/
import Mathlib.Algebra.Order.Field.Basic
import Mathlib.Algebra.Order.Field.Rat
import Mathlib.Order.Compare
import Mathlib.Tactic.FieldSimp
import Mathlib.Tactic.Linarith
import Mathlib.Tactic.NormNum
import Mathlib.Tactic.Ring
import CashMachine.Decimal.Sum

namespace CashMachine.Decimal

/-- The number that an amount stands for. -/
def value (a : Decimal) : ℚ :=
  a.coefficient / (tenTo a.scale : ℕ)

/-- A whole number of cents. -/
def IsCents (a : Decimal) : Prop :=
  ∃ n : ℤ, a.value * 100 = n

theorem cast_tenTo_pos (k : ℕ) : (0 : ℚ) < (tenTo k : ℕ) :=
  Nat.cast_pos.mpr (tenTo_pos k)

theorem nonneg_of_mul_tenTo {v : ℚ} {k : ℕ} {n : ℤ} (h : v * (tenTo k : ℕ) = n) (hv : 0 ≤ v) :
    0 ≤ n := by
  have hn : (0 : ℚ) ≤ n := by
    rw [← h]
    exact mul_nonneg hv (cast_tenTo_pos k).le
  exact_mod_cast hn

theorem value_eq_iff {a : Decimal} {q : ℚ} :
    a.value = q ↔ (a.coefficient : ℚ) = q * (tenTo a.scale : ℕ) := by
  rw [value, div_eq_iff (ne_of_gt (cast_tenTo_pos a.scale))]

theorem coefficientAt_eq (a : Decimal) {s : ℕ} (h : a.scale ≤ s) :
    (a.coefficientAt s : ℚ) = a.value * (tenTo s : ℕ) := by
  have hs : tenTo s = tenTo (s - a.scale) * tenTo a.scale := by
    rw [← tenTo_add, Nat.sub_add_cancel h]
  have hc : (a.coefficient : ℚ) = a.value * (tenTo a.scale : ℕ) := value_eq_iff.mp rfl
  rw [coefficientAt, hs]
  push_cast
  rw [hc]
  ring

/-! ### Comparison -/

theorem compareTo_eq (a b : Decimal) : a.compareTo b = compare a.value b.value := by
  have hs := cast_tenTo_pos (max a.scale b.scale)
  have ha := coefficientAt_eq a (le_max_left a.scale b.scale)
  have hb := coefficientAt_eq b (le_max_right a.scale b.scale)
  rw [compareTo]
  -- both numbers are the coefficients divided by the same power of ten
  rcases lt_trichotomy a.value b.value with h | h | h
  · rw [compare_lt_iff_lt.mpr h, compare_lt_iff_lt]
    have := mul_lt_mul_of_pos_right h hs
    rw [← ha, ← hb] at this
    exact_mod_cast this
  · rw [compare_eq_iff_eq.mpr h, compare_eq_iff_eq]
    have := congrArg (· * ((tenTo (max a.scale b.scale) : ℕ) : ℚ)) h
    simp only [← ha, ← hb] at this
    exact_mod_cast this
  · rw [compare_gt_iff_gt.mpr h, compare_gt_iff_gt]
    have := mul_lt_mul_of_pos_right h hs
    rw [← ha, ← hb] at this
    exact_mod_cast this

theorem lt_iff_value_lt {a b : Decimal} : a < b ↔ a.value < b.value := by
  show a.compareTo b = .lt ↔ _
  rw [compareTo_eq, compare_lt_iff_lt]

theorem le_iff_value_le {a b : Decimal} : a ≤ b ↔ a.value ≤ b.value := by
  show a.compareTo b ≠ .gt ↔ _
  rw [compareTo_eq, Ne, compare_gt_iff_gt, not_lt]

theorem equals_iff_value_eq {a b : Decimal} : a.equals b = true ↔ a.value = b.value := by
  rw [equals, beq_iff_eq, compareTo_eq, compare_eq_iff_eq]

theorem isPositive_iff {a : Decimal} : a.isPositive = true ↔ 0 < a.value := by
  rw [isPositive, decide_eq_true_iff, value, div_pos_iff_of_pos_right (cast_tenTo_pos a.scale)]
  exact Int.cast_pos.symm

theorem isNegative_iff {a : Decimal} : a.isNegative = true ↔ a.value < 0 := by
  rw [isNegative, decide_eq_true_iff, value, div_lt_iff₀ (cast_tenTo_pos a.scale), zero_mul]
  exact Int.cast_lt_zero.symm

theorem isNegative_eq_false_iff {a : Decimal} : a.isNegative = false ↔ 0 ≤ a.value := by
  rw [Bool.eq_false_iff, Ne, isNegative_iff, not_lt]

theorem isZero_iff {a : Decimal} : a.isZero = true ↔ a.value = 0 := by
  rw [isZero, beq_iff_eq, value, div_eq_zero_iff, ← natAbs_coefficient, Int.natAbs_eq_zero]
  simp [ne_of_gt (cast_tenTo_pos a.scale)]

theorem value_neg (a : Decimal) : a.neg.value = -a.value := by
  unfold neg
  by_cases h : a.isZero = true
  · rw [if_pos h, isZero_iff.mp h, neg_zero]
  · rw [if_neg h, value, value]
    have hc : ({ a with negative := !a.negative } : Decimal).coefficient = -a.coefficient := by
      unfold coefficient
      cases a.negative <;> simp
    rw [hc]
    push_cast
    ring

/-! ### Rounding -/

theorem roundHalfEven_mul_mul (n : ℤ) {d p : ℕ} (hp : 0 < p) :
    roundHalfEven (n * p) (d * p) = roundHalfEven n d := by
  have hpz : (0 : ℤ) < p := Int.natCast_pos.mpr hp
  -- the quotient is the same, and the remainder stands to the half as before
  have hq : n * (p : ℤ) / ((d * p : ℕ) : ℤ) = n / d := by
    rw [Nat.cast_mul, Int.mul_ediv_mul_of_pos_left _ _ hpz]
  have hr : n * (p : ℤ) % ((d * p : ℕ) : ℤ) = n % d * p := by
    rw [Nat.cast_mul, mul_comm n, mul_comm (d : ℤ), Int.mul_emod_mul_of_pos _ _ hpz, mul_comm]
  have h1 : 2 * (n % (d : ℤ) * p) < ((d * p : ℕ) : ℤ) ↔ 2 * (n % (d : ℤ)) < d := by
    rw [Nat.cast_mul, ← mul_assoc, mul_lt_mul_iff_left₀ hpz]
  have h2 : ((d * p : ℕ) : ℤ) < 2 * (n % (d : ℤ) * p) ↔ (d : ℤ) < 2 * (n % (d : ℤ)) := by
    rw [Nat.cast_mul, ← mul_assoc, mul_lt_mul_iff_left₀ hpz]
  unfold roundHalfEven
  simp only [hq, hr, h1, h2]

/-- Rounding looks at the quotient alone. -/
theorem roundHalfEven_congr {n m : ℤ} {d e : ℕ} (hd : 0 < d) (he : 0 < e)
    (h : n * e = m * d) : roundHalfEven n d = roundHalfEven m e := by
  rw [← roundHalfEven_mul_mul n he, h, Nat.mul_comm d e, roundHalfEven_mul_mul m hd]

theorem roundHalfEven_mul (n : ℤ) {d : ℕ} (hd : 0 < d) : roundHalfEven (n * d) d = n := by
  rw [roundHalfEven_congr hd Nat.one_pos (m := n) (by push_cast; ring), roundHalfEven_one]

theorem roundHalfEven_nonneg {n : ℤ} (hn : 0 ≤ n) (d : ℕ) : 0 ≤ roundHalfEven n d := by
  have h : 0 ≤ n / (d : ℤ) := Int.ediv_nonneg hn (Int.natCast_nonneg d)
  unfold roundHalfEven
  simp only
  split
  · exact h
  · split
    · omega
    · split <;> omega

theorem roundHalfEven_le {n m : ℤ} {d : ℕ} (hd : 0 < d) (h : n ≤ m * d) :
    roundHalfEven n d ≤ m := by
  have hdist := roundHalfEven_dist n hd
  by_contra hlt
  -- one unit too much would be a whole divisor away
  have h1 : (m + 1) * (d : ℤ) ≤ roundHalfEven n d * d :=
    Int.mul_le_mul_of_nonneg_right (by omega) (by omega)
  have h2 : (m + 1) * (d : ℤ) = m * d + d := by ring
  omega

/-- The number of an amount rounded to fewer fraction digits. -/
theorem value_round {a : Decimal} {places : ℕ} (h : places < a.scale) :
    (a.round places).value =
      (roundHalfEven a.coefficient (tenTo (a.scale - places)) : ℚ) / (tenTo places : ℕ) := by
  rw [round, if_neg (by omega)]
  -- zero is not rounded but cut, since it keeps its sign
  by_cases hz : a.isZero = true
  · have hm : a.magnitude = 0 := beq_iff_eq.mp hz
    have hc : a.coefficient = 0 := by
      rw [← Int.natAbs_eq_zero, natAbs_coefficient, hm]
    have hr : roundHalfEven 0 (tenTo (a.scale - places)) = 0 := by
      have := roundHalfEven_mul 0 (tenTo_pos (a.scale - places))
      rwa [zero_mul] at this
    rw [if_pos hz, hc, hr, Int.cast_zero, zero_div]
    exact isZero_iff.mp (show (a.magnitude == 0) = true from hz)
  · rw [if_neg hz, value, coefficient_ofCoefficient, scale_ofCoefficient,
      min_eq_left (Nat.le_of_lt h)]

/-! ### Cents -/

theorem isCents_of_scale_le {a : Decimal} (h : a.scale ≤ 2) : a.IsCents := by
  refine ⟨a.coefficientAt 2, ?_⟩
  rw [coefficientAt_eq a h]
  norm_num [tenTo]

theorem equals_round_iff {a : Decimal} : (a.round 2).equals a = true ↔ a.IsCents := by
  rw [equals_iff_value_eq]
  by_cases hs : a.scale ≤ 2
  · rw [round, if_pos hs]
    exact iff_of_true rfl (isCents_of_scale_le hs)
  · have ht : tenTo a.scale = tenTo (a.scale - 2) * tenTo 2 := by
      rw [← tenTo_add, Nat.sub_add_cancel (by omega)]
    have h2 : ((tenTo 2 : ℕ) : ℚ) = 100 := by norm_num [tenTo]
    have hp := cast_tenTo_pos (a.scale - 2)
    rw [value_round (by omega), h2]
    constructor
    · intro h
      refine ⟨roundHalfEven a.coefficient (tenTo (a.scale - 2)), ?_⟩
      rw [← h]
      field_simp
    · rintro ⟨n, hn⟩
      -- the coefficient is the number of cents followed by the digits that are rounded away
      have hc : (a.coefficient : ℚ) = ((n * (tenTo (a.scale - 2) : ℕ) : ℤ) : ℚ) := by
        rw [value_eq_iff.mp rfl, ht]
        push_cast
        rw [h2, ← hn]
        ring
      rw [Int.cast_inj.mp hc, roundHalfEven_mul n (tenTo_pos _), ← hn]
      ring

instance (a : Decimal) : Decidable a.IsCents :=
  decidable_of_iff _ equals_round_iff

end CashMachine.Decimal
