/-
Amounts as numbers of units.

An amount without a minus sign has as many whole units as its number has, however many fraction
digits it is written with.

* `negative_eq_false_of_pos` — a positive number is written without a minus sign;
* `wholeUnits?_eq_some_iff` — the amounts that are a number of units, and which number it is;
* `value_truncate`, `wholeUnits?_truncate` — the whole part of an amount.
-/
import Mathlib.Algebra.Order.Floor.Semifield
import Mathlib.Data.Rat.Floor
import CashMachine.Proofs.Decimal.Value

namespace CashMachine.Decimal

variable {a : Decimal}

theorem negative_eq_false_of_pos (h : 0 < a.value) : a.negative = false := by
  have hcoefficient : 0 < a.coefficient := by
    have hpositive := isPositive_iff.mpr h
    rwa [isPositive, decide_eq_true_iff] at hpositive
  by_contra hn
  rw [coefficient, if_pos (Bool.eq_true_of_not_eq_false hn)] at hcoefficient
  omega

theorem value_of_not_negative (h : a.negative = false) :
    a.value = (a.magnitude : ℚ) / (tenTo a.scale : ℕ) := by
  rw [value, coefficient, h]
  rfl

theorem wholeUnits?_eq_some_iff {n : ℕ} :
    a.wholeUnits? = some n ↔ a.negative = false ∧ a.value = n ∧ n < 18446744073709551616 := by
  cases hsign : a.negative with
  | true => simp [wholeUnits?, hsign]
  | false =>
    have hpos := tenTo_pos a.scale
    -- the number is whole exactly when nothing remains of the digits
    have hvalue : a.value = n ↔ a.magnitude = n * tenTo a.scale := by
      rw [value_of_not_negative hsign, div_eq_iff (cast_tenTo_pos a.scale).ne']
      exact_mod_cast Iff.rfl
    rw [hvalue]
    simp only [wholeUnits?, hsign, Bool.false_eq_true, false_or, ne_eq, true_and]
    by_cases hrest : a.magnitude % tenTo a.scale = 0
    · have hcancel : a.magnitude = n * tenTo a.scale ↔ a.magnitude / tenTo a.scale = n := by
        rw [← Nat.div_eq_iff_eq_mul_left hpos (Nat.dvd_of_mod_eq_zero hrest)]
      rw [hcancel]
      simp only [hrest, not_true_eq_false, if_false]
      split
      · rename_i hlt
        rw [Option.some_inj]
        exact ⟨fun h => ⟨h, h ▸ hlt⟩, And.left⟩
      · rename_i hlt
        exact ⟨fun h => (nomatch h), fun h => absurd (h.1 ▸ h.2) hlt⟩
    · have hne : a.magnitude ≠ n * tenTo a.scale := by
        intro h
        rw [h, Nat.mul_mod_left] at hrest
        exact hrest rfl
      simp [hrest, hne]

/-- The whole part of an amount without a minus sign. -/
theorem value_truncate (h : a.negative = false) : a.truncate.value = ⌊a.value⌋₊ := by
  have hsign : a.truncate.negative = false := h
  rw [value_of_not_negative hsign, value_of_not_negative h, Nat.floor_div_eq_div]
  simp [truncate]

/-- The whole part of a positive amount, where it is in range, is the number of its units. -/
theorem wholeUnits?_truncate (ha : 0 < a.value) (h : a.value < 18446744073709551616) :
    a.truncate.wholeUnits? = some ⌊a.value⌋₊ := by
  have hsign := negative_eq_false_of_pos ha
  refine wholeUnits?_eq_some_iff.mpr ⟨hsign, value_truncate hsign, ?_⟩
  rw [Nat.floor_lt ha.le]
  exact_mod_cast h

end CashMachine.Decimal
