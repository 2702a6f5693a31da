/-
What is left of a deposit that no note is taken for.

The notes of a deposit and what is left of it are always worth the deposit together, and nothing is
left that is negative.  It is less than the smallest note as long as the hundreds can be counted;
beyond that the count stops, but the walk goes on as if it had not, and from 2⁶⁴ on no note is
taken at all.

* `truncate_wholeUnits?_cases` — the amounts whose units can be counted;
* `exists_untracked` — nothing is created or lost;
* `untracked_lt_iff` — the amounts of which less than the smallest note is left;
* `not_forall_untracked_lt` — one of which more is left.
-/
import CashMachine.Proofs.Decimal.Sum
import CashMachine.Proofs.Takings

namespace CashMachine

namespace Decimal

variable {a : Decimal}

theorem value_eq_zero_of_negative (hsign : a.negative = true) (h : 0 ≤ a.value) : a.value = 0 := by
  have hcoefficient : a.coefficient ≤ 0 := by
    rw [coefficient, if_pos hsign]
    omega
  refine le_antisymm (div_nonpos_of_nonpos_of_nonneg ?_ (cast_tenTo_pos a.scale).le) h
  exact_mod_cast hcoefficient

/-- The units of an amount that is not negative are counted, unless it is a zero with a minus sign
or too large. -/
theorem truncate_wholeUnits?_cases (h : 0 ≤ a.value) :
    a.truncate.wholeUnits? = none ∧ (a.value = 0 ∨ 18446744073709551616 ≤ a.value) ∨
      a.truncate.wholeUnits? = some ⌊a.value⌋₊ := by
  cases hsign : a.negative with
  | true =>
    have hvalue := value_eq_zero_of_negative hsign h
    refine .inl ⟨?_, .inl hvalue⟩
    simp [wholeUnits?, truncate, hsign]
  | false =>
    by_cases hlt : ⌊a.value⌋₊ < 18446744073709551616
    · exact .inr (wholeUnits?_eq_some_iff.mpr ⟨hsign, value_truncate hsign, hlt⟩)
    · refine .inl ⟨?_, .inr ?_⟩
      · refine Option.eq_none_iff_forall_ne_some.mpr fun n hn => hlt ?_
        obtain ⟨_, hvalue, hrange⟩ := wholeUnits?_eq_some_iff.mp hn
        rw [value_truncate hsign] at hvalue
        have hfloor : ⌊a.value⌋₊ = n := by exact_mod_cast hvalue
        omega
      · have hle := (Nat.le_floor_iff h).mp (not_lt.mp hlt)
        exact_mod_cast hle

end Decimal

namespace Dispenser

variable {amount : Decimal}

theorem value_absorbed_of_none (h : amount.truncate.wholeUnits? = none) :
    (absorbed amount).value = 0 := by
  rw [absorbed, h]
  rfl

theorem value_absorbed_of_some {units : ℕ} (h : amount.truncate.wholeUnits? = some units) :
    (absorbed amount).value =
      100 * min (units / 100) Nat32.max.val + 10 * (units % 100 / 10) := by
  rw [absorbed, h]
  exact value_absorb_capped units

theorem value_absorbed_le (h : 0 ≤ amount.value) : (absorbed amount).value ≤ amount.value := by
  obtain ⟨hunits, _⟩ | hunits := Decimal.truncate_wholeUnits?_cases h
  · rw [value_absorbed_of_none hunits, Nat.cast_zero]
    exact h
  · have hle : (absorbed amount).value ≤ ⌊amount.value⌋₊ := by
      rw [value_absorbed_of_some hunits]
      omega
    exact le_trans (by exact_mod_cast hle) (Nat.floor_le h)

/-- What is left is the amount without the notes that are taken, exactly. -/
theorem exists_untracked (h : 0 ≤ amount.value) :
    ∃ rest, untracked? amount = some rest ∧
      rest.value = amount.value - (absorbed amount).value := by
  obtain ⟨hunits, _⟩ | hunits := Decimal.truncate_wholeUnits?_cases h
  · refine ⟨amount, by rw [untracked?, hunits], ?_⟩
    rw [value_absorbed_of_none hunits, Nat.cast_zero, sub_zero]
  · have htotal := Notes.value_total (absorbed amount)
    have hle := value_absorbed_le h
    have hpos : (0 : ℚ) ≤ (absorbed amount).value := Nat.cast_nonneg _
    rw [← htotal] at hle hpos
    obtain ⟨rest, hrest⟩ := Decimal.exists_sub?_of_le hpos hle
    refine ⟨rest, by rw [untracked?, hunits, hrest], ?_⟩
    rw [← htotal]
    exact Decimal.value_sub?_of_whole hrest htotal hle

/-- Less than the smallest note is not taken exactly as long as the hundreds can be counted. -/
theorem sub_value_absorbed_lt_iff (h : 0 ≤ amount.value) :
    amount.value - (absorbed amount).value < 10 ↔ amount.value < 100 * 2 ^ 32 := by
  obtain ⟨hunits, hvalue⟩ | hunits := Decimal.truncate_wholeUnits?_cases h
  · rw [value_absorbed_of_none hunits, Nat.cast_zero, sub_zero]
    rcases hvalue with hzero | hlarge
    · rw [hzero]
      norm_num
    · refine iff_of_false ?_ ?_ <;> linarith
  · have htaken := value_absorbed_of_some hunits
    simp only [Nat32.max] at htaken
    have hfloor := Nat.floor_le h
    have hnext := Nat.lt_floor_add_one amount.value
    generalize ⌊amount.value⌋₊ = units at htaken hfloor hnext
    by_cases hcount : units / 100 < 2 ^ 32
    · -- every hundred is counted, and only a remainder by ten is left
      have hrest : units ≤ (absorbed amount).value + 9 := by omega
      have hbound : units + 1 ≤ 100 * 2 ^ 32 := by omega
      have hrest' : (units : ℚ) ≤ (absorbed amount).value + 9 := by exact_mod_cast hrest
      have hbound' : (units : ℚ) + 1 ≤ 100 * 2 ^ 32 := by exact_mod_cast hbound
      refine iff_of_true ?_ ?_ <;> linarith
    · have hrest : (absorbed amount).value + 10 ≤ units := by omega
      have hbound : 100 * 2 ^ 32 ≤ units := by omega
      have hrest' : ((absorbed amount).value : ℚ) + 10 ≤ units := by exact_mod_cast hrest
      have hbound' : (100 * 2 ^ 32 : ℚ) ≤ units := by exact_mod_cast hbound
      refine iff_of_false ?_ ?_ <;> linarith

/-- Of one hundred more than can be counted the whole hundred is left, though two fifties would
do. -/
theorem not_forall_untracked_lt :
    ¬ ∀ amount : Decimal, 0 ≤ amount.value →
      ∃ rest, untracked? amount = some rest ∧
        (absorbed amount).total.value + rest.value = amount.value ∧
        0 ≤ rest.value ∧ rest.value < 10 := by
  intro h
  let hundreds : Decimal := .ofNat 429496729600 (by decide)
  have hvalue : hundreds.value = 100 * 2 ^ 32 := by
    norm_num [hundreds, Decimal.value, Decimal.ofNat, Decimal.coefficient, tenTo]
  have hpos : 0 ≤ hundreds.value := by
    rw [hvalue]
    norm_num
  obtain ⟨rest, _, hsum, _, hlt⟩ := h hundreds hpos
  have hrest : hundreds.value - (absorbed hundreds).value = rest.value := by
    rw [← hsum, Notes.value_total, add_sub_cancel_left]
  rw [← hrest, sub_value_absorbed_lt_iff hpos, hvalue] at hlt
  exact lt_irrefl _ hlt

/-- Every deposit is worth its notes and what is left of it, which is not negative; and what is
left is less than the smallest note exactly for deposits below 2³² hundreds. -/
theorem untracked_lt_iff (h : 0 ≤ amount.value) :
    ∃ rest, untracked? amount = some rest ∧
      (absorbed amount).total.value + rest.value = amount.value ∧
      0 ≤ rest.value ∧ (rest.value < 10 ↔ amount.value < 100 * 2 ^ 32) := by
  obtain ⟨rest, hrest, hvalue⟩ := exists_untracked h
  have hle := value_absorbed_le h
  refine ⟨rest, hrest, ?_, ?_, ?_⟩
  · rw [Notes.value_total, hvalue, add_sub_cancel]
  · rw [hvalue]
    linarith
  · rw [hvalue]
    exact sub_value_absorbed_lt_iff h

/-- Of a cent less than 2³² hundreds less than ten is left, and of twice as much more. -/
theorem untracked_lt_iff_twice :
    let most : Decimal := ⟨false, 42949672959999, 2, by decide, by decide⟩
    let twice : Decimal := ⟨false, 85899345919998, 2, by decide, by decide⟩
    ∃ rest more, untracked? most = some rest ∧ rest.value < 10 ∧
      untracked? twice = some more ∧ ¬ more.value < 10 := by
  intro most twice
  have hmost : most.value = 42949672959999 / 100 := by
    norm_num [most, Decimal.value, Decimal.coefficient, tenTo]
  have htwice : twice.value = 85899345919998 / 100 := by
    norm_num [twice, Decimal.value, Decimal.coefficient, tenTo]
  have hmost0 : 0 ≤ most.value := by
    rw [hmost]
    norm_num
  have htwice0 : 0 ≤ twice.value := by
    rw [htwice]
    norm_num
  obtain ⟨rest, hrest, _, _, hlt⟩ := untracked_lt_iff hmost0
  obtain ⟨more, hmore, _, _, hnot⟩ := untracked_lt_iff htwice0
  refine ⟨rest, more, hrest, hlt.mpr ?_, hmore, hnot.not.mpr ?_⟩
  · rw [hmost]
    norm_num
  · rw [htwice]
    norm_num

end Dispenser

end CashMachine
