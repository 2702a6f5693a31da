/-
What is left of an account when it has been saved.

The saved form has the balance in cents, so more digits are lost, once: what is read back is the
account with its balance rounded, and saving that again gives the same saved form.  One thing more
is lost: a zero can have a minus sign, which is written and which is not read.

* `Decimal.isNearestEven_roundHalfEven` — what it is to be rounded with a tie to the even neighbour;
* `Decimal.scale_round`, `Decimal.isMinusZero_round` — what rounding leaves of the digits and signs;
* `Account.ofSaved?_saved` — the account that is read back;
* `Account.saved_round_trip` — every account; `Account.not_forall_saved_again` — a zero with a minus
  sign.
-/
import Mathlib.Algebra.Ring.Parity
import CashMachine.Account
import CashMachine.Proofs.Decimal.Text

namespace CashMachine

namespace Decimal

variable {a : Decimal} {places : ℕ}

/-! ### The even neighbour -/

/-- A whole number is nearest to a number, and of two that are equally near it is the even one. -/
structure IsNearestEven (v : ℚ) (n : ℤ) : Prop where
  dist_le : |v - n| ≤ 1 / 2
  even_of_tie : |v - n| = 1 / 2 → Even n

theorem even_roundHalfEven {n : ℤ} {d : ℕ} (hd : 0 < d)
    (h : 2 * (roundHalfEven n d * d - n).natAbs = d) : Even (roundHalfEven n d) := by
  have hdiv := Int.mul_ediv_add_emod n d
  have hnonneg := Int.emod_nonneg n (by omega : (d : ℤ) ≠ 0)
  have hlt := Int.emod_lt_of_pos n (by omega : (0 : ℤ) < d)
  have hsucc : (n / d + 1) * (d : ℤ) = n / d * d + d := by ring
  rw [mul_comm] at hdiv
  rw [Int.even_iff]
  unfold roundHalfEven at h ⊢
  simp only at h ⊢
  -- away from the tie the rest is not half of the divisor
  split
  · rename_i hlow
    rw [if_pos hlow] at h
    omega
  · rename_i hlow
    rw [if_neg hlow] at h
    split
    · rename_i hhigh
      rw [if_pos hhigh, hsucc] at h
      omega
    · split <;> omega

theorem isNearestEven_roundHalfEven (n : ℤ) {d : ℕ} (hd : 0 < d) :
    IsNearestEven (n / d) (roundHalfEven n d) := by
  have hpos : (0 : ℚ) < d := by exact_mod_cast hd
  have hdist : |(n : ℚ) / d - roundHalfEven n d| * (2 * d) =
      ((2 * (roundHalfEven n d * d - n).natAbs : ℕ) : ℚ) := by
    have hcast : (((roundHalfEven n d * d - n).natAbs : ℕ) : ℚ) =
        |(roundHalfEven n d : ℚ) * d - n| := by
      rw [Nat.cast_natAbs, Int.cast_abs]
      push_cast
      ring_nf
    have hsplit : (roundHalfEven n d : ℚ) * d - n = (roundHalfEven n d - (n : ℚ) / d) * d := by
      field_simp
    rw [Nat.cast_mul, hcast, hsplit, abs_mul, abs_of_pos hpos, abs_sub_comm]
    push_cast
    ring
  constructor
  · have hle : ((2 * (roundHalfEven n d * d - n).natAbs : ℕ) : ℚ) ≤ d := by
      exact_mod_cast roundHalfEven_dist n hd
    rw [← hdist] at hle
    nlinarith
  · intro htie
    rw [htie] at hdist
    have hd2 : ((2 * (roundHalfEven n d * d - n).natAbs : ℕ) : ℚ) = d := by
      rw [← hdist]
      ring
    exact even_roundHalfEven hd (by exact_mod_cast hd2)

/-! ### Digits and signs -/

theorem scale_round (a : Decimal) (places : ℕ) : (a.round places).scale = min places a.scale := by
  unfold round
  split
  · rename_i h
    exact (Nat.min_eq_right h).symm
  · split <;> rfl

theorem round_of_scale_le (h : a.scale ≤ places) : a.round places = a :=
  if_pos h

/-- The balance in cents is the even neighbour of the balance. -/
theorem exists_isNearestEven_round (a : Decimal) :
    ∃ cents : ℤ, (a.round 2).value * 100 = cents ∧ IsNearestEven (a.value * 100) cents := by
  by_cases h : a.scale ≤ 2
  · obtain ⟨n, hn⟩ := isCents_of_scale_le h
    refine ⟨n, by rw [round_of_scale_le h, hn], ?_⟩
    rw [hn]
    constructor <;> norm_num
  · have htwo : ((tenTo 2 : ℕ) : ℚ) = 100 := by norm_num [tenTo]
    have hscale : (tenTo a.scale : ℚ) = (tenTo (a.scale - 2) : ℕ) * 100 := by
      rw [← htwo, ← Nat.cast_mul, ← tenTo_add, Nat.sub_add_cancel (by omega)]
    have hpos := cast_tenTo_pos (a.scale - 2)
    refine ⟨roundHalfEven a.coefficient (tenTo (a.scale - 2)), ?_, ?_⟩
    · rw [value_round (by omega), htwo, div_mul_cancel₀ _ (by norm_num)]
    · have hcents : a.value * 100 = a.coefficient / (tenTo (a.scale - 2) : ℕ) := by
        rw [value, hscale]
        field_simp
      rw [hcents]
      exact isNearestEven_roundHalfEven _ (tenTo_pos _)

/-- A zero that has a minus sign. -/
def IsMinusZero (a : Decimal) : Prop :=
  a.isZero = true ∧ a.negative = true

instance (a : Decimal) : Decidable a.IsMinusZero :=
  inferInstanceAs (Decidable (_ ∧ _))

/-- Rounding keeps the sign of a zero, and what is rounded to zero has none. -/
theorem isMinusZero_round (a : Decimal) (places : ℕ) :
    (a.round places).IsMinusZero ↔ a.IsMinusZero := by
  unfold round
  split
  · exact Iff.rfl
  · split
    · exact Iff.rfl
    · rename_i hz
      constructor
      · rintro ⟨hzero, hsign⟩
        have hc := beq_iff_eq.mp hzero
        have hneg := of_decide_eq_true hsign
        simp only [ofCoefficient] at hc
        omega
      · rintro ⟨hzero, _⟩
        exact absurd hzero hz

theorem unsignedZero_eq_self (h : ¬ a.IsMinusZero) : a.unsignedZero = a := by
  refine ext ?_ a.natAbs_coefficient rfl
  show decide (a.coefficient < 0) = a.negative
  have hc : a.coefficient = if a.negative then -(a.magnitude : ℤ) else a.magnitude := rfl
  rw [hc]
  cases hsign : a.negative with
  | false => simp
  | true =>
    have hmagnitude : a.magnitude ≠ 0 := fun hzero => h ⟨beq_iff_eq.mpr hzero, hsign⟩
    simp only [if_true, decide_eq_true_eq]
    omega

theorem not_isMinusZero_unsignedZero (a : Decimal) : ¬ a.unsignedZero.IsMinusZero := by
  rintro ⟨hzero, hsign⟩
  have hc : a.coefficient.natAbs = 0 := beq_iff_eq.mp hzero
  have hneg : a.coefficient < 0 := of_decide_eq_true hsign
  omega

/-- A zero with a minus sign is written with the sign in front. -/
theorem chars_of_isMinusZero (h : a.IsMinusZero) : a.chars = '-' :: a.unsignedZero.chars := by
  have hzero : a.coefficient = 0 := by
    rw [← Int.natAbs_eq_zero, natAbs_coefficient]
    exact beq_iff_eq.mp h.1
  have hsign : a.unsignedZero.negative = false := by
    show decide (a.coefficient < 0) = false
    rw [hzero]
    rfl
  have hmagnitude : a.unsignedZero.magnitude = a.magnitude := a.natAbs_coefficient
  simp only [chars, signChars, wholeChars, fractionChars, hsign, hmagnitude, h.2,
    scale_unsignedZero, Bool.false_eq_true, if_true, if_false, List.nil_append, List.cons_append]

theorem text_of_isMinusZero (h : a.IsMinusZero) : a.text = "-" ++ a.unsignedZero.text := by
  rw [text, text, chars_of_isMinusZero h, ← String.toList_inj]
  simp

theorem text_unsignedZero_ne (h : a.IsMinusZero) : a.unsignedZero.text ≠ a.text := by
  intro heq
  have hchars := congrArg String.toList heq
  rw [text, text, String.toList_ofList, String.toList_ofList, chars_of_isMinusZero h] at hchars
  exact List.cons_ne_self _ _ hchars.symm

end Decimal

namespace Account

/-- The account that is read back from the saved form of another one. -/
def readBack (a : Account) : Account :=
  { a with balance := a.savedBalance.unsignedZero }

theorem ofSaved?_saved (a : Account) : ofSaved? a.saved = some a.readBack := by
  have hfields : ofSaved? a.saved = (do
      let kind ← AccountKind.ofText? a.kind.text
      let balance ← Decimal.read? a.savedBalance.text
      some ⟨a.id, a.owner, kind, balance⟩) := rfl
  rw [hfields, AccountKind.ofText?_text, Decimal.read?_text]
  rfl

/-- Nothing is rounded a second time. -/
theorem savedBalance_readBack (a : Account) :
    a.readBack.savedBalance = a.savedBalance.unsignedZero := by
  refine Decimal.round_of_scale_le ?_
  show a.savedBalance.scale ≤ 2
  rw [savedBalance, Decimal.scale_round]
  exact Nat.min_le_left _ _

theorem readBack_readBack (a : Account) : a.readBack.readBack = a.readBack := by
  rw [readBack, savedBalance_readBack,
    Decimal.unsignedZero_eq_self a.savedBalance.not_isMinusZero_unsignedZero]
  rfl

/-- The saved form is the same again, but for the sign of a zero. -/
theorem saved_readBack_eq_iff {a : Account} :
    a.readBack.saved = a.saved ↔ ¬ a.balance.IsMinusZero := by
  have htext : a.readBack.saved = a.saved ↔
      a.savedBalance.unsignedZero.text = a.savedBalance.text := by
    rw [saved, saved, savedBalance_readBack]
    simp [fields, readBack]
  rw [htext, ← Decimal.isMinusZero_round a.balance 2]
  constructor
  · intro heq hsign
    exact Decimal.text_unsignedZero_ne hsign heq
  · intro hsign
    exact congrArg Decimal.text (Decimal.unsignedZero_eq_self hsign)

/-- What is read back from the saved form of an account is the account with its balance in cents, a
half rounded to the even cent.  Saved again, it has the same saved form, unless the balance was a
zero with a minus sign: then the sign is missing, from the second time on.  A balance that has no
more digits than cents is read back as it was, the sign of a zero apart. -/
theorem saved_round_trip (a : Account) :
    ∃ b : Account, ofSaved? a.saved = some b ∧
      b.id = a.id ∧ b.owner = a.owner ∧ b.kind = a.kind ∧
      (∃ cents : ℤ, b.balance.value * 100 = cents ∧
        Decimal.IsNearestEven (a.balance.value * 100) cents) ∧
      b.balance.scale = min 2 a.balance.scale ∧
      |b.balance.value - a.balance.value| ≤ 5 / 1000 ∧
      (b.saved = a.saved ↔ ¬ a.balance.IsMinusZero) ∧
      (a.balance.IsMinusZero → a.savedBalance.text = "-" ++ b.savedBalance.text) ∧
      ofSaved? b.saved = some b ∧
      (a.balance.scale ≤ 2 → b.balance.equals a.balance = true ∧
        b.balance.scale = a.balance.scale ∧ (¬ a.balance.IsMinusZero → b = a)) := by
  have hvalue : a.readBack.balance.value = (a.balance.round 2).value :=
    a.savedBalance.value_unsignedZero
  have hscale : a.readBack.balance.scale = min 2 a.balance.scale := a.balance.scale_round 2
  obtain ⟨cents, hcents, hnearest⟩ := a.balance.exists_isNearestEven_round
  rw [← hvalue] at hcents
  refine ⟨a.readBack, a.ofSaved?_saved, rfl, rfl, rfl, ⟨cents, hcents, hnearest⟩, hscale, ?_,
    saved_readBack_eq_iff, ?_, ?_, ?_⟩
  · -- half a cent is five mills
    have hdist := hnearest.dist_le
    rw [← hcents, ← sub_mul, abs_mul, abs_sub_comm] at hdist
    norm_num at hdist
    linarith
  · intro hsign
    rw [savedBalance_readBack]
    exact Decimal.text_of_isMinusZero ((a.balance.isMinusZero_round 2).mpr hsign)
  · rw [ofSaved?_saved, readBack_readBack]
  · intro h
    have hround : a.savedBalance = a.balance := Decimal.round_of_scale_le h
    refine ⟨?_, ?_, ?_⟩
    · rw [Decimal.equals_iff_value_eq, hvalue, Decimal.round_of_scale_le h]
    · rw [hscale, min_eq_right h]
    · intro hsign
      rw [readBack, hround, Decimal.unsignedZero_eq_self hsign]

/-- An eighth is saved as twelve cents, the even ones of two that are equally near, and twelve cents
are read back and saved again. -/
theorem saved_round_trip_eighth :
    let eighth : Decimal := ⟨false, 125, 3, by decide, by decide⟩
    let twelve : Decimal := ⟨false, 12, 2, by decide, by decide⟩
    let a : Account := ⟨"A", "Ada", .savings, eighth⟩
    ¬ a.balance.IsMinusZero ∧ ∃ b, ofSaved? a.saved = some b ∧ b.balance.value = twelve.value ∧
      b.saved = a.saved ∧ ofSaved? b.saved = some b := by
  intro eighth twelve a
  have hsign : ¬ a.balance.IsMinusZero := by decide
  obtain ⟨b, hb, _, _, _, ⟨cents, hcents, hnearest⟩, _, _, hsaved, _, hagain, _⟩ :=
    saved_round_trip a
  refine ⟨hsign, b, hb, ?_, hsaved.mpr hsign, hagain⟩
  have heighth : a.balance.value * 100 = 25 / 2 := by
    norm_num [a, eighth, Decimal.value, Decimal.coefficient, tenTo]
  have htwelve : twelve.value * 100 = 12 := by
    norm_num [twelve, Decimal.value, Decimal.coefficient, tenTo]
  rw [heighth] at hnearest
  -- the thirteen that is as near is odd
  have hlow : 12 ≤ cents := by
    have := (abs_le.mp hnearest.dist_le).2
    exact_mod_cast (by linarith : (12 : ℚ) ≤ cents)
  have hhigh : cents ≤ 13 := by
    have := (abs_le.mp hnearest.dist_le).1
    exact_mod_cast (by linarith : (cents : ℚ) ≤ 13)
  have hodd : cents ≠ 13 := by
    rintro rfl
    exact absurd (hnearest.even_of_tie (by norm_num)) (by decide)
  obtain rfl : cents = 12 := by omega
  push_cast at hcents
  linarith

/-- The text `-0.04e-27` is read as a zero with a minus sign.  An account with this balance is saved
with `-0.00`, and with `0.00` once it has been read back. -/
theorem not_forall_saved_again :
    ¬ ∀ (t : String) (a b : Account), Decimal.read? t = some a.balance →
      ofSaved? a.saved = some b → b.saved = a.saved := by
  intro h
  let a : Account := ⟨"A", "Ada", .checking, ⟨true, 0, 28, by decide, by decide⟩⟩
  have hread : Decimal.read? "-0.04e-27" = some a.balance := by decide
  have hsign : a.balance.IsMinusZero := by decide
  exact saved_readBack_eq_iff.mp (h _ a a.readBack hread a.ofSaved?_saved) hsign

end Account

end CashMachine
