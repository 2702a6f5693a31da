/-
Rows of digits as numbers.

* `digitsValue_eq` — the number of a row behind digits that were already read;
* `digitsValue_take` — the digits in front are the quotient by a power of ten;
* `digitsValue_paddedDigits`, `length_paddedDigits` — a number that is filled up to a width.
-/
import CashMachine.Power
import CashMachine.Text.Digits

namespace CashMachine.Text

theorem digitValue_lt {c : Char} (h : isDigit c = true) : digitValue c < 10 := by
  rw [isDigit, Bool.and_eq_true, decide_eq_true_eq, decide_eq_true_eq] at h
  have hle := UInt32.le_iff_toNat_le.mp (Char.le_def.mp h.2)
  have hnine : '9'.val.toNat = 57 := by decide
  have hc : c.toNat = c.val.toNat := rfl
  rw [digitValue, hc]
  omega

theorem digitsValue_append (n : Nat) (s t : List Char) :
    digitsValue n (s ++ t) = digitsValue (digitsValue n s) t := by
  rw [digitsValue, List.foldl_append, digitsValue, digitsValue]

theorem digitsValue_cons (n : Nat) (c : Char) (s : List Char) :
    digitsValue n (c :: s) = digitsValue (10 * n + digitValue c) s := by
  rw [digitsValue, List.foldl_cons, digitsValue]

/-- Digits that were already read are moved up by the length of the row. -/
theorem digitsValue_eq (n : Nat) (s : List Char) :
    digitsValue n s = n * tenTo s.length + digitsValue 0 s := by
  induction s generalizing n with
  | nil => simp [digitsValue]
  | cons c s ih =>
    rw [digitsValue_cons, digitsValue_cons, ih, ih (10 * 0 + digitValue c), List.length_cons,
      tenTo_succ, Nat.mul_zero, Nat.zero_add, Nat.add_mul, Nat.mul_comm 10 n, Nat.mul_assoc,
      Nat.mul_comm 10, Nat.add_assoc]

theorem le_digitsValue (n : Nat) (s : List Char) : n ≤ digitsValue n s := by
  rw [digitsValue_eq]
  have h := Nat.le_mul_of_pos_right n (tenTo_pos s.length)
  omega

theorem digitsValue_lt {s : List Char} (h : s.all isDigit = true) :
    digitsValue 0 s < tenTo s.length := by
  induction s with
  | nil => exact Nat.one_pos
  | cons c s ih =>
    rw [List.all_cons, Bool.and_eq_true] at h
    have hs := ih h.2
    have hc : digitValue c * tenTo s.length ≤ 9 * tenTo s.length :=
      Nat.mul_le_mul_right _ (Nat.le_of_lt_succ (digitValue_lt h.1))
    rw [digitsValue_cons, digitsValue_eq, List.length_cons, tenTo_succ, Nat.mul_zero, Nat.zero_add]
    omega

/-- The digits in front are the quotient, those behind the remainder. -/
theorem digitsValue_take {s : List Char} (h : s.all isDigit = true) (n k : Nat) :
    digitsValue n (s.take k) = digitsValue n s / tenTo (s.length - k) := by
  have hdrop : digitsValue 0 (s.drop k) < tenTo (s.length - k) := by
    rw [← List.length_drop]
    refine digitsValue_lt (List.all_eq_true.mpr fun c hc => ?_)
    exact List.all_eq_true.mp h c (List.mem_of_mem_drop hc)
  have hsplit : digitsValue n s =
      digitsValue n (s.take k) * tenTo (s.length - k) + digitsValue 0 (s.drop k) := by
    rw [← List.length_drop, ← digitsValue_eq, ← digitsValue_append, List.take_append_drop]
  rw [hsplit, Nat.mul_comm, Nat.mul_add_div (tenTo_pos _), Nat.div_eq_of_lt hdrop, Nat.add_zero]

theorem digitsValue_replicate_zero (n k : Nat) :
    digitsValue n (List.replicate k '0') = n * tenTo k := by
  induction k generalizing n with
  | zero => simp [digitsValue]
  | succ k ih =>
    have hzero : digitValue '0' = 0 := rfl
    rw [List.replicate_succ, digitsValue_cons, ih, hzero, Nat.add_zero, tenTo_succ,
      Nat.mul_comm 10 n, Nat.mul_assoc, Nat.mul_comm 10]

/-! ### Numbers filled up to a width -/

theorem length_digits_le {n w : Nat} (hw : 0 < w) (h : n < tenTo w) : (digits n).length ≤ w := by
  induction w generalizing n with
  | zero => omega
  | succ w ih =>
    rw [digits]
    split
    · simp
    · rename_i hn
      rw [tenTo_succ] at h
      have hpos : 0 < w := by
        rcases Nat.eq_zero_or_pos w with rfl | hpos
        · rw [tenTo_zero] at h
          omega
        · exact hpos
      have hshort := ih hpos (n := n / 10) (by omega)
      simp only [List.length_append, List.length_singleton]
      omega

theorem length_paddedDigits {n w : Nat} (hw : 0 < w) (h : n < tenTo w) :
    (paddedDigits w n).length = w := by
  have hle := length_digits_le hw h
  simp only [paddedDigits, List.length_append, List.length_replicate]
  omega

theorem digitsValue_paddedDigits (w n : Nat) : digitsValue 0 (paddedDigits w n) = n := by
  simp only [paddedDigits]
  rw [digitsValue_append, digitsValue_replicate_zero, Nat.zero_mul, digitsValue_digits]

theorem all_isDigit_paddedDigits (w n : Nat) : (paddedDigits w n).all isDigit = true := by
  have hzero : isDigit '0' = true := rfl
  simp only [paddedDigits, List.all_append, all_isDigit_digits, Bool.and_true, List.all_replicate]
  split <;> simp [hzero]

end CashMachine.Text
