/-
How a number may be spelled.

A number is written with its digits.  It is also read with zeros in front of them and with a plus
sign in front of all (`Nat32.Numeral`), whatever the number of the zeros, and in no other way.

* `Text.natOfDigits?_eq_some_iff` — the rows of digits that are read as a number;
* `Nat32.read?_numeral`, `Nat32.read?_eq_some_iff` — every spelling is read as the number, and
  nothing else is;
* `Nat32.trim_numeral` — a spelling has no blanks to lose;
* `Nat32.not_mem_numeral` — only digits and a plus sign stand in it.
-/
import Mathlib.Data.List.Induction
import CashMachine.Proofs.Decimal.Digits
import CashMachine.Nat32
import CashMachine.Text.Blank

namespace CashMachine

namespace Text

theorem isBlank_of_isDigit {c : Char} (h : isDigit c = true) : isBlank c = false := by
  simp only [isDigit, Bool.and_eq_true, decide_eq_true_eq, Char.le_def, UInt32.le_iff_toNat_le]
    at h
  have hlow : 48 ≤ c.toNat := h.1
  have hhigh : c.toNat ≤ 57 := h.2
  simp only [isBlank, Bool.or_eq_false_iff, Bool.and_eq_false_iff, decide_eq_false_iff_not,
    beq_eq_false_iff_ne]
  omega

theorem trimStart_of_not_blank {s : List Char} (h : ∀ c ∈ s, isBlank c = false) :
    trimStart s = s := by
  cases s with
  | nil => rfl
  | cons c s => simp [trimStart, h c List.mem_cons_self]

theorem trim_of_not_blank {s : List Char} (h : ∀ c ∈ s, isBlank c = false) : trim s = s := by
  rw [trim, trimStart_of_not_blank h, trimEnd]
  have hrev : trimStart s.reverse = s.reverse :=
    trimStart_of_not_blank fun c hc => h c (List.mem_reverse.mp hc)
  rw [trimStart] at hrev
  rw [hrev, List.reverse_reverse]

/-! ### Rows of digits -/

theorem digitChar_digitValue {c : Char} (h : isDigit c = true) : digitChar (digitValue c) = c := by
  rw [isDigit, Bool.and_eq_true, decide_eq_true_eq, decide_eq_true_eq] at h
  have hlow : 48 ≤ c.toNat := UInt32.le_iff_toNat_le.mp (Char.le_def.mp h.1)
  rw [digitChar, digitValue, Nat.add_sub_cancel' hlow, Char.ofNat_toNat]

theorem digits_of_lt {n : Nat} (h : n < 10) : digits n = [digitChar n] := by
  rw [digits, if_pos h]

theorem digits_mul_ten_add {n d : Nat} (hn : 0 < n) (hd : d < 10) :
    digits (10 * n + d) = digits n ++ [digitChar d] := by
  have hdiv : (10 * n + d) / 10 = n := by omega
  have hmod : (10 * n + d) % 10 = d := by omega
  rw [digits, if_neg (by omega), hdiv, hmod]

/-- A row of digits is zeros and, behind them, the digits of its number. -/
theorem exists_eq_zeros_append_digits {s : List Char} (hne : s ≠ []) (h : s.all isDigit = true) :
    ∃ zeros, s = List.replicate zeros '0' ++ digits (digitsValue 0 s) := by
  induction s using List.reverseRecOn with
  | nil => exact absurd rfl hne
  | append_singleton s c ih =>
    rw [List.all_append, Bool.and_eq_true, List.all_cons, List.all_nil, Bool.and_true] at h
    have hvalue : digitsValue 0 (s ++ [c]) = 10 * digitsValue 0 s + digitValue c := by
      rw [digitsValue_append, digitsValue_cons]
      rfl
    have hlt := digitValue_lt h.2
    have hchar := digitChar_digitValue h.2
    rw [hvalue]
    by_cases hs : s = []
    · subst hs
      refine ⟨0, ?_⟩
      show [c] = digits (0 + digitValue c)
      rw [Nat.zero_add, digits_of_lt hlt, hchar]
    · obtain ⟨zeros, hzeros⟩ := ih hs h.1
      rcases Nat.eq_zero_or_pos (digitsValue 0 s) with hzero | hpos
      · -- the row before the last digit is zeros alone
        have hlast : digits 0 = ['0'] := digits_of_lt (by decide)
        rw [hzero, hlast] at hzeros
        refine ⟨zeros + 1, ?_⟩
        rw [hzero, Nat.mul_zero, Nat.zero_add, digits_of_lt hlt, hchar, List.replicate_succ',
          ← hzeros]
      · refine ⟨zeros, ?_⟩
        rw [digits_mul_ten_add hpos hlt, hchar, ← List.append_assoc, ← hzeros]

theorem natOfDigits?_eq_some_iff {s : List Char} {n : Nat} :
    natOfDigits? s = some n ↔ ∃ zeros, s = List.replicate zeros '0' ++ digits n := by
  constructor
  · intro h
    unfold natOfDigits? at h
    split at h
    · rename_i hs
      rw [Bool.and_eq_true] at hs
      obtain rfl := Option.some_inj.mp h
      exact exists_eq_zeros_append_digits (by simpa using hs.1) hs.2
    · cases h
  · rintro ⟨zeros, rfl⟩
    have hne : (List.replicate zeros '0' ++ digits n) ≠ [] := by
      simp [digits_ne_nil]
    have hall : (List.replicate zeros '0' ++ digits n).all isDigit = true := by
      rw [List.all_append, all_isDigit_digits, Bool.and_true, List.all_replicate]
      split <;> rfl
    rw [natOfDigits?, hall, Bool.and_true, if_pos (by simpa using hne), digitsValue_append,
      digitsValue_replicate_zero, Nat.zero_mul, digitsValue_digits]

end Text

namespace Nat32

open Text

/-- The text spells the number: its digits, zeros before them, and before these at most a plus
sign. -/
def Numeral (a : Nat32) (s : List Char) : Prop :=
  ∃ plus zeros : Nat, plus ≤ 1 ∧
    s = List.replicate plus '+' ++ (List.replicate zeros '0' ++ a.digits)

theorem ofNat?_eq_some_iff {n : Nat} {a : Nat32} :
    ofNat? n = some a ↔ n ≤ 4294967295 ∧ a.val = n := by
  unfold ofNat?
  split
  · rename_i h
    rw [Option.some_inj]
    exact ⟨fun ha => ha ▸ ⟨h, rfl⟩, fun ha => ext ha.2.symm⟩
  · rename_i h
    constructor
    · intro ha
      cases ha
    · intro ha
      exact absurd ha.1 h

theorem numeral_digits (a : Nat32) : a.Numeral a.digits :=
  ⟨0, 0, Nat.zero_le 1, rfl⟩

variable {a : Nat32} {s : List Char}

theorem read?_numeral (h : a.Numeral s) : read? s = some a := by
  obtain ⟨plus, zeros, hplus, rfl⟩ := h
  have hread : natOfDigits? (List.replicate zeros '0' ++ a.digits) >>= ofNat? = some a := by
    rw [digits, natOfDigits?_eq_some_iff.mpr ⟨zeros, rfl⟩]
    exact ofNat?_val a
  obtain rfl | rfl : plus = 0 ∨ plus = 1 := by omega
  · -- the zeros and digits do not start with the sign
    have hsign : ∀ rest, List.replicate zeros '0' ++ a.digits ≠ '+' :: rest := by
      intro rest heq
      rw [heq] at hread
      have : natOfDigits? ('+' :: rest) = none := by
        simp [natOfDigits?, isDigit]
      rw [this] at hread
      exact absurd hread (by simp)
    show read? (List.replicate zeros '0' ++ a.digits) = some a
    unfold read?
    split
    · exact absurd ‹_› (hsign _)
    · exact hread
  · exact hread

/-- What is read as a number spells it. -/
theorem numeral_of_read? (h : read? s = some a) : a.Numeral s := by
  have hdigits : ∀ {t}, natOfDigits? t >>= ofNat? = some a →
      ∃ zeros, t = List.replicate zeros '0' ++ a.digits := by
    intro t ht
    obtain ⟨n, hn, ha⟩ := Option.bind_eq_some_iff.mp ht
    obtain ⟨zeros, hzeros⟩ := natOfDigits?_eq_some_iff.mp hn
    obtain ⟨hle, rfl⟩ := ofNat?_eq_some_iff.mp ha
    exact ⟨zeros, hzeros⟩
  unfold read? at h
  split at h
  · obtain ⟨zeros, rfl⟩ := hdigits h
    exact ⟨1, zeros, Nat.le_refl 1, rfl⟩
  · obtain ⟨zeros, rfl⟩ := hdigits h
    exact ⟨0, zeros, Nat.zero_le 1, rfl⟩

theorem read?_eq_some_iff : read? s = some a ↔ a.Numeral s :=
  ⟨numeral_of_read?, read?_numeral⟩

theorem isDigit_or_of_mem_numeral (h : a.Numeral s) {c : Char} (hc : c ∈ s) :
    isDigit c = true ∨ c = '+' := by
  obtain ⟨plus, zeros, _, rfl⟩ := h
  rw [List.mem_append, List.mem_append] at hc
  rcases hc with hc | hc | hc
  · exact Or.inr (List.eq_of_mem_replicate hc)
  · rw [List.eq_of_mem_replicate hc]
    exact Or.inl (by decide)
  · exact Or.inl (List.all_eq_true.mp (all_isDigit_digits a.val) c hc)

theorem isBlank_of_mem_numeral (h : a.Numeral s) {c : Char} (hc : c ∈ s) :
    isBlank c = false := by
  rcases isDigit_or_of_mem_numeral h hc with hd | rfl
  · exact isBlank_of_isDigit hd
  · decide

theorem not_mem_numeral (h : a.Numeral s) {c : Char} (hd : isDigit c = false) (hp : c ≠ '+') :
    c ∉ s := by
  intro hc
  rcases isDigit_or_of_mem_numeral h hc with hdigit | rfl
  · rw [hd] at hdigit
    exact absurd hdigit (by decide)
  · exact hp rfl

theorem trim_numeral (h : a.Numeral s) : trim s = s :=
  trim_of_not_blank fun _ hc => isBlank_of_mem_numeral h hc

end Nat32

end CashMachine
