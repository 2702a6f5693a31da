/-
Natural numbers as decimal digits.

* `digits` — the digits of a number, without leading zeros;
* `natOfDigits?` — the number a text of digits stands for: at least one digit,
  ASCII digits only, leading zeros allowed.

Main statement: `natOfDigits?_digits` — reading what was written gives the
number back.
-/

namespace CashMachine.Text

def isDigit (c : Char) : Bool :=
  '0' ≤ c && c ≤ '9'

def digitValue (c : Char) : Nat :=
  c.toNat - 48

/-- The digit with a value below ten. -/
def digitChar (n : Nat) : Char :=
  Char.ofNat (48 + n)

theorem isDigit_digitChar {n : Nat} (h : n < 10) : isDigit (digitChar n) = true := by
  match n, h with
  | 0, _ | 1, _ | 2, _ | 3, _ | 4, _ | 5, _ | 6, _ | 7, _ | 8, _ | 9, _ => decide

theorem digitValue_digitChar {n : Nat} (h : n < 10) : digitValue (digitChar n) = n := by
  match n, h with
  | 0, _ | 1, _ | 2, _ | 3, _ | 4, _ | 5, _ | 6, _ | 7, _ | 8, _ | 9, _ => decide

/-- The decimal digits of a number, without leading zeros; zero is one digit. -/
def digits (n : Nat) : List Char :=
  if n < 10 then [digitChar n] else digits (n / 10) ++ [digitChar (n % 10)]
termination_by n
decreasing_by omega

/-- The decimal digits of a number as a text. -/
def ofNat (n : Nat) : String :=
  String.ofList (digits n)

/-- The digits of a number, filled up with leading zeros to the given width. -/
def paddedDigits (width n : Nat) : List Char :=
  let ds := digits n
  List.replicate (width - ds.length) '0' ++ ds

/-- The number that a row of digits adds up to, after those already read. -/
def digitsValue (n : Nat) (s : List Char) : Nat :=
  s.foldl (fun n c => 10 * n + digitValue c) n

/-- Reads a text of one or more ASCII digits. -/
def natOfDigits? (s : List Char) : Option Nat :=
  if !s.isEmpty && s.all isDigit then some (digitsValue 0 s) else none

theorem digits_ne_nil (n : Nat) : digits n ≠ [] := by
  rw [digits]
  split <;> simp

theorem all_isDigit_digits (n : Nat) : (digits n).all isDigit = true := by
  induction n using Nat.strongRecOn with
  | ind n ih =>
    rw [digits]
    split
    · rename_i h
      simp [isDigit_digitChar h]
    · rename_i h
      have := ih (n / 10) (by omega)
      simp [this, isDigit_digitChar (Nat.mod_lt n (by decide : 10 > 0))]

theorem digitsValue_digits (n : Nat) : digitsValue 0 (digits n) = n := by
  induction n using Nat.strongRecOn with
  | ind n ih =>
    rw [digits]
    split
    · rename_i h
      simp [digitsValue, digitValue_digitChar h]
    · rename_i h
      have := ih (n / 10) (by omega)
      simp only [digitsValue] at this
      simp only [digitsValue, List.foldl_append, this, List.foldl_cons, List.foldl_nil,
        digitValue_digitChar (Nat.mod_lt n (by decide : 10 > 0))]
      omega

theorem natOfDigits?_digits (n : Nat) : natOfDigits? (digits n) = some n := by
  have h := all_isDigit_digits n
  have h' := digits_ne_nil n
  simp [natOfDigits?, h, h', digitsValue_digits]

/-- Reads a whole number with an optional sign: `+` or `-`, then digits. -/
def intOfDigits? : List Char → Option Int
  | '-' :: s => (natOfDigits? s).map fun n => -(n : Int)
  | '+' :: s => (natOfDigits? s).map fun n => (n : Int)
  | s => (natOfDigits? s).map fun n => (n : Int)

/-- The digits of a whole number, with a minus sign when it is negative. -/
def ofInt (n : Int) : String :=
  if n < 0 then "-" ++ ofNat n.natAbs else ofNat n.natAbs

end CashMachine.Text
