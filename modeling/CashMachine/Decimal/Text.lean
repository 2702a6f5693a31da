/-
Decimal amounts as text.

An amount is written with all digits of its scale (`Decimal.text`), or with
exactly two fraction digits, further ones cut off (`Decimal.moneyText`).

It is read (`Decimal.read?`) from a sign, digits with at most one point, and
underscores anywhere after the first digit.  Digits are taken from the left as
long as the coefficient and the scale stay in range; the first digit that is
not taken rounds the coefficient half up, and the rest must be digits but does
not count.  An exponent (`e` or `E`) may follow.
-/
import CashMachine.Decimal.Basic
import CashMachine.Text.Split

namespace CashMachine.Decimal

open CashMachine.Text

/-! ### Writing -/

def signChars (a : Decimal) : List Char :=
  if a.negative then ['-'] else []

/-- The digits of the whole part. -/
def wholeChars (a : Decimal) : List Char :=
  digits (a.magnitude / tenTo a.scale)

/-- The digits of the fraction, as many as the scale says. -/
def fractionChars (a : Decimal) : List Char :=
  if a.scale = 0 then [] else paddedDigits a.scale (a.magnitude % tenTo a.scale)

/-- The characters of an amount: all digits of its scale. -/
def chars (a : Decimal) : List Char :=
  a.signChars ++ a.wholeChars ++ if a.scale = 0 then [] else '.' :: a.fractionChars

/-- An amount with all digits of its scale. -/
def text (a : Decimal) : String :=
  String.ofList a.chars

/-- An amount with two fraction digits: further ones are cut off, missing ones
are zeros.  The sign stays even if no digit is left. -/
def moneyText (a : Decimal) : String :=
  String.ofList (a.signChars ++ a.wholeChars ++ '.' :: (a.fractionChars ++ ['0', '0']).take 2)

/-! ### Reading -/

/-- What has been read of the digits of an amount. -/
structure Reading where
  /-- The digits taken so far, as a number. -/
  coefficient : Nat
  /-- How many of them stand behind the point. -/
  scale : Nat
  /-- The point has been read. -/
  point : Bool
  /-- At least one digit has been read. -/
  digit : Bool

/-- A coefficient rounded up by one in its last place, with one fraction digit
less if it grew out of range. -/
def roundedUp (coefficient scale : Nat) : Option (Nat × Nat) :=
  if coefficient + 1 ≤ maxCoefficient then some (coefficient + 1, scale)
  else if scale = 0 then none
  else some ((coefficient + 1 + 4) / 10, scale - 1)

/-- The rest of an amount behind the last digit taken: digits and underscores. -/
def isTail (s : List Char) : Bool :=
  s.all fun c => isDigit c || c == '_'

/-- The digit `c`, which is followed by `rest`, does not count any more: it only
rounds the coefficient. -/
def finish (r : Reading) (c : Char) (rest : List Char) : Option (Nat × Nat) :=
  if !isTail rest then none
  else if digitValue c < 5 then some (r.coefficient, r.scale)
  else roundedUp r.coefficient r.scale

/-- Reads digits, a point and underscores; the coefficient and the scale. -/
def readFrom (r : Reading) : List Char → Option (Nat × Nat)
  | [] => if r.digit then some (r.coefficient, r.scale) else none
  | c :: rest =>
    if isDigit c then
      let next := 10 * r.coefficient + digitValue c
      if r.point then
        if r.scale = maxScale ∨ maxCoefficient < next then finish r c rest
        else readFrom { r with coefficient := next, scale := r.scale + 1, digit := true } rest
      else if maxCoefficient < next then none
      else readFrom { r with coefficient := next, digit := true } rest
    else if c = '.' then
      if r.point then none else readFrom { r with point := true } rest
    else if c = '_' then
      if r.digit then readFrom r rest else none
    else none

def readUnsigned? (s : List Char) : Option (Nat × Nat) :=
  readFrom ⟨0, 0, false, false⟩ s

def readPlain? (s : List Char) : Option Decimal :=
  match s with
  | '-' :: s => do
    let (c, k) ← readUnsigned? s
    mk? (-(c : Int)) k
  | '+' :: s => do
    let (c, k) ← readUnsigned? s
    mk? c k
  | s => do
    let (c, k) ← readUnsigned? s
    mk? c k

theorem halfAway_le {m d : Nat} (hd : 0 < d) : (2 * m + d) / (2 * d) ≤ m := by
  have h1 : m * 1 ≤ m * d := Nat.mul_le_mul_left _ hd
  have h2 : (m + 1) * (2 * d) = 2 * (m * d) + 2 * d := by
    rw [Nat.add_mul, Nat.one_mul, Nat.mul_left_comm]
  have h3 : (2 * m + d) / (2 * d) < m + 1 := by
    rw [Nat.div_lt_iff_lt_mul (by omega), h2]
    omega
  omega

/-- The amount with at most `places` fraction digits, a half rounded away from zero.
The sign stays even if the amount is rounded to zero. -/
def roundHalfAway (a : Decimal) (places : Nat) : Decimal :=
  if h : a.scale ≤ places then a
  else
    { a with magnitude := (2 * a.magnitude + tenTo (a.scale - places)) /
               (2 * tenTo (a.scale - places))
             scale := places
             magnitude_le := Nat.le_trans (halfAway_le (tenTo_pos _)) a.magnitude_le
             scale_le := Nat.le_trans (Nat.le_of_lt (Nat.lt_of_not_le h)) a.scale_le }

/-- The amount divided by `10 ^ e`. -/
def scaleDown? (a : Decimal) (e : Nat) : Option Decimal :=
  if maxScale < e then none
  else if a.scale + e ≤ maxScale then a.withScale? (a.scale + e)
  else (roundHalfAway a (maxScale - e)).withScale? maxScale

/-- The amount multiplied by `10 ^ e`. -/
def scaleUp? (a : Decimal) (e : Nat) : Option Decimal :=
  if e ≤ a.scale then a.withScale? (a.scale - e)
  else if maxScale < e then none
  else mk? (a.coefficient * (tenTo (e - a.scale) : Nat)) 0

/-- Reads an amount with an exponent behind the first `e` or `E`. -/
def readScientific? (s : List Char) : Option Decimal :=
  let base := s.takeWhile fun c => c != 'e' && c != 'E'
  match s.dropWhile fun c => c != 'e' && c != 'E' with
  | [] => none
  | _ :: '-' :: exponent => do
    let a ← readPlain? base
    let e ← Nat32.read? exponent
    scaleDown? a e.val
  | _ :: exponent => do
    let a ← readPlain? base
    let e ← Nat32.read? exponent
    scaleUp? a e.val

/-- Reads an amount, with or without exponent. -/
def readChars? (s : List Char) : Option Decimal :=
  match readPlain? s with
  | some a => some a
  | none => readScientific? s

def read? (s : String) : Option Decimal :=
  readChars? s.toList

end CashMachine.Decimal
