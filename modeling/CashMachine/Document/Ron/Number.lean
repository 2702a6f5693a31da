/-
The numbers of RON texts.

A whole number may name its width, which it must fit; without a width it fits 64
bits, or else is taken for a binary one.  A binary number of 32 bits is rounded to
those.  Underscores may stand between digits, but no number starts with one.

* `readWhole` — a whole number;
* `readReal` — a binary number;
* `readNumber` — either of them.
-/
import CashMachine.Document.Ron.Text

namespace CashMachine.Document.Ron

open CashMachine.Text

/-- Reads a sign, which may be left out: it is negative, and what follows it. -/
def readSign : List Char → Bool × List Char
  | '-' :: s => (true, s)
  | '+' :: s => (false, s)
  | s => (false, s)

/-! ### Whole numbers -/

/-- A character of a whole number in any base. -/
def isWholeChar (c : Char) : Bool :=
  (hexDigit? c).isSome || c == '_'

def readBase : List Char → Nat × List Char
  | '0' :: 'b' :: s => (2, s)
  | '0' :: 'o' :: s => (8, s)
  | '0' :: 'x' :: s => (16, s)
  | s => (10, s)

/-- The number that digits of a base stand for, underscores between them left out. -/
def wholeDigits? (base : Nat) (ds : List Char) : Option Nat :=
  if ds.isEmpty ∨ ds.head? = some '_' then none
  else (ds.filter (· != '_')).foldlM (fun n c => (hexDigit? c).bind fun d =>
    if d < base then some (base * n + d) else none) 0

/-- The least and the greatest number of a width. -/
def boundsOf? (width : String) : Option (Int × Int) :=
  match width with
  | "i8" => some (-128, 127)
  | "i16" => some (-32768, 32767)
  | "i32" => some (-2147483648, 2147483647)
  | "i64" => some (-9223372036854775808, 9223372036854775807)
  | "u8" => some (0, 255)
  | "u16" => some (0, 65535)
  | "u32" => some (0, 4294967295)
  | "u64" => some (0, 18446744073709551615)
  | "" => some (-9223372036854775808, 18446744073709551615)
  | _ => none

/-- Reads a whole number with its width. -/
def readWhole (s : List Char) : Option (Document × List Char) := do
  let (negative, s) := readSign s
  let (base, s) := readBase s
  let ds := s.takeWhile isWholeChar
  let m ← wholeDigits? base ds
  let n : Int := if negative then -(m : Int) else m
  let s := s.drop ds.length
  let width := s.takeWhile continuesIdentifier
  let (lo, hi) ← boundsOf? (String.ofList width)
  if lo ≤ n ∧ n ≤ hi then some (.int n, s.drop width.length) else none

/-! ### Binary numbers -/

/-- A character of a binary number. -/
def isRealChar (c : Char) : Bool :=
  isDigit c || c == 'e' || c == 'E' || c == '.' || c == '+' || c == '-' || c == '_'

/-- The words for infinity and for no number, each in three widths. -/
def extremeOf? (word : String) : Option Binary64 :=
  if ["inf", "inff32", "inff64"].contains word then some (.infinite false)
  else if ["NaN", "NaNf32", "NaNf64"].contains word then some .nan
  else none

/-- Leaves the underscores of a number out.  Each of them stands behind a digit, or behind the
sign of an exponent. -/
def withoutUnderscores (allowed : Bool) : List Char → Option (List Char)
  | [] => some []
  | c :: s =>
    if c = '_' then if allowed then withoutUnderscores allowed s else none
    else
      let allowed := c != '.' && (allowed || (c != '+' && c != '-'))
      (withoutUnderscores allowed s).map (c :: ·)

/-- Reads an infinity or no number, with a sign. -/
def readExtreme (s : List Char) : Option (Document × List Char) := do
  let (negative, s) := readSign s
  let w := s.takeWhile continuesIdentifier
  match ← extremeOf? (String.ofList w) with
  | .infinite _ => some (.real (.infinite negative), s.drop w.length)
  | x => some (.real x, s.drop w.length)

/-- Reads digits with a point and an exponent, and a width behind them. -/
def readFinite (s : List Char) : Option (Document × List Char) := do
  let w := s.takeWhile isRealChar
  let s := s.drop w.length
  let ds ← withoutUnderscores false w
  match afterIdentifier? "f32" s with
  | some rest => (Binary64.readSingle? ds).map fun x => (.real x, rest)
  | none => (Binary64.read? ds).map fun x => (.real x, (afterIdentifier? "f64" s).getD s)

def readReal (s : List Char) : Option (Document × List Char) :=
  match readExtreme s with
  | some r => some r
  | none => readFinite s

/-! ### Numbers -/

/-- Reads an octet between quotes as a number. -/
def readOctetNumber (s : List Char) : Option (Document × List Char) :=
  (readOctet s).map fun (octet, rest) => (.int octet.toNat, rest)

/-- Reads a number.  It is a binary one if more of its characters are those of a binary
number than of a whole one, or if it is no whole one. -/
def readNumber (s : List Char) : Option (Document × List Char) :=
  let (_, digits) := readSign s
  if (digits.takeWhile isWholeChar).length < (digits.takeWhile isRealChar).length then readReal s
  else
    match readWhole s with
    | some r => some r
    | none => readReal s

end CashMachine.Document.Ron
