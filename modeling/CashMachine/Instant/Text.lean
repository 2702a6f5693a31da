/-
Instants as text.

An instant is written in universal time, with a `Z` and as many digits of the
second as it needs, in groups of three (`Instant.text`), or for reading by
people without them (`Instant.plainText`).

It is read (`Instant.read?`) from a date and a time of day with an offset from
universal time.  Fields of two digits may have one; blanks may stand before a
number and before a mark; the date and the time are divided by a `T` or one
blank; a fraction may have any number of digits, of which nine count.
-/
import CashMachine.Instant.Basic
import CashMachine.Text.Blank
import CashMachine.Text.Digits
import CashMachine.Power

namespace CashMachine.Instant

open CashMachine.Text

/-! ### Writing -/

/-- A year: four digits, or a sign and at least four where it is not within those. -/
def yearChars (year : Int) : List Char :=
  if 0 ≤ year ∧ year ≤ 9999 then paddedDigits 4 year.toNat
  else (if year < 0 then '-' else '+') :: paddedDigits 4 year.natAbs

/-- A date: year, month and day. -/
def dateChars (d : Date) : List Char :=
  yearChars d.year ++ '-' :: paddedDigits 2 d.month ++ '-' :: paddedDigits 2 d.day

/-- A time of day: hour, minute and second. -/
def clockChars (t : Instant) : List Char :=
  let (h, m, s) := t.clock
  paddedDigits 2 h ++ ':' :: paddedDigits 2 m ++ ':' :: paddedDigits 2 s

/-- The fraction of a second, in as few groups of three digits as it needs. -/
def fractionChars (nanos : Nat) : List Char :=
  if nanos = 0 then []
  else if nanos % 1000000 = 0 then '.' :: paddedDigits 3 (nanos / 1000000)
  else if nanos % 1000 = 0 then '.' :: paddedDigits 6 (nanos / 1000)
  else '.' :: paddedDigits 9 nanos

def text (t : Instant) : String :=
  String.ofList (dateChars t.date ++ 'T' :: t.clockChars ++ fractionChars t.fraction ++ ['Z'])

/-- The instant in whole seconds, with a blank between the date and the time. -/
def plainText (t : Instant) : String :=
  String.ofList (dateChars t.date ++ ' ' :: t.clockChars)

/-! ### Reading -/

/-- Reads a number of at most `width` digits, which blanks may precede. -/
def readNumber (width : Nat) (s : List Char) : Option (Nat × List Char) :=
  let s := trimStart s
  let ds := (s.take width).takeWhile isDigit
  if ds.isEmpty then none else some (digitsValue 0 ds, s.drop ds.length)

/-- Reads a year: up to four digits, or a sign and any number of them. -/
def readYear (s : List Char) : Option (Int × List Char) :=
  match trimStart s with
  | '-' :: rest =>
    if (rest.takeWhile isDigit).isEmpty then none
    else some (-(digitsValue 0 (rest.takeWhile isDigit) : Int), rest.dropWhile isDigit)
  | '+' :: rest =>
    if (rest.takeWhile isDigit).isEmpty then none
    else some ((digitsValue 0 (rest.takeWhile isDigit) : Int), rest.dropWhile isDigit)
  | s => (readNumber 4 s).map fun (n, rest) => ((n : Int), rest)

/-- Reads one given mark, which blanks may precede. -/
def readMark (mark : Char) (s : List Char) : Option (List Char) :=
  match trimStart s with
  | c :: rest => if c = mark then some rest else none
  | [] => none

/-- Reads the fraction of a second, where there is one, as nanoseconds. -/
def readFraction (s : List Char) : Option (Nat × List Char) :=
  match s with
  | '.' :: rest =>
    let ds := rest.takeWhile isDigit
    if ds.isEmpty then none
    else
      let counted := ds.take 9
      some (digitsValue 0 counted * tenTo (9 - counted.length), rest.dropWhile isDigit)
  | s => some (0, s)

def readTwoDigits : List Char → Option (Nat × List Char)
  | a :: b :: rest =>
    if isDigit a && isDigit b then some (digitsValue 0 [a, b], rest) else none
  | _ => none

/-- Reads the hours and minutes of an offset, which colons and blanks may divide. -/
def readOffsetDigits (s : List Char) : Option (Nat × List Char) := do
  let (hours, rest) ← readTwoDigits s
  let (minutes, rest) ← readTwoDigits (rest.dropWhile fun c => c == ':' || isBlank c)
  if 60 ≤ minutes then none
  some (hours * 3600 + minutes * 60, rest)

/-- The word for universal time, in any case. -/
def isUniversal (s : List Char) : Bool :=
  match s with
  | u :: t :: c :: _ => (u == 'u' || u == 'U') && (t == 't' || t == 'T') && (c == 'c' || c == 'C')
  | _ => false

/-- Reads an offset from universal time, in seconds. -/
def readOffset (s : List Char) : Option (Int × List Char) :=
  let s := trimStart s
  if isUniversal s then some (0, s.drop 3)
  else
    match s with
    | 'Z' :: rest => some (0, rest)
    | 'z' :: rest => some (0, rest)
    | '+' :: rest => (readOffsetDigits rest).map fun (n, rest) => ((n : Int), rest)
    | '-' :: rest => (readOffsetDigits rest).map fun (n, rest) => (-(n : Int), rest)
    | '\u2212' :: rest => (readOffsetDigits rest).map fun (n, rest) => (-(n : Int), rest)
    | _ => none

def readDate (s : List Char) : Option (Date × List Char) := do
  let (year, rest) ← readYear s
  let rest ← readMark '-' rest
  let (month, rest) ← readNumber 2 rest
  let rest ← readMark '-' rest
  let (day, rest) ← readNumber 2 rest
  some (⟨year, month, day⟩, rest)

/-- Reads what divides the date from the time of day. -/
def readDivider : List Char → Option (List Char)
  | 't' :: rest => some rest
  | 'T' :: rest => some rest
  | ' ' :: rest => some rest
  | _ => none

def readFields (s : List Char) : Option (Fields × List Char) := do
  let (date, rest) ← readDate s
  let rest ← readDivider rest
  let (hour, rest) ← readNumber 2 rest
  let rest ← readMark ':' rest
  let (minute, rest) ← readNumber 2 rest
  let rest ← readMark ':' rest
  let (second, rest) ← readNumber 2 rest
  let (nanos, rest) ← readFraction rest
  let (offset, rest) ← readOffset rest
  some (⟨date, hour, minute, second, nanos, offset⟩, rest)

/-- Reads an instant; blanks may follow it. -/
def read? (s : String) : Option Instant := do
  let (fields, rest) ← readFields s.toList
  if (trimStart rest).isEmpty then ofFields? fields else none

end CashMachine.Instant
