/-
The values of TOML that are one word: truth values, whole numbers, binary
numbers, dates and times.

Whole numbers have 64 bits and may be written in hexadecimal, octal or binary;
single underscores may divide digits.  Dates and times are kept as texts in
their usual form.

* `ofWord?` — the value of a word.
-/
import CashMachine.Document.Toml.Text
import CashMachine.Instant.Calendar

namespace CashMachine.Document.Toml

open CashMachine.Text

/-! ### Numbers -/

/-- The digits of a number with single underscores between them taken out. -/
def ungrouped (isDigit : Char → Bool) : List Char → Option (List Char)
  | [] => none
  | [c] => if isDigit c then some [c] else none
  | c :: '_' :: rest => if isDigit c then (ungrouped isDigit rest).map (c :: ·) else none
  | c :: rest => if isDigit c then (ungrouped isDigit rest).map (c :: ·) else none

/-- The digits of a whole number, which has no zero in front. -/
def wholeDigits? (s : List Char) : Option (List Char) := do
  let ds ← ungrouped isDigit s
  if ds.length > 1 ∧ ds.head? = some '0' then none else some ds

/-- A whole number of 64 bits. -/
def int? (n : Int) : Option Document :=
  (Document.int n).int64?.map .int

/-- The value of digits in a base that is a power of two. -/
def basedInt? (base : Nat) (s : List Char) : Option Document := do
  let ds ← ungrouped (fun c => ((hexDigit? c).getD base) < base) s
  int? (ds.foldl (fun n c => base * n + (hexDigit? c).getD 0) 0 : Nat)

/-- The sign of a number, and the rest of it. -/
def signed : List Char → Bool × List Char
  | '-' :: rest => (true, rest)
  | '+' :: rest => (false, rest)
  | s => (false, s)

/-- The exponent of a binary number, zero where there is none. -/
def exponent? : List Char → Option Int
  | [] => some 0
  | _ :: rest => do
    let (negative, rest) := signed rest
    let n : Int := digitsValue 0 (← ungrouped isDigit rest)
    some (if negative then -n else n)

/-- The binary number nearest to `± ds · 10 ^ e`, unless it is beyond the largest. -/
def real? (negative : Bool) (ds : List Char) (e : Int) : Option Document :=
  match Binary64.ofDigits negative ds e with
  | .infinite _ => none
  | x => some (.real x)

/-- A binary number: digits with a point, an exponent or both. -/
def float? (negative : Bool) (s : List Char) : Option Document := do
  let mantissa := s.takeWhile fun c => c != 'e' && c != 'E'
  let e ← exponent? (s.drop mantissa.length)
  match mantissa.span (· != '.') with
  | (ds, '.' :: fs) =>
    let ds ← wholeDigits? ds
    let fs ← ungrouped isDigit fs
    real? negative (ds ++ fs) (e - fs.length)
  | (ds, _) => real? negative (← wholeDigits? ds) e

/-- A number. -/
def number? (s : List Char) : Option Document :=
  match s with
  | '0' :: 'x' :: ds => basedInt? 16 ds
  | '0' :: 'o' :: ds => basedInt? 8 ds
  | '0' :: 'b' :: ds => basedInt? 2 ds
  | s =>
    let (negative, ds) := signed s
    if ds = ['i', 'n', 'f'] then some (.real (.infinite negative))
    else if ds = ['n', 'a', 'n'] then some (.real .nan)
    else if ds.any fun c => c == '.' || c == 'e' || c == 'E' then float? negative ds
    else
      (wholeDigits? ds).bind fun ds =>
        let n : Int := digitsValue 0 ds
        int? (if negative then -n else n)

/-! ### Dates and times -/

def readDigits (width : Nat) (s : List Char) : Option (Nat × List Char) :=
  let ds := s.take width
  if ds.length = width ∧ ds.all isDigit then some (digitsValue 0 ds, s.drop width) else none

def readChar (c : Char) : List Char → Option (List Char)
  | d :: rest => if d = c then some rest else none
  | [] => none

def readDate (s : List Char) : Option (List Char × List Char) := do
  let (y, rest) ← readDigits 4 s
  let (m, rest) ← readDigits 2 (← readChar '-' rest)
  let (d, rest) ← readDigits 2 (← readChar '-' rest)
  if Date.isValid ⟨y, m, d⟩ then some (s.take 10, rest) else none

/-- A fraction of a second: nine digits count, and zeros at the end do not, but one stays
where there is nothing else. -/
def fractionText (ds : List Char) : List Char :=
  match ((ds.take 9).reverse.dropWhile (· == '0')).reverse with
  | [] => ['.', '0']
  | ds => '.' :: ds

/-- Reads the seconds of a time of day with their fraction, where there are any. -/
def readSeconds (s : List Char) : Option (List Char × List Char) :=
  match s with
  | ':' :: rest => do
    let (x, after) ← readDigits 2 rest
    if 60 < x then none
    match after with
    | '.' :: after =>
      let ds := after.takeWhile isDigit
      if ds.isEmpty then none
      some (s.take 3 ++ fractionText ds, after.drop ds.length)
    | after => some (s.take 3, after)
  | rest => some ([], rest)

/-- Reads a time of day, with seconds or without. -/
def readTime (s : List Char) : Option (List Char × List Char) := do
  let (h, rest) ← readDigits 2 s
  let (m, rest) ← readDigits 2 (← readChar ':' rest)
  if 23 < h ∨ 59 < m then none
  let (seconds, rest) ← readSeconds rest
  some (s.take 5 ++ seconds, rest)

/-- Reads an offset from universal time, where there is one. -/
def readOffset (s : List Char) : Option (List Char × List Char) :=
  match s with
  | [] => some ([], [])
  | c :: rest =>
    if c = 'Z' ∨ c = 'z' then some (['Z'], rest)
    else if c = '+' ∨ c = '-' then do
      let (h, after) ← readDigits 2 rest
      let (m, after) ← readDigits 2 (← readChar ':' after)
      if 23 < h ∨ 59 < m then none
      let sign := if h = 0 ∧ m = 0 then '+' else c
      some (sign :: rest.take 5, after)
    else none

/-- A date, a time of day, or both with or without an offset, in its usual form. -/
def dateTime? (s : List Char) : Option (List Char) :=
  match readDate s with
  | some (date, []) => some date
  | some (date, c :: rest) => do
    if c != 'T' && c != 't' && c != ' ' then none
    let (time, rest) ← readTime rest
    let (offset, rest) ← readOffset rest
    if rest.isEmpty then some (date ++ 'T' :: time ++ offset) else none
  | none =>
    match readTime s with
    | some (time, []) => some time
    | _ => none

/-! ### Words -/

def isWordChar (c : Char) : Bool :=
  isBare c || c == '+' || c == '.' || c == ':'

/-- The word at the start of a text.  A date and the time behind it are one word, with
one blank between them. -/
def word (s : List Char) : List Char :=
  let w := s.takeWhile isWordChar
  match s.drop w.length with
  | ' ' :: c :: rest =>
    if (readDate w).any (fun r => r.2.isEmpty) && isDigit c then
      w ++ ' ' :: (c :: rest).takeWhile isWordChar
    else w
  | _ => w

def ofWord? (w : List Char) : Option Document :=
  if w = ['t', 'r', 'u', 'e'] then some (.bool true)
  else if w = ['f', 'a', 'l', 's', 'e'] then some (.bool false)
  else
    match number? w with
    | some x => some x
    | none => (dateTime? w).map fun t => .text (String.ofList t)

end CashMachine.Document.Toml
