/-
JSON5 texts: JSON with comments, bare keys, either kind of quotes, a comma
behind the last item, and more ways to write a number.

* `Document.ofJson5?` — reads one JSON5 text.

A number with a point or an exponent is a binary one, and so is a whole number that
does not fit 64 bits, in decimal or hexadecimal digits.  Infinity is a number, with any sign.
-/
import CashMachine.Document.Json
import CashMachine.Text.Blank
import CashMachine.Text.Letters

namespace CashMachine.Document.Json5

open CashMachine.Text

/-! ### Blanks and comments -/

def isLineEnd (c : Char) : Bool :=
  c == '\n' || c == '\r' || c == '\u2028' || c == '\u2029'

/-- A character between words; the mark of the byte order is one, the next-line control
is not. -/
def isGap (c : Char) : Bool :=
  (isBlank c && c != '\u0085') || c == '\ufeff'

/-- Skips a comment of several lines behind its opening; there is none without an end. -/
def skipLongComment : List Char → Option (List Char)
  | '*' :: '/' :: rest => some rest
  | _ :: rest => skipLongComment rest
  | [] => none

def skipGaps (fuel : Nat) (s : List Char) : Option (List Char) :=
  match fuel with
  | 0 => none
  | fuel + 1 =>
    match s.dropWhile isGap with
    | '/' :: '/' :: rest => skipGaps fuel (rest.dropWhile fun c => !isLineEnd c)
    | '/' :: '*' :: rest =>
      match skipLongComment rest with
      | some rest => skipGaps fuel rest
      | none => none
    | rest => some rest

/-- Skips blanks and comments; each one takes a character. -/
def skip (s : List Char) : Option (List Char) :=
  skipGaps (s.length + 1) s

/-! ### Strings -/

/-- Reads the character whose code point follows `\u`, in one half or two. -/
def readCodePoint (s : List Char) : Option (Char × List Char) := do
  let (n, rest) ← readHex4 s
  if 0xd800 ≤ n ∧ n < 0xdc00 then readLowHalf n rest
  else
    let c ← charOfCode? n
    some (c, rest)

/-- Reads what follows a backslash: a line end stands for nothing, and a zero that no digit
follows for the first of all characters. -/
def readEscape : List Char → Option (List Char × List Char)
  | '\r' :: '\n' :: rest => some ([], rest)
  | 'u' :: rest => (readCodePoint rest).map fun (c, rest) => ([c], rest)
  | 'x' :: a :: b :: rest => do
    let c ← charOfCode? (← hexValue? [a, b])
    some ([c], rest)
  | 'x' :: _ => none
  | '0' :: rest => if rest.head?.any isDigit then none else some ([Char.ofNat 0], rest)
  | 'b' :: rest => some (['\x08'], rest)
  | 'f' :: rest => some (['\x0c'], rest)
  | 'n' :: rest => some (['\n'], rest)
  | 'r' :: rest => some (['\r'], rest)
  | 't' :: rest => some (['\t'], rest)
  | 'v' :: rest => some (['\x0b'], rest)
  | c :: rest =>
    if isLineEnd c then some ([], rest) else if isDigit c then none else some ([c], rest)
  | [] => none

/-- Reads the rest of a string up to its closing quote.  Of the characters that end a line, the
two beyond ASCII may stand in it. -/
def readStringRest (quote : Char) (fuel : Nat) (acc s : List Char) :
    Option (String × List Char) :=
  match fuel, s with
  | fuel + 1, c :: rest =>
    if c = quote then some (String.ofList acc.reverse, rest)
    else if c = '\\' then
      match readEscape rest with
      | some (e, rest) => readStringRest quote fuel (e.reverse ++ acc) rest
      | none => none
    else if c = '\n' ∨ c = '\r' then none
    else readStringRest quote fuel (c :: acc) rest
  | _, _ => none

/-! ### Keys -/

def startsKey (c : Char) : Bool :=
  isLetter c || c == '$' || c == '_'

/-- The character may stand behind the first one of a bare key. -/
def continuesKey (c : Char) : Bool :=
  startsKey c || isMark c || isDecimalDigit c || isConnector c || c == '\u200c' || c == '\u200d'

/-- Reads a character of a bare key, which may be written by its code point. -/
def readKeyChar : List Char → Option (Char × List Char)
  | '\\' :: 'u' :: rest => readCodePoint rest
  | '\\' :: _ => none
  | c :: rest => some (c, rest)
  | [] => none

def readKeyRest (fuel : Nat) (acc s : List Char) : Option (String × List Char) :=
  match fuel, s with
  | fuel + 1, c :: rest =>
    if c = '\\' ∨ continuesKey c then
      match readKeyChar (c :: rest) with
      | some (e, rest) => if continuesKey e then readKeyRest fuel (e :: acc) rest else none
      | none => none
    else some (String.ofList acc.reverse, c :: rest)
  | _, _ => none

def readBareKey (s : List Char) : Option (String × List Char) := do
  let (c, rest) ← readKeyChar s
  if startsKey c then readKeyRest (rest.length + 1) [c] rest else none

/-- Reads a key: a string, or a bare one. -/
def readKey (s : List Char) : Option (String × List Char) :=
  match s with
  | '"' :: rest => readStringRest '"' s.length [] rest
  | '\'' :: rest => readStringRest '\'' s.length [] rest
  | s => readBareKey s

/-! ### Numbers -/

/-- A character of a number, a sign of an exponent apart. -/
def isNumberChar (c : Char) : Bool :=
  isDigit c || c == '.' || ('a' ≤ c && c ≤ 'z') || ('A' ≤ c && c ≤ 'Z')

/-- The word of a number at the start of a text, without the sign in front: its letters,
digits and points, and the sign behind an `e` that no `0x` precedes. -/
def numberWord (s : List Char) : List Char :=
  let w := s.takeWhile isNumberChar
  match w.reverse, s.drop w.length with
  | e :: _, c :: rest =>
    if (e = 'e' ∨ e = 'E') ∧ (c = '+' ∨ c = '-') ∧ w.take 2 ≠ ['0', 'x'] ∧
        w.take 2 ≠ ['0', 'X'] then
      w ++ c :: rest.takeWhile isDigit
    else w
  | _, _ => w

/-- The whole number with a sign, as a binary one if it does not fit 64 bits. -/
def wholeNumber (negative : Bool) (n : Nat) : Document :=
  match (int (if negative then -(n : Int) else n)).int64? with
  | some n => .int n
  | none => .real (Binary64.ofRatio negative n 1)

/-- The number that a word with a sign in front stands for. -/
def readNumberWord (sign w : List Char) : Option Document :=
  let negative := sign == ['-']
  if w = "Infinity".toList then some (.real (.infinite negative))
  else if w = "NaN".toList then some (.real .nan)
  else if w.take 2 = ['0', 'x'] ∨ w.take 2 = ['0', 'X'] then
    if w.length = 2 then none else (hexValue? (w.drop 2)).map (wholeNumber negative)
  else
    let whole := w.takeWhile isDigit
    if whole.length > 1 ∧ whole.head? = some '0' then none
    else if whole = w then (natOfDigits? w).map (wholeNumber negative)
    else (Binary64.read? (sign ++ w)).map .real

def readNumber (s : List Char) : Option (Document × List Char) :=
  let sign := (s.take 1).takeWhile fun c => c == '+' || c == '-'
  let rest := s.drop sign.length
  let w := numberWord rest
  (readNumberWord sign w).map (·, rest.drop w.length)

/-! ### Values -/

mutual

def readValue (fuel : Nat) (s : List Char) : Option (Document × List Char) :=
  match fuel with
  | 0 => none
  | fuel + 1 =>
    match skip s with
    | none => none
    | some s =>
      match s with
      | '"' :: rest => (readStringRest '"' s.length [] rest).map fun (t, rest) => (.text t, rest)
      | '\'' :: rest => (readStringRest '\'' s.length [] rest).map fun (t, rest) => (.text t, rest)
      | '[' :: rest => (readItems fuel [] rest).map fun (xs, rest) => (.list xs, rest)
      | '\x7b' :: rest => (readEntries fuel [] rest).map fun (es, rest) => (ofEntries es, rest)
      | 't' :: rest => (afterWord? ['r', 'u', 'e'] rest).map (.bool true, ·)
      | 'f' :: rest => (afterWord? ['a', 'l', 's', 'e'] rest).map (.bool false, ·)
      | 'n' :: rest => (afterWord? ['u', 'l', 'l'] rest).map (.null, ·)
      | s => readNumber s

/-- Reads the items of a list up to its closing bracket. -/
def readItems (fuel : Nat) (acc : List Document) (s : List Char) :
    Option (List Document × List Char) :=
  match fuel with
  | 0 => none
  | fuel + 1 =>
    match skip s with
    | some (']' :: rest) => some (acc.reverse, rest)
    | some s =>
      match readValue fuel s with
      | none => none
      | some (x, rest) =>
        match skip rest with
        | some (',' :: rest) => readItems fuel (x :: acc) rest
        | some (']' :: rest) => some ((x :: acc).reverse, rest)
        | _ => none
    | none => none

/-- Reads the entries of a table up to its closing brace. -/
def readEntries (fuel : Nat) (acc : List (String × Document)) (s : List Char) :
    Option (List (String × Document) × List Char) :=
  match fuel with
  | 0 => none
  | fuel + 1 =>
    match skip s with
    | some ('\x7d' :: rest) => some (acc.reverse, rest)
    | some s =>
      match readKey s with
      | none => none
      | some (key, rest) =>
        match skip rest with
        | some (':' :: rest) =>
          match readValue fuel rest with
          | none => none
          | some (x, rest) =>
            match skip rest with
            | some (',' :: rest) => readEntries fuel ((key, x) :: acc) rest
            | some ('\x7d' :: rest) => some (((key, x) :: acc).reverse, rest)
            | _ => none
        | _ => none
    | none => none

end

end CashMachine.Document.Json5

namespace CashMachine.Document

def ofJson5? (s : String) : Option Document := do
  let (x, rest) ← Json5.readValue (2 * s.length + 2) s.toList
  let rest ← Json5.skip rest
  if rest.isEmpty then some x else none

end CashMachine.Document
