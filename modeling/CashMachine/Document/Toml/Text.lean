/-
The texts of TOML: blanks, comments, strings and keys.

A string stands between quotes, one of each or three of each; between double
quotes a backslash starts an escape.  A key is a row of bare words and strings
with points between them.

* `readString` — a string;
* `readKey` — a key, as the row of its parts.
-/
import CashMachine.Document.Json

namespace CashMachine.Document.Toml

open CashMachine.Text

/-! ### Blanks and comments -/

/-- The two blanks within a line. -/
def isBlank (c : Char) : Bool :=
  c == ' ' || c == '\t'

def skipBlanks (s : List Char) : List Char :=
  s.dropWhile isBlank

/-- A character that may stand in a comment or a string: no control character
other than the tab. -/
def isPlain (c : Char) : Bool :=
  c == '\t' || (0x20 ≤ c.toNat && c.toNat != 0x7f)

def readLineEnd : List Char → Option (List Char)
  | '\n' :: rest => some rest
  | '\r' :: '\n' :: rest => some rest
  | _ => none

/-- Skips a comment, where there is one, up to the end of its line. -/
def skipComment (s : List Char) : List Char :=
  match s with
  | '#' :: rest => rest.dropWhile isPlain
  | s => s

/-- Reads blanks, a comment and a line end; the end of the text is as good as one. -/
def readRestOfLine (s : List Char) : Option (List Char) :=
  match skipComment (skipBlanks s) with
  | [] => some []
  | rest => readLineEnd rest

/-- Skips blanks, comments and line ends; `fuel` bounds the number of lines. -/
def skipLines (fuel : Nat) (s : List Char) : List Char :=
  match fuel with
  | 0 => s
  | fuel + 1 =>
    let rest := skipComment (skipBlanks s)
    match readLineEnd rest with
    | some next => skipLines fuel next
    | none => rest

/-! ### Strings -/

/-- The character that an escape of one letter stands for. -/
def simpleEscape? : Char → Option Char
  | '"' => some '"'
  | '\\' => some '\\'
  | 'b' => some '\x08'
  | 't' => some '\t'
  | 'n' => some '\n'
  | 'f' => some '\x0c'
  | 'r' => some '\r'
  | 'e' => some '\x1b'
  | _ => none

/-- Reads a code point of so many hexadecimal digits. -/
def readCodePoint (width : Nat) (s : List Char) : Option (Char × List Char) := do
  if s.length < width then none
  let c ← charOfCode? (← hexValue? (s.take width))
  some (c, s.drop width)

/-- Reads what follows a backslash. -/
def readEscape : List Char → Option (Char × List Char)
  | 'x' :: rest => readCodePoint 2 rest
  | 'u' :: rest => readCodePoint 4 rest
  | 'U' :: rest => readCodePoint 8 rest
  | c :: rest => (simpleEscape? c).map (·, rest)
  | [] => none

/-- Reads the rest of a string of one line between double quotes. -/
def readBasicRest (fuel : Nat) (acc : List Char) (s : List Char) :
    Option (String × List Char) :=
  match fuel, s with
  | fuel + 1, c :: rest =>
    if c = '"' then some (String.ofList acc.reverse, rest)
    else if c = '\\' then
      match readEscape rest with
      | some (e, rest) => readBasicRest fuel (e :: acc) rest
      | none => none
    else if isPlain c then readBasicRest fuel (c :: acc) rest
    else none
  | _, _ => none

/-- Reads the rest of a string of one line between single quotes. -/
def readLiteralRest (s : List Char) : Option (String × List Char) :=
  let body := s.takeWhile fun c => c != '\'' && isPlain c
  match s.drop body.length with
  | '\'' :: rest => some (String.ofList body, rest)
  | _ => none

/-- The line end directly behind the opening quotes does not count. -/
def skipFirstLineEnd (s : List Char) : List Char :=
  (readLineEnd s).getD s

/-- What follows three quotes that may close a string of several lines: up to two
more quotes still belong to it. -/
def closing (quote : Char) (acc s : List Char) : String × List Char :=
  match s with
  | a :: b :: rest =>
    if a = quote ∧ b = quote then (String.ofList (quote :: quote :: acc).reverse, rest)
    else if a = quote then (String.ofList (quote :: acc).reverse, b :: rest)
    else (String.ofList acc.reverse, s)
  | [a] =>
    if a = quote then (String.ofList (quote :: acc).reverse, [])
    else (String.ofList acc.reverse, s)
  | [] => (String.ofList acc.reverse, [])

/-- Skips the blanks and line ends that a backslash at the end of a line removes. -/
def afterContinuation? (s : List Char) : Option (List Char) :=
  match readLineEnd (skipBlanks s) with
  | some rest => some (skipLinesAndBlanks rest)
  | none => none
where
  skipLinesAndBlanks : List Char → List Char
    | [] => []
    | '\r' :: '\n' :: rest => skipLinesAndBlanks rest
    | c :: rest => if isBlank c || c == '\n' then skipLinesAndBlanks rest else c :: rest

/-- Reads the rest of a string of several lines. -/
def readLongRest (quote : Char) (fuel : Nat) (acc : List Char) (s : List Char) :
    Option (String × List Char) :=
  match fuel with
  | 0 => none
  | fuel + 1 =>
    match s with
    | a :: b :: c :: rest =>
      if a = quote ∧ b = quote ∧ c = quote then some (closing quote acc rest)
      else readLongChar quote fuel acc a (b :: c :: rest)
    | a :: rest => readLongChar quote fuel acc a rest
    | [] => none
where
  readLongChar (quote : Char) (fuel : Nat) (acc : List Char) (c : Char) (rest : List Char) :
      Option (String × List Char) :=
    match fuel with
    | 0 => none
    | fuel + 1 =>
      if c = '\\' ∧ quote = '"' then
        match afterContinuation? rest with
        | some rest => readLongRest quote fuel acc rest
        | none =>
          match readEscape rest with
          | some (e, rest) => readLongRest quote fuel (e :: acc) rest
          | none => none
      else if c = '\r' then
        match rest with
        | '\n' :: rest => readLongRest quote fuel ('\n' :: '\r' :: acc) rest
        | _ => none
      else if isPlain c ∨ c = '\n' then readLongRest quote fuel (c :: acc) rest
      else none

/-- Reads a string with any of the four kinds of quotes. -/
def readString (s : List Char) : Option (String × List Char) :=
  match s with
  | '"' :: '"' :: '"' :: rest =>
    readLongRest '"' (2 * s.length) [] (skipFirstLineEnd rest)
  | '\'' :: '\'' :: '\'' :: rest =>
    readLongRest '\'' (2 * s.length) [] (skipFirstLineEnd rest)
  | '"' :: rest => readBasicRest s.length [] rest
  | '\'' :: rest => readLiteralRest rest
  | _ => none

/-! ### Keys -/

/-- A character of a bare key. -/
def isBare (c : Char) : Bool :=
  isDigit c || ('a' ≤ c && c ≤ 'z') || ('A' ≤ c && c ≤ 'Z') || c == '_' || c == '-'

/-- Reads one part of a key: a bare word, or a string of one line. -/
def readKeyPart (s : List Char) : Option (String × List Char) :=
  match s with
  | '"' :: rest => readBasicRest s.length [] rest
  | '\'' :: rest => readLiteralRest rest
  | s =>
    let word := s.takeWhile isBare
    if word.isEmpty then none else some (String.ofList word, s.drop word.length)

/-- Reads the parts of a key that follow points. -/
def readKeyRest (fuel : Nat) (acc : List String) (s : List Char) :
    Option (List String × List Char) :=
  match fuel with
  | 0 => none
  | fuel + 1 =>
    match skipBlanks s with
    | '.' :: rest =>
      match readKeyPart (skipBlanks rest) with
      | some (part, rest) => readKeyRest fuel (part :: acc) rest
      | none => none
    | rest => some (acc.reverse, rest)

/-- Reads a key, of at most 80 parts, with the blanks behind it. -/
def readKey (s : List Char) : Option (List String × List Char) := do
  let (part, rest) ← readKeyPart s
  let (parts, rest) ← readKeyRest (rest.length + 1) [part] rest
  if parts.length ≤ 80 then some (parts, rest) else none

end CashMachine.Document.Toml
