/-
Documents as JSON texts.

* `Document.ofJson?` — reads one JSON text: a value with blanks around it,
  nested at most 127 deep;
* `Document.json` — writes a document without blanks.

A number without fraction and exponent is a whole number if it fits 64 bits
(signed, or unsigned when positive); any other number is a binary one, scaled
from the digits that fit 64 bits.
-/
import CashMachine.Document.Basic

namespace CashMachine.Document

open CashMachine.Text

/-! ### Reading -/

/-- The four blanks of JSON. -/
def isJsonBlank (c : Char) : Bool :=
  c == ' ' || c == '\t' || c == '\n' || c == '\r'

def skipJsonBlanks (s : List Char) : List Char :=
  s.dropWhile isJsonBlank

/-- What a text goes on with, if it starts with the given word. -/
def afterWord? : List Char → List Char → Option (List Char)
  | [], s => some s
  | w :: ws, c :: s => if w = c then afterWord? ws s else none
  | _ :: _, [] => none

def hexDigit? (c : Char) : Option Nat :=
  if '0' ≤ c ∧ c ≤ '9' then some (c.toNat - 48)
  else if 'a' ≤ c ∧ c ≤ 'f' then some (c.toNat - 87)
  else if 'A' ≤ c ∧ c ≤ 'F' then some (c.toNat - 55)
  else none

/-- The number that a row of hexadecimal digits stands for. -/
def hexValue? (s : List Char) : Option Nat :=
  s.foldlM (fun n c => (hexDigit? c).map (16 * n + ·)) 0

/-- The character with a code point, if the code point is one of a character. -/
def charOfCode? (n : Nat) : Option Char :=
  if h : n.isValidChar then some (Char.ofNatAux n h) else none

/-- The character that an escape of one letter stands for. -/
def simpleEscape? : Char → Option Char
  | '"' => some '"'
  | '\\' => some '\\'
  | '/' => some '/'
  | 'b' => some '\x08'
  | 'f' => some '\x0c'
  | 'n' => some '\n'
  | 'r' => some '\r'
  | 't' => some '\t'
  | _ => none

def readHex4 : List Char → Option (Nat × List Char)
  | a :: b :: c :: d :: rest => (hexValue? [a, b, c, d]).map (·, rest)
  | _ => none

/-- Reads the second half of a character above U+FFFF, whose first half was `high`. -/
def readLowHalf (high : Nat) (s : List Char) : Option (Char × List Char) := do
  let rest ← afterWord? ['\\', 'u'] s
  let (low, rest) ← readHex4 rest
  if 0xdc00 ≤ low ∧ low < 0xe000 then
    let c ← charOfCode? (0x10000 + (high - 0xd800) * 0x400 + (low - 0xdc00))
    some (c, rest)
  else none

/-- Reads what follows a backslash in a string. -/
def readEscape : List Char → Option (Char × List Char)
  | [] => none
  | e :: rest =>
    if e = 'u' then do
      let (n, rest) ← readHex4 rest
      if 0xd800 ≤ n ∧ n < 0xdc00 then readLowHalf n rest
      else
        let c ← charOfCode? n
        some (c, rest)
    else (simpleEscape? e).map (·, rest)

/-- Reads the rest of a string behind its opening quote; what it holds so far is
given last character first. -/
def readStringRest (fuel : Nat) (acc : List Char) (s : List Char) :
    Option (String × List Char) :=
  match fuel, s with
  | fuel + 1, c :: rest =>
    if c = '"' then some (String.ofList acc.reverse, rest)
    else if c = '\\' then
      match readEscape rest with
      | some (e, rest) => readStringRest fuel (e :: acc) rest
      | none => none
    else if c.toNat < 0x20 then none
    else readStringRest fuel (c :: acc) rest
  | _, _ => none

/-- Reads a string behind its opening quote. -/
def readJsonString (s : List Char) : Option (String × List Char) :=
  readStringRest s.length [] s

/-- Takes digits into a significand as long as it fits 64 bits: the significand, and how
many digits it has taken. -/
def takeDigits (n : Nat) : List Char → Nat × Nat
  | [] => (n, 0)
  | c :: rest =>
    let next := 10 * n + digitValue c
    if next < 18446744073709551616 then
      let (n, taken) := takeDigits next rest
      (n, taken + 1)
    else (n, 0)

/-- Reads the exponent of a number, zero where there is none. -/
def readExponent (s : List Char) : Option (Int × List Char) :=
  match s with
  | c :: rest =>
    if c = 'e' ∨ c = 'E' then
      let (negative, rest) : Bool × List Char :=
        match rest with
        | '+' :: rest => (false, rest)
        | '-' :: rest => (true, rest)
        | rest => (false, rest)
      let ds := rest.takeWhile isDigit
      if ds.isEmpty then none
      else
        let n : Int := digitsValue 0 ds
        some (if negative then -n else n, rest.dropWhile isDigit)
    else some (0, s)
  | [] => some (0, [])

/-- A number of whole digits `ds`, fraction digits `fs` and an exponent, as a binary one.
Whole digits that are not taken still count as places; the digits of the fraction are taken
behind those that were. -/
def realOfDigits? (negative : Bool) (ds fs : List Char) (exponent : Int) : Option Document :=
  let (n, whole) := takeDigits 0 ds
  let (n, fraction) := takeDigits n fs
  let places : Int := (ds.length - whole : Nat) - (fraction : Int)
  (Binary64.ofSignificand? negative n (exponent + places)).map .real

def readJsonNumber (s : List Char) : Option (Document × List Char) := do
  let (negative, s) : Bool × List Char :=
    match s with
    | '-' :: s => (true, s)
    | s => (false, s)
  let ds := s.takeWhile isDigit
  let rest := s.dropWhile isDigit
  if ds.isEmpty ∨ (ds.length > 1 ∧ ds.head? = some '0') then none
  match rest with
  | '.' :: rest =>
    let fs := rest.takeWhile isDigit
    if fs.isEmpty then none
    let (e, rest) ← readExponent (rest.dropWhile isDigit)
    let x ← realOfDigits? negative ds fs e
    some (x, rest)
  | rest =>
    let (e, after) ← readExponent rest
    if after.length < rest.length then
      let x ← realOfDigits? negative ds [] e
      some (x, after)
    else
      let n := digitsValue 0 ds
      if negative then
        if n ≠ 0 ∧ n ≤ 9223372036854775808 then some (.int (-(n : Int)), rest)
        else (realOfDigits? true ds [] 0).map (·, rest)
      else if n < 18446744073709551616 then some (.int n, rest)
      else (realOfDigits? false ds [] 0).map (·, rest)

mutual

/-- Reads a value; `depth` more levels may be opened. -/
def readJsonValue (fuel depth : Nat) (s : List Char) : Option (Document × List Char) :=
  match fuel with
  | 0 => none
  | fuel + 1 =>
    match skipJsonBlanks s with
    | '"' :: rest => (readJsonString rest).map fun (t, rest) => (.text t, rest)
    | '[' :: rest =>
      match depth with
      | 0 => none
      | depth + 1 =>
        match skipJsonBlanks rest with
        | ']' :: rest => some (.list [], rest)
        | rest => (readJsonItems fuel depth [] rest).map fun (xs, rest) => (.list xs, rest)
    | '\x7b' :: rest =>
      match depth with
      | 0 => none
      | depth + 1 =>
        match skipJsonBlanks rest with
        | '\x7d' :: rest => some (.table [], rest)
        | rest => (readJsonEntries fuel depth [] rest).map fun (es, rest) => (ofEntries es, rest)
    | 't' :: rest => (afterWord? ['r', 'u', 'e'] rest).map (.bool true, ·)
    | 'f' :: rest => (afterWord? ['a', 'l', 's', 'e'] rest).map (.bool false, ·)
    | 'n' :: rest => (afterWord? ['u', 'l', 'l'] rest).map (.null, ·)
    | rest => readJsonNumber rest

/-- Reads the items of a list up to its closing bracket. -/
def readJsonItems (fuel depth : Nat) (acc : List Document) (s : List Char) :
    Option (List Document × List Char) :=
  match fuel with
  | 0 => none
  | fuel + 1 =>
    match readJsonValue fuel depth s with
    | none => none
    | some (x, rest) =>
      match skipJsonBlanks rest with
      | ',' :: rest => readJsonItems fuel depth (x :: acc) rest
      | ']' :: rest => some ((x :: acc).reverse, rest)
      | _ => none

/-- Reads the entries of a table up to its closing brace. -/
def readJsonEntries (fuel depth : Nat) (acc : List (String × Document)) (s : List Char) :
    Option (List (String × Document) × List Char) :=
  match fuel with
  | 0 => none
  | fuel + 1 =>
    match skipJsonBlanks s with
    | '"' :: rest =>
      match readJsonString rest with
      | none => none
      | some (key, rest) =>
        match skipJsonBlanks rest with
        | ':' :: rest =>
          match readJsonValue fuel depth rest with
          | none => none
          | some (x, rest) =>
            match skipJsonBlanks rest with
            | ',' :: rest => readJsonEntries fuel depth ((key, x) :: acc) rest
            | '\x7d' :: rest => some (((key, x) :: acc).reverse, rest)
            | _ => none
        | _ => none
    | _ => none

end

/-- Reads one JSON text.  Every step down or along consumes a character, so the
length of the text bounds their number. -/
def ofJson? (s : String) : Option Document :=
  let s := s.toList
  match readJsonValue (2 * s.length + 2) 127 s with
  | some (x, rest) => if (skipJsonBlanks rest).isEmpty then some x else none
  | none => none

/-! ### Writing -/

def hexDigits (n : Nat) : List Char :=
  Nat.toDigits 16 n

/-- A character inside a string. -/
def jsonChar (c : Char) : List Char :=
  match c with
  | '"' => ['\\', '"']
  | '\\' => ['\\', '\\']
  | '\n' => ['\\', 'n']
  | '\r' => ['\\', 'r']
  | '\t' => ['\\', 't']
  | c =>
    if c.toNat < 0x20 then
      let h := hexDigits c.toNat
      ['\\', 'u'] ++ List.replicate (4 - h.length) '0' ++ h
    else [c]

def jsonString (s : String) : String :=
  "\"" ++ String.ofList (s.toList.flatMap jsonChar) ++ "\""

mutual

/-- A document as a JSON text without blanks. -/
def json : Document → String
  | .null => "null"
  | .bool true => "true"
  | .bool false => "false"
  | .int n => Text.ofInt n
  | .real x => x.text
  | .text s => jsonString s
  | .list xs => "[" ++ ",".intercalate (jsonItems xs) ++ "]"
  | .table es => "\x7b" ++ ",".intercalate (jsonEntries es) ++ "\x7d"

def jsonItems : List Document → List String
  | [] => []
  | x :: xs => x.json :: jsonItems xs

def jsonEntries : List (String × Document) → List String
  | [] => []
  | (k, x) :: es => (jsonString k ++ ":" ++ x.json) :: jsonEntries es

end

end CashMachine.Document
