/-
The words of RON texts: blanks, comments, names, characters and strings.

A name is an identifier of any script; behind `r#` it may hold points and signs.  A string
holds characters, or, behind a `b`, octets.

* `skip` — skips blanks and comments;
* `readIdentifier` — a name;
* `readString`, `readOctetString` — a string of characters or of octets;
* `readChar`, `readOctet` — one character or one octet between single quotes.
-/
import CashMachine.Document.Json
import CashMachine.Text.Identifier

namespace CashMachine.Document.Ron

open CashMachine.Text

/-! ### Blanks and comments -/

/-- A blank, a line end, or a mark of the direction of writing. -/
def isGap (c : Char) : Bool :=
  let n := c.toNat
  (0x9 ≤ n && n ≤ 0xd) || n == 0x20 || n == 0x85 || n == 0x200e || n == 0x200f ||
    n == 0x2028 || n == 0x2029

/-- Skips a comment of several lines, which may hold others, behind its opening. -/
def skipLongComment (depth : Nat) : List Char → Option (List Char)
  | '*' :: '/' :: rest =>
    match depth with
    | 0 => some rest
    | depth + 1 => skipLongComment depth rest
  | '/' :: '*' :: rest => skipLongComment (depth + 1) rest
  | _ :: rest => skipLongComment depth rest
  | [] => none

def skipGaps (fuel : Nat) (s : List Char) : Option (List Char) :=
  match fuel with
  | 0 => none
  | fuel + 1 =>
    match s.dropWhile isGap with
    | '/' :: '/' :: rest => skipGaps fuel (rest.dropWhile (· != '\n'))
    | '/' :: '*' :: rest =>
      match skipLongComment 0 rest with
      | some rest => skipGaps fuel rest
      | none => none
    | rest => some rest

/-- Skips blanks and comments; each one takes a character. -/
def skip (s : List Char) : Option (List Char) :=
  skipGaps (s.length + 1) s

/-! ### Names -/

/-- A character of a name behind `r#`. -/
def isRawNameChar (c : Char) : Bool :=
  c == '.' || c == '+' || c == '-' || continuesIdentifier c

/-- The first characters of strings and octets that look like names. -/
def literalOpenings : List (List Char) :=
  ["b\"", "b'", "br\"", "br#", "r\"", "r#\"", "r##"].map (·.toList)

def readIdentifier (s : List Char) : Option (String × List Char) :=
  if literalOpenings.any (·.isPrefixOf s) then none
  else
    match s with
    | 'r' :: '#' :: rest =>
      let w := rest.takeWhile isRawNameChar
      if w.isEmpty then none else some (String.ofList w, rest.drop w.length)
    | c :: rest =>
      if c = '_' ∨ startsIdentifier c then
        let w := rest.takeWhile continuesIdentifier
        some (String.ofList (c :: w), rest.drop w.length)
      else none
    | [] => none

/-- What a text goes on with behind a word that no name goes on from. -/
def afterIdentifier? (word : String) (s : List Char) : Option (List Char) := do
  let rest ← afterWord? word.toList s
  if rest.head?.any continuesIdentifier then none else some rest

/-! ### Escapes -/

/-- What a letter behind a backslash stands for. -/
def letterEscape? : Char → Option Char
  | '\'' => some '\''
  | '"' => some '"'
  | '\\' => some '\\'
  | 'n' => some '\n'
  | 'r' => some '\r'
  | 't' => some '\t'
  | '0' => some (Char.ofNat 0)
  | _ => none

/-- Reads up to six hexadecimal digits between braces. -/
def readBraced (s : List Char) : Option (Char × List Char) := do
  let rest ← afterWord? ['\x7b'] s
  let ds := rest.takeWhile (· != '\x7d')
  if ds.isEmpty ∨ 6 < ds.length then none
  let rest ← afterWord? ['\x7d'] (rest.drop ds.length)
  let c ← charOfCode? (← hexValue? ds)
  some (c, rest)

def readOctetDigits : List Char → Option (UInt8 × List Char)
  | a :: b :: rest => (hexValue? [a, b]).map fun n => (UInt8.ofNat n, rest)
  | _ => none

def charsOfOctets? (octets : List UInt8) : Option (List Char) :=
  (String.fromUTF8? ⟨octets.toArray⟩).map (·.toList)

/-- Reads so many further octets of a character, each behind `\x`, as it takes. -/
def readOctets (most : Nat) (octets : List UInt8) (s : List Char) :
    Option (List Char × List Char) :=
  match charsOfOctets? octets with
  | some cs => some (cs, s)
  | none =>
    match most, s with
    | most + 1, '\\' :: 'x' :: rest =>
      match readOctetDigits rest with
      | some (octet, rest) => readOctets most (octets ++ [octet]) rest
      | none => none
    | _, _ => none

/-- Skips the blanks in front of the next word behind a line end. -/
def skipContinuation (s : List Char) : List Char :=
  s.dropWhile isJsonBlank

/-- Reads what follows a backslash in a string.  A character of several octets takes an escape
for each; a line end takes the blanks behind it along. -/
def readEscape : List Char → Option (List Char × List Char)
  | 'x' :: rest => do
    let (octet, rest) ← readOctetDigits rest
    readOctets 3 [octet] rest
  | 'u' :: rest => (readBraced rest).map fun (c, rest) => ([c], rest)
  | '\n' :: rest => some ([], skipContinuation rest)
  | '\r' :: '\n' :: rest => some ([], skipContinuation rest)
  | c :: rest => (letterEscape? c).map fun e => ([e], rest)
  | [] => none

/-- Reads what follows a backslash in a string of octets. -/
def readOctetEscape : List Char → Option (List UInt8 × List Char)
  | 'x' :: rest => (readOctetDigits rest).map fun (octet, rest) => ([octet], rest)
  | s => (readEscape s).map fun (cs, rest) => (cs.flatMap String.utf8EncodeChar, rest)

/-! ### Strings -/

/-- Reads the rest of a string up to its closing quote; what is read of it stands last
character first. -/
def readStringRest (fuel : Nat) (acc s : List Char) : Option (String × List Char) :=
  match fuel, s with
  | fuel + 1, c :: rest =>
    if c = '"' then some (String.ofList acc.reverse, rest)
    else if c = '\\' then
      match readEscape rest with
      | some (e, rest) => readStringRest fuel (e.reverse ++ acc) rest
      | none => none
    else readStringRest fuel (c :: acc) rest
  | _, _ => none

/-- Reads the rest of a string of octets up to its closing quote. -/
def readOctetStringRest (fuel : Nat) (acc : List UInt8) (s : List Char) :
    Option (List UInt8 × List Char) :=
  match fuel, s with
  | fuel + 1, c :: rest =>
    if c = '"' then some (acc.reverse, rest)
    else if c = '\\' then
      match readOctetEscape rest with
      | some (e, rest) => readOctetStringRest fuel (e.reverse ++ acc) rest
      | none => none
    else readOctetStringRest fuel ((String.utf8EncodeChar c).reverse ++ acc) rest
  | _, _ => none

/-- Reads the rest of a string without escapes up to the given closing. -/
def readRawRest (closing acc : List Char) (s : List Char) : Option (String × List Char) :=
  match afterWord? closing s, s with
  | some rest, _ => some (String.ofList acc.reverse, rest)
  | none, c :: rest => readRawRest closing (c :: acc) rest
  | none, [] => none

/-- Reads a string without escapes behind its `r`: as many hash signs close it as open it. -/
def readRaw (s : List Char) : Option (String × List Char) :=
  let hashes := s.takeWhile (· == '#')
  match s.drop hashes.length with
  | '"' :: rest => readRawRest ('"' :: hashes) [] rest
  | _ => none

def readString : List Char → Option (String × List Char)
  | '"' :: rest => readStringRest (rest.length + 1) [] rest
  | 'r' :: rest => readRaw rest
  | _ => none

def readOctetString : List Char → Option (List UInt8 × List Char)
  | 'b' :: '"' :: rest => readOctetStringRest (rest.length + 1) [] rest
  | 'b' :: 'r' :: rest => (readRaw rest).map fun (t, rest) => (t.toUTF8.toList, rest)
  | _ => none

/-! ### Single characters -/

/-- Reads the closing quote of a single character. -/
def closeQuote {α : Type} : α × List Char → Option (α × List Char)
  | (x, '\'' :: rest) => some (x, rest)
  | _ => none

/-- Reads a character between single quotes, of which an octet escape stands for one below
128. -/
def readChar : List Char → Option (Char × List Char)
  | '\'' :: '\\' :: 'x' :: rest => do
    let (octet, rest) ← readOctetDigits rest
    if octet < 128 then closeQuote (Char.ofNat octet.toNat, rest) else none
  | '\'' :: '\\' :: 'u' :: rest => (readBraced rest).bind closeQuote
  | '\'' :: '\\' :: c :: rest => do closeQuote (← letterEscape? c, rest)
  | '\'' :: '\\' :: [] => none
  | '\'' :: c :: rest => closeQuote (c, rest)
  | _ => none

/-- Reads an octet between single quotes behind a `b`: an octet escape, or a character below
128. -/
def readOctet : List Char → Option (UInt8 × List Char)
  | 'b' :: '\'' :: '\\' :: 'x' :: rest => (readOctetDigits rest).bind closeQuote
  | 'b' :: '\'' :: '\\' :: c :: rest => do
    closeQuote (UInt8.ofNat (← letterEscape? c).toNat, rest)
  | 'b' :: '\'' :: '\\' :: [] => none
  | 'b' :: '\'' :: c :: rest =>
    if c.toNat < 128 then closeQuote (UInt8.ofNat c.toNat, rest) else none
  | _ => none

end CashMachine.Document.Ron
