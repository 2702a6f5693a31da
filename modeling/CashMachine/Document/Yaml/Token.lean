/-
The tokens of YAML texts, and how names, tags and directives are read.

A tag is a handle and what follows it: `!` is the handle of local tags, `!!` the
one of the core schema, and `!word!` one that a directive gives a meaning to.  A
tag between `!<` and `>` has no handle.

* `Token` — the tokens;
* `readName` — a name behind its mark;
* `readTag` — a tag;
* `readDirective` — a directive.
-/
import CashMachine.Document.Json
import CashMachine.Document.Yaml.Place

namespace CashMachine.Document.Yaml

open CashMachine.Text

/-- What a text is made of: words and marks, and the blocks that indentation opens and
closes. -/
inductive Token where
  /-- A directive on the version of the language. -/
  | version
  /-- A directive that gives a handle of tags a meaning. -/
  | meaning (handle beginning : String)
  | documentStart
  | documentEnd
  | blockRow
  | blockTable
  | blockEnd
  | flowRow
  | flowRowEnd
  | flowTable
  | flowTableEnd
  /-- The dash of an item. -/
  | item
  /-- The comma among brackets. -/
  | comma
  | key
  | value
  /-- The name of a value that stands elsewhere. -/
  | reference (name : String)
  /-- The name that the next value is given. -/
  | anchor (name : String)
  | tag (handle rest : String)
  | scalar (plain : Bool) (text : String)
deriving DecidableEq, Repr

/-! ### Names -/

def isNameChar (c : Char) : Bool :=
  !isGap c && !isFlowMark c && c != '\ufeff'

def readName (p : Place) : Option (String × Place) :=
  let w := (p.rest.drop 1).takeWhile isNameChar
  if w.isEmpty then none else some (String.ofList w, p.drop (w.length + 1))

/-! ### Tags -/

/-- A letter, a digit, a dash or an underscore. -/
def isWordChar (c : Char) : Bool :=
  c.isAlphanum || c == '_' || c == '-'

def isAddressChar (c : Char) : Bool :=
  isWordChar c || "#;/?:@&=+$,.!~*'()[]%".toList.contains c

/-- A character of a tag behind its handle. -/
def isTagChar (c : Char) : Bool :=
  isAddressChar c && !isFlowMark c && c != '!'

/-- The number of octets of a character whose first octet is given. -/
def octetCount? (first : Nat) : Option Nat :=
  if first < 0x80 then some 1
  else if first < 0xc0 then none
  else if first < 0xe0 then some 2
  else if first < 0xf0 then some 3
  else if first < 0xf8 then some 4
  else none

/-- Reads one octet: a percent sign and two hexadecimal digits. -/
def readOctet (p : Place) : Option (Nat × Place) :=
  match p.rest with
  | '%' :: a :: b :: _ => (hexValue? [a, b]).map (·, p.drop 3)
  | _ => none

/-- Reads further octets of a character; the whole octets of all are put together as one
number. -/
def readOctets (count code : Nat) (p : Place) : Option (Nat × Place) :=
  match count with
  | 0 => some (code, p)
  | count + 1 => do
    let (octet, p) ← readOctet p
    if octet < 0x80 ∨ 0xc0 ≤ octet then none
    readOctets count (256 * code + octet) p

/-- Reads a character that is written by its octets. -/
def readEscaped (p : Place) : Option (Char × Place) := do
  let (first, p) ← readOctet p
  let count ← octetCount? first
  let (code, p) ← readOctets (count - 1) first p
  let c ← charOfCode? code
  some (c, p)

/-- Reads the characters of a class, some of them by their octets. -/
def readAddress (member : Char → Bool) (fuel : Nat) (acc : List Char) (p : Place) :
    Option (List Char × Place) :=
  match fuel, p.rest with
  | fuel + 1, c :: _ =>
    if !member c then some (acc.reverse, p)
    else if c = '%' then
      match readEscaped p with
      | some (e, p) => readAddress member fuel (e :: acc) p
      | none => none
    else readAddress member fuel (c :: acc) (p.drop 1)
  | _, _ => some (acc.reverse, p)

/-- Reads the handle of a tag: an exclamation mark, a word, and another mark if one follows. -/
def readHandle (p : Place) : List Char × Place :=
  let w := (p.rest.drop 1).takeWhile isWordChar
  let p := p.drop (w.length + 1)
  if p.rest.head? = some '!' then ('!' :: w ++ ['!'], p.drop 1) else ('!' :: w, p)

/-- Reads a tag between `!<` and `>`. -/
def readVerbatim (p : Place) : Option (Token × Place) := do
  let (s, p) ← readAddress isAddressChar p.rest.length [] (p.drop 2)
  if p.rest.head? = some '>' then some (.tag "" (String.ofList s), p.drop 1) else none

/-- Reads a tag with a handle.  A word that no second mark follows is no handle, but the
start of a local tag; a mark alone is a tag of its own. -/
def readShorthand (p : Place) : Option (Token × Place) := do
  let (handle, p) := readHandle p
  let isHandle := decide (2 ≤ handle.length) && handle.getLast? == some '!'
  let (s, p) ← readAddress isTagChar p.rest.length [] p
  if isHandle then some (.tag (String.ofList handle) (String.ofList s), p)
  else
    let s := handle.drop 1 ++ s
    some (if s.isEmpty then .tag "" "!" else .tag "!" (String.ofList s), p)

/-- Reads a tag, behind which a gap must follow, or among brackets one of their marks. -/
def readTag (flow : Bool) (p : Place) : Option (Token × Place) := do
  let (t, p) ← if (p.rest.drop 1).head? = some '<' then readVerbatim p else readShorthand p
  if startsGap p.rest || (flow && startsFlowMark p.rest) then some (t, p) else none

/-! ### Directives -/

/-- Reads a number of a version: up to nine digits. -/
def readVersionNumber (p : Place) : Option Place :=
  let ds := p.rest.takeWhile isDigit
  if ds.isEmpty ∨ 9 < ds.length then none else some (p.drop ds.length)

/-- Reads a version: two numbers with a point between them. -/
def readVersion (p : Place) : Option Place := do
  let p ← readVersionNumber p.skipBlanks
  if p.rest.head? ≠ some '.' then none
  readVersionNumber (p.drop 1)

/-- Reads what a handle of tags stands for: its first character may be a mark. -/
def readBeginning (p : Place) : Option (List Char × Place) :=
  match p.rest with
  | [] => none
  | c :: _ =>
    if c = '!' then
      (readAddress isAddressChar p.rest.length [] (p.drop 1)).map fun (s, p) => ('!' :: s, p)
    else if isTagChar c then readAddress isAddressChar p.rest.length [] p
    else none

/-- Reads a handle of tags and what it stands for. -/
def readMeaning (p : Place) : Option (Token × Place) := do
  let p := p.skipBlanks
  if p.rest.head? ≠ some '!' then none
  let (handle, p) := readHandle p
  if handle ≠ ['!'] ∧ handle.getLast? ≠ some '!' then none
  let (s, p) ← readBeginning p.skipBlanks
  if startsGap p.rest then some (.meaning (String.ofList handle) (String.ofList s), p) else none

/-- Reads a directive and the end of its line.  One of an unknown name says nothing. -/
def readDirective (p : Place) : Option (Token × Place) := do
  let name := (p.rest.drop 1).takeWhile isWordChar
  let p := p.drop (name.length + 1)
  if name.isEmpty ∨ !startsGap p.rest then none
  let (t, p) ←
    if name = "YAML".toList then (readVersion p).map (Token.version, ·)
    else if name = "TAG".toList then readMeaning p
    else some (.meaning "" "", p.toLineEnd)
  let p ← p.skipToLineEnd
  if !endsLine p.rest then none
  some (t, if p.rest.isEmpty then p else p.newLine)

end CashMachine.Document.Yaml
