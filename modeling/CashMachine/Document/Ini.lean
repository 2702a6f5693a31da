/-
INI texts: settings `key = value`, one in a line, in sections under headers
`[name]`.

All values are texts.  A value ends with its line; quotes keep the blanks and
line ends between them, and a backslash starts an escape.  A comment takes a
whole line.  A line that starts with a blank starts a key, whatever follows the
blank, and a key goes on over line ends up to its sign.

* `readItems` — the headers and settings of a text, in their order;
* `Document.ofIni?` — the document that they build up: of two settings or two
  sections of one name the later one counts.

Main statement: `sectionsOf_spec` — the sections hold all settings, behind their headers and in
their order.
-/
import CashMachine.Document.Json
import CashMachine.Text.Blank

namespace CashMachine.Document.Ini

open CashMachine.Text

/-- A header or a setting. -/
inductive Item where
  | header (name : String)
  | setting (key value : String)
deriving DecidableEq, Repr

/-! ### Texts -/

/-- A text, and what follows it; or what follows the place where it could not be read on. -/
abbrev Reading := Except (List Char) (List Char × List Char)

/-- The character of an escape with four hexadecimal digits, of which a plus sign may take the
place of the first. -/
def codeEscape? (ds : List Char) : Option Char :=
  let ds := match ds with
    | '+' :: ds => ds
    | ds => ds
  (hexValue? ds).bind charOfCode?

/-- Reads what follows a backslash: the characters that it stands for.  At the end of the
text it stands for itself. -/
def readEscape : List Char → Reading
  | [] => .ok (['\\'], [])
  | c :: rest =>
    match c with
    | 'x' =>
      match rest with
      | d₁ :: d₂ :: d₃ :: d₄ :: after =>
        match codeEscape? [d₁, d₂, d₃, d₄] with
        | some e => .ok ([e], after)
        | none => .error (d₄ :: after)
      | _ => .error []
    | '0' => .ok ([Char.ofNat 0], rest)
    | 'a' => .ok (['\x07'], rest)
    | 'b' => .ok (['\x08'], rest)
    | 't' => .ok (['\t'], rest)
    | 'r' => .ok (['\r'], rest)
    | 'n' => .ok (['\n'], rest)
    | '\n' => .ok ([], rest)
    | c => .ok ([c], rest)

/-- Reads up to a character of the given ones, or up to the end of the text where that is
as good; what was read so far is given last character first. -/
def readUntil (stops : Char → Bool) (toEnd : Bool) (fuel : Nat) (acc s : List Char) : Reading :=
  match fuel, s with
  | _, [] => if toEnd then .ok (acc.reverse, []) else .error []
  | 0, _ => .error []
  | fuel + 1, c :: rest =>
    if stops c then .ok (acc.reverse, s)
    else if c = '\\' then
      match readEscape rest with
      | .ok (e, rest) => readUntil stops toEnd fuel (e.reverse ++ acc) rest
      | .error rest => .error rest
    else readUntil stops toEnd fuel (c :: acc) rest

/-- The two line ends. -/
def isLineEnd (c : Char) : Bool :=
  c == '\n' || c == '\r'

def skipBlanks (s : List Char) : List Char :=
  s.dropWhile fun c => isBlank c && !isLineEnd c

/-- Reads a value up to the end of its line: texts between quotes, then one without, which
loses its blanks at the end, and at the start too if it is all there is. -/
def readValue (fuel : Nat) (acc : List Char) (bare : Bool) (s : List Char) :
    Option (List Char × List Char) :=
  match fuel, s with
  | _, [] => some (acc, [])
  | 0, _ => none
  | fuel + 1, c :: rest =>
    if c = '"' ∨ c = '\'' then
      match readUntil (· == c) false rest.length [] rest with
      | .ok (part, _ :: rest) => readValue fuel (acc ++ part) false rest
      | _ => none
    else
      match readUntil isLineEnd true s.length [] s with
      | .ok (part, rest) => some (acc ++ if bare then trim part else trimEnd part, rest)
      | .error _ => none

/-- Reads a key up to its sign. -/
def readKey (s : List Char) : Reading :=
  match readUntil (fun c => c == '=' || c == ':') false s.length [] s with
  | .ok (key, rest) => .ok (trim key, rest)
  | .error rest => .error rest

/-! ### Items -/

/-- A space or a tab. -/
def isSpace (c : Char) : Bool :=
  c == ' ' || c == '\t'

/-- Skips line ends, and the spaces and tabs that no line starts with; whether what follows is
the first character of its line, given whether `s` is. -/
def skipLines (first : Bool) (s : List Char) : Bool × List Char :=
  match s with
  | [] => (first, [])
  | c :: rest =>
    if isLineEnd c then
      if rest.head?.any isSpace then (c == '\n', rest) else skipLines (c == '\n') rest
    else if isSpace c && !first then skipLines false rest
    else (first, c :: rest)

/-- Reads headers and settings; `first` tells that a line starts here, and `key` is the key
whose value is to follow.  A line that starts with a blank and holds no key is passed over. -/
def readFrom (fuel : Nat) (acc : List Item) (first : Bool) (key s : List Char) :
    Option (List Item) :=
  match fuel with
  | 0 => none
  | fuel + 1 =>
    match skipLines first s with
    | (_, []) => some acc.reverse
    | (first, c :: rest) =>
      if c = ';' ∨ c = '#' then
        if first then readFrom fuel acc true key ((rest.dropWhile (· != '\n')).drop 1) else none
      else if c = '[' then
        match readUntil (· == ']') false rest.length [] rest with
        | .ok (name, rest) =>
          readFrom fuel (.header (String.ofList (trim name)) :: acc) false key (rest.drop 1)
        | .error _ => none
      else if c = '=' ∨ c = ':' then
        if key.isEmpty then none
        else
          match readValue rest.length [] true (skipBlanks rest) with
          | some (value, rest) =>
            let item := .setting (String.ofList key) (String.ofList value)
            readFrom fuel (item :: acc) false [] rest
          | none => none
      else
        match readKey (c :: rest) with
        | .ok (key, rest) => readFrom fuel acc false key rest
        | .error rest =>
          if isSpace c then readFrom fuel acc (rest.head? == some '\n') key (rest.drop 1) else none

/-- Reads the headers and settings of a text.  Every step takes a character, and one more
finds the end. -/
def readItems (s : List Char) : Option (List Item) :=
  readFrom (s.length + 1) [] true [] s

/-! ### Sections -/

/-- The settings before the first header, and each section with its settings. -/
def sectionsOf : List Item → List (String × String) × List (String × List (String × String))
  | [] => ([], [])
  | .header name :: rest =>
    let (settings, sections) := sectionsOf rest
    ([], (name, settings) :: sections)
  | .setting key value :: rest =>
    let (settings, sections) := sectionsOf rest
    ((key, value) :: settings, sections)

/-- No item is lost or moved: the settings and the sections, one after the other, are the items. -/
theorem sectionsOf_spec (items : List Item) :
    ((sectionsOf items).1.map fun e => .setting e.1 e.2) ++
        ((sectionsOf items).2.flatMap fun s =>
          .header s.1 :: s.2.map fun e => .setting e.1 e.2) = items := by
  induction items with
  | nil => rfl
  | cons item items ih =>
    cases item with
    | header name => exact congrArg (Item.header name :: ·) ih
    | setting key value => exact congrArg (Item.setting key value :: ·) ih

def entries (settings : List (String × String)) : List (String × Document) :=
  settings.map fun e => (e.1, .text e.2)

end CashMachine.Document.Ini

namespace CashMachine.Document

def ofIni? (s : String) : Option Document :=
  (Ini.readItems s.toList).map fun items =>
    let (settings, sections) := Ini.sectionsOf items
    ofEntries (Ini.entries settings ++ sections.map fun e => (e.1, ofEntries (Ini.entries e.2)))

end CashMachine.Document
