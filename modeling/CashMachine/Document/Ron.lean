/-
RON texts: values between which named records `(key: value)`, rows `(a, b)`,
lists, maps and optional values are told apart.

A record and a map are both tables, a row is a list, the unit and a name alone are
nothing, and an optional value is the value or nothing.  Values stand at most 128 deep; a
record, a row, a list or a map is one step, and each value within it another.

* `readValue` — reads a value;
* `Document.ofRon?` — reads one RON text, in front of which extensions may be enabled.
-/
import CashMachine.Document.Ron.Number

namespace CashMachine.Document.Ron

open CashMachine.Text

/-! ### Keys -/

/-- The kinds of texts that are keys of a map, in the order in which a map keeps them. -/
inductive KeyKind where
  | character
  | string
  | octets
deriving DecidableEq, Repr

/-- A value, and the key that it is if it is a text. -/
structure Value where
  document : Document
  key : Option (KeyKind × String) := none

/-- A list of numbers, which is a key if they are the octets of a text. -/
def Value.ofOctets (octets : List UInt8) : Value :=
  ⟨.list (octets.map fun o => .int o.toNat),
    (charsOfOctets? octets).map fun cs => (.octets, String.ofList cs)⟩

/-- An entry of a map, with the kind of its key. -/
abbrev Entry := KeyKind × String × Document

/-- The entries of a map in the order of the kinds of their keys. -/
def sortedEntries (es : List Entry) : List Entry :=
  es.filter (·.1 = .character) ++ es.filter (·.1 = .string) ++ es.filter (·.1 = .octets)

/-- A map of the given entries.  Of entries with one key that counts whose kind of key comes
last, and of those the last one. -/
def tableOf (es : List Entry) : Document :=
  ofEntries ((sortedEntries es).map (·.2))

/-! ### Words -/

/-- The words that stand for a value. -/
def wordValues : List (String × Document) :=
  [("true", .bool true), ("false", .bool false), ("None", .null),
    ("inf", .real (.infinite false)), ("inff32", .real (.infinite false)),
    ("inff64", .real (.infinite false)),
    ("NaN", .real .nan), ("NaNf32", .real .nan), ("NaNf64", .real .nan)]

def readWord (s : List Char) : Option (Document × List Char) :=
  wordValues.findSome? fun (word, d) => (afterIdentifier? word s).map (d, ·)

/-- Reads a value that no other is part of. -/
def readScalar (s : List Char) : Option (Value × List Char) :=
  match s with
  | '"' :: _ => (readString s).map fun (t, rest) => (⟨.text t, some (.string, t)⟩, rest)
  | 'r' :: _ => (readString s).map fun (t, rest) => (⟨.text t, some (.string, t)⟩, rest)
  | '\'' :: _ => (readChar s).map fun (c, rest) =>
    (⟨.text c.toString, some (.character, c.toString)⟩, rest)
  | 'b' :: '\'' :: _ => (readOctetNumber s).map fun (d, rest) => (⟨d, none⟩, rest)
  | 'b' :: _ => (readOctetString s).map fun (octets, rest) => (.ofOctets octets, rest)
  | _ => (readNumber s).map fun (d, rest) => (⟨d, none⟩, rest)

def readFieldName (s : List Char) : Option (String × List Char) := do
  let (name, rest) ← readIdentifier s
  match ← skip rest with
  | ':' :: rest => some (name, rest)
  | _ => none

/-! ### Values -/

/-- Reads the comma behind an item; it may be left out in front of the closing. -/
def readComma (closing : Char) (s : List Char) : Option (List Char) := do
  match ← skip s with
  | ',' :: rest => skip rest
  | c :: rest => if c = closing then some (c :: rest) else none
  | [] => none

mutual

/-- Reads a value that starts here.  Values may stand `depth` deeper in it; `bare` tells that the
parentheses of an optional value may be left out. -/
def readValue (fuel depth : Nat) (bare : Bool) (s : List Char) : Option (Value × List Char) :=
  match fuel with
  | 0 => none
  | fuel + 1 =>
    match readWord s, afterIdentifier? "Some" s with
    | some (d, rest), _ => some (⟨d, none⟩, rest)
    | none, some rest => readOptional fuel depth bare rest
    | none, none =>
      match s with
      | '(' :: ')' :: rest => some (⟨.null, none⟩, rest)
      | '(' :: _ => readRecord fuel depth bare s
      | '[' :: rest =>
        (readItems fuel depth bare ']' [] rest).map fun (ds, rest) => (⟨.list ds, none⟩, rest)
      | '\x7b' :: rest =>
        (readEntries fuel depth bare [] rest).map fun (es, rest) => (⟨tableOf es, none⟩, rest)
      | s =>
        match readIdentifier s with
        | some (_, rest) =>
          match skip rest with
          | some rest => readRecord fuel depth bare rest
          | none => none
        | none => readScalar s

/-- Reads an optional value behind its `Some`. -/
def readOptional (fuel depth : Nat) (bare : Bool) (s : List Char) : Option (Value × List Char) :=
  match fuel, depth with
  | fuel + 1, depth + 1 =>
    match skip s with
    | some ('(' :: rest) =>
      match skip rest with
      | none => none
      | some rest =>
        match readValue fuel depth bare rest with
        | none => none
        | some (v, rest) =>
          match readComma ')' rest with
          | some (')' :: rest) => some (⟨v.document, none⟩, rest)
          | _ => none
    | some rest =>
      if bare then
        (readValue fuel depth bare rest).map fun (v, rest) => (⟨v.document, none⟩, rest)
      else none
    | none => none
  | _, _ => none

/-- Reads what may follow a name: a record or a row, or nothing. -/
def readRecord (fuel depth : Nat) (bare : Bool) (s : List Char) : Option (Value × List Char) :=
  match fuel with
  | 0 => none
  | fuel + 1 =>
    match s with
    | '(' :: rest =>
      match skip rest with
      | none => none
      | some inner =>
        match readFieldName inner with
        | some _ =>
          (readFields fuel depth bare [] rest).map fun (es, rest) => (⟨ofEntries es, none⟩, rest)
        | none =>
          (readItems fuel depth bare ')' [] rest).map fun (ds, rest) => (⟨.list ds, none⟩, rest)
    | s => some (⟨.null, none⟩, s)

/-- Reads values up to a closing bracket. -/
def readItems (fuel depth : Nat) (bare : Bool) (closing : Char) (acc : List Document)
    (s : List Char) : Option (List Document × List Char) :=
  match fuel, depth with
  | fuel + 1, depth + 1 =>
    match skip s with
    | some (c :: rest) =>
      if c = closing then some (acc.reverse, rest)
      else
        match depth with
        | 0 => none
        | inner + 1 =>
          match readValue fuel inner bare (c :: rest) with
          | none => none
          | some (v, rest) =>
            match readComma closing rest with
            | some rest => readItems fuel (depth + 1) bare closing (v.document :: acc) rest
            | none => none
    | _ => none
  | _, _ => none

/-- Reads the fields of a record up to its closing bracket. -/
def readFields (fuel depth : Nat) (bare : Bool) (acc : List (String × Document)) (s : List Char) :
    Option (List (String × Document) × List Char) :=
  match fuel, depth with
  | fuel + 1, depth + 1 =>
    match skip s with
    | some (')' :: rest) => some (acc.reverse, rest)
    | some s =>
      match readFieldName s, depth with
      | some (name, rest), inner + 1 =>
        match skip rest with
        | none => none
        | some rest =>
          match readValue fuel inner bare rest with
          | none => none
          | some (v, rest) =>
            match readComma ')' rest with
            | some rest => readFields fuel (depth + 1) bare ((name, v.document) :: acc) rest
            | none => none
      | _, _ => none
    | none => none
  | _, _ => none

/-- Reads the entries of a map up to its closing brace.  Its keys are texts. -/
def readEntries (fuel depth : Nat) (bare : Bool) (acc : List Entry) (s : List Char) :
    Option (List Entry × List Char) :=
  match fuel, depth with
  | fuel + 1, depth + 1 =>
    match skip s with
    | some ('\x7d' :: rest) => some (acc.reverse, rest)
    | some s =>
      match depth with
      | 0 => none
      | inner + 1 =>
        match readValue fuel inner bare s with
        | some (⟨_, some (kind, key)⟩, rest) =>
          match skip rest with
          | some (':' :: rest) =>
            match skip rest with
            | none => none
            | some rest =>
              match readValue fuel inner bare rest with
              | none => none
              | some (v, rest) =>
                match readComma '\x7d' rest with
                | some rest =>
                  readEntries fuel (depth + 1) bare ((kind, key, v.document) :: acc) rest
                | none => none
          | _ => none
        | _ => none
    | none => none
  | _, _ => none

end

/-! ### Extensions -/

/-- The names of the extensions.  The one that lets the parentheses of optional values be left
out is the only one that values of any form show. -/
def extensionNames : List String :=
  ["unwrap_newtypes", "implicit_some", "unwrap_variant_newtypes", "explicit_struct_names"]

/-- What a text goes on with behind words with blanks between them. -/
def afterWords? : List String → List Char → Option (List Char)
  | [], s => some s
  | w :: ws, s => do afterWords? ws (← skip (← afterWord? w.toList s))

/-- Reads the names of extensions, each once or more often, and the comma behind each. -/
def readExtensionNames (fuel : Nat) (acc : List String) (s : List Char) :
    Option (List String × List Char) :=
  match fuel with
  | 0 => none
  | fuel + 1 => do
    let (name, rest) ← readIdentifier s
    if !extensionNames.contains name then none
    match ← skip rest with
    | ',' :: rest =>
      let rest ← skip rest
      if rest.head?.any continuesIdentifier then readExtensionNames fuel (name :: acc) rest
      else some (name :: acc, rest)
    | rest => some (name :: acc, rest)

/-- Reads what is enabled in front of a text. -/
def readExtensions (fuel : Nat) (acc : List String) (s : List Char) :
    Option (List String × List Char) :=
  match fuel, s with
  | fuel + 1, '#' :: _ => do
    let rest ← afterWords? ["#", "!", "[", "enable", "("] s
    let (acc, rest) ← readExtensionNames rest.length acc rest
    let rest ← afterWords? [")", "]"] rest
    readExtensions fuel acc rest
  | _, s => some (acc, s)

end CashMachine.Document.Ron

namespace CashMachine.Document

def ofRon? (s : String) : Option Document := do
  let (extensions, rest) ← Ron.readExtensions (s.length + 1) [] (← Ron.skip s.toList)
  let bare := extensions.contains "implicit_some"
  let (v, rest) ← Ron.readValue (4 * rest.length + 4) 128 bare rest
  let rest ← Ron.skip rest
  if rest.isEmpty then some v.document else none

end CashMachine.Document
