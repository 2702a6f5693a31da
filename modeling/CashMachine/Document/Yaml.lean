/-
YAML texts: nested rows and tables, by indentation or between brackets.

A value is read from the tokens of a text.  In front of it may stand a tag and a
name that it is given, in either order; a value that is left out is null, or an
empty plain scalar behind a tag or a name.  A text holds one document.

* `readNode` — reads a value;
* `Document.ofYaml?` — reads one YAML text; an empty one is an empty table.
-/
import CashMachine.Document.Yaml.Node
import CashMachine.Document.Yaml.Tokens

namespace CashMachine.Document.Yaml

/-- What is left to be read, and what is known. -/
structure Reader where
  tokens : List Token
  /-- The names given so far, each with its value; that of an unfinished value is missing. -/
  names : Array (String × Node) := #[]
  /-- What the handles of tags stand for. -/
  handles : List (String × String) := []

namespace Reader

/-- Takes a token. -/
def skip (r : Reader) : Reader := { r with tokens := r.tokens.drop 1 }

/-- Gives a name to the value that follows, and tells its place among the names. -/
def giveName (r : Reader) (name : String) : Nat × Reader :=
  (r.names.size, { r with names := r.names.push (name, .missing) })

/-- The value that a name was given to last. -/
def named? (r : Reader) (name : String) : Option Node :=
  (r.names.toList.reverse.find? (·.1 == name)).map (·.2)

/-- The value of the name at a place, if there is one, is known. -/
def setNamed (r : Reader) (place : Option Nat) (n : Node) : Reader :=
  match place with
  | none => r
  | some i => { r with names := r.names.modify i fun e => (e.1, n) }

/-- What the handle of a tag stands for.  That of local tags, and none, stand for
themselves; any other one but that of the core schema needs a directive. -/
def handle? (r : Reader) (handle : String) : Option String :=
  match r.handles.lookup handle with
  | some meaning => some meaning
  | none =>
    if handle = "!!" then some coreHandle
    else if handle = "!" ∨ handle = "" then some handle
    else none

end Reader

/-! ### Tags and names -/

/-- What stands in front of a value: a tag, and a name, of which the place is kept. -/
structure Properties where
  tag : Option (String × String) := none
  place : Option Nat := none

/-- Nothing stands in front of the value. -/
def Properties.isEmpty (ps : Properties) : Bool :=
  ps.tag.isNone && ps.place.isNone

/-- A plain scalar behind a tag or a name. -/
def Properties.plainNode (ps : Properties) (s : String) : Node :=
  match ps.tag with
  | some (handle, rest) => taggedNode handle rest s
  | none => Yaml.plainNode s

/-- Reads a tag or a name, where there is one, that the other one may precede. -/
def readProperty (ps : Properties) (r : Reader) : Option (Properties × Reader) :=
  match r.tokens with
  | .anchor name :: _ =>
    if ps.place.isSome then some (ps, r)
    else
      let (place, r) := r.giveName name
      some ({ ps with place := some place }, r.skip)
  | .tag handle rest :: _ =>
    if ps.tag.isSome then some (ps, r)
    else (r.handle? handle).map fun handle => ({ ps with tag := some (handle, rest) }, r.skip)
  | _ => some (ps, r)

/-- Reads the tag and the name in front of a value. -/
def readProperties (r : Reader) : Option (Properties × Reader) := do
  let (ps, r) ← readProperty {} r
  readProperty ps r

/-! ### Values -/

mutual

/-- Reads a value.  It may be a block where `block` holds, and a row without a block of its own
where `loose` does. -/
def readNode (fuel : Nat) (block loose : Bool) (r : Reader) : Option (Node × Reader) :=
  match fuel with
  | 0 => none
  | fuel + 1 =>
    match r.tokens with
    | .reference name :: _ => (r.named? name).map (·, r.skip)
    | _ =>
      match readProperties r with
      | none => none
      | some (ps, r) =>
        (readContent fuel block loose ps r).map fun (n, r) => (n, r.setNamed ps.place n)

/-- Reads a value behind its tag and its name. -/
def readContent (fuel : Nat) (block loose : Bool) (ps : Properties) (r : Reader) :
    Option (Node × Reader) :=
  match fuel with
  | 0 => none
  | fuel + 1 =>
    let left := if ps.isEmpty then none else some (ps.plainNode "", r)
    match r.tokens with
    | .item :: _ => if loose then readLooseItems fuel [] r else left
    | .scalar plain s :: _ => some (if plain then ps.plainNode s else .text s, r.skip)
    | .flowRow :: _ => readFlowItems fuel true [] r.skip
    | .flowTable :: _ => readFlowEntries fuel true [] r.skip
    | .blockRow :: _ => if block then readItems fuel [] r.skip else left
    | .blockTable :: _ => if block then readEntries fuel [] r.skip else left
    | _ => left

/-- Reads the items of a row that has no block of its own. -/
def readLooseItems (fuel : Nat) (acc : List Node) (r : Reader) : Option (Node × Reader) :=
  match fuel with
  | 0 => none
  | fuel + 1 =>
    match r.tokens with
    | .item :: .item :: _ => readLooseItems fuel (.null :: acc) r.skip
    | .item :: .key :: _ => some (.list (.null :: acc).reverse, r.skip)
    | .item :: .value :: _ => some (.list (.null :: acc).reverse, r.skip)
    | .item :: .blockEnd :: _ => some (.list (.null :: acc).reverse, r.skip)
    | .item :: _ =>
      match readNode fuel true false r.skip with
      | some (n, r) => readLooseItems fuel (n :: acc) r
      | none => none
    | _ => some (.list acc.reverse, r)

/-- Reads the items of a row up to the end of its block. -/
def readItems (fuel : Nat) (acc : List Node) (r : Reader) : Option (Node × Reader) :=
  match fuel with
  | 0 => none
  | fuel + 1 =>
    match r.tokens with
    | .blockEnd :: _ => some (.list acc.reverse, r.skip)
    | .item :: .item :: _ => readItems fuel (.null :: acc) r.skip
    | .item :: .blockEnd :: _ => readItems fuel (.null :: acc) r.skip
    | .item :: _ =>
      match readNode fuel true false r.skip with
      | some (n, r) => readItems fuel (n :: acc) r
      | none => none
    | _ => none

/-- Reads a key or a value of a table, which is null if it is left out. -/
def readPart (fuel : Nat) (r : Reader) : Option (Node × Reader) :=
  match fuel with
  | 0 => none
  | fuel + 1 =>
    match r.tokens with
    | .key :: _ => some (.null, r)
    | .value :: _ => some (.null, r)
    | .blockEnd :: _ => some (.null, r)
    | _ => readNode fuel true true r

/-- Reads the entries of a table up to the end of its block; `acc` holds the keys and the
values so far, last one first. -/
def readEntries (fuel : Nat) (acc : List Node) (r : Reader) : Option (Node × Reader) :=
  match fuel with
  | 0 => none
  | fuel + 1 =>
    match r.tokens with
    | .blockEnd :: _ => (entries? acc.reverse).map fun es => (.table es, r.skip)
    | .key :: _ =>
      match readPart fuel r.skip with
      | some (k, r) => readEntryValue fuel (k :: acc) r
      | none => none
    | .value :: _ => readEntryValue fuel (.null :: acc) r
    | _ => none

/-- Reads the value of an entry, and the entries behind it. -/
def readEntryValue (fuel : Nat) (acc : List Node) (r : Reader) : Option (Node × Reader) :=
  match fuel with
  | 0 => none
  | fuel + 1 =>
    match r.tokens with
    | .value :: _ =>
      match readPart fuel r.skip with
      | some (v, r) => readEntries fuel (v :: acc) r
      | none => none
    | _ => readEntries fuel (.null :: acc) r

/-- Reads the items of a row up to its closing bracket. -/
def readFlowItems (fuel : Nat) (first : Bool) (acc : List Node) (r : Reader) :
    Option (Node × Reader) :=
  match fuel with
  | 0 => none
  | fuel + 1 =>
    let next : Option Reader :=
      match r.tokens with
      | .flowRowEnd :: _ => some r
      | .comma :: _ => some (if first then r else r.skip)
      | _ => if first then some r else none
    match next with
    | none => none
    | some r =>
      match r.tokens with
      | .flowRowEnd :: _ => some (.list acc.reverse, r.skip)
      | .key :: _ =>
        match readSingleEntry fuel r.skip with
        | some (n, r) => readFlowItems fuel false (n :: acc) r
        | none => none
      | _ =>
        match readNode fuel false false r with
        | some (n, r) => readFlowItems fuel false (n :: acc) r
        | none => none

/-- Reads an item that is a table of one entry without brackets. -/
def readSingleEntry (fuel : Nat) (r : Reader) : Option (Node × Reader) :=
  match fuel with
  | 0 => none
  | fuel + 1 =>
    let key : Option (Node × Reader) :=
      match r.tokens with
      | .value :: _ => some (.null, r.skip)
      | .comma :: _ => some (.null, r.skip)
      | .flowRowEnd :: _ => some (.null, r.skip)
      | _ => readNode fuel false false r
    match key with
    | none => none
    | some (k, r) =>
      let value : Option (Node × Reader) :=
        match r.tokens with
        | .value :: .comma :: _ => some (.null, r.skip)
        | .value :: .flowRowEnd :: _ => some (.null, r.skip)
        | .value :: _ => readNode fuel false false r.skip
        | _ => some (.null, r)
      match value with
      | none => none
      | some (v, r) => (entries? [k, v]).map fun es => (.table es, r)

/-- Reads the entries of a table up to its closing brace.  A key that is not marked as one has no
value. -/
def readFlowEntries (fuel : Nat) (first : Bool) (acc : List Node) (r : Reader) :
    Option (Node × Reader) :=
  match fuel with
  | 0 => none
  | fuel + 1 =>
    let next : Option Reader :=
      match r.tokens with
      | .flowTableEnd :: _ => some r
      | .comma :: _ => some (if first then r else r.skip)
      | _ => if first then some r else none
    match next with
    | none => none
    | some r =>
      match r.tokens with
      | .flowTableEnd :: _ => (entries? acc.reverse).map fun es => (.table es, r.skip)
      | .value :: _ => readFlowValue fuel (.null :: acc) r
      | .key :: .value :: _ => readFlowValue fuel (.null :: acc) r.skip
      | .key :: .comma :: _ => readFlowValue fuel (.null :: acc) r.skip
      | .key :: .flowTableEnd :: _ => readFlowValue fuel (.null :: acc) r.skip
      | .key :: _ =>
        match readNode fuel false false r.skip with
        | some (k, r) => readFlowValue fuel (k :: acc) r
        | none => none
      | _ =>
        match readNode fuel false false r with
        | some (k, r) => readFlowEntries fuel false (.null :: k :: acc) r
        | none => none

/-- Reads the value of an entry between braces, and the entries behind it. -/
def readFlowValue (fuel : Nat) (acc : List Node) (r : Reader) : Option (Node × Reader) :=
  match fuel with
  | 0 => none
  | fuel + 1 =>
    match r.tokens with
    | .value :: .comma :: _ => readFlowEntries fuel false (.null :: acc) r.skip
    | .value :: .flowTableEnd :: _ => readFlowEntries fuel false (.null :: acc) r.skip
    | .value :: _ =>
      match readNode fuel false false r.skip with
      | some (v, r) => readFlowEntries fuel false (v :: acc) r
      | none => none
    | _ => readFlowEntries fuel false (.null :: acc) r

end

/-! ### Documents -/

/-- Reads the directives in front of a document; at most one tells a version.  Only the last of
them counts. -/
def readDirectives (versioned : Bool) (handles : List (String × String)) :
    List Token → Option (List (String × String) × List Token)
  | .version :: ts => if versioned then none else readDirectives true [] ts
  | .meaning handle beginning :: ts => readDirectives versioned [(handle, beginning)] ts
  | ts => some (handles, ts)

/-- The token is a mark of the end of a document. -/
def isDocumentEnd (t : Token) : Bool :=
  t == .documentEnd

/-- The place where a document starts, behind its directives and its mark if it has them. -/
def startDocument? (ts : List Token) : Option Reader :=
  match readDirectives false [] ts with
  | none => none
  | some (handles, .documentStart :: rest) => some { tokens := rest, handles }
  | some (_, rest) => if rest.length = ts.length then some { tokens := ts } else none

/-- Reads the one document among tokens; there may be none. -/
def documentOfTokens? (ts : List Token) : Option Document := do
  let ts := ts.dropWhile isDocumentEnd
  if ts.isEmpty then some (.table [])
  else
    let (n, r) ← readNode (4 * ts.length + 4) true false (← startDocument? ts)
    if r.tokens.all isDocumentEnd then n.document? else none

end CashMachine.Document.Yaml

namespace CashMachine.Document

/-- Reads one YAML text.  A NUL character ends it. -/
def ofYaml? (s : String) : Option Document := do
  let text := s.toList.takeWhile (· != Char.ofNat 0)
  Yaml.documentOfTokens? (← Yaml.tokensOf? (Yaml.unifyLineEnds text))

end CashMachine.Document
