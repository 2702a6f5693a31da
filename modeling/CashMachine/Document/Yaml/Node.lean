/-
The values of YAML texts before they become documents.

A key may be any value here, and a value may be missing: a plain scalar that does
not fit its tag is, and so is a name inside the very value that it is given to.

* `plainNode` — what a plain scalar without a tag stands for;
* `taggedNode` — what it stands for with one;
* `entries?` — the entries of a table, from its keys and values in turn;
* `Node.document?` — the document that a value is.
-/
import CashMachine.Document.Basic
import CashMachine.Document.Json

namespace CashMachine.Document.Yaml

open CashMachine.Text

/-- A value. -/
inductive Node where
  | missing
  | null
  | bool (b : Bool)
  | int (n : Int)
  /-- A number with a point or an exponent, as it is written. -/
  | real (written : String)
  | text (s : String)
  | list (items : List Node)
  | table (entries : List (Node × Node))
deriving Repr, BEq

/-! ### Plain scalars -/

/-- The number of 64 bits that digits with an optional sign stand for. -/
def int64OfDigits? (s : List Char) : Option Int := do
  let n ← intOfDigits? s
  (Document.int n).int64?

/-- The number of 64 bits that digits of a base up to sixteen stand for, with an optional sign. -/
def int64OfBase? (base : Nat) (s : List Char) : Option Int := do
  let (negative, ds) : Bool × List Char :=
    match s with
    | '-' :: ds => (true, ds)
    | '+' :: ds => (false, ds)
    | ds => (false, ds)
  if ds.isEmpty then none
  let n ← ds.foldlM (fun n c => (hexDigit? c).bind fun d =>
    if d < base then some (base * n + d) else none) 0
  (Document.int (if negative then -(n : Int) else n)).int64?

/-- A whole number of 64 bits: in decimal digits, with a plus sign in front of the number, or in
digits of base sixteen or eight. -/
def plainInt? (s : List Char) : Option Int :=
  match s with
  | '0' :: 'x' :: ds => int64OfBase? 16 ds
  | '0' :: 'o' :: ds => int64OfBase? 8 ds
  | '+' :: n => int64OfDigits? n
  | n => int64OfDigits? n

/-- The words for infinities and for no number. -/
def extremeWords : List String :=
  [".inf", ".Inf", ".INF", "+.inf", "+.Inf", "+.INF", "-.inf", "-.Inf", "-.INF",
    ".nan", ".NaN", ".NAN"]

/-- The text is a number with a point or an exponent, or one of the words. -/
def isReal (s : String) : Bool :=
  extremeWords.contains s || (s.toList.any isDigit && (Binary64.read? s.toList).isSome)

def boolOfWord? (s : String) : Option Bool :=
  if ["true", "True", "TRUE"].contains s then some true
  else if ["false", "False", "FALSE"].contains s then some false
  else none

/-- What a plain scalar stands for. -/
def plainNode (s : String) : Node :=
  match plainInt? s.toList with
  | some n => .int n
  | none =>
    match boolOfWord? s with
    | some b => .bool b
    | none =>
      if ["", "~", "null"].contains s then .null
      else if isReal s then .real s
      else .text s

/-- The handle that the tags of the core schema have. -/
def coreHandle : String := "tag:yaml.org,2002:"

/-- What a plain scalar with a tag stands for.  One that does not fit a tag of the core
schema is missing; with any other tag it is a text. -/
def taggedNode (handle rest s : String) : Node :=
  if handle ≠ coreHandle then .text s
  else if rest = "bool" then ((boolOfWord? s).map Node.bool).getD .missing
  else if rest = "int" then ((int64OfDigits? s.toList).map Node.int).getD .missing
  else if rest = "float" then if isReal s then .real s else .missing
  else if rest = "null" then if ["~", "null"].contains s then .null else .missing
  else .text s

/-! ### Tables -/

/-- The entries of a table in front of those read so far, which stand last one first.  A missing key
is passed over, so that its value is taken for a key; a key without a value at the end
says nothing.  No key comes twice. -/
def entriesOnto? (es : List (Node × Node)) : List Node → Option (List (Node × Node))
  | [] => some es.reverse
  | .missing :: ns => entriesOnto? es ns
  | [_] => some es.reverse
  | k :: v :: ns => if es.any (·.1 == k) then none else entriesOnto? ((k, v) :: es) ns

/-- The entries of a table from its keys and values in turn. -/
def entries? (ns : List Node) : Option (List (Node × Node)) :=
  entriesOnto? [] ns

/-! ### Documents -/

/-- The text of a key, if the key is a scalar other than null. -/
def Node.keyText? : Node → Option String
  | .text s => some s
  | .int n => some (ofInt n)
  | .bool b => some (if b then "true" else "false")
  | .real t => some t
  | _ => none

mutual

/-- The document that a value is.  Only scalars are keys, and no number is beyond all
others or none. -/
def Node.document? : Node → Option Document
  | .missing => some .null
  | .null => some .null
  | .bool b => some (.bool b)
  | .int n => some (.int n)
  | .real t => (Binary64.read? t.toList).map .real
  | .text s => some (.text s)
  | .list ns => (documents? ns).map .list
  | .table es => (tableEntries? es).map ofEntries

/-- The documents that values are. -/
def documents? : List Node → Option (List Document)
  | [] => some []
  | n :: ns => do
    let d ← n.document?
    let ds ← documents? ns
    some (d :: ds)

/-- The entries of a document from those of a table. -/
def tableEntries? : List (Node × Node) → Option (List (String × Document))
  | [] => some []
  | (k, v) :: es => do
    let key ← k.keyText?
    let d ← v.document?
    let rest ← tableEntries? es
    some ((key, d) :: rest)

end

end CashMachine.Document.Yaml
