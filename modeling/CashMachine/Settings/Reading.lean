/-
Settings from documents.

A document may leave out any field and may have others; what it has must be of
the right kind.  What counts as the right kind is a convention: under the
strict one (`Conventions.strict`) texts are texts and numbers are whole
numbers; under the lenient one (`Conventions.lenient`) one stands for the other
where it has the form of it.
-/
import CashMachine.Settings.Basic
import CashMachine.Text.Lower

namespace CashMachine

/-- How the values of a document are taken. -/
structure Conventions where
  text? : Document → Option String
  int? : Document → Option Int
  count? : Document → Option Nat32
  /-- The word that chooses one of several. -/
  choice? : Document → Option String
  /-- The fields of a record with the given names. -/
  fields? : List String → Document → Option (List (String × Document))

namespace Conventions

/-- A count: a whole number of the type. -/
def strictCount? : Document → Option Nat32
  | .int n => if 0 ≤ n then Nat32.ofNat? n.toNat else none
  | _ => none

/-- Every value is of its own kind. -/
def strict : Conventions where
  text? := Document.text?
  int? := Document.int64?
  count? := strictCount?
  choice? := Document.choice?
  fields? := Document.fields?

/-! ### Lenient conversions -/

/-- The least and the greatest whole number of 64 bits. -/
def int64Bounds : Int × Int := (-9223372036854775808, 9223372036854775807)

/-- The number of natural numbers of 64 bits. -/
def nat64Count : Nat := 18446744073709551616

/-- A truth value by any of its names. -/
def truthWord? (s : String) : Option Bool :=
  let w := Text.lower s
  if w = "true" ∨ w = "on" ∨ w = "yes" then some true
  else if w = "false" ∨ w = "off" ∨ w = "no" then some false
  else none

/-- The text that a scalar stands for. -/
def scalarText? : Document → Option String
  | .text s => some s
  | .bool b => some (if b then "true" else "false")
  | .int n => some (Text.ofInt n)
  | .real x => some x.text
  | _ => none

/-- The whole number of 64 bits that a scalar stands for: a binary number is rounded,
and kept within bounds. -/
def scalarInt? : Document → Option Int
  | .int n => (Document.int n).int64?
  | .bool b => some (if b then 1 else 0)
  | .real x => some (x.nearestIntWithin int64Bounds.1 int64Bounds.2)
  | .text s =>
    match truthWord? s with
    | some b => some (if b then 1 else 0)
    | none => (Text.intOfDigits? s.toList).bind fun n => (Document.int n).int64?
  | _ => none

/-- Reads an optional `+`, then digits, the value below 2⁶⁴. -/
def nat64? (s : List Char) : Option Nat :=
  let digits := match s with
    | '+' :: s => s
    | s => s
  (Text.natOfDigits? digits).bind fun n => if n < nat64Count then some n else none

/-- The natural number of 64 bits that a scalar stands for. -/
def scalarNat? : Document → Option Nat
  | .int n => if 0 ≤ n then some n.toNat else none
  | .bool b => some (if b then 1 else 0)
  | .real x => some (x.nearestIntWithin 0 (nat64Count - 1)).toNat
  | .text s =>
    match truthWord? s with
    | some b => some (if b then 1 else 0)
    | none => nat64? s.toList
  | _ => none

/-- The word that chooses one of several: a text, or the only key of a table, whatever
stands under it. -/
def word? : Document → Option String
  | .text s => some s
  | .table [(key, _)] => some key
  | _ => none

/-- The fields of a record: the entries of a table, or the items of a list by their
places. -/
def placedFields? (names : List String) : Document → Option (List (String × Document))
  | .table entries => some entries
  | .list items => some (names.zip items)
  | _ => none

/-- One kind stands for another where it has its form. -/
def lenient : Conventions where
  text? := scalarText?
  int? := scalarInt?
  count? d := (scalarNat? d).bind Nat32.ofNat?
  choice? := word?
  fields? := placedFields?

/-! ### Reading -/

/-- A field, or its default where there is none. -/
def fieldOr {α : Type} (fields : List (String × Document)) (name : String)
    (read : Document → Option α) (default : α) : Option α :=
  match fields.lookup name with
  | none => some default
  | some d => read d

/-- Reads an account; all of its fields are needed. -/
def readAccount (c : Conventions) (d : Document) : Option Account := do
  let fields ← c.fields? Account.fieldNames d
  let id ← c.text? (← fields.lookup "account")
  let owner ← c.text? (← fields.lookup "owner")
  let kind ← AccountKind.ofText? (← c.choice? (← fields.lookup "kind"))
  let balance ← Decimal.read? (← c.text? (← fields.lookup "balance"))
  some ⟨id, owner, kind, balance⟩

def readAccounts (c : Conventions) : Document → Option (List Account)
  | .list items => items.mapM c.readAccount
  | _ => none

/-- Reads the counts of notes, in the order of their keys. -/
def readNotes (c : Conventions) : Document → Option (List (String × Nat32))
  | .table entries => do
    let counts ← entries.mapM fun e => do
      let n ← c.count? e.2
      some (e.1, n)
    some (counts.mergeSort fun a b => a.1 ≤ b.1)
  | _ => none

def machineNames : List String := ["id", "software_version", "log_level"]

def reserveNames : List String := ["notes", "ink_level", "paper_level"]

def partNames : List String := ["machine", "reserve", "accounts"]

/-- Reads the part about the machine into settings. -/
def readMachine (c : Conventions) (s : Settings) (d : Document) : Option Settings := do
  let fields ← c.fields? machineNames d
  let machineId ← fieldOr fields "id" c.text? s.machineId
  let softwareVersion ← fieldOr fields "software_version" c.text? s.softwareVersion
  let logLevel ← fieldOr fields "log_level" c.text? s.logLevel
  some { s with machineId, softwareVersion, logLevel }

/-- Reads the part about the reserve into settings. -/
def readReserve (c : Conventions) (s : Settings) (d : Document) : Option Settings := do
  let fields ← c.fields? reserveNames d
  let notes ← fieldOr fields "notes" c.readNotes s.notes
  let inkLevel ← fieldOr fields "ink_level" c.int? s.inkLevel
  let paperLevel ← fieldOr fields "paper_level" c.int? s.paperLevel
  some { s with notes, inkLevel, paperLevel }

def readSettings (c : Conventions) (d : Document) : Option Settings := do
  let fields ← c.fields? partNames d
  let s ← fieldOr fields "machine" (c.readMachine {}) {}
  let s ← fieldOr fields "reserve" (c.readReserve s) s
  let accounts ← fieldOr fields "accounts" c.readAccounts s.accounts
  some { s with accounts }

end Conventions

/-- The settings that a document stands for, every value being of its own kind. -/
def Settings.ofDocument? (d : Document) : Option Settings :=
  Conventions.strict.readSettings d

end CashMachine
