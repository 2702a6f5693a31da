/-
Paths into documents: `machine.id`, `accounts[0].balance`.

A path is a name, followed by names behind points and places between brackets;
a place may count from the end of its list.  Putting a value at a path makes
whatever tables and lists are missing on the way.
-/
import CashMachine.Document.Basic
import CashMachine.Document.Toml.Text

namespace CashMachine.Document

open CashMachine.Text

inductive PathStep where
  | name (key : String)
  | place (index : Int)
deriving DecidableEq, Repr

/-! ### Reading -/

def readName (s : List Char) : Option (String × List Char) :=
  let word := s.takeWhile Toml.isBare
  if word.isEmpty then none else some (String.ofList word, s.drop word.length)

/-- Reads a place of 64 bits, which blanks may surround, and its closing bracket. -/
def readPlace (s : List Char) : Option (Int × List Char) := do
  let (negative, s) : Bool × List Char :=
    match Toml.skipBlanks s with
    | '-' :: rest => (true, rest)
    | rest => (false, rest)
  let n : Int ← natOfDigits? (s.takeWhile isDigit)
  let n ← (Document.int (if negative then -n else n)).int64?
  match Toml.skipBlanks (s.dropWhile isDigit) with
  | ']' :: rest => some (n, rest)
  | _ => none

/-- Reads the steps behind the first name. -/
def readSteps (fuel : Nat) (acc : List PathStep) (s : List Char) : Option (List PathStep) :=
  match fuel, s with
  | _, [] => some acc.reverse
  | 0, _ => none
  | fuel + 1, '.' :: rest =>
    match readName rest with
    | some (key, rest) => readSteps fuel (.name key :: acc) rest
    | none => none
  | fuel + 1, '[' :: rest =>
    match readPlace rest with
    | some (n, rest) => readSteps fuel (.place n :: acc) rest
    | none => none
  | _, _ => none

def readPath? (s : String) : Option (List PathStep) := do
  let (key, rest) ← readName s.toList
  readSteps rest.length [.name key] rest

/-- The path of a key: the one it reads as, or the key itself as the only name. -/
def pathOf (key : String) : List PathStep :=
  (readPath? key).getD [.name key]

/-! ### Putting values -/

/-- The entries of a table; any other document has none. -/
def entriesOf : Document → List (String × Document)
  | .table entries => entries
  | _ => []

/-- The items of a list; any other document has none. -/
def itemsOf : Document → List Document
  | .list items => items
  | _ => []

/-- The list with an item in place of the one at an index, made longer as needed. -/
def setItem (items : List Document) (index : Nat) (d : Document) : List Document :=
  (items ++ List.replicate (index + 1 - items.length) Document.null).set index d

mutual

/-- The document with another one laid over it: tables are laid entry by entry, and
anything else takes the place of what was there. -/
def overlay (under : Document) : Document → Document
  | .table entries => .table (overlayEntries (entriesOf under) entries)
  | d => d

def overlayEntries (under : List (String × Document)) :
    List (String × Document) → List (String × Document)
  | [] => under
  | (key, d) :: rest =>
    overlayEntries (insertEntry under key (overlay ((under.lookup key).getD .null) d)) rest

end

/-- The document with a value laid at a path. -/
def put (under : Document) (path : List PathStep) (d : Document) : Document :=
  match path with
  | [] => overlay under d
  | .name key :: rest =>
    let entries := entriesOf under
    .table (insertEntry entries key (put ((entries.lookup key).getD .null) rest d))
  | .place index :: rest =>
    let items := itemsOf under
    if 0 ≤ index then
      let n := index.toNat
      .list (setItem items n (put ((items[n]?).getD .null) rest d))
    else
      let back := index.natAbs
      if back ≤ items.length then
        let n := items.length - back
        .list (setItem items n (put ((items[n]?).getD .null) rest d))
      else
        .list (put .null rest d :: List.replicate (back - items.length - 1) Document.null ++ items)

end CashMachine.Document
