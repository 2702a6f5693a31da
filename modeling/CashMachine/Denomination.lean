/-
The four notes that the machine holds and dispenses.

* `Denomination.value` — the face value;
* `Denomination.read?` — the note a text names: a number between blanks.

Main statements: `ofValue?_value` — a note is found by its face value;
`mem_descending` — the order of dispensing names every note.
-/
import CashMachine.Text.Blank
import CashMachine.Nat32
import CashMachine.Document.Basic

namespace CashMachine

/-- A note, named by its face value. -/
inductive Denomination where
  | ten
  | twenty
  | fifty
  | hundred
deriving DecidableEq, Repr, Inhabited

/-- A text that names no note. -/
structure UnsupportedDenomination where
  text : String
deriving DecidableEq, Repr

def UnsupportedDenomination.message (e : UnsupportedDenomination) : String :=
  "unsupported denomination: " ++ e.text

namespace Denomination

def value : Denomination → Nat
  | ten => 10
  | twenty => 20
  | fifty => 50
  | hundred => 100

/-- All notes, the largest first: the order of dispensing. -/
def descending : List Denomination := [hundred, fifty, twenty, ten]

/-- All notes, the smallest first: the order of listing. -/
def ascending : List Denomination := [ten, twenty, fifty, hundred]

def smallest : Denomination := ten

theorem mem_descending (d : Denomination) : d ∈ descending := by
  cases d <;> decide

theorem mem_ascending (d : Denomination) : d ∈ ascending := by
  cases d <;> decide

theorem value_pos (d : Denomination) : 0 < d.value := by
  cases d <;> decide

theorem value_injective {d e : Denomination} (h : d.value = e.value) : d = e := by
  cases d <;> cases e <;> first | rfl | (revert h; decide)

/-- How many notes are smaller. -/
def rank (d : Denomination) : Nat :=
  (ascending.filter fun e => e.value < d.value).length

def ofValue? (n : Nat) : Option Denomination :=
  ascending.find? fun d => d.value = n

theorem ofValue?_value (d : Denomination) : ofValue? d.value = some d := by
  cases d <;> decide

/-- The note with a face value, or the value as a text that names none. -/
def ofValue (n : Nat) : Except UnsupportedDenomination Denomination :=
  match ofValue? n with
  | some d => .ok d
  | none => .error ⟨Text.ofNat n⟩

/-- Reads a face value with blanks around it. -/
def read (s : List Char) : Except UnsupportedDenomination Denomination :=
  match Nat32.read? (Text.trim s) with
  | some n => ofValue n.val
  | none => .error ⟨String.ofList s⟩

def text (d : Denomination) : String :=
  Text.ofNat d.value

def saved (d : Denomination) : Document :=
  .int d.value

/-- The note that a saved form stands for. -/
def ofSaved? : Document → Option Denomination
  | .int n => if 0 ≤ n then ofValue? n.toNat else none
  | _ => none

theorem ofSaved?_saved (d : Denomination) : ofSaved? d.saved = some d := by
  cases d <;> decide

end Denomination

end CashMachine
