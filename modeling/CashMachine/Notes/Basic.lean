/-
Holdings of notes: how many there are of each.

A holding is its four counts, so that two holdings with the same counts are
the same holding, and a note of which there is none is not listed
(`Notes.entries`).  Counts that are added up stop at the largest one.

Main statements: `get_set_self`, `get_set_of_ne`, `get_add_self`,
`get_add_of_ne` — what each change does to the counts; `ext` — a holding is its
counts.
-/
import CashMachine.Denomination
import CashMachine.Decimal.Basic

namespace CashMachine

structure Notes where
  tens : Nat32
  twenties : Nat32
  fifties : Nat32
  hundreds : Nat32
deriving DecidableEq, Repr

namespace Notes

def empty : Notes := ⟨0, 0, 0, 0⟩

instance : Inhabited Notes := ⟨empty⟩

def get (n : Notes) : Denomination → Nat32
  | .ten => n.tens
  | .twenty => n.twenties
  | .fifty => n.fifties
  | .hundred => n.hundreds

/-- The holding with another count of one denomination. -/
def set (n : Notes) (d : Denomination) (count : Nat32) : Notes :=
  match d with
  | .ten => { n with tens := count }
  | .twenty => { n with twenties := count }
  | .fifty => { n with fifties := count }
  | .hundred => { n with hundreds := count }

/-- The holding with more notes of one denomination. -/
def add (n : Notes) (d : Denomination) (count : Nat32) : Notes :=
  n.set d ((n.get d).add count)

theorem ext {m n : Notes} (h : ∀ d, m.get d = n.get d) : m = n := by
  obtain ⟨a, b, c, d⟩ := m
  obtain ⟨a', b', c', d'⟩ := n
  have h1 : a = a' := h .ten
  have h2 : b = b' := h .twenty
  have h3 : c = c' := h .fifty
  have h4 : d = d' := h .hundred
  rw [h1, h2, h3, h4]

@[simp] theorem get_empty (d : Denomination) : empty.get d = 0 := by
  cases d <;> rfl

@[simp] theorem get_set_self (n : Notes) (d : Denomination) (c : Nat32) :
    (n.set d c).get d = c := by
  cases d <;> rfl

theorem get_set_of_ne (n : Notes) {d e : Denomination} (c : Nat32) (h : e ≠ d) :
    (n.set d c).get e = n.get e := by
  cases d <;> cases e <;> first | rfl | exact absurd rfl h

@[simp] theorem get_add_self (n : Notes) (d : Denomination) (c : Nat32) :
    (n.add d c).get d = (n.get d).add c := by
  simp [add]

theorem get_add_of_ne (n : Notes) {d e : Denomination} (c : Nat32) (h : e ≠ d) :
    (n.add d c).get e = n.get e :=
  get_set_of_ne n _ h

/-! ### Views -/

/-- The denominations held, the smallest first, with their counts. -/
def entries (n : Notes) : List (Denomination × Nat32) :=
  (Denomination.ascending.map fun d => (d, n.get d)).filter fun e => e.2.val ≠ 0

/-- The sum of face value times count. -/
def value (n : Notes) : Nat :=
  Denomination.ascending.foldr (fun d sum => d.value * (n.get d).val + sum) 0

def noteCount (n : Notes) : Nat :=
  Denomination.ascending.foldr (fun d sum => (n.get d).val + sum) 0

/-- The number of denominations held. -/
def size (n : Notes) : Nat :=
  n.entries.length

def isEmpty (n : Notes) : Bool :=
  n.entries.isEmpty

theorem value_le (n : Notes) : n.value ≤ Decimal.maxCoefficient := by
  have h1 := n.tens.val_le
  have h2 := n.twenties.val_le
  have h3 := n.fifties.val_le
  have h4 := n.hundreds.val_le
  simp only [value, Denomination.ascending, List.foldr_cons, List.foldr_nil,
    Denomination.value, get, Decimal.maxCoefficient]
  omega

/-- The sum of face value times count, as an amount. -/
def total (n : Notes) : Decimal :=
  Decimal.ofNat n.value n.value_le

@[simp] theorem total_scale (n : Notes) : n.total.scale = 0 := rfl

/-! ### Whole holdings -/

/-- The holding with every note of another one added. -/
def addAll (n m : Notes) : Notes :=
  m.entries.foldl (fun n e => n.add e.1 e.2) n

/-- The holding of a row of counts, which add up. -/
def ofList (entries : List (Denomination × Nat32)) : Notes :=
  entries.foldl (fun n e => n.add e.1 e.2) empty

/-- Every count is at most the one of another holding. -/
def within (n available : Notes) : Bool :=
  n.entries.all fun e => e.2.val ≤ (available.get e.1).val

/-! ### Saved form -/

/-- The holding in saved form: a table from face values to counts. -/
def saved (n : Notes) : Document :=
  .table (n.entries.map fun e => (e.1.text, .int e.2.val))

/-- The note that a key of a saved holding names: its face value and nothing else. -/
def keyDenomination? (key : String) : Option Denomination :=
  Denomination.ascending.find? fun d => d.text = key

/-- The count that a saved holding gives. -/
def savedCount? : Document → Option Nat32
  | .int n => if 0 ≤ n then Nat32.ofNat? n.toNat else none
  | _ => none

def ofSaved? : Document → Option Notes
  | .table entries => do
    let counts ← entries.mapM fun e => do
      let d ← keyDenomination? e.1
      let c ← savedCount? e.2
      some (d, c)
    some (ofList counts)
  | _ => none

end Notes

end CashMachine
