/-
What the machine holds: notes, ink (a percentage) and paper (sheets).

Levels given from outside are moved into their range.  A receipt costs one
percent of ink and one sheet.

Main statements: `shortage?_eq_none_iff` — nothing is short exactly when a
receipt can be printed; `remove_eq_ok_iff` — notes can be taken out exactly
when they are held.
-/
import CashMachine.Error
import CashMachine.Notes.Basic

namespace CashMachine

/-- The machine's notes, ink and paper. -/
structure Reserve where
  notes : Notes
  ink : Nat
  paper : Nat32
  ink_le : ink ≤ 100 := by omega
deriving DecidableEq, Repr

namespace Reserve

/-- A full cartridge. -/
def fullInk : Nat := 100

def empty : Reserve := ⟨Notes.empty, 0, 0, by decide⟩

instance : Inhabited Reserve := ⟨empty⟩

theorem ext {r s : Reserve} (hn : r.notes = s.notes) (hi : r.ink = s.ink)
    (hp : r.paper = s.paper) : r = s := by
  cases r; cases s; cases hn; cases hi; cases hp; rfl

/-- The reserve with an ink level moved into its range. -/
def setInk (r : Reserve) (level : Int) : Reserve :=
  { r with ink := min level.toNat 100, ink_le := Nat.min_le_right _ _ }

/-- The reserve with a number of sheets moved into its range. -/
def setPaper (r : Reserve) (sheets : Int) : Reserve :=
  { r with paper := Nat32.clamp sheets }

/-- A reserve of notes and of levels moved into their ranges. -/
def ofLevels (notes : Notes) (ink paper : Int) : Reserve :=
  (({ empty with notes := notes } : Reserve).setInk ink).setPaper paper

def cash (r : Reserve) : Decimal :=
  r.notes.total

def covers (r : Reserve) (amount : Decimal) : Bool :=
  amount ≤ r.cash

/-- Takes notes of one denomination out. -/
def remove (r : Reserve) (d : Denomination) (count : Nat32) : Except Error Reserve :=
  if (r.notes.get d).val < count.val then .error (.unavailable .cash)
  else .ok { r with notes := r.notes.set d ((r.notes.get d).sub count) }

/-- Puts notes of one denomination in. -/
def add (r : Reserve) (d : Denomination) (count : Nat32) : Reserve :=
  { r with notes := r.notes.add d count }

def addAll (r : Reserve) (notes : Notes) : Reserve :=
  { r with notes := r.notes.addAll notes }

/-- There is ink and paper for a receipt. -/
def canPrint (r : Reserve) : Bool :=
  0 < r.ink && 0 < r.paper.val

/-- The reserve after a receipt, if there is ink and paper for one. -/
def consume (r : Reserve) : Reserve :=
  if r.canPrint then
    { r with ink := r.ink - 1, paper := r.paper.sub 1, ink_le := by have := r.ink_le; omega }
  else r

theorem notes_consume (r : Reserve) : r.consume.notes = r.notes := by
  unfold consume
  split <;> rfl

/-- What is missing for a receipt, ink before paper. -/
def shortage? (r : Reserve) : Option Shortage :=
  if r.ink = 0 then some .ink
  else if r.paper.val = 0 then some .paper
  else none

def refillInk (r : Reserve) : Reserve :=
  r.setInk fullInk

/-- The reserve with more paper. -/
def restockPaper (r : Reserve) (sheets : Nat32) : Reserve :=
  { r with paper := r.paper.add sheets }

theorem shortage?_eq_none_iff {r : Reserve} : r.shortage? = none ↔ r.canPrint = true := by
  unfold shortage? canPrint
  by_cases h1 : r.ink = 0
  · simp [h1]
  · by_cases h2 : r.paper.val = 0
    · simp [h1, h2]
    · simp [h1, h2]
      omega

theorem remove_eq_ok_iff {r s : Reserve} {d : Denomination} {count : Nat32} :
    r.remove d count = .ok s ↔
      count.val ≤ (r.notes.get d).val ∧
        s = { r with notes := r.notes.set d ((r.notes.get d).sub count) } := by
  unfold remove
  split
  · rename_i h
    simp
    omega
  · rename_i h
    constructor
    · intro hs
      exact ⟨by omega, (Except.ok.inj hs).symm⟩
    · rintro ⟨_, rfl⟩
      rfl

/-! ### Saved form -/

def saved (r : Reserve) : Document :=
  .table [("notes", r.notes.saved), ("ink_level", .int r.ink), ("paper_level", .int r.paper.val)]

/-- The names of the saved fields, in their order. -/
def fieldNames : List String := ["notes", "ink_level", "paper_level"]

/-- The reserve that a saved form stands for.  Fields that are not there are empty,
and levels are moved into their ranges. -/
def ofSaved? (saved : Document) : Option Reserve := do
  let fields ← saved.fields? fieldNames
  let notes ← (fields.lookup "notes").elim (some Notes.empty) Notes.ofSaved?
  let ink ← (fields.lookup "ink_level").elim (some 0) Document.int64?
  let paper ← (fields.lookup "paper_level").elim (some 0) Document.int64?
  some (ofLevels notes ink paper)

end Reserve

end CashMachine
