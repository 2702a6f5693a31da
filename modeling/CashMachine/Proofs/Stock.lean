/-
The reserve as it is kept: rows of notes, one byte of ink and a word of paper.

Levels come in as whole numbers of any size, are moved into their range and cut to the width in
which they are kept; paper that is added stops at the largest word.  Nothing is ever lost by the
cut: whatever is done to a reserve, the row, the byte and the word say what the reserve holds, the
byte is a percentage, and the row has no count of zero.  The saved form is written from the row
and the levels, and the reserve is read back from it.

* `Reserve.stock_ofSaved?`, `Reserve.ofSaved?_saved` — what is read, and that what is saved is read
  back;
* `Reserve.stock_change` — one change, on the reserve and on what is kept of it;
* `Reserve.stock_changed` — a row of changes, by induction;
* `Reserve.kept_in_bounds` — the bounds, the total and the saved form after any changes.
-/
import CashMachine.Proofs.Tally
import CashMachine.Reserve

namespace CashMachine

/-- What is kept of a reserve: a row of notes, a byte and a word. -/
structure Stock where
  rows : Tally
  ink : UInt8
  paper : UInt32
deriving DecidableEq, Repr

namespace Stock

def empty : Stock := ⟨[], 0, 0⟩

/-- A level moved between zero and a bound. -/
def clamp (level : Int) (bound : Nat) : Nat :=
  (max 0 (min level bound)).toNat

theorem clamp_eq (level : Int) (bound : Nat) : clamp level bound = min level.toNat bound := by
  rw [clamp]
  omega

/-- The percentage nearest to a level, cut to a byte. -/
def setInk (s : Stock) (level : Int) : Stock :=
  { s with ink := UInt8.ofNat (clamp level 100) }

/-- The number of sheets nearest to the given one, cut to a word. -/
def setPaper (s : Stock) (sheets : Int) : Stock :=
  { s with paper := UInt32.ofNat (clamp sheets 4294967295) }

def ofLevels (rows : Tally) (ink paper : Int) : Stock :=
  (({ empty with rows := rows } : Stock).setInk ink).setPaper paper

/-- Takes notes out; nothing is taken when fewer are held. -/
def remove (s : Stock) (d : Denomination) (count : Nat32) : Stock :=
  if (s.rows.get d).val < count.val then s
  else { s with rows := s.rows.set d ((s.rows.get d).sub count) }

def add (s : Stock) (d : Denomination) (count : Nat32) : Stock :=
  { s with rows := s.rows.add d count }

def addAll (s : Stock) (rows : Tally) : Stock :=
  { s with rows := s.rows.addAll rows }

/-- Takes one percent and one sheet, when there is at least one of both. -/
def consume (s : Stock) : Stock :=
  if 0 < s.ink ∧ 0 < s.paper then { s with ink := s.ink - 1, paper := s.paper - 1 } else s

def refillInk (s : Stock) : Stock :=
  s.setInk 100

/-- Puts paper in, up to the largest word. -/
def restockPaper (s : Stock) (sheets : UInt32) : Stock :=
  { s with paper :=
      if s.paper.toNat + sheets.toNat ≤ 4294967295 then s.paper + sheets else 4294967295 }

def saved (s : Stock) : Document :=
  .table [("notes", s.rows.saved), ("ink_level", .int s.ink.toNat),
    ("paper_level", .int s.paper.toNat)]

/-- What is kept of the reserve that a saved form stands for. -/
def ofSaved? (saved : Document) : Option Stock := do
  let fields ← saved.fields? Reserve.fieldNames
  let rows ← (fields.lookup "notes").elim (some []) Tally.ofSaved?
  let ink ← (fields.lookup "ink_level").elim (some 0) Document.int64?
  let paper ← (fields.lookup "paper_level").elim (some 0) Document.int64?
  some (ofLevels rows ink paper)

end Stock

namespace Reserve

/-- The changes of a reserve: it is made anew, read from a saved form, or changed in one of its
parts. -/
inductive Change where
  | make (counts : List (Denomination × Nat32)) (ink paper : Int)
  | load (saved : Document)
  | remove (d : Denomination) (count : Nat32)
  | add (d : Denomination) (count : Nat32)
  | addAll (counts : List (Denomination × Nat32))
  | consume
  | setInk (level : Int)
  | setPaper (sheets : Int)
  | refillInk
  | restockPaper (sheets : Nat32)

/-- The reserve after a change.  One that is refused leaves it as it is. -/
def change (r : Reserve) : Change → Reserve
  | .make counts ink paper => ofLevels (Notes.ofList counts) ink paper
  | .load saved => (ofSaved? saved).getD r
  | .remove d count => (r.remove d count).toOption.getD r
  | .add d count => r.add d count
  | .addAll counts => r.addAll (Notes.ofList counts)
  | .consume => r.consume
  | .setInk level => r.setInk level
  | .setPaper sheets => r.setPaper sheets
  | .refillInk => r.refillInk
  | .restockPaper sheets => r.restockPaper sheets

/-- The reserve after a row of changes. -/
def changed (r : Reserve) (cs : List Change) : Reserve :=
  cs.foldl change r

end Reserve

namespace Stock

/-- The change on what is kept. -/
def change (s : Stock) : Reserve.Change → Stock
  | .make counts ink paper => ofLevels (Tally.collect counts) ink paper
  | .load saved => (ofSaved? saved).getD s
  | .remove d count => s.remove d count
  | .add d count => s.add d count
  | .addAll counts => s.addAll (Tally.collect counts)
  | .consume => s.consume
  | .setInk level => s.setInk level
  | .setPaper sheets => s.setPaper sheets
  | .refillInk => s.refillInk
  | .restockPaper sheets => s.restockPaper (UInt32.ofNat sheets.val)

def changed (s : Stock) (cs : List Reserve.Change) : Stock :=
  cs.foldl change s

end Stock

namespace Reserve

/-- What is kept of a reserve. -/
def stock (r : Reserve) : Stock :=
  ⟨r.notes.entries, UInt8.ofNat r.ink, UInt32.ofNat r.paper.val⟩

@[simp] theorem rows_stock (r : Reserve) : r.stock.rows = r.notes.entries := rfl

@[simp] theorem toNat_ink_stock (r : Reserve) : r.stock.ink.toNat = r.ink := by
  have hle := r.ink_le
  show (UInt8.ofNat r.ink).toNat = r.ink
  rw [UInt8.toNat_ofNat']
  omega

@[simp] theorem toNat_paper_stock (r : Reserve) : r.stock.paper.toNat = r.paper.val := by
  have hle := r.paper.val_le
  show (UInt32.ofNat r.paper.val).toNat = r.paper.val
  rw [UInt32.toNat_ofNat']
  omega

end Reserve

theorem Stock.ext_toNat {s t : Stock} (hr : s.rows = t.rows) (hi : s.ink.toNat = t.ink.toNat)
    (hp : s.paper.toNat = t.paper.toNat) : s = t := by
  cases s
  cases t
  simp only [Stock.mk.injEq]
  exact ⟨hr, UInt8.toNat_inj.mp hi, UInt32.toNat_inj.mp hp⟩

namespace Reserve

/-! ### One change -/

theorem stock_setInk (r : Reserve) (level : Int) :
    (r.setInk level).stock = r.stock.setInk level := by
  rw [Stock.setInk, Stock.clamp_eq]
  rfl

theorem stock_setPaper (r : Reserve) (sheets : Int) :
    (r.setPaper sheets).stock = r.stock.setPaper sheets := by
  rw [Stock.setPaper, Stock.clamp_eq]
  rfl

theorem stock_ofLevels (notes : Notes) (ink paper : Int) :
    (ofLevels notes ink paper).stock = Stock.ofLevels notes.entries ink paper := by
  rw [ofLevels, stock_setPaper, stock_setInk]
  rfl

theorem stock_remove (r : Reserve) (d : Denomination) (count : Nat32) :
    ((r.remove d count).toOption.getD r).stock = r.stock.remove d count := by
  rw [remove, Stock.remove, rows_stock, Notes.get_entries]
  split
  · rfl
  · rw [Notes.entries_set]
    rfl

theorem stock_add (r : Reserve) (d : Denomination) (count : Nat32) :
    (r.add d count).stock = r.stock.add d count := by
  rw [Stock.add, rows_stock, Notes.entries_add]
  rfl

theorem stock_addAll (r : Reserve) (notes : Notes) :
    (r.addAll notes).stock = r.stock.addAll notes.entries := by
  rw [Stock.addAll, rows_stock, Notes.entries_addAll]
  rfl

theorem canPrint_iff_stock (r : Reserve) :
    r.canPrint = true ↔ 0 < r.stock.ink ∧ 0 < r.stock.paper := by
  rw [canPrint, Bool.and_eq_true, decide_eq_true_eq, decide_eq_true_eq, UInt8.lt_iff_toNat_lt,
    UInt32.lt_iff_toNat_lt, toNat_ink_stock, toNat_paper_stock]
  exact Iff.rfl

theorem stock_consume (r : Reserve) : r.consume.stock = r.stock.consume := by
  rw [consume, Stock.consume]
  by_cases h : r.canPrint = true
  · obtain ⟨hink, hpaper⟩ := r.canPrint_iff_stock.mp h
    have hink1 : (1 : UInt8) ≤ r.stock.ink :=
      UInt8.le_iff_toNat_le.mpr (UInt8.lt_iff_toNat_lt.mp hink)
    have hpaper1 : (1 : UInt32) ≤ r.stock.paper :=
      UInt32.le_iff_toNat_le.mpr (UInt32.lt_iff_toNat_lt.mp hpaper)
    rw [if_pos h, if_pos ⟨hink, hpaper⟩]
    refine Stock.ext_toNat rfl ?_ ?_
    · rw [toNat_ink_stock, UInt8.toNat_sub_of_le _ _ hink1, toNat_ink_stock]
      rfl
    · rw [toNat_paper_stock, UInt32.toNat_sub_of_le _ _ hpaper1, toNat_paper_stock]
      rfl
  · rw [if_neg h, if_neg (fun hs => h (r.canPrint_iff_stock.mpr hs))]

theorem stock_restockPaper (r : Reserve) (sheets : Nat32) :
    (r.restockPaper sheets).stock = r.stock.restockPaper (UInt32.ofNat sheets.val) := by
  have hsheets : (UInt32.ofNat sheets.val).toNat = sheets.val := by
    rw [UInt32.toNat_ofNat']
    exact Nat.mod_eq_of_lt (Nat.lt_succ_of_le sheets.val_le)
  refine Stock.ext_toNat rfl rfl ?_
  rw [toNat_paper_stock, Stock.restockPaper, hsheets, toNat_paper_stock, restockPaper,
    Nat32.val_add]
  split
  · rw [UInt32.toNat_add, hsheets, toNat_paper_stock]
    omega
  · show _ = 4294967295
    omega

theorem saved_stock (r : Reserve) : r.stock.saved = r.saved := by
  rw [Stock.saved, toNat_ink_stock, toNat_paper_stock]
  rfl

/-- A saved form is read field by field, and what is kept is read from the same fields. -/
theorem stock_ofSaved? (saved : Document) :
    (ofSaved? saved).map stock = Stock.ofSaved? saved := by
  rw [ofSaved?, Stock.ofSaved?]
  cases saved.fields? fieldNames with
  | none => rfl
  | some fields =>
    have hrows : ((fields.lookup "notes").elim (some Notes.empty) Notes.ofSaved?).map
        Notes.entries = (fields.lookup "notes").elim (some []) Tally.ofSaved? := by
      cases fields.lookup "notes" with
      | none => rfl
      | some d => exact Notes.entries_ofSaved? d
    simp only [Option.bind_eq_bind, Option.bind_some]
    rw [← hrows]
    cases (fields.lookup "notes").elim (some Notes.empty) Notes.ofSaved? with
    | none => rfl
    | some notes =>
      cases (fields.lookup "ink_level").elim (some 0) Document.int64? with
      | none => rfl
      | some ink =>
        cases (fields.lookup "paper_level").elim (some 0) Document.int64? with
        | none => rfl
        | some paper => exact congrArg some (stock_ofLevels notes ink paper)

/-- A change of the reserve is the change of what is kept of it. -/
theorem stock_change (r : Reserve) (c : Change) : (r.change c).stock = r.stock.change c := by
  cases c with
  | make counts ink paper =>
    rw [change, Stock.change, stock_ofLevels, Notes.entries_ofList]
  | load saved =>
    rw [change, Stock.change, ← stock_ofSaved?]
    cases ofSaved? saved <;> rfl
  | remove d count => exact r.stock_remove d count
  | add d count => exact r.stock_add d count
  | addAll counts =>
    rw [change, Stock.change, stock_addAll, Notes.entries_ofList]
  | consume => exact r.stock_consume
  | setInk level => exact r.stock_setInk level
  | setPaper sheets => exact r.stock_setPaper sheets
  | refillInk => exact r.stock_setInk 100
  | restockPaper sheets => exact r.stock_restockPaper sheets

theorem stock_changed (r : Reserve) (cs : List Change) :
    (r.changed cs).stock = r.stock.changed cs := by
  induction cs generalizing r with
  | nil => rfl
  | cons c cs ih =>
    rw [changed, List.foldl_cons, Stock.changed, List.foldl_cons, ← stock_change]
    exact ih (r.change c)

/-! ### Reading back -/

theorem int64?_natCast {n : Nat} (h : n ≤ 4294967295) :
    Document.int64? (.int n) = some (n : Int) := by
  rw [Document.int64?]
  exact if_pos (by omega)

theorem ofLevels_self (r : Reserve) : ofLevels r.notes r.ink r.paper.val = r := by
  refine ext rfl ?_ (Nat32.ext ?_)
  · exact Nat.min_eq_left r.ink_le
  · exact Nat.min_eq_left r.paper.val_le

theorem ofSaved?_saved (r : Reserve) : ofSaved? r.saved = some r := by
  have hink : r.ink ≤ 4294967295 := Nat.le_trans r.ink_le (by decide)
  have hfields : ofSaved? r.saved = (do
      let notes ← Notes.ofSaved? r.notes.saved
      let ink ← Document.int64? (.int r.ink)
      let paper ← Document.int64? (.int r.paper.val)
      some (ofLevels notes ink paper)) := rfl
  rw [hfields, Notes.ofSaved?_saved, int64?_natCast hink, int64?_natCast r.paper.val_le]
  exact congrArg some r.ofLevels_self

/-! ### After any changes -/

theorem cash_eq_sum (r : Reserve) :
    r.cash.value = ((r.notes.entries.map fun e => e.1.value * e.2.val).sum : ℕ) := by
  rw [cash, Notes.value_total, Notes.sum_entries]

/-- After any row of changes, the row, the byte and the word say what the reserve holds: the ink is
a percentage, the row has each denomination once and only with counts from one to the largest, and
the cash is the sum of face value times count.  What is saved is read back as it was, so a saved
form that is read, saved and read again is the reserve of the first reading. -/
theorem kept_in_bounds (cs : List Change) :
    let r := empty.changed cs
    let s := Stock.empty.changed cs
    (s.rows = r.notes.entries ∧ s.ink.toNat = r.ink ∧ s.paper.toNat = r.paper.val) ∧
    (s.ink.toNat ≤ 100 ∧ s.paper.toNat ≤ 4294967295) ∧
    (s.rows.Kept ∧ ∀ e ∈ s.rows, 1 ≤ e.2.val ∧ e.2.val ≤ 4294967295) ∧
    r.cash.value = ((s.rows.map fun e => e.1.value * e.2.val).sum : ℕ) ∧
    (s.saved = r.saved ∧ ofSaved? r.saved = some r ∧ Stock.ofSaved? s.saved = some s) ∧
    ∀ saved first, ofSaved? saved = some first → ofSaved? first.saved = some first := by
  intro r s
  have hs : s = r.stock := (stock_changed empty cs).symm
  have hkept : s.rows.Kept := hs ▸ r.notes.kept_entries
  refine ⟨?_, ?_, ⟨hkept, fun e he => ?_⟩, ?_, ?_, fun _ first _ => first.ofSaved?_saved⟩
  · rw [hs]
    exact ⟨rfl, r.toNat_ink_stock, r.toNat_paper_stock⟩
  · rw [hs, toNat_ink_stock, toNat_paper_stock]
    exact ⟨r.ink_le, r.paper.val_le⟩
  · exact ⟨Nat.pos_of_ne_zero (hkept.counted e he), e.2.val_le⟩
  · rw [hs]
    exact r.cash_eq_sum
  · rw [hs, saved_stock, ← stock_ofSaved?, ofSaved?_saved]
    exact ⟨rfl, rfl, rfl⟩

/-- A saved form whose levels are out of range. -/
theorem kept_in_bounds_clamped :
    let saved := Document.table [("ink_level", .int 300), ("paper_level", .int (-1))]
    let first : Reserve := ⟨Notes.empty, 100, 0, by decide⟩
    ofSaved? saved = some first ∧ ofSaved? first.saved = some first := by
  have hread : ofSaved? (.table [("ink_level", .int 300), ("paper_level", .int (-1))]) =
      some ⟨Notes.empty, 100, 0, by decide⟩ := by decide
  exact ⟨hread, (kept_in_bounds []).2.2.2.2.2 _ _ hread⟩

end Reserve

end CashMachine
