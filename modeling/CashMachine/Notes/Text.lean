/-
Holdings as text: `100:2 50:1`.

A text is divided at blanks and commas; each piece is a face value and a count
with a colon between them.  The first piece that is none of these is the
error, whole if its form or its count is wrong, otherwise as the denomination
that it names.

Main statement: `read_append_sep` — a text of two parts with a separator
between them is read part by part.
-/
import CashMachine.Notes.Basic
import CashMachine.Text.Split

namespace CashMachine.Notes

open CashMachine.Text

/-- Blanks and commas divide a text of notes. -/
def isSeparator (c : Char) : Bool :=
  isBlank c || c == ','

/-- Reads one piece: a face value, a colon and a count. -/
def readEntry (piece : List Char) :
    Except UnsupportedDenomination (Denomination × Nat32) :=
  match splitAtFirst ':' piece with
  | none => .error ⟨String.ofList piece⟩
  | some (d, c) =>
    match Nat32.read? (trim c) with
    | none => .error ⟨String.ofList piece⟩
    | some count => do
      let d ← Denomination.read d
      pure (d, count)

/-- Reads all pieces, in order. -/
def readEntries (s : List Char) :
    Except UnsupportedDenomination (List (Denomination × Nat32)) :=
  (words isSeparator s).mapM readEntry

/-- Reads a text of notes; counts of one denomination add up. -/
def read (s : List Char) : Except UnsupportedDenomination Notes := do
  let entries ← readEntries s
  pure (ofList entries)

def ofText (s : String) : Except UnsupportedDenomination Notes :=
  read s.toList

theorem readEntries_append_sep (s t : List Char) {c : Char} (h : isSeparator c = true) :
    readEntries (s ++ c :: t) = (do
      let es ← readEntries s
      let fs ← readEntries t
      pure (es ++ fs)) := by
  rw [readEntries, words_append_sep isSeparator s t h, List.mapM_append]
  rfl

theorem read_append_sep (s t : List Char) {c : Char} (h : isSeparator c = true) :
    read (s ++ c :: t) = (do
      let es ← readEntries s
      let fs ← readEntries t
      pure (ofList (es ++ fs))) := by
  rw [read, readEntries_append_sep s t h]
  cases readEntries s with
  | error e => rfl
  | ok es => cases readEntries t <;> rfl

end CashMachine.Notes
