/-
Documents: the trees that JSON and TOML texts hold, and the form in which
records are saved.

A table keeps its entries in the order in which they were written; of two
entries with one key the later one counts (`Document.ofEntries`).
-/
import CashMachine.Document.Binary64

namespace CashMachine

/-- A tree of values. -/
inductive Document where
  | null
  | bool (b : Bool)
  | int (n : Int)
  | real (x : Binary64)
  | text (s : String)
  | list (items : List Document)
  | table (entries : List (String × Document))
deriving Repr, BEq

namespace Document

instance : Inhabited Document := ⟨.null⟩

/-- The entries with one more; an entry of the same key is replaced where it stands. -/
def insertEntry (entries : List (String × Document)) (key : String) (value : Document) :
    List (String × Document) :=
  match entries with
  | [] => [(key, value)]
  | (k, v) :: rest =>
    if k = key then (key, value) :: rest else (k, v) :: insertEntry rest key value

/-- A table of the given entries, the last of each key. -/
def ofEntries (entries : List (String × Document)) : Document :=
  .table (entries.foldl (fun t e => insertEntry t e.1 e.2) [])

/-- The entry of a table under a key. -/
def get? (key : String) : Document → Option Document
  | .table entries => entries.lookup key
  | _ => none

/-- The fields of a record with the given field names: the entries of a table, or the
items of a list, one for each name as far as the list goes. -/
def fields? (names : List String) : Document → Option (List (String × Document))
  | .table entries => some entries
  | .list items => if items.length ≤ names.length then some (names.zip items) else none
  | _ => none

/-- The text that a document is. -/
def text? : Document → Option String
  | .text s => some s
  | _ => none

/-- The word that chooses one of several: a text, or the only key of a table that holds
nothing under it. -/
def choice? : Document → Option String
  | .text s => some s
  | .table [(key, .null)] => some key
  | _ => none

/-- The whole number of 64 bits that a document is. -/
def int64? : Document → Option Int
  | .int n => if -9223372036854775808 ≤ n ∧ n ≤ 9223372036854775807 then some n else none
  | _ => none

theorem lookup_insertEntry_self (entries : List (String × Document)) (key : String)
    (value : Document) : (insertEntry entries key value).lookup key = some value := by
  induction entries with
  | nil => simp [insertEntry]
  | cons e rest ih =>
    obtain ⟨k, v⟩ := e
    by_cases h : k = key
    · simp [insertEntry, h]
    · have : (key == k) = false := by simp [Ne.symm h]
      simp [insertEntry, h, List.lookup_cons, this, ih]

theorem lookup_insertEntry_of_ne (entries : List (String × Document)) {key other : String}
    (value : Document) (h : other ≠ key) :
    (insertEntry entries key value).lookup other = entries.lookup other := by
  induction entries with
  | nil =>
    have : (other == key) = false := by simp [h]
    simp [insertEntry, List.lookup_cons, this]
  | cons e rest ih =>
    obtain ⟨k, v⟩ := e
    by_cases hk : k = key
    · subst hk
      have : (other == k) = false := by simp [h]
      simp [insertEntry, List.lookup_cons, this]
    · by_cases ho : other = k
      · simp [insertEntry, hk, ho]
      · have : (other == k) = false := by simp [ho]
        simp [insertEntry, hk, List.lookup_cons, this, ih]

end Document

end CashMachine
