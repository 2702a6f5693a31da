/-
How the lines of a TOML text build up one table.

A header opens a table or adds one to a row of tables; a line with a key puts a
value under it.  A table may be opened once, and then no longer key extends it;
one that a longer key has made may be extended by such keys only, and a value
that stands in a line is closed.
-/
import CashMachine.Document.Basic

namespace CashMachine.Document.Toml

/-- How a table came about. -/
inductive Origin where
  /-- By a header of a table inside it. -/
  | implied
  /-- By a key with several parts. -/
  | dotted
  /-- By its own header. -/
  | opened
deriving DecidableEq, Repr

/-- What stands under a key while a text is read. -/
inductive Node where
  | value (d : Document)
  | table (origin : Origin) (entries : List (String × Node))
  /-- Tables that were added one by one; lines go to the last. -/
  | rows (tables : List (List (String × Node)))
deriving Repr

/-- The entries of a table while a text is read. -/
abbrev Section := List (String × Node)

namespace Section

/-- The entries with another node under a key. -/
def put (t : Section) (key : String) (n : Node) : Section :=
  match t with
  | [] => [(key, n)]
  | (k, m) :: rest => if k = key then (key, n) :: rest else (k, m) :: put rest key n

/-- Puts a value under a key of one or more parts.  The parts on the way may extend the
last of a row of tables by further tables, but not by the value itself. -/
def insert (t : Section) (d : Document) : List String → Option Section
  | [] => none
  | [key] =>
    match t.lookup key with
    | none => some (t ++ [(key, .value d)])
    | some _ => none
  | key :: rest =>
    match t.lookup key with
    | none => (insert [] d rest).map fun inner => t ++ [(key, .table .dotted inner)]
    | some (.table .opened _) => none
    | some (.table origin inner) =>
      (insert inner d rest).map fun inner => put t key (.table origin inner)
    | some (.rows tables) =>
      match rest, tables.reverse with
      | _ :: _ :: _, last :: before =>
        (insert last d rest).map fun last => put t key (.rows (last :: before).reverse)
      | _, _ => none
    | some (.value _) => none

/-- Opens the table of a header. -/
def openTable (t : Section) : List String → Option Section
  | [] => none
  | [key] =>
    match t.lookup key with
    | none => some (t ++ [(key, .table .opened [])])
    | some (.table .implied inner) => some (put t key (.table .opened inner))
    | some _ => none
  | key :: rest =>
    match t.lookup key with
    | none => (openTable [] rest).map fun inner => t ++ [(key, .table .implied inner)]
    | some (.table origin inner) =>
      (openTable inner rest).map fun inner => put t key (.table origin inner)
    | some (.rows tables) =>
      match tables.reverse with
      | last :: before =>
        (openTable last rest).map fun last => put t key (.rows (last :: before).reverse)
      | [] => none
    | some (.value _) => none

/-- Adds a table to the row of tables of a header. -/
def addRow (t : Section) : List String → Option Section
  | [] => none
  | [key] =>
    match t.lookup key with
    | none => some (t ++ [(key, .rows [[]])])
    | some (.rows tables) => some (put t key (.rows (tables ++ [[]])))
    | some _ => none
  | key :: rest =>
    match t.lookup key with
    | none => (addRow [] rest).map fun inner => t ++ [(key, .table .implied inner)]
    | some (.table origin inner) =>
      (addRow inner rest).map fun inner => put t key (.table origin inner)
    | some (.rows tables) =>
      match tables.reverse with
      | last :: before =>
        (addRow last rest).map fun last => put t key (.rows (last :: before).reverse)
      | [] => none
    | some (.value _) => none

/-- Puts a value under a key of the table that the last header opened. -/
def insertAt (t : Section) (header key : List String) (d : Document) : Option Section :=
  match header with
  | [] => insert t d key
  | h :: header =>
    match t.lookup h with
    | some (.table origin inner) =>
      (insertAt inner header key d).map fun inner => put t h (.table origin inner)
    | some (.rows tables) =>
      match tables.reverse with
      | last :: before =>
        (insertAt last header key d).map fun last => put t h (.rows (last :: before).reverse)
      | [] => none
    | _ => none

end Section

mutual

def Node.document : Node → Document
  | .value d => d
  | .table _ entries => .table (documents entries)
  | .rows tables => .list (tableDocuments tables)

def documents : List (String × Node) → List (String × Document)
  | [] => []
  | (k, n) :: rest => (k, n.document) :: documents rest

def tableDocuments : List (List (String × Node)) → List Document
  | [] => []
  | t :: rest => .table (documents t) :: tableDocuments rest

end

end CashMachine.Document.Toml
