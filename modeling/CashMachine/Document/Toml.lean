/-
TOML texts.

A text is a row of lines: headers, keys with their values, blank lines and
comments.  The table that they build up is the document (`Document.ofToml?`).
-/
import CashMachine.Document.Toml.Scalar
import CashMachine.Document.Toml.Section
import CashMachine.Text.Blank

namespace CashMachine.Document.Toml

open CashMachine.Text

/-! ### Values -/

/-- How deep lists and tables may stand in each other. -/
def maxDepth : Nat := 80

mutual

/-- Reads a value; `depth` more levels may be opened. -/
def readValue (fuel depth : Nat) (s : List Char) : Option (Document × List Char) :=
  match fuel with
  | 0 => none
  | fuel + 1 =>
    match s with
    | '"' :: _ => (readString s).map fun (t, rest) => (.text t, rest)
    | '\'' :: _ => (readString s).map fun (t, rest) => (.text t, rest)
    | '[' :: rest =>
      match depth with
      | 0 => none
      | depth + 1 => (readItems fuel depth [] rest).map fun (xs, rest) => (.list xs, rest)
    | '\x7b' :: rest =>
      match depth with
      | 0 => none
      | depth + 1 =>
        (readEntries fuel depth [] rest).map fun (t, rest) => (.table (documents t), rest)
    | s =>
      let w := word s
      (ofWord? w).map fun d => (d, s.drop w.length)

/-- Reads the items of a list up to its closing bracket. -/
def readItems (fuel depth : Nat) (acc : List Document) (s : List Char) :
    Option (List Document × List Char) :=
  match fuel with
  | 0 => none
  | fuel + 1 =>
    match skipLines s.length s with
    | ']' :: rest => some (acc.reverse, rest)
    | rest =>
      match readValue fuel depth rest with
      | none => none
      | some (d, rest) =>
        match skipLines rest.length rest with
        | ',' :: rest => readItems fuel depth (d :: acc) rest
        | ']' :: rest => some ((d :: acc).reverse, rest)
        | _ => none

/-- Reads the entries of a table between braces up to the closing one.  Line ends and
comments may stand between any two words of it. -/
def readEntries (fuel depth : Nat) (acc : Section) (s : List Char) :
    Option (Section × List Char) :=
  match fuel with
  | 0 => none
  | fuel + 1 =>
    match skipLines s.length s with
    | '\x7d' :: rest => some (acc, rest)
    | rest =>
      match readKey rest with
      | none => none
      | some (key, rest) =>
        match skipLines rest.length rest with
        | '=' :: rest =>
          match readValue fuel depth (skipLines rest.length rest) with
          | none => none
          | some (d, rest) =>
            match acc.insert d key with
            | none => none
            | some acc =>
              match skipLines rest.length rest with
              | ',' :: rest => readEntries fuel depth acc rest
              | '\x7d' :: rest => some (acc, rest)
              | _ => none
        | _ => none

end

/-! ### Lines -/

/-- What one line says. -/
inductive Line where
  | openTable (key : List String)
  | addRow (key : List String)
  | entry (key : List String) (value : Document)
deriving Repr

/-- Reads a header behind its opening brackets, up to its closing ones. -/
def readHeader (closing : List Char) (s : List Char) : Option (List String × List Char) := do
  let (key, rest) ← readKey (skipBlanks s)
  some (key, ← afterWord? closing rest)

def readLine (fuel : Nat) (s : List Char) : Option (Line × List Char) :=
  match s with
  | '[' :: '[' :: rest => (readHeader [']', ']'] rest).map fun (k, rest) => (.addRow k, rest)
  | '[' :: rest => (readHeader [']'] rest).map fun (k, rest) => (.openTable k, rest)
  | s =>
    match readKey s with
    | some (key, '=' :: rest) =>
      (readValue fuel maxDepth (skipBlanks rest)).map fun (d, rest) => (.entry key d, rest)
    | _ => none

def readLines (fuel : Nat) (acc : List Line) (s : List Char) : Option (List Line) :=
  match fuel with
  | 0 => none
  | fuel + 1 =>
    match skipLines s.length s with
    | [] => some acc.reverse
    | rest =>
      match readLine (2 * rest.length + 2) rest with
      | none => none
      | some (line, rest) =>
        match readRestOfLine rest with
        | none => none
        | some rest => readLines fuel (line :: acc) rest

/-- What the lines so far have built, and the last header. -/
structure Building where
  root : Section
  header : List String

/-- Takes one more line in. -/
def Building.add (b : Building) : Line → Option Building
  | .openTable key => (b.root.openTable key).map fun root => ⟨root, key⟩
  | .addRow key => (b.root.addRow key).map fun root => ⟨root, key⟩
  | .entry key d => (b.root.insertAt b.header key d).map fun root => { b with root }

end CashMachine.Document.Toml

namespace CashMachine.Document

/-- Reads a TOML text, at whose start the mark of its byte order may stand. -/
def ofToml? (s : String) : Option Document := do
  let s := Text.withoutMark s.toList
  let lines ← Toml.readLines (s.length + 1) [] s
  let built ← lines.foldlM Toml.Building.add ⟨[], []⟩
  some (.table (Toml.documents built.root))

end CashMachine.Document
