/-
Tables of comma-separated fields, as octets.

A line end closes a record, and empty lines are no records.  A field that opens
with a quote runs up to the next quote that is not doubled; anywhere else a
quote is an ordinary octet.  A quote that is never closed runs to the end.

* `Table.records` — the records of a table;
* `Table.line` — one record as a line, quoted where needed.
-/
import CashMachine.Text.Split

namespace CashMachine.Table

/-- A field as octets. -/
abbrev Field := List UInt8

abbrev Record := List Field

def comma : UInt8 := 0x2c
def quote : UInt8 := 0x22
def lineFeed : UInt8 := 0x0a
def carriageReturn : UInt8 := 0x0d

def isLineEnd (b : UInt8) : Bool :=
  b == lineFeed || b == carriageReturn

/-! ### Reading -/

/-- Where the reader stands. -/
inductive Mode where
  /-- Between records. -/
  | between
  /-- At the start of a field. -/
  | opening
  /-- In a field without quotes, or behind the closing one. -/
  | plain
  /-- Between quotes. -/
  | quoted
  /-- Behind a quote that closes the field, unless another one follows. -/
  | closing
deriving DecidableEq, Repr

/-- What has been read, the last first. -/
structure State where
  mode : Mode
  field : Field
  fields : List Field
  records : List Record
deriving Repr

namespace State

def start : State := ⟨.between, [], [], []⟩

/-- The octet belongs to the field. -/
def keep (s : State) (mode : Mode) (b : UInt8) : State :=
  { s with mode, field := b :: s.field }

def endField (s : State) : State :=
  { s with mode := .opening, field := [], fields := s.field.reverse :: s.fields }

def endRecord (s : State) : State :=
  let s := s.endField
  { s with mode := .between, fields := [], records := s.fields.reverse :: s.records }

/-- Takes an octet outside quotes. -/
def takeOutside (s : State) (b : UInt8) : State :=
  if b = comma then s.endField
  else if isLineEnd b then s.endRecord
  else s.keep .plain b

/-- Takes an octet at the start of a field. -/
def takeOpening (s : State) (b : UInt8) : State :=
  if b = quote then { s with mode := .quoted } else s.takeOutside b

def take (s : State) (b : UInt8) : State :=
  match s.mode with
  | .between => if isLineEnd b then s else s.takeOpening b
  | .opening => s.takeOpening b
  | .plain => s.takeOutside b
  | .quoted => if b = quote then { s with mode := .closing } else s.keep .quoted b
  | .closing => if b = quote then s.keep .quoted b else s.takeOutside b

def finish (s : State) : List Record :=
  let s := match s.mode with
    | .between => s
    | _ => s.endRecord
  s.records.reverse

end State

/-- The octets without the mark of their order. -/
def withoutMark : List UInt8 → List UInt8
  | 0xef :: 0xbb :: 0xbf :: rest => rest
  | bytes => bytes

def records (bytes : List UInt8) : List Record :=
  ((withoutMark bytes).foldl State.take State.start).finish

/-! ### Writing -/

/-- A character that a field can only have between quotes. -/
def needsQuotes (c : Char) : Bool :=
  c == ',' || c == '"' || c == '\n' || c == '\r'

/-- The characters of a field between quotes: a quote is doubled. -/
def doubled (s : List Char) : List Char :=
  s.flatMap fun c => if c = '"' then ['"', '"'] else [c]

/-- A field as it is written. -/
def quotedChars (s : List Char) : List Char :=
  if s.any needsQuotes then '"' :: doubled s ++ ['"'] else s

/-- A record as a line. -/
def line (fields : List String) : String :=
  ",".intercalate (fields.map fun f => String.ofList (quotedChars f.toList)) ++ "\n"

end CashMachine.Table
