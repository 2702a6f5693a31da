/-
Rows of a table of operations.

The columns are found by the names in the first record; where that is no text,
by their places.  Blanks around names and values do not count.  A row that ends
before the last column is malformed, except where only the amount is missing
and stands last.  Without the column of operations, or with a column twice, no row
is well formed.
-/
import CashMachine.Batch.Table
import CashMachine.Decimal.Text
import CashMachine.Text.Blank

namespace CashMachine

structure Row where
  op : String
  account : String
  destination : String
  /-- The amount, where there is one that can be read. -/
  amount : Option Decimal
  detail : String
deriving DecidableEq, Repr

namespace Row

/-- The names of the columns, in the order of their places. -/
def columns : List String := ["op", "account", "to", "amount", "detail"]

/-- The text of a field, if it is one, without the blanks around it. -/
def fieldText? (f : Table.Field) : Option String :=
  (String.fromUTF8? (ByteArray.mk f.toArray)).map fun s => String.ofList (Text.trim s.toList)

/-- The texts of a record, if all of its fields are texts. -/
def texts? (r : Table.Record) : Option (List String) :=
  r.mapM fieldText?

/-- The row of the values of columns; a missing column is empty. -/
def ofValues (values : List (String × String)) : Row where
  op := (values.lookup "op").getD ""
  account := (values.lookup "account").getD ""
  destination := (values.lookup "to").getD ""
  amount := (values.lookup "amount").bind Decimal.read?
  detail := (values.lookup "detail").getD ""

/-- Each of the columns has its name at most once. -/
def isDistinct (names : List String) : Bool :=
  columns.all fun c => names.count c ≤ 1

/-- The record has a value for every name, or lacks only the amount, which stands last. -/
def reaches (names values : List String) : Bool :=
  names.length ≤ values.length ||
    (names.length = values.length + 1 && names.getLast? = some "amount")

/-- The row of a record under a header of names, or of places where there are none. -/
def ofTexts? (header : Option (List String)) (values : List String) : Option Row :=
  match header with
  | none => some (ofValues (columns.zip values))
  | some names =>
    if names.contains "op" && isDistinct names && reaches names values then
      some (ofValues (names.zip values))
    else none

/-- The row of a record, if it is well formed. -/
def ofRecord? (header : Option (List String)) (r : Table.Record) : Option Row :=
  texts? r >>= ofTexts? header

/-- The rows of a table; a record that is no row is kept as none. -/
def ofTable (bytes : List UInt8) : List (Option Row) :=
  match Table.records bytes with
  | [] => []
  | header :: records => records.map (ofRecord? (texts? header))

end Row

end CashMachine
