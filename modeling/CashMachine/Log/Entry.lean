/-
Entries of the log, and how they are written.

An entry has a level, the part of the program that it comes from, a message and
fields.  It is written as one line, unless a text in it has a line end.  Signs in a
message that could steer a terminal are written as escapes.

* `Log.Level` — the levels, each finer than the one before it;
* `Log.Entry.text` — an entry as it is written.
-/
import CashMachine.Instant.Text
import CashMachine.Text.Quoted

namespace CashMachine.Log

open CashMachine.Text

/-- How much an entry matters. -/
inductive Level where
  | error
  | warn
  | info
  | debug
  | trace
deriving DecidableEq, Repr

namespace Level

/-- The place of a level: the finer it is, the higher. -/
def rank : Level → Nat
  | error => 1
  | warn => 2
  | info => 3
  | debug => 4
  | trace => 5

/-- The name of a level, in the width of the longest. -/
def label : Level → String
  | error => "ERROR"
  | warn => " WARN"
  | info => " INFO"
  | debug => "DEBUG"
  | trace => "TRACE"

end Level

/-- The part of the program that an entry comes from. -/
inductive Source where
  | machine
  | command
deriving DecidableEq, Repr

def Source.name : Source → String
  | machine => "cash_machine::machine"
  | command => "cash_machine::command"

/-- Something that is told about the work. -/
structure Entry where
  level : Level
  source : Source
  message : String
  fields : List (String × String) := []
deriving DecidableEq, Repr

namespace Entry

/-- The names of what an entry holds. -/
def fieldNames (e : Entry) : List String :=
  "message" :: e.fields.map Prod.fst

/-- The signs that steer a terminal, apart from the blanks among them. -/
def steeringChars : List Char := ['\x1b', '\x07', '\x08', '\x0c', '\x7f']

/-- A character of a message as it is written. -/
def shownChar (c : Char) : List Char :=
  if steeringChars.contains c then
    ['\\', 'x', Nat.digitChar (c.toNat / 16), Nat.digitChar (c.toNat % 16)]
  else if 0x80 ≤ c.toNat ∧ c.toNat ≤ 0x9f then codePointEscape c
  else [c]

/-- The characters of a message as they are written. -/
def shownChars (s : List Char) : List Char :=
  s.flatMap shownChar

/-- A field behind what is written before it. -/
def fieldText (f : String × String) : String :=
  " " ++ f.1 ++ "=" ++ f.2

/-- An entry of a time, under the name of its source. -/
def text (time : Instant) (source : String) (e : Entry) : String :=
  time.text ++ " " ++ e.level.label ++ " " ++ source ++ ": " ++
    String.ofList (shownChars e.message.toList) ++ String.join (e.fields.map fieldText) ++ "\n"

end Entry

end CashMachine.Log
