/-
The filter of a log: which of its entries are wanted.

A filter is a row of directives with commas between them.  A directive is a
level, or a target, or a target, a span in brackets and a level behind an equals
sign, each of the three optional.  A span may hold a field between braces, and a
field a value behind an equals sign: a number, or a regular expression.  A directive
that cannot be read is passed over with a complaint.

A target stands for the sources whose names start with it.  Of the directives that are about
an entry, the one with the longest target decides, then one with a field; entries are not
made in spans, so that a directive with a span is about none.

* `LogFilter.read` — a directive, or what is wrong with it;
* `LogFilter.complaints` — what is said about the directives of a filter;
* `LogFilter.admits` — the entries that a filter lets through.

Main statement: `complaints_eq_nil_iff` — nothing is said just when nothing is
wrong with any directive.
-/
import CashMachine.CommandLine.Pattern
import CashMachine.Document.Binary64
import CashMachine.Log.Entry
import CashMachine.Text.Digits
import CashMachine.Text.Lower
import CashMachine.Text.Split

namespace CashMachine.LogFilter

open CashMachine.Text

/-! ### What a directive says -/

/-- What is wrong with a directive. -/
inductive Fault where
  | malformed
  | unreadableValue
  | unknownLevel
deriving DecidableEq, Repr

def Fault.message : Fault → String
  | malformed => "invalid filter directive"
  | unreadableValue => "invalid field filter: error building NFA"
  | unknownLevel =>
    "error parsing level filter: expected one of \"off\", \"error\", \"warn\", \"info\", " ++
      "\"debug\", \"trace\", or a number 0-5"

/-- A field that entries must have. -/
structure Field where
  name : String
  /-- It must have a certain value. -/
  hasValue : Bool
deriving DecidableEq, Repr

/-- What a directive lets through. -/
structure Directive where
  /-- How the name of a source must start. -/
  target : Option String := none
  /-- It is about what is told in a span of a certain name. -/
  hasSpan : Bool := false
  field : Option Field := none
  /-- The finest level that is let through, if any is. -/
  level : Option Log.Level
deriving DecidableEq, Repr

/-! ### Reading -/

def levelNames : List (String × Option Log.Level) :=
  [("off", none), ("error", some .error), ("warn", some .warn), ("info", some .info),
    ("debug", some .debug), ("trace", some .trace)]

/-- The digits of a number, behind its plus sign if it has one. -/
def withoutPlus : List Char → List Char
  | '+' :: s => s
  | s => s

/-- The level of a name, in small or capital letters, or of a number. -/
def level? (s : List Char) : Option (Option Log.Level) :=
  match natOfDigits? (withoutPlus s) with
  | some n => levelNames[n]?.map Prod.snd
  | none => levelNames.lookup (String.ofList (lowerChars s))

/-- The words for infinity and for no number. -/
def extremeNames : List String := ["inf", "infinity", "nan"]

/-- A number with a sign in front.  Without the sign, it is a regular expression too. -/
def isSignedNumber (s : List Char) : Bool :=
  (Binary64.read? s).isSome ||
    (s.head? == some '+' && extremeNames.contains (String.ofList (lowerChars (s.drop 1))))

/-- Reads a field: a name, and behind an equals sign a number or a regular expression, which
the next equals sign ends. -/
def readField (s : List Char) : Except Fault Field :=
  match parts (· == '=') s with
  | name :: value :: _ =>
    if isSignedNumber value || isPattern value then .ok ⟨String.ofList name, true⟩
    else .error .unreadableValue
  | _ => .ok ⟨String.ofList s, false⟩

/-- A character that a target may start with. -/
def startsTarget (c : Char) : Bool :=
  c == '-' || c == ':' || c == '_' || isAlphanumeric c

def octetCount (s : List Char) : Nat :=
  s.foldr (fun c n => c.utf8Size + n) 0

/-- What stands behind so many octets of a text, if no character goes across. -/
def dropOctets? (n : Nat) : List Char → Option (List Char)
  | [] => if n = 0 then some [] else none
  | c :: s => if n = 0 then some (c :: s) else if n < c.utf8Size then none
    else dropOctets? (n - c.utf8Size) s

/-- A directive as it is written.  It is divided without the blanks around it, but what its parts
are is then looked up at the same places of the whole. -/
structure Written where
  whole : List Char
  plain : List Char

namespace Written

/-- What stands in the whole directive where `s` starts, at the end of the plain one. -/
def textFrom (w : Written) (s : List Char) : Except Fault (List Char) :=
  match dropOctets? (octetCount w.plain - octetCount s) w.whole with
  | some text => .ok text
  | none => .error .malformed

/-- What stands in the whole directive between the places where `s` and `t` start. -/
def textBetween (w : Written) (s t : List Char) : Except Fault (List Char) := do
  let behind ← w.textFrom s
  let further ← w.textFrom t
  pure (behind.take (behind.length - further.length))

/-- Reads an equals sign and a level; all levels where there is nothing. -/
def readLevel (w : Written) : List Char → Except Fault (Option Log.Level)
  | [] => .ok (some .trace)
  | '=' :: level => do
    let level ← w.textFrom level
    if level.isEmpty then pure (some .trace)
    else
      match level? level with
      | some level => pure level
      | none => throw .unknownLevel
  | _ => .error .malformed

/-- Reads a field, which is not empty, between braces at the end of a span, and a level. -/
def readFields (w : Written) (d : Directive) (s : List Char) : Except Fault Directive := do
  let rest := s.dropWhile (· != '\x7d')
  if rest.isEmpty ∨ rest.length = s.length then throw .malformed
  let field ← readField (← w.textBetween s rest)
  match rest with
  | _ :: ']' :: rest => do pure { d with field := some field, level := ← w.readLevel rest }
  | _ => throw .malformed

/-- Reads a span behind its opening bracket, and a level. -/
def readSpan (w : Written) (d : Directive) (s : List Char) : Except Fault Directive :=
  match s.dropWhile fun c => c != ']' && c != '\x7b' with
  | ']' :: rest => do pure { d with hasSpan := true, level := ← w.readLevel rest }
  | '\x7b' :: rest => w.readFields { d with hasSpan := rest.length + 1 != s.length } rest
  | _ => .error .malformed

/-- The directive of a level alone, or of a target alone. -/
def ofWord (word : List Char) : Directive :=
  match level? word with
  | some level => { level }
  | none => { target := some (String.ofList word), level := some .trace }

def read (w : Written) : Except Fault Directive :=
  match w.plain with
  | [] => .error .malformed
  | '[' :: rest => w.readSpan { level := none } rest
  | c :: _ =>
    if startsTarget c then do
      let rest := w.plain.dropWhile fun c => c != '=' && c != '['
      if rest.isEmpty then pure (ofWord w.whole)
      else
        let target := String.ofList (← w.textBetween w.plain rest)
        match rest with
        | '[' :: rest => w.readSpan { target := some target, level := none } rest
        | rest => do pure { target := some target, level := ← w.readLevel rest }
    else .error .malformed

end Written

def read (directive : List Char) : Except Fault Directive :=
  Written.read ⟨directive, trim directive⟩

/-- What is wrong with a directive, if anything is. -/
def fault? (directive : List Char) : Option Fault :=
  match read directive with
  | .ok _ => none
  | .error e => some e

/-- The texts of the directives of a filter. -/
def texts (filter : String) : List (List Char) :=
  words (· == ',') filter.toList

def complaint? (directive : List Char) : Option String :=
  (fault? directive).map fun fault =>
    "ignoring `" ++ String.ofList directive ++ "`: " ++ fault.message ++ "\n"

/-- What is said about the directives of a filter. -/
def complaints (filter : String) : List String :=
  (texts filter).filterMap complaint?

theorem complaints_eq_nil_iff (filter : String) :
    complaints filter = [] ↔ ∀ d ∈ texts filter, fault? d = none := by
  simp [complaints, complaint?, List.filterMap_eq_nil_iff]

/-! ### Filtering -/

/-- The directive of a filter that has none. -/
def onlyErrors : Directive := { level := some .error }

def directives (filter : String) : List Directive :=
  match (texts filter).filterMap fun d => (read d).toOption with
  | [] => [onlyErrors]
  | ds => ds

namespace Directive

/-- The directive is about an entry of a source. -/
def isAbout (d : Directive) (source : String) (e : Log.Entry) : Bool :=
  !d.hasSpan && (d.target.all fun t => t.toList.isPrefixOf source.toList) &&
    d.field.all fun f => !f.hasValue && e.fieldNames.contains f.name

/-- The length of the target. -/
def reach (d : Directive) : Nat :=
  d.target.elim 0 fun t => t.utf8ByteSize + 1

/-- The name of the field, behind an empty text where there is none. -/
def fieldNames (d : Directive) : List String :=
  d.field.toList.map Field.name

/-- The directive is less exact than another one. -/
def yieldsTo (d other : Directive) : Bool :=
  d.reach < other.reach || (d.reach == other.reach && d.fieldNames < other.fieldNames)

/-- The directive lets entries of a level through. -/
def admits (d : Directive) (level : Log.Level) : Bool :=
  d.level.any fun finest => level.rank ≤ finest.rank

end Directive

/-- The more exact one of two directives, the later one where they are alike. -/
def moreExact (earlier : Option Directive) (d : Directive) : Option Directive :=
  match earlier with
  | none => some d
  | some e => if d.yieldsTo e then some e else some d

/-- The directive that decides about an entry of a source. -/
def decisive? (ds : List Directive) (source : String) (e : Log.Entry) : Option Directive :=
  (ds.filter fun d => d.isAbout source e).foldl moreExact none

/-- The directives let an entry of a source through. -/
def admits (ds : List Directive) (source : String) (e : Log.Entry) : Bool :=
  (decisive? ds source e).any fun d => d.admits e.level

end CashMachine.LogFilter
