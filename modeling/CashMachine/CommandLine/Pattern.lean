/-
The regular expressions that the value of a field may be filtered by.

Only whether an expression can be read matters here.  It is read without tables of
character properties: what asks for one of them, such as the class of all digits or
letters without regard to case, can be read only where the expression is one of
ASCII.  Such an expression must not match half a character, so that its classes
have no complements.

* `Mode` — what the flags of an expression say;
* `readSet` — a class of characters in brackets;
* `isPattern` — an expression can be read.
-/
import CashMachine.Document.Json
import CashMachine.Text.Blank
import CashMachine.Text.Letters

namespace CashMachine.LogFilter

open CashMachine.Text

/-! ### Flags -/

/-- How an expression is read from a place on. -/
structure Mode where
  /-- The expression is one of all characters, and not of ASCII alone. -/
  wide : Bool := true
  /-- Letters match without regard to case. -/
  caseless : Bool := false
  /-- Blanks and comments do not count. -/
  spaced : Bool := false

namespace Mode

/-- Sets a flag on or off. -/
def set? (m : Mode) (on : Bool) : Char → Option Mode
  | 'u' => some { m with wide := on }
  | 'i' => some { m with caseless := on }
  | 'x' => some { m with spaced := on }
  | c => if ['m', 's', 'U', 'R'].contains c then some m else none

/-- A character may stand for itself. -/
def allows (m : Mode) (c : Char) : Bool :=
  if m.wide then !m.caseless else c.toNat < 128

/-- Skips blanks and comments. -/
def skip (m : Mode) (s : List Char) : List Char :=
  if m.spaced then skipSpaces false s else s
where
  skipSpaces (comment : Bool) : List Char → List Char
    | [] => []
    | c :: s =>
      if comment then skipSpaces (c != '\n') s
      else if isBlank c then skipSpaces false s
      else if c = '#' then skipSpaces true s
      else c :: s

end Mode

/-- Reads flags up to the sign behind them: the flags, what they make of a mode, and the
sign.  None is written twice, and a minus sign is not the last. -/
def readFlags (on : Bool) (seen : List Char) (m : Mode) :
    List Char → Option (List Char × Mode × Char × List Char)
  | [] => none
  | c :: s =>
    if c = ':' ∨ c = ')' then if seen.head? = some '-' then none else some (seen, m, c, s)
    else if seen.contains c then none
    else if c = '-' then readFlags false (c :: seen) m s
    else
      match m.set? on c with
      | some m => readFlags on (c :: seen) m s
      | none => none

/-! ### Escapes -/

/-- What an escape stands for. -/
inductive Escape where
  | character (c : Char)
  /-- Any character of a class. -/
  | anyOf
  /-- A place between characters. -/
  | place
deriving Repr

/-- The number of hexadecimal digits behind the letter of an escape. -/
def digitCount? : Char → Option Nat
  | 'x' => some 2
  | 'u' => some 4
  | 'U' => some 8
  | _ => none

/-- Reads so many hexadecimal digits. -/
def readDigits (m : Mode) (count value : Nat) (s : List Char) : Option (Nat × List Char) :=
  match count with
  | 0 => some (value, s)
  | count + 1 =>
    match m.skip s with
    | c :: rest =>
      match Document.hexDigit? c with
      | some d => readDigits m count (16 * value + d) rest
      | none => none
    | [] => none

/-- The control character that an escape of one letter stands for. -/
def control? : Char → Option Char
  | 'a' => some '\x07'
  | 'f' => some '\x0c'
  | 't' => some '\t'
  | 'n' => some '\n'
  | 'r' => some '\r'
  | 'v' => some '\x0b'
  | _ => none

/-- Reads what follows a backslash. -/
def readEscape (m : Mode) (s : List Char) : Option (Escape × List Char) :=
  match s with
  | [] => none
  | c :: rest =>
    match digitCount? c with
    | some count => do
      let (code, rest) ← readDigits m count 0 rest
      some (.character (← Document.charOfCode? code), rest)
    | none =>
      if ['d', 's', 'w'].contains c then if m.wide then none else some (.anyOf, rest)
      else if ['b', 'B', '<', '>'].contains c then if m.wide then none else some (.place, rest)
      else if c = 'A' ∨ c = 'z' then some (.place, rest)
      else if c.toNat < 128 ∧ !c.isAlphanum then some (.character c, rest)
      else (control? c).map fun e => (.character e, rest)

/-! ### Classes in brackets -/

/-- The names of classes that brackets may hold between `[:` and `:]`. -/
def classNames : List String :=
  ["alnum", "alpha", "ascii", "blank", "cntrl", "digit", "graph", "lower", "print", "punct",
    "space", "upper", "word", "xdigit"]

/-- Reads a named class behind its bracket: whether it is a complement, and what follows. -/
def readNamedClass (s : List Char) : Option (Bool × List Char) := do
  let rest ← Document.afterWord? [':'] s
  let (complement, rest) :=
    match rest with
    | '^' :: rest => (true, rest)
    | rest => (false, rest)
  let name := rest.takeWhile (· != ':')
  let rest ← Document.afterWord? [':', ']'] (rest.drop name.length)
  if classNames.contains (String.ofList name) then some (complement, rest) else none

/-- Skips dashes that stand first in brackets. -/
def skipDashes (m : Mode) (fuel : Nat) (s : List Char) : List Char :=
  match fuel, s with
  | fuel + 1, '-' :: rest => skipDashes m fuel (m.skip rest)
  | _, s => s

/-- Reads what may stand first in brackets: the sign of a complement, then dashes or a closing
bracket that stand for themselves. -/
def openSet (m : Mode) (s : List Char) : Option (List Char) :=
  let s := m.skip s
  let first : Option (List Char) :=
    match s with
    | '^' :: rest => if m.wide then some (m.skip rest) else none
    | s => some s
  match first with
  | some (']' :: rest) => some (m.skip rest)
  | some s => some (skipDashes m s.length s)
  | none => none

/-- Reads a character in brackets, or an escape that is no place. -/
def readSetItem (m : Mode) (s : List Char) : Option (Option Char × List Char) :=
  match s with
  | [] => none
  | '\\' :: rest =>
    match readEscape m rest with
    | some (.character c, rest) => if m.allows c then some (some c, rest) else none
    | some (.anyOf, rest) => some (none, rest)
    | _ => none
  | c :: rest => if m.allows c then some (some c, rest) else none

/-- Reads a character, a class or a range in brackets.  A range goes from a character to
one that is not before it. -/
def readSetRange (m : Mode) (s : List Char) : Option (List Char) := do
  let (low, rest) ← readSetItem m s
  let rest := m.skip rest
  match rest with
  | '-' :: after =>
    let after := m.skip after
    if after.head? = some ']' ∨ after.head? = some '-' then some rest
    else
      let (high, after) ← readSetItem m after
      let low ← low
      let high ← high
      if low.toNat ≤ high.toNat then some after else none
  | rest => some rest

/-- Reads a class up to its closing bracket; `depth` classes are open around it. -/
def readSet (m : Mode) (fuel depth : Nat) (s : List Char) : Option (List Char) :=
  match fuel with
  | 0 => none
  | fuel + 1 =>
    match m.skip s with
    | [] => none
    | '&' :: '&' :: rest => readSet m fuel depth rest
    | '-' :: '-' :: rest => readSet m fuel depth rest
    | '~' :: '~' :: rest => readSet m fuel depth rest
    | ']' :: rest =>
      match depth with
      | 0 => some rest
      | depth + 1 => readSet m fuel depth rest
    | '[' :: rest =>
      match readNamedClass rest with
      | some (complement, rest) => if complement && !m.wide then none else readSet m fuel depth rest
      | none =>
        match openSet m rest with
        | some rest => readSet m fuel (depth + 1) rest
        | none => none
    | s =>
      match readSetRange m s with
      | some rest => readSet m fuel depth rest
      | none => none

/-- Reads a class behind its opening bracket. -/
def readClass (m : Mode) (s : List Char) : Option (List Char) :=
  if m.wide && m.caseless then none
  else (openSet m s).bind fun rest => readSet m (rest.length + 1) 0 rest

/-! ### Expressions -/

/-- A name of a group: a letter or an underscore, then letters, numbers and a few signs. -/
def isGroupName : List Char → Bool
  | [] => false
  | c :: s =>
    (c == '_' || isAlphabetic c) && s.all fun c => "_.[]".toList.contains c || isAlphanumeric c

/-- Reads the name of a group, which no other group has. -/
def readGroupName (names : List (List Char)) (s : List Char) :
    Option (List Char × List Char) :=
  let name := s.takeWhile (· != '>')
  match s.drop name.length with
  | _ :: rest => if isGroupName name ∧ !names.contains name then some (name, rest) else none
  | [] => none

/-- How a group opens. -/
inductive Opening where
  /-- A group, its name if it has one, and the mode in it. -/
  | group (name : Option (List Char)) (m : Mode)
  /-- Flags without a group. -/
  | flags (m : Mode)

/-- Reads the rest of the opening of a group. -/
def readOpening (names : List (List Char)) (m : Mode) (s : List Char) :
    Option (Opening × List Char) :=
  match m.skip s with
  | '?' :: 'P' :: '<' :: rest => named rest
  | '?' :: '<' :: rest => named rest
  | '?' :: rest => do
    let (seen, m, sign, rest) ← readFlags true [] m rest
    if sign = ':' then some (.group none m, rest)
    else if seen.isEmpty then none
    else some (.flags m, rest)
  | s => some (.group none m, s)
where
  named (s : List Char) : Option (Opening × List Char) :=
    (readGroupName names s).map fun (name, rest) => (.group (some name) m, rest)

/-- What follows a sign of repetition: another question mark makes it a short one. -/
def afterRepetition : List Char → List Char
  | '?' :: s => s
  | s => s

/-- What stands in front of the rest of an expression. -/
structure Before where
  m : Mode := {}
  /-- It may be repeated. -/
  repeatable : Bool := false
  /-- The modes around the open groups, and the names of groups. -/
  outer : List Mode := []
  names : List (List Char) := []

def readStep (b : Before) (c : Char) (s : List Char) : Option (Before × List Char) :=
  let one := { b with repeatable := true }
  if c = '(' then
    match readOpening b.names b.m s with
    | some (.group name m, rest) =>
      some ({ m, repeatable := false, outer := b.m :: b.outer, names := name.toList ++ b.names },
        rest)
    | some (.flags m, rest) => some ({ b with m, repeatable := false }, rest)
    | none => none
  else if c = ')' then
    match b.outer with
    | m :: outer => some ({ one with m, outer }, s)
    | [] => none
  else if c = '|' then some ({ b with repeatable := false }, s)
  else if c = '[' then (readClass b.m s).map fun rest => (one, rest)
  else if c = '?' ∨ c = '*' ∨ c = '+' then
    if b.repeatable then some (b, afterRepetition s) else none
  else if c = '\x7b' then none
  else if c = '.' then if b.m.wide then some (one, s) else none
  else if c = '^' ∨ c = '$' then some (one, s)
  else if c = '\\' then
    match readEscape b.m s with
    | some (.character e, rest) => if b.m.allows e then some (one, rest) else none
    | some (_, rest) => some (one, rest)
    | none => none
  else if b.m.allows c then some (one, s) else none

/-- The rest of an expression can be read.  It holds no counted repetition. -/
def isPatternFrom (fuel : Nat) (b : Before) (s : List Char) : Bool :=
  match fuel with
  | 0 => false
  | fuel + 1 =>
    match b.m.skip s with
    | [] => b.outer.isEmpty
    | c :: rest =>
      match readStep b c rest with
      | some (b, rest) => isPatternFrom fuel b rest
      | none => false

/-- The expression can be read.  Each step takes a character, and one more finds the end. -/
def isPattern (s : List Char) : Bool :=
  isPatternFrom (s.length + 1) {} s

end CashMachine.LogFilter
