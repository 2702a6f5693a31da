/-
Places in YAML texts: what is still to be read, and where it stands.

Blanks, comments and line ends stand between words.  A comment needs a blank in
front of it (`Place.skipToLineEnd`) unless something that skips whole lines
(`Place.skipGap`) finds it.
-/

namespace CashMachine.Document.Yaml

/-- A place in a text whose line ends are single characters. -/
structure Place where
  rest : List Char
  column : Nat
  line : Nat
  /-- The number of characters before it. -/
  index : Nat
  /-- Nothing but blanks precedes the place in its line. -/
  fresh : Bool
deriving Repr

/-- A blank within a line. -/
def isBlank (c : Char) : Bool :=
  c == ' ' || c == '\t'

/-- A blank or a line end. -/
def isGap (c : Char) : Bool :=
  isBlank c || c == '\n'

/-- A character with a meaning of its own among brackets. -/
def isFlowMark (c : Char) : Bool :=
  c == ',' || c == '[' || c == ']' || c == '\x7b' || c == '\x7d'

def endsLine : List Char → Bool
  | [] => true
  | c :: _ => c == '\n'

/-- A blank, a line end or the end of the text follows. -/
def startsGap : List Char → Bool
  | [] => true
  | c :: _ => isGap c

/-- A mark of flow follows. -/
def startsFlowMark : List Char → Bool
  | [] => false
  | c :: _ => isFlowMark c

/-- A text with one character at every line end. -/
def unifyLineEnds : List Char → List Char
  | '\r' :: '\n' :: rest => '\n' :: unifyLineEnds rest
  | '\r' :: rest => '\n' :: unifyLineEnds rest
  | c :: rest => c :: unifyLineEnds rest
  | [] => []

namespace Place

def start (s : List Char) : Place := ⟨s, 0, 0, 0, true⟩

/-- The place behind so many characters of the line. -/
def drop (p : Place) (k : Nat) : Place :=
  { p with rest := p.rest.drop k, column := p.column + k, index := p.index + k, fresh := false }

/-- The place behind so many blanks, which leave a fresh line fresh. -/
def dropBlanks (p : Place) (k : Nat) : Place :=
  { p.drop k with fresh := p.fresh }

/-- The place behind a line end. -/
def newLine (p : Place) : Place :=
  ⟨p.rest.drop 1, 0, p.line + 1, p.index + 1, true⟩

def toLineEnd (p : Place) : Place :=
  p.drop (p.rest.takeWhile (· != '\n')).length

def skipBlanks (p : Place) : Place :=
  p.dropBlanks (p.rest.takeWhile isBlank).length

/-- Three characters at the start of a line with a gap behind them. -/
def hasMark (c : Char) (p : Place) : Bool :=
  p.column == 0 &&
    match p.rest with
    | x :: y :: z :: rest => x == c && y == c && z == c && startsGap rest
    | _ => false

/-- A mark between documents: three dashes or three points. -/
def atMark (p : Place) : Bool :=
  p.hasMark '-' || p.hasMark '.'

/-- Skips blanks, tabs among them only if wanted, and a comment, which at least one
blank must precede. -/
def skipBlanksAndComment (tabs : Bool) (p : Place) : Option Place :=
  let blanks := p.rest.takeWhile fun c => c == ' ' || (tabs && c == '\t')
  let q := p.dropBlanks blanks.length
  match q.rest with
  | '#' :: _ => if blanks.isEmpty then none else some q.toLineEnd
  | _ => some q

/-- Skips what may stand behind the last word of a line. -/
def skipToLineEnd (p : Place) : Option Place :=
  p.skipBlanksAndComment true

/-- Skips a tab of a fresh line in front of column `least`, where no word may follow it. -/
def skipIndentTab (p : Place) : Option Place := do
  let p ← p.skipToLineEnd
  if endsLine p.rest then some p else none

/-- Skips blanks, comments and line ends.  Within a block (`least`), a line that starts
with a tab in front of its column must have no words. -/
def skipGap (least : Option Int) (p : Place) : Option Place :=
  go p.rest.length p
where
  go (fuel : Nat) (p : Place) : Option Place :=
    match fuel, p.rest with
    | fuel + 1, c :: _ =>
      if c = '\t' ∧ p.fresh ∧ least.any (fun n => (p.column : Int) < n) then
        match p.skipIndentTab with
        | some p => go fuel p
        | none => none
      else if isBlank c then go fuel (p.dropBlanks 1)
      else if c = '\n' then go fuel p.newLine
      else if c = '#' then go fuel p.toLineEnd
      else some p
    | _, _ => some p

end Place

end CashMachine.Document.Yaml
