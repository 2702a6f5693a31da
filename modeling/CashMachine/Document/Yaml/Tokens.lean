/-
The tokens of a YAML text.

Entries of a block stand in one column: a column further to the right opens a
block, and one further to the left closes those behind it.  A word may turn out
to be a key when a colon follows it; the token of the key, and the one of the
table that it may open, then go in front of the word.

* `Scanner` — what is known while a text is read;
* `Scanner.next` — reads one more token;
* `tokensOf?` — the tokens of a text.
-/
import CashMachine.Document.Yaml.Scalar
import CashMachine.Document.Yaml.Token

namespace CashMachine.Document.Yaml

/-- A word that may turn out to be a key. -/
structure Candidate where
  /-- It may still be one. -/
  possible : Bool
  /-- It must be one. -/
  required : Bool
  /-- The number of tokens before it. -/
  position : Nat
  column : Nat
  line : Nat
  index : Nat

/-- No word. -/
def Candidate.none : Candidate := ⟨false, false, 0, 0, 0, 0⟩

/-- What is known while a text is read. -/
structure Scanner where
  place : Place
  /-- The tokens so far, last one first, and their number. -/
  tokens : List Token := []
  count : Nat := 0
  /-- The column of the innermost block. -/
  indent : Int := -1
  /-- The columns of the blocks around, and whether a token closes each block. -/
  indents : List (Int × Bool) := []
  /-- The word that may be a key, for the block and for each open bracket. -/
  candidate : Candidate := .none
  outer : List Candidate := []
  /-- A word that follows may be a key. -/
  keyAllowed : Bool := true
  /-- The number of open brackets. -/
  depth : Nat := 0
  /-- The index at which a colon needs no blank behind it. -/
  adjacent : Nat := 0
  /-- A table among brackets has been opened by a token. -/
  tableOpened : Bool := false
  /-- For each open row, whether an entry of a table without brackets has begun in it. -/
  rows : List Bool := []

namespace Scanner

def flow (s : Scanner) : Bool := s.depth != 0

/-- Tokens with one more, so many tokens before the end; the last token stands first. -/
def insertBefore (t : Token) : Nat → List Token → List Token
  | k + 1, x :: xs => x :: insertBefore t k xs
  | _, xs => t :: xs

/-- Puts a token at a position. -/
def put (s : Scanner) (position : Nat) (t : Token) : Scanner :=
  { s with tokens := insertBefore t (s.count - position) s.tokens, count := s.count + 1 }

/-- Puts a token at the end. -/
def push (s : Scanner) (t : Token) : Scanner :=
  { s with tokens := t :: s.tokens, count := s.count + 1 }

/-! ### Columns -/

/-- Closes the blocks behind a column. -/
def closeTo (s : Scanner) (column : Int) : Scanner :=
  go s.indents s
where
  go (indents : List (Int × Bool)) (s : Scanner) : Scanner :=
    match indents with
    | [] => s
    | (outer, closes) :: rest =>
      if column < s.indent then
        let s := { s with indent := outer, indents := rest }
        go rest (if closes then s.push .blockEnd else s)
      else s

/-- Closes blocks behind a column, outside brackets. -/
def unroll (s : Scanner) (column : Int) : Scanner :=
  if s.flow then s else s.closeTo column

/-- Leaves the columns that no token closes. -/
def unrollLight (s : Scanner) : Scanner :=
  go s.indents s
where
  go (indents : List (Int × Bool)) (s : Scanner) : Scanner :=
    match indents with
    | (outer, false) :: rest => go rest { s with indent := outer, indents := rest }
    | _ => s

/-- Opens a block in a column by a token at a position, unless the column is that of the
block already. -/
def roll (s : Scanner) (column : Nat) (position : Nat) (t : Token) : Scanner :=
  if s.flow then s
  else
    let s :=
      match s.indents with
      | (outer, false) :: rest =>
        if s.indent ≤ (column : Int) then { s with indent := outer, indents := rest } else s
      | _ => s
    if s.indent < (column : Int) then
      { s with indents := (s.indent, true) :: s.indents, indent := column }.put position t
    else s

/-- Moves one column on, without a block, for what belongs to an entry. -/
def rollLight (s : Scanner) : Scanner :=
  match s.indents with
  | (_, true) :: _ =>
    if s.flow then s
    else { s with indents := (s.indent, false) :: s.indents, indent := s.indent + 1 }
  | _ => s

/-! ### Candidates for keys -/

/-- The word that starts here may be a key.  It must be one at the column of a block. -/
def saveCandidate (s : Scanner) : Scanner :=
  if s.keyAllowed then
    let required := !s.flow && s.indent == s.place.column && (s.indents.head?.any (·.2))
    { s with candidate :=
        ⟨true, required, s.count, s.place.column, s.place.line, s.place.index⟩ }
  else s

/-- The word is no key after all. -/
def dropCandidate (s : Scanner) : Option Scanner :=
  if s.candidate.possible && s.candidate.required then none
  else some { s with candidate := { s.candidate with possible := false } }

/-- A word outside brackets is no key when its line has ended, or 1024 characters on. -/
def staleCandidate (s : Scanner) : Option Scanner :=
  let c := s.candidate
  if c.possible && !s.flow && (c.line < s.place.line || c.index + 1024 < s.place.index) then
    if c.required then none else some { s with candidate := { c with possible := false } }
  else some s

/-! ### Brackets -/

/-- Ends the entry of a table that has begun in a row without brackets. -/
def endEntry (s : Scanner) : Scanner :=
  match s.rows with
  | true :: rest => { s with tableOpened := false, rows := false :: rest }.push .flowTableEnd
  | _ => s

/-- Takes one character and the blanks and the comment behind it. -/
def takeMark (s : Scanner) : Option Scanner :=
  ((s.place.drop 1).skipToLineEnd).map fun place => { s with place }

/-- Reads an opening bracket.  At most 255 are open. -/
def openBracket (s : Scanner) (t : Token) : Option Scanner := do
  let s := s.saveCandidate.rollLight
  if 255 ≤ s.depth then none
  let s := { s with outer := s.candidate :: s.outer, candidate := .none, depth := s.depth + 1,
                    keyAllowed := true }
  let s :=
    if t = .flowTable then { s with tableOpened := true } else { s with rows := false :: s.rows }
  let s ← s.takeMark
  some (s.push t)

def closeBracket (s : Scanner) (t : Token) : Option Scanner := do
  let s ← s.dropCandidate
  let s :=
    match s.outer with
    | c :: outer => { s with candidate := c, outer, depth := s.depth - 1 }
    | [] => s
  let s := { s with keyAllowed := false }
  let s := if t = .flowRowEnd then { s.endEntry with rows := s.rows.drop 1 } else s
  let s ← s.takeMark
  let s := if s.flow then { s with adjacent := s.place.index } else s
  some (s.push t)

def readComma (s : Scanner) : Option Scanner := do
  let s ← s.dropCandidate
  let s ← { s with keyAllowed := true }.endEntry.takeMark
  some (s.push .comma)

/-! ### Items, keys and values -/

/-- The last token is a name or a tag at the start of a line.  Those that end a line stand
in the first column just when the candidate does. -/
def endsWithProperty (s : Scanner) : Bool :=
  match s.tokens with
  | .anchor _ :: _ => s.candidate.column == 0 && s.candidate.position + 1 == s.count
  | .tag .. :: _ => s.candidate.column == 0 && s.candidate.position + 1 == s.count
  | _ => false

def readItem (s : Scanner) : Option Scanner := do
  if s.flow || !s.keyAllowed then none
  if s.place.column = 0 ∧ s.endsWithProperty ∧ -1 < s.indent then none
  let column := s.place.column
  let s := { s with place := s.place.drop 1 }.roll column s.count .blockRow
  let blanks := s.place.rest.takeWhile isBlank
  let p ← s.place.skipToLineEnd
  if blanks.contains '\t' ∧ p.rest.head? = some '-' ∧ startsGap (p.rest.drop 1) then none
  let s := { s with place := p }
  let s := if p.rest.head? = some '\n' ∨ startsFlowMark p.rest then s.rollLight else s
  let s ← s.dropCandidate
  some ({ s with keyAllowed := true }.push .item)

/-- Skips blanks and comments behind the question mark of a key; none of the blanks is a
tab.  Tells whether a line end was among them. -/
def skipBehindKey (fuel : Nat) (blank lines : Bool) (p : Place) : Option (Bool × Place) :=
  match fuel, p.rest with
  | fuel + 1, ' ' :: _ => skipBehindKey fuel true lines (p.dropBlanks 1)
  | fuel + 1, '\n' :: _ => skipBehindKey fuel true true p.newLine
  | fuel + 1, '#' :: _ => skipBehindKey fuel blank lines p.toLineEnd
  | _, '\t' :: _ => none
  | _, _ => if blank then some (lines, p) else none

def readKeyMark (s : Scanner) : Option Scanner := do
  if !s.flow && !s.keyAllowed then none
  let s := if s.flow then { s with tableOpened := true }
    else s.roll s.place.column s.count .blockTable
  let s ← s.dropCandidate
  let (lines, p) ← skipBehindKey (s.place.rest.length + 1) false false (s.place.drop 1)
  some ({ s with keyAllowed := !s.flow || (lines && !s.flow), place := p }.push .key)

/-- A tab behind a colon needs a blank beside it if a word follows. -/
def skipBehindColon (p : Place) : Option Place :=
  match p.rest with
  | '\t' :: _ => do
    let blanks := p.rest.takeWhile isBlank
    let q ← p.skipToLineEnd
    if !blanks.contains ' ' && (q.rest.head?.any fun c => c == '-' || isWordChar c) then none
    some q
  | _ => some p

def readColon (s : Scanner) : Option Scanner := do
  let c := s.candidate
  let start := s.place
  let entry := !s.rows.isEmpty && !s.tableOpened
  let s := if entry then { s with rows := true :: s.rows.drop 1 } else s
  let p ← skipBehindColon (start.drop 1)
  let s := { s with place := p }
  if c.possible then
    let s := s.put c.position .key
    if entry && c.line < start.line then none
    let s := if entry then s.put c.position .flowTable else s
    let s := (s.roll c.column c.position .blockTable).rollLight
    some ({ s with candidate := { c with possible := false }, keyAllowed := false }.push .value)
  else
    let s := if entry then s.push .flowTable else s
    if !s.flow && !s.keyAllowed then none
    let s := (s.roll start.column s.count .blockTable).rollLight
    some ({ s with keyAllowed := !s.flow }.push .value)

/-- Reads the colon of a value among brackets that no blank follows: the value must not
be in brackets itself unless the key was. -/
def readTightColon (s : Scanner) : Option Scanner :=
  let next := (s.place.rest.drop 1).head?
  if s.place.index ≠ s.adjacent ∧ (next = some '[' ∨ next = some '\x7b') then none
  else s.readColon

/-! ### Words -/

def readProperty (s : Scanner) (read : Place → Option (Token × Place)) : Option Scanner := do
  let s := s.saveCandidate
  let (t, place) ← read s.place
  some ({ s with keyAllowed := false, place }.push t)

/-- Reads a scalar of whole lines. -/
def readBlockScalar (s : Scanner) : Option Scanner := do
  let s := s.saveCandidate.unrollLight
  let (t, place) ← readBlock s.indent s.place
  some ({ s with keyAllowed := true, place }.push (.scalar false (String.ofList t)))

/-- Skips blanks, comments and line ends.  A new line outside brackets may start with a key. -/
def skipGap (s : Scanner) : Option Scanner := do
  let place ← s.place.skipGap (if s.indents.isEmpty then none else some s.indent)
  let keyAllowed := s.keyAllowed || (!s.flow && s.place.line < place.line)
  some { s with place, keyAllowed }

/-- Reads a scalar between quotes.  Behind it a colon needs no blank. -/
def readQuotedScalar (s : Scanner) : Option Scanner := do
  let s := { s.saveCandidate with keyAllowed := false }
  let (t, place) ← readQuoted s.flow s.indent s.place
  let s ← { s with place }.skipGap
  some ({ s with adjacent := s.place.index }.push (.scalar false (String.ofList t)))

/-- Reads a plain scalar.  One that a line end follows may be followed by a key. -/
def readPlainScalar (s : Scanner) : Option Scanner := do
  let s := { s.saveCandidate with keyAllowed := false }.unrollLight
  let (t, place) ← readPlain s.flow s.indent s.place
  some ({ s with place, keyAllowed := place.fresh }.push (.scalar true (String.ofList t)))

/-! ### Documents -/

/-- Closes all blocks in front of a directive or a mark between documents. -/
def closeAll (s : Scanner) : Option Scanner := do
  let s ← (s.unroll (-1)).dropCandidate
  some { s with keyAllowed := false }

/-- Reads a directive. -/
def directive (s : Scanner) : Option Scanner := do
  let s ← s.closeAll
  let (t, place) ← readDirective s.place
  some ({ s with place }.push t)

/-- Reads the mark in front of a document. -/
def startDocument (s : Scanner) : Option Scanner := do
  let s ← s.closeAll
  some ({ s with place := s.place.drop 3 }.push .documentStart)

/-- Reads the mark behind a document, which stands alone in its line. -/
def endDocument (s : Scanner) : Option Scanner := do
  let s ← s.closeAll
  let place ← (s.place.drop 3).skipToLineEnd
  if !endsLine place.rest then none
  some ({ s with place }.push .documentEnd)

/-- Closes all blocks at the end of the text.  No word must still have to be a key. -/
def finish (s : Scanner) : Option Scanner :=
  if (s.candidate :: s.outer).any fun c => c.required && c.possible then none
  else some (s.unroll (-1))

/-! ### Tokens -/

def readToken (s : Scanner) : Option Scanner :=
  let p := s.place
  match p.rest with
  | [] => some s
  | c :: rest =>
    if c = '[' then s.openBracket .flowRow
    else if c = '\x7b' then s.openBracket .flowTable
    else if c = ']' then s.closeBracket .flowRowEnd
    else if c = '\x7d' then s.closeBracket .flowTableEnd
    else if c = ',' then s.readComma
    else if c = '-' ∧ startsGap rest then s.readItem
    else if c = '?' ∧ startsGap rest then s.readKeyMark
    else if c = ':' ∧ startsGap rest then s.readColon
    else if c = ':' ∧ s.flow ∧ (startsFlowMark rest ∨ p.index = s.adjacent) then s.readTightColon
    else if c = '*' then s.readProperty fun p => (readName p).map fun (n, p) => (.reference n, p)
    else if c = '&' then s.readProperty fun p => (readName p).map fun (n, p) => (.anchor n, p)
    else if c = '!' then s.readProperty (readTag s.flow)
    else if (c = '|' ∨ c = '>') ∧ !s.flow then s.readBlockScalar
    else if c = '"' ∨ c = '\'' then s.readQuotedScalar
    else if c = '%' ∨ c = '@' ∨ c = '\x60' then none
    else s.readPlainScalar

/-- Reads the next token, if there is one, and all that stands in front of it. -/
def next (s : Scanner) : Option Scanner := do
  let s ← s.skipGap
  let s ← s.staleCandidate
  let s := s.unroll s.place.column
  if s.place.rest.isEmpty then s.finish
  else if s.place.column = 0 ∧ s.place.rest.head? = some '%' then s.directive
  else if s.place.hasMark '-' then s.startDocument
  else if s.place.hasMark '.' then s.endDocument
  else if (s.place.column : Int) < s.indent then none
  else s.readToken

def run (fuel : Nat) (s : Scanner) : Option Scanner :=
  match fuel with
  | 0 => none
  | fuel + 1 =>
    match s.next with
    | none => none
    | some s => if s.place.rest.isEmpty then s.next else run fuel s

end Scanner

/-- The tokens of a text.  Each one but those of blocks takes a character. -/
def tokensOf? (text : List Char) : Option (List Token) :=
  (Scanner.run (text.length + 1) { place := .start text }).map fun s => s.tokens.reverse

end CashMachine.Document.Yaml
