/-
The scalars of YAML texts: plain ones, quoted ones and blocks of lines.

Line ends within a scalar fold: a single one is a blank, and of several all but
the first stay.

* `readPlain` — a plain scalar;
* `readQuoted` — a scalar between quotes;
* `readBlock` — a scalar of whole lines.
-/
import CashMachine.Document.Json
import CashMachine.Document.Yaml.Place

namespace CashMachine.Document.Yaml

open CashMachine.Text

/-- Line ends. -/
def breaks (count : Nat) : List Char :=
  List.replicate count '\n'

/-- What a row of line ends between two words stands for. -/
def foldedBreaks : Nat → List Char
  | 1 => [' ']
  | n => breaks (n - 1)

/-! ### Plain scalars -/

/-- A plain scalar goes on with the given characters: not with a colon that a gap
follows, and among brackets not with one of their marks. -/
def goesOnPlain (flow : Bool) : List Char → Bool
  | [] => false
  | c :: rest =>
    if c = ':' then !(startsGap rest || (flow && startsFlowMark rest))
    else !(flow && isFlowMark c)

/-- The word of a plain scalar at the start of a text. -/
def plainWord (flow : Bool) : List Char → List Char
  | [] => []
  | c :: rest =>
    if isGap c || !goesOnPlain flow (c :: rest) then [] else c :: plainWord flow rest

/-- What stands between two words of a plain scalar: blanks in a line, or line ends. -/
structure PlainGap where
  blanks : List Char
  count : Nat
  place : Place

/-- Reads what stands behind a word.  In a fresh line a tab in front of column `least` must
have no words behind it. -/
def readPlainGap (least : Int) (fuel : Nat) (g : PlainGap) : Option PlainGap :=
  match fuel, g.place.rest with
  | fuel + 1, c :: _ =>
    if c = '\n' then readPlainGap least fuel ⟨[], g.count + 1, g.place.newLine⟩
    else if !isBlank c then some g
    else if !g.place.fresh then
      readPlainGap least fuel { g with blanks := g.blanks ++ [c], place := g.place.dropBlanks 1 }
    else if c = '\t' ∧ (g.place.column : Int) < least then
      match g.place.skipIndentTab with
      | some p => readPlainGap least fuel { g with place := p }
      | none => none
    else readPlainGap least fuel { g with place := g.place.dropBlanks 1 }
  | _, _ => some g

/-- Reads the words of a plain scalar; `acc` holds what was read, and `between` what the gap
in front of the next word stands for. -/
def readPlainFrom (flow : Bool) (least : Int) (fuel : Nat) (acc between : List Char) (p : Place) :
    Option (List Char × Place) :=
  match fuel with
  | 0 => none
  | fuel + 1 =>
    if p.atMark || p.rest.head? == some '#' then some (acc, p)
    else if flow && p.rest.head? == some '-' && startsFlowMark (p.rest.drop 1) then none
    else
      let word := plainWord flow p.rest
      let (acc, p) :=
        if word.isEmpty then (acc, p) else (acc ++ between ++ word, p.drop word.length)
      if p.rest.isEmpty || !startsGap p.rest then some (acc, p)
      else
        match readPlainGap least p.rest.length ⟨[], 0, p⟩ with
        | none => none
        | some g =>
          if !flow && (g.place.column : Int) < least then some (acc, g.place)
          else
            let between := if g.count = 0 then g.blanks else foldedBreaks g.count
            readPlainFrom flow least fuel acc between g.place

/-- Reads a plain scalar in a block whose lines stand in column `indent`. -/
def readPlain (flow : Bool) (indent : Int) (p : Place) : Option (List Char × Place) :=
  if flow && (p.column : Int) < indent + 1 then none
  else readPlainFrom flow (indent + 1) (p.rest.length + 1) [] [] p

/-! ### Quoted scalars -/

/-- The character that an escape of one letter stands for. -/
def letterEscape? : Char → Option Char
  | '0' => some (Char.ofNat 0)
  | 'a' => some '\x07'
  | 'b' => some '\x08'
  | 't' => some '\t'
  | '\t' => some '\t'
  | 'n' => some '\n'
  | 'v' => some '\x0b'
  | 'f' => some '\x0c'
  | 'r' => some '\r'
  | 'e' => some '\x1b'
  | ' ' => some ' '
  | '"' => some '"'
  | '/' => some '/'
  | '\\' => some '\\'
  | 'N' => some '\u0085'
  | '_' => some '\u00a0'
  | 'L' => some '\u2028'
  | 'P' => some '\u2029'
  | _ => none

/-- The number of hexadecimal digits behind the letter of an escape. -/
def escapeWidth? : Char → Option Nat
  | 'x' => some 2
  | 'u' => some 4
  | 'U' => some 8
  | _ => none

/-- Reads what follows a backslash: a character, and how many characters it is written with. -/
def readEscape : List Char → Option (Char × Nat)
  | [] => none
  | c :: rest =>
    match escapeWidth? c with
    | some width => do
      if rest.length < width then none
      let e ← charOfCode? (← hexValue? (rest.take width))
      some (e, width + 1)
    | none => (letterEscape? c).map (·, 1)

/-- What stands between two words of a quoted scalar. -/
structure QuotedGap where
  blanks : List Char
  /-- A backslash has taken the first line end away. -/
  escaped : Bool
  count : Nat
  place : Place

/-- Reads the blanks and line ends of a quoted scalar.  No tab may stand in front of column
`indent` of a further line. -/
def readQuotedGap (indent : Int) (fuel : Nat) (g : QuotedGap) : Option QuotedGap :=
  match fuel, g.place.rest with
  | fuel + 1, c :: _ =>
    if c = '\n' then
      readQuotedGap indent fuel
        { g with blanks := [], count := g.count + 1, place := g.place.newLine }
    else if !isBlank c then some g
    else if !g.escaped && g.count == 0 then
      readQuotedGap indent fuel { g with blanks := g.blanks ++ [c], place := g.place.dropBlanks 1 }
    else if c = '\t' ∧ (g.place.column : Int) < indent then none
    else readQuotedGap indent fuel { g with place := g.place.dropBlanks 1 }
  | _, _ => some g

/-- What the gap stands for. -/
def QuotedGap.text (g : QuotedGap) : List Char :=
  if g.escaped then breaks g.count
  else if g.count = 0 then g.blanks
  else foldedBreaks g.count

/-- Reads characters other than blanks up to a gap or to the closing quote; tells whether a
backslash stands at the end of the line. -/
def readQuotedWord (quote : Char) (fuel : Nat) (acc : List Char) (p : Place) :
    Option (List Char × Bool × Place) :=
  match fuel, p.rest with
  | fuel + 1, c :: rest =>
    if isGap c then some (acc.reverse, false, p)
    else if c = quote then
      if quote = '\'' ∧ rest.head? = some '\'' then
        readQuotedWord quote fuel (c :: acc) (p.drop 2)
      else some (acc.reverse, false, p)
    else if c = '\\' ∧ quote = '"' then
      match rest with
      | '\n' :: _ => some (acc.reverse, true, (p.drop 1).newLine)
      | rest =>
        match readEscape rest with
        | some (e, width) => readQuotedWord quote fuel (e :: acc) (p.drop (width + 1))
        | none => none
    else readQuotedWord quote fuel (c :: acc) (p.drop 1)
  | _, _ => some (acc.reverse, false, p)

/-- Reads the rest of a quoted scalar up to its closing quote.  Its lines stand in column
`indent` or behind it, and none is a mark between documents. -/
def readQuotedFrom (quote : Char) (indent : Int) (fuel : Nat) (acc : List Char) (p : Place) :
    Option (List Char × Place) :=
  match fuel with
  | 0 => none
  | fuel + 1 =>
    if p.atMark || p.rest.isEmpty || decide ((p.column : Int) < indent) then none
    else
      match readQuotedWord quote (p.rest.length + 1) [] p with
      | none => none
      | some (word, escaped, p) =>
        if p.rest.head? = some quote then some (acc ++ word, p.drop 1)
        else
          match readQuotedGap indent p.rest.length ⟨[], escaped, 0, p⟩ with
          | none => none
          | some g => readQuotedFrom quote indent fuel (acc ++ word ++ g.text) g.place

/-- What may stand behind the closing quote of a scalar that started in line `line`. -/
def endsQuoted (flow : Bool) (line : Nat) (p : Place) : Bool :=
  match p.rest with
  | [] => true
  | c :: _ =>
    c == '\n' || (flow && (c == ',' || c == '\x7d' || c == ']')) ||
      (c == ':' && (flow || line == p.line))

/-- Reads a scalar between quotes, and the blanks and the comment behind it. -/
def readQuoted (flow : Bool) (indent : Int) (p : Place) : Option (List Char × Place) :=
  match p.rest with
  | [] => none
  | quote :: _ => do
    let (t, q) ← readQuotedFrom quote indent (p.rest.length + 1) [] (p.drop 1)
    let q ← q.skipToLineEnd
    if endsQuoted flow p.line q then some (t, q) else none

/-! ### Blocks of lines -/

/-- What happens to the line ends at the end of a block. -/
inductive Chomping where
  | strip
  | clip
  | keep
deriving DecidableEq, Repr

/-- The sign that tells what happens to line ends. -/
def chomping? : Char → Option Chomping
  | '+' => some .keep
  | '-' => some .strip
  | _ => none

/-- Reads the header of a block behind its first character: a sign and a digit from 1 to 9, both
optional, in either order. -/
def readBlockHeader (p : Place) : Option (Chomping × Nat × Place) :=
  match p.rest with
  | [] => some (.clip, 0, p)
  | c :: rest =>
    match chomping? c with
    | some chomping =>
      match rest with
      | d :: _ =>
        if d = '0' then none
        else if isDigit d then some (chomping, digitValue d, p.drop 2)
        else some (chomping, 0, p.drop 1)
      | [] => some (chomping, 0, p.drop 1)
    | none =>
      if c = '0' then none
      else if isDigit c then
        match (rest.head?).bind chomping? with
        | some chomping => some (chomping, digitValue c, p.drop 2)
        | none => some (.clip, digitValue c, p.drop 1)
      else some (.clip, 0, p)

/-- Skips empty lines, and the blanks of the next one in front of column `indent`; counts
the lines. -/
def skipBlockIndent (indent fuel count : Nat) (p : Place) : Nat × Place :=
  match fuel with
  | 0 => (count, p)
  | fuel + 1 =>
    let blanks := (p.rest.takeWhile (· == ' ')).length
    let p := p.dropBlanks (min blanks (indent - p.column))
    match p.rest with
    | '\n' :: _ => skipBlockIndent indent fuel (count + 1) p.newLine
    | _ => (count, p)

/-- Skips empty lines and all blanks of the next one; counts the lines, and finds the column
behind the longest row of blanks. -/
def findBlockIndent (fuel widest count : Nat) (p : Place) : Nat × Nat × Place :=
  match fuel with
  | 0 => (widest, count, p)
  | fuel + 1 =>
    let p := p.dropBlanks (p.rest.takeWhile (· == ' ')).length
    let widest := max widest p.column
    match p.rest with
    | '\n' :: _ => findBlockIndent fuel widest (count + 1) p.newLine
    | _ => (widest, count, p)

/-- The lines of a block as far as they are read: the text, whether a line end stands behind
it, how many empty lines do, and whether the last line started with a blank. -/
structure BlockLines where
  text : List Char := []
  ended : Bool := false
  empty : Nat
  deep : Bool := false
  place : Place

/-- Reads the lines of a block in column `indent`. -/
def readBlockLines (folded : Bool) (indent fuel : Nat) (b : BlockLines) : BlockLines :=
  match fuel with
  | 0 => b
  | fuel + 1 =>
    let p := b.place
    if p.column ≠ indent ∨ p.rest.isEmpty ∨ (indent = 0 ∧ p.hasMark '.') then b
    else
      let deep := (p.rest.head?.map isBlank).getD false
      let between :=
        if folded && b.ended && !b.deep && !deep then
          if b.empty = 0 then [' '] else breaks b.empty
        else breaks (b.empty + if b.ended then 1 else 0)
      let text := b.text ++ between ++ p.rest.takeWhile (· != '\n')
      let p := p.toLineEnd
      if p.rest.isEmpty then ⟨text, false, 0, deep, p⟩
      else
        let (empty, p) := skipBlockIndent indent (p.rest.length + 1) 0 p.newLine
        readBlockLines folded indent fuel ⟨text, true, empty, deep, p⟩

/-- The text of a block, given how its end is treated and the column of its lines. -/
def BlockLines.chomped (b : BlockLines) (chomping : Chomping) (indent : Nat) : List Char :=
  let ended := breaks (if b.ended then 1 else 0)
  let last := breaks (if b.place.rest.isEmpty ∧ max indent 1 ≤ b.place.column then 1 else 0)
  match chomping with
  | .strip => b.text
  | .clip => b.text ++ ended ++ last
  | .keep => b.text ++ ended ++ last ++ breaks b.empty

/-- The text of a block without lines, behind so many empty ones; `ended` tells that a
line end stands behind its header. -/
def emptyBlock (chomping : Chomping) (ended : Bool) (empty : Nat) : List Char :=
  match chomping, ended with
  | .strip, _ => []
  | _, false => []
  | .clip, true => breaks 1
  | .keep, true => breaks (max 1 empty)

/-- Reads a scalar of whole lines in a block whose lines stand in column `indent`. -/
def readBlock (indent : Int) (p : Place) : Option (List Char × Place) := do
  let folded := p.rest.head? == some '>'
  let (chomping, increment, q) ← readBlockHeader (p.drop 1)
  let q ← q.skipToLineEnd
  if !endsLine q.rest then none
  let ended := !q.rest.isEmpty
  let q := if ended then q.newLine else q
  if q.rest.head? = some '\t' then none
  let fuel := q.rest.length + 1
  let (column, empty, q) : Nat × Nat × Place :=
    if increment = 0 then
      let (widest, empty, q) := findBlockIndent fuel 0 0 q
      (max (max widest (indent + 1).toNat) (if 0 < indent then 1 else 0), empty, q)
    else
      let column := (max indent 0).toNat + increment
      let (empty, q) := skipBlockIndent column fuel 0 q
      (column, empty, q)
  if q.rest.isEmpty then some (emptyBlock chomping ended empty, q)
  else if q.column < column ∧ indent < (q.column : Int) then none
  else
    let b := readBlockLines folded column fuel { empty, place := q }
    some (b.chomped chomping column, b.place)

end CashMachine.Document.Yaml
