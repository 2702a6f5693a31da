/-
Identifiers of all scripts: a letter first, then letters, marks, digits and
underscores.

Some characters are symbols by kind and letters by use, and others are letters
whose normal form is none; both are listed here.

* `startsIdentifier` — a character may stand first;
* `continuesIdentifier` — a character may stand behind the first one.
-/
import CashMachine.Text.Letters

namespace CashMachine.Text

/-- Symbols that count as letters. -/
def letterlikeRanges : Array (Nat × Nat) :=
  #[(0x1885, 0x1886), (0x2118, 0x2118), (0x212e, 0x212e)]

/-- Points and digits that count as marks. -/
def marklikeRanges : Array (Nat × Nat) :=
  #[(0xb7, 0xb7), (0x387, 0x387), (0x1369, 0x1371), (0x19da, 0x19da), (0x200c, 0x200d),
    (0x30fb, 0x30fb), (0xff65, 0xff65)]

/-- Letters whose normal form has a blank or a sign in it. -/
def unstableRanges : Array (Nat × Nat) :=
  #[(0x37a, 0x37a), (0x2e2f, 0x2e2f), (0xfc5e, 0xfc63), (0xfdfa, 0xfdfb), (0xfe70, 0xfe70),
    (0xfe72, 0xfe72), (0xfe74, 0xfe74), (0xfe76, 0xfe76), (0xfe78, 0xfe78), (0xfe7a, 0xfe7a),
    (0xfe7c, 0xfe7c), (0xfe7e, 0xfe7e)]

/-- Letters whose normal form starts with a mark. -/
def marklikeLetterRanges : Array (Nat × Nat) :=
  #[(0xe33, 0xe33), (0xeb3, 0xeb3), (0xff9e, 0xff9f)]

/-- The character may stand first in an identifier. -/
def startsIdentifier (c : Char) : Bool :=
  (isLetter c && !inRanges unstableRanges c.toNat && !inRanges marklikeLetterRanges c.toNat) ||
    inRanges letterlikeRanges c.toNat

/-- The character may stand behind the first one of an identifier. -/
def continuesIdentifier (c : Char) : Bool :=
  ((isLetter c || isMark c || isDecimalDigit c || isConnector c) &&
      !inRanges unstableRanges c.toNat) ||
    inRanges letterlikeRanges c.toNat || inRanges marklikeRanges c.toNat

end CashMachine.Text
