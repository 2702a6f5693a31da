/-
Texts in lower case, as far as words of ASCII letters are concerned: the
capital letters from A to Z and the sign of the kelvin, which is a capital K.
No other character has an ASCII letter as its small form.
-/

namespace CashMachine.Text

def lowerChar (c : Char) : Char :=
  if 'A' ≤ c ∧ c ≤ 'Z' then Char.ofNat (c.toNat + 32)
  else if c = '\u212a' then 'k'
  else c

def lowerChars (s : List Char) : List Char :=
  s.map lowerChar

/-- A text in lower case. -/
def lower (s : String) : String :=
  String.ofList (lowerChars s.toList)

end CashMachine.Text
