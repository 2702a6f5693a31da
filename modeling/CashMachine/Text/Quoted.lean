/-
Texts between quotation marks, as they stand in messages.

A quotation mark, a backslash, the three usual control characters and the
null character have escapes of one letter; every other hidden character is
written by its code point, `\u{7f}`; all else stands for itself.
-/
import CashMachine.Text.Printable

namespace CashMachine.Text

/-- The code point of a character in hexadecimal, between `\u{` and `}`. -/
def codePointEscape (c : Char) : List Char :=
  ['\\', 'u', '\x7b'] ++ Nat.toDigits 16 c.toNat ++ ['\x7d']

/-- A character of a quoted text. -/
def quotedChar (c : Char) : List Char :=
  if c = '"' then ['\\', '"']
  else if c = '\\' then ['\\', '\\']
  else if c = '\n' then ['\\', 'n']
  else if c = '\r' then ['\\', 'r']
  else if c = '\t' then ['\\', 't']
  else if c.toNat = 0 then ['\\', '0']
  else if isHidden c then codePointEscape c
  else [c]

/-- The characters of a text as they are quoted. -/
def quotedChars (s : List Char) : List Char :=
  s.flatMap quotedChar

def quoted (s : String) : String :=
  String.ofList ('"' :: quotedChars s.toList ++ ['"'])

end CashMachine.Text
