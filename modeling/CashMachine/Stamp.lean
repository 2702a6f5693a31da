/-
Names and times for new transactions.

A name is twelve hexadecimal digits, eight and four of them with a hyphen
between (`TransactionId.ofNumber`).  A series of stamps (`Stamp.series`) counts
from a seed in steps of an odd number, so that a name comes back only after
all others.

Main statements: `hexDigits_injective` — different numbers have different digits;
`length_hexDigits` — as many digits as asked for.
-/
import CashMachine.Transaction

namespace CashMachine

namespace TransactionId

/-- The hexadecimal digit of a value below sixteen. -/
def hexDigit (n : Nat) : Char :=
  if n < 10 then Char.ofNat (48 + n) else Char.ofNat (55 + n)

def hexDigitValue (c : Char) : Nat :=
  if c.toNat < 58 then c.toNat - 48 else c.toNat - 55

theorem hexDigitValue_hexDigit {n : Nat} (h : n < 16) : hexDigitValue (hexDigit n) = n := by
  have all : ∀ n < 16, hexDigitValue (hexDigit n) = n := by decide
  exact all n h

/-- The last hexadecimal digits of a number, as many as asked for. -/
def hexDigits : Nat → Nat → List Char
  | 0, _ => []
  | width + 1, n => hexDigits width (n / 16) ++ [hexDigit (n % 16)]

theorem length_hexDigits (width n : Nat) : (hexDigits width n).length = width := by
  induction width generalizing n with
  | zero => rfl
  | succ width ih => simp [hexDigits, ih]

theorem hexDigits_injective {width n m : Nat} (hn : n < Nat.pow 16 width)
    (hm : m < Nat.pow 16 width) (h : hexDigits width n = hexDigits width m) : n = m := by
  induction width generalizing n m with
  | zero =>
    have hn' : n < 1 := hn
    have hm' : m < 1 := hm
    omega
  | succ width ih =>
    rw [hexDigits, hexDigits] at h
    have hlen : (hexDigits width (n / 16)).length = (hexDigits width (m / 16)).length := by
      rw [length_hexDigits, length_hexDigits]
    obtain ⟨h1, h2⟩ := List.append_inj h hlen
    have hdigit : n % 16 = m % 16 := by
      have := congrArg hexDigitValue (List.singleton_inj.1 h2)
      rwa [hexDigitValue_hexDigit (Nat.mod_lt _ (by decide)),
        hexDigitValue_hexDigit (Nat.mod_lt _ (by decide))] at this
    have hq : n / 16 = m / 16 := by
      -- one digit fewer leaves numbers sixteen times smaller
      have hn' : n < Nat.pow 16 width * 16 := hn
      have hm' : m < Nat.pow 16 width * 16 := hm
      exact ih (Nat.div_lt_of_lt_mul (by omega)) (Nat.div_lt_of_lt_mul (by omega)) h1
    omega

/-- The number of names. -/
def count : Nat := 281474976710656

def ofNumber (n : Nat) : TransactionId :=
  let ds := hexDigits 12 n
  String.ofList (ds.take 8 ++ '-' :: ds.drop 8)

/-- A character of a name. -/
def isHexDigit (c : Char) : Bool :=
  ('0' ≤ c && c ≤ '9') || ('A' ≤ c && c ≤ 'F')

/-- Eight hexadecimal digits, a hyphen and four more. -/
def isWellFormed (id : TransactionId) : Bool :=
  let s := id.toList
  s.length = 13 && s[8]? = some '-' && (s.take 8 ++ s.drop 9).all isHexDigit

end TransactionId

namespace Stamp

/-- The stamps of one run: their names are counted from a seed. -/
def series (seed : Nat) (time : Instant) (n : Nat) : Stamp :=
  ⟨TransactionId.ofNumber ((seed + n * 104395301) % TransactionId.count), time⟩

end Stamp

end CashMachine
