/-
Sums and differences of decimal amounts.

A sum is exact at the larger of the two scales.  Where the exact coefficient
has more than 96 bits, as few fraction digits as possible are dropped, and the
exact sum is rounded once, a tie to the even neighbour; where dropping all of
them is not enough there is no sum.  Adding zero changes neither the number
nor the sign nor the scale of the other amount.

Main statements: `fit_of_le` — a coefficient in range is kept as it is;
`add?_zero`, `zero_add?` — zero is neutral on both sides, scale included.
-/
import CashMachine.Decimal.Basic

namespace CashMachine.Decimal

/-- The amount with the coefficient `exact` rounded to `dropped` digits fewer, and `left`
fraction digits; where it does not fit, with still fewer digits. -/
def fitFrom (exact : Int) : Nat → Nat → Option Decimal
  | 0, dropped => mk? (roundHalfEven exact (tenTo dropped)) 0
  | left + 1, dropped =>
    match mk? (roundHalfEven exact (tenTo dropped)) (left + 1) with
    | some a => some a
    | none => fitFrom exact left (dropped + 1)

/-- The amount `exact / 10 ^ scale`, with as few digits rounded away as possible. -/
def fit (exact : Int) (scale : Nat) : Option Decimal :=
  fitFrom exact scale 0

theorem fit_of_le {exact : Int} {scale : Nat} (hc : exact.natAbs ≤ maxCoefficient)
    (hs : scale ≤ maxScale) : fit exact scale = some (ofCoefficient exact scale hc hs) := by
  have h : mk? (roundHalfEven exact (tenTo 0)) scale =
      some (ofCoefficient exact scale hc hs) := by
    simp only [tenTo_zero, roundHalfEven_one, mk?, dif_pos (And.intro hc hs)]
  cases scale with
  | zero => exact h
  | succ left => rw [fit, fitFrom, h]

/-- The sum of two amounts, if its whole part is in range. -/
def add? (a b : Decimal) : Option Decimal :=
  if a.isZero then some b
  else if b.isZero then some a
  else
    let s := max a.scale b.scale
    fit (a.coefficientAt s + b.coefficientAt s) s

/-- The amount with the opposite sign; a zero keeps its own. -/
def neg (a : Decimal) : Decimal :=
  if a.isZero then a else { a with negative := !a.negative }

/-- The difference of two amounts, if its whole part is in range. -/
def sub? (a b : Decimal) : Option Decimal :=
  add? a b.neg

theorem zero_add? {a : Decimal} (h : a.isZero = true) (b : Decimal) : add? a b = some b := by
  simp [add?, h]

theorem add?_zero (a : Decimal) {b : Decimal} (ha : a.isZero = false) (hb : b.isZero = true) :
    add? a b = some a := by
  simp [add?, ha, hb]

/-- The sum of a row of amounts, from zero and left to right. -/
def sum? (amounts : List Decimal) : Option Decimal :=
  amounts.foldlM add? 0

end CashMachine.Decimal
