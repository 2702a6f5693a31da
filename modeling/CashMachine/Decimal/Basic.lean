/-
Exact decimal amounts: a sign, a magnitude of at most 96 bits, and a power of
ten with an exponent of at most 28 to divide it by.

The same number has several amounts (`1.5` and `1.50`, `0` and `-0.0`); the scale
is kept by every operation that can keep it, and so is the sign of a zero.
Comparison looks at the number alone.

* `Decimal.compareTo`, `≤`, `<` — comparison of the numbers;
* `Decimal.roundHalfEven` — a quotient rounded to the nearest whole number, a
  tie to the even neighbour;
* `Decimal.round` — fewer fraction digits, rounded so;
* `Decimal.wholeUnits?` — the amount as a natural number below 2⁶⁴.

Main statements: `coefficient_ofCoefficient` — an amount made of a whole number
holds that number; `roundHalfEven_dist` — the rounded quotient is at most half a
unit away.
-/
import CashMachine.Nat32
import CashMachine.Power

namespace CashMachine

/-- A decimal amount: `± magnitude / 10 ^ scale`. -/
structure Decimal where
  negative : Bool
  magnitude : Nat
  scale : Nat
  magnitude_le : magnitude ≤ 79228162514264337593543950335 := by omega
  scale_le : scale ≤ 28 := by omega
deriving DecidableEq, Repr

namespace Decimal

/-- The largest magnitude, 2⁹⁶ − 1. -/
def maxCoefficient : Nat := 79228162514264337593543950335

/-- The most fraction digits an amount can have. -/
def maxScale : Nat := 28

theorem ext {a b : Decimal} (hn : a.negative = b.negative) (hm : a.magnitude = b.magnitude)
    (hs : a.scale = b.scale) : a = b := by
  cases a; cases b; cases hn; cases hm; cases hs; rfl

/-- The magnitude with its sign. -/
def coefficient (a : Decimal) : Int :=
  if a.negative then -(a.magnitude : Int) else a.magnitude

/-- The amount with the given coefficient and scale; a zero has no minus sign. -/
def ofCoefficient (coefficient : Int) (scale : Nat) (hc : coefficient.natAbs ≤ maxCoefficient)
    (hs : scale ≤ maxScale) : Decimal :=
  ⟨coefficient < 0, coefficient.natAbs, scale, hc, hs⟩

@[simp] theorem coefficient_ofCoefficient (c : Int) (s : Nat) (hc : c.natAbs ≤ maxCoefficient)
    (hs : s ≤ maxScale) : (ofCoefficient c s hc hs).coefficient = c := by
  simp only [coefficient, ofCoefficient, decide_eq_true_eq]
  split <;> omega

@[simp] theorem scale_ofCoefficient (c : Int) (s : Nat) (hc : c.natAbs ≤ maxCoefficient)
    (hs : s ≤ maxScale) : (ofCoefficient c s hc hs).scale = s := rfl

theorem natAbs_coefficient (a : Decimal) : a.coefficient.natAbs = a.magnitude := by
  unfold coefficient
  split <;> omega

theorem natAbs_coefficient_le (a : Decimal) : a.coefficient.natAbs ≤ maxCoefficient := by
  rw [natAbs_coefficient]
  exact a.magnitude_le

/-- The amount with the given coefficient and scale, if it is in range. -/
def mk? (coefficient : Int) (scale : Nat) : Option Decimal :=
  if h : coefficient.natAbs ≤ maxCoefficient ∧ scale ≤ maxScale then
    some (ofCoefficient coefficient scale h.1 h.2)
  else
    none

/-- The amount with another number of fraction digits, if there can be as many. -/
def withScale? (a : Decimal) (scale : Nat) : Option Decimal :=
  if h : scale ≤ maxScale then some { a with scale, scale_le := h } else none

/-- A whole amount in range. -/
def ofNat (n : Nat) (h : n ≤ maxCoefficient) : Decimal :=
  ⟨false, n, 0, h, by omega⟩

instance : OfNat Decimal 0 := ⟨⟨false, 0, 0, by decide, by decide⟩⟩

instance : Inhabited Decimal := ⟨0⟩

@[simp] theorem coefficient_zero : (0 : Decimal).coefficient = 0 := rfl

/-! ### Comparison -/

/-- The coefficient of the amount at a scale that is not smaller. -/
def coefficientAt (a : Decimal) (scale : Nat) : Int :=
  a.coefficient * (tenTo (scale - a.scale) : Nat)

/-- Which of two amounts is the larger number. -/
def compareTo (a b : Decimal) : Ordering :=
  let s := max a.scale b.scale
  compare (a.coefficientAt s) (b.coefficientAt s)

instance : LT Decimal := ⟨fun a b => a.compareTo b = .lt⟩

instance : LE Decimal := ⟨fun a b => a.compareTo b ≠ .gt⟩

instance (a b : Decimal) : Decidable (a < b) :=
  inferInstanceAs (Decidable (a.compareTo b = .lt))

instance (a b : Decimal) : Decidable (a ≤ b) :=
  inferInstanceAs (Decidable (a.compareTo b ≠ .gt))

/-- The two amounts are the same number. -/
def equals (a b : Decimal) : Bool :=
  a.compareTo b == .eq

/-- The number is zero, whatever its sign. -/
def isZero (a : Decimal) : Bool :=
  a.magnitude == 0

/-- Less than zero; a zero with a minus sign is not. -/
def isNegative (a : Decimal) : Bool :=
  a.coefficient < 0

/-- Neither negative nor zero. -/
def isPositive (a : Decimal) : Bool :=
  0 < a.coefficient

/-! ### Rounding -/

/-- The whole number nearest to `n / d`; of two equally near ones the even one. -/
def roundHalfEven (n : Int) (d : Nat) : Int :=
  let q := n / d
  let r := n % d
  if 2 * r < d then q
  else if (d : Int) < 2 * r then q + 1
  else if q % 2 = 0 then q else q + 1

theorem roundHalfEven_dist (n : Int) {d : Nat} (hd : 0 < d) :
    2 * (roundHalfEven n d * d - n).natAbs ≤ d := by
  have h1 := Int.mul_ediv_add_emod n d
  have h2 := Int.emod_nonneg n (by omega : (d : Int) ≠ 0)
  have h3 := Int.emod_lt_of_pos n (by omega : (0 : Int) < d)
  rw [Int.mul_comm] at h1
  have h4 : (n / d + 1) * (d : Int) = n / d * d + d := by rw [Int.add_mul, Int.one_mul]
  unfold roundHalfEven
  simp only
  split
  · omega
  · split
    · rw [h4]; omega
    · split
      · omega
      · rw [h4]; omega

theorem roundHalfEven_one (n : Int) : roundHalfEven n 1 = n := by
  simp [roundHalfEven]

theorem natAbs_roundHalfEven_le (n : Int) {d : Nat} (hd : 0 < d) :
    (roundHalfEven n d).natAbs ≤ n.natAbs := by
  by_cases h1 : d = 1
  · subst h1
    exact Nat.le_of_eq (congrArg Int.natAbs (roundHalfEven_one n))
  · have h := roundHalfEven_dist n hd
    have hm : (roundHalfEven n d * d).natAbs = (roundHalfEven n d).natAbs * d := by
      rw [Int.natAbs_mul, Int.natAbs_natCast]
    generalize hr : roundHalfEven n d = r at *
    by_cases hz : r.natAbs = 0
    · omega
    · have h2 : r.natAbs * 2 ≤ r.natAbs * d := Nat.mul_le_mul_left _ (by omega)
      by_cases hle : r.natAbs ≤ n.natAbs
      · exact hle
      · exfalso
        have h3 : (n.natAbs + 1) * d ≤ r.natAbs * d := Nat.mul_le_mul_right _ (by omega)
        have h4 : (n.natAbs + 1) * d = n.natAbs * d + d := by rw [Nat.add_mul, Nat.one_mul]
        have h5 : n.natAbs * 2 ≤ n.natAbs * d := Nat.mul_le_mul_left _ (by omega)
        omega

/-- The amount with at most `places` fraction digits, rounded to the nearest
with a tie to the even neighbour.  An amount with fewer digits stays as it is,
and a zero keeps its sign. -/
def round (a : Decimal) (places : Nat) : Decimal :=
  if a.scale ≤ places then a
  else if a.isZero then
    { a with scale := min places a.scale
             scale_le := Nat.le_trans (Nat.min_le_right _ _) a.scale_le }
  else
    ofCoefficient (roundHalfEven a.coefficient (tenTo (a.scale - places))) (min places a.scale)
      (Nat.le_trans (natAbs_roundHalfEven_le _ (tenTo_pos _)) a.natAbs_coefficient_le)
      (Nat.le_trans (Nat.min_le_right _ _) a.scale_le)

/-- The whole part of an amount: its fraction is dropped. -/
def truncate (a : Decimal) : Decimal :=
  ⟨a.negative, a.magnitude / tenTo a.scale, 0,
    Nat.le_trans (Nat.div_le_self _ _) a.magnitude_le, by omega⟩

/-- The amount without zeros at the end of its fraction; a zero loses its sign. -/
def stripZeros (a : Decimal) : Decimal :=
  if a.isZero then 0 else go a.negative a.magnitude a.scale a.magnitude_le a.scale_le
where
  go (negative : Bool) (m s : Nat) (hm : m ≤ maxCoefficient) (hs : s ≤ maxScale) : Decimal :=
    match s, hs with
    | 0, hs => ⟨negative, m, 0, hm, hs⟩
    | s + 1, hs =>
      if m % 10 = 0 then
        go negative (m / 10) s (Nat.le_trans (Nat.div_le_self _ _) hm) (Nat.le_of_succ_le hs)
      else ⟨negative, m, s + 1, hm, hs⟩

/-! ### Whole amounts -/

/-- The amount as a natural number below 2⁶⁴, if it is one and has no minus sign. -/
def wholeUnits? (a : Decimal) : Option Nat :=
  let d := tenTo a.scale
  if a.negative ∨ a.magnitude % d ≠ 0 then none
  else
    let n := a.magnitude / d
    if n < 18446744073709551616 then some n else none

/-- The whole part of an amount as a number of 32 bits, if it is one and the amount has
no minus sign. -/
def wholePart32? (a : Decimal) : Option Nat32 :=
  if a.negative then none else Nat32.ofNat? (a.magnitude / tenTo a.scale)

end Decimal

end CashMachine
