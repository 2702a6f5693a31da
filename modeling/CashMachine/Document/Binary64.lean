/-
Binary floating-point numbers of 64 bits, as they stand in configuration
files: 53 bits of mantissa, exponents from −1074 to 971, the two infinities
and one not-a-number.  Everything is exact arithmetic on whole numbers.

* `Binary64.ofRatio` — the number nearest to a quotient, ties to even;
* `Binary64.ofRatioSingle` — the number of 32 bits nearest to it;
* `Binary64.read?` — the number nearest to a decimal text;
* `Binary64.text` — the fewest decimal digits that read back, written without
  exponent;
* `Binary64.nearestInt` — the nearest whole number, a half away from zero.
-/
import CashMachine.Power
import CashMachine.Text.Digits

namespace CashMachine

/-- A number `± mantissa · 2 ^ exponent`, an infinity, or no number. -/
inductive Binary64 where
  | finite (negative : Bool) (mantissa : Nat) (exponent : Int)
  | infinite (negative : Bool)
  | nan
deriving DecidableEq, Repr

namespace Binary64

/-- A quotient of two natural numbers times a power of two, as a quotient. -/
def shiftRatio (n d : Nat) (e : Int) : Nat × Nat :=
  if e < 0 then (n, d * twoTo (-e).toNat) else (n * twoTo e.toNat, d)

/-- The quotient rounded to the nearest natural number, a tie to the even one. -/
def nearestEven (n d : Nat) : Nat :=
  let q := n / d
  let r := n % d
  if 2 * r < d then q else if d < 2 * r then q + 1 else if q % 2 = 0 then q else q + 1

/-- The numbers of one width: how many bits a mantissa has, and the least and the greatest
exponent. -/
structure Width where
  bits : Nat
  least : Int
  greatest : Int

/-- Numbers of 64 bits. -/
def double : Width := ⟨53, -1074, 971⟩

/-- Numbers of 32 bits. -/
def single : Width := ⟨24, -149, 104⟩

/-- The least exponent at which the quotient has no more bits before the point than a
mantissa has. -/
def Width.exponentOf (w : Width) (n d : Nat) : Int :=
  let e := max w.least ((Nat.log2 n : Int) - Nat.log2 d - w.bits)
  let (n, d) := shiftRatio n d (-e)
  if n / d < twoTo w.bits then e else e + 1

/-- The mantissa and the exponent of the number nearest to `n / d`, unless that is beyond the
largest; of two equally near ones the one with the even mantissa. -/
def Width.nearest? (w : Width) (n d : Nat) : Option (Nat × Int) :=
  let e := w.exponentOf n d
  let (n, d) := shiftRatio n d (-e)
  let m := nearestEven n d
  let (m, e) := if m = twoTo w.bits then (twoTo (w.bits - 1), e + 1) else (m, e)
  if w.greatest < e then none else some (m, e)

/-- The number nearest to `n / d`; of two equally near ones the one with the even mantissa. -/
def ofRatio (negative : Bool) (n d : Nat) : Binary64 :=
  if n = 0 then .finite negative 0 0
  else
    match double.nearest? n d with
    | some (m, e) => .finite negative m e
    | none => .infinite negative

/-- The number of 32 bits nearest to `n / d`. -/
def ofRatioSingle (negative : Bool) (n d : Nat) : Binary64 :=
  if n = 0 then .finite negative 0 0
  else
    match single.nearest? n d with
    | some (m, e) =>
      let (n, d) := shiftRatio m 1 e
      ofRatio negative n d
    | none => .infinite negative

/-- How a quotient is rounded, given its sign. -/
abbrev Rounding := Bool → Nat → Nat → Binary64

/-- The number that `n · 10 ^ e` is rounded to. -/
def ofScientificBy (round : Rounding) (negative : Bool) (n : Nat) (e : Int) : Binary64 :=
  if e < 0 then round negative n (tenTo (-e).toNat) else round negative (n * tenTo e.toNat) 1

/-- The number nearest to `n · 10 ^ e`. -/
def ofScientific (negative : Bool) (n : Nat) (e : Int) : Binary64 :=
  ofScientificBy ofRatio negative n e

/-- The number that `± ds · 10 ^ e` is rounded to.  One that is far too small or far too large
is settled by the place of its first digit. -/
def ofDigitsBy (round : Rounding) (negative : Bool) (ds : List Char) (e : Int) : Binary64 :=
  let n := Text.digitsValue 0 ds
  let top := e + ds.length - (ds.takeWhile (· == '0')).length
  if n = 0 ∨ top < -400 then .finite negative 0 0
  else if 400 < top then .infinite negative
  else ofScientificBy round negative n e

/-- The number nearest to `± ds · 10 ^ e`. -/
def ofDigits (negative : Bool) (ds : List Char) (e : Int) : Binary64 :=
  ofDigitsBy ofRatio negative ds e

/-- Reads digits with a sign, a point and an exponent, of which only one digit on either
side of the point is needed. -/
def readBy? (round : Rounding) (s : List Char) : Option Binary64 :=
  let (negative, s) := signed s
  let ds := s.takeWhile Text.isDigit
  let (fs, s) := match s.dropWhile Text.isDigit with
    | '.' :: s => (s.takeWhile Text.isDigit, s.dropWhile Text.isDigit)
    | s => ([], s)
  if ds.isEmpty && fs.isEmpty then none
  else (exponent? s).map fun e => ofDigitsBy round negative (ds ++ fs) (e - fs.length)
where
  signed : List Char → Bool × List Char
    | '-' :: s => (true, s)
    | '+' :: s => (false, s)
    | s => (false, s)
  exponent? : List Char → Option Int
    | [] => some 0
    | c :: s =>
      if c = 'e' ∨ c = 'E' then
        let (negative, ds) := signed s
        (Text.natOfDigits? ds).map fun n => if negative then -(n : Int) else n
      else none

/-- Reads the number nearest to a decimal text. -/
def read? (s : List Char) : Option Binary64 :=
  readBy? ofRatio s

/-- Reads the number of 32 bits nearest to a decimal text. -/
def readSingle? (s : List Char) : Option Binary64 :=
  readBy? ofRatioSingle s

/-- The number without its sign as a quotient, if it is finite. -/
def ratio? : Binary64 → Option (Nat × Nat)
  | .finite _ m e => some (shiftRatio m 1 e)
  | _ => none

def isNegative : Binary64 → Bool
  | .finite s _ _ => s
  | .infinite s => s
  | .nan => false

/-! ### Whole numbers -/

/-- The whole number nearest to a finite number, a half away from zero. -/
def nearestInt? (x : Binary64) : Option Int :=
  x.ratio?.map fun (n, d) =>
    let q : Int := ((2 * n + d) / (2 * d) : Nat)
    if x.isNegative then -q else q

/-- The whole number nearest to a number, kept between two bounds; not-a-number is zero. -/
def nearestIntWithin (lo hi : Int) (x : Binary64) : Int :=
  match x with
  | .nan => 0
  | .infinite s => if s then lo else hi
  | .finite .. => max lo (min hi (x.nearestInt?.getD 0))

/-! ### Shortest digits -/

/-- The interval of numbers that round to `mantissa · 2 ^ exponent`: its two ends
as multiples of `2 ^ (exponent - 2)`, and whether the ends belong to it. -/
def interval (m : Nat) (e : Int) : Nat × Nat × Bool :=
  let below := if m = 4503599627370496 ∧ -1074 < e then 4 * m - 1 else 4 * m - 2
  (below, 4 * m + 2, m % 2 = 0)

/-- The decimal `c · 10 ^ k` lies in the interval around `m · 2 ^ e`. -/
def readsBack (m : Nat) (e : Int) (c : Nat) (k : Int) : Bool :=
  let (lo, hi, closed) := interval m e
  -- both sides as whole multiples of the same small unit
  let (unit2, unitc) : Nat × Nat :=
    if e - 2 < 0 then (1, twoTo (2 - e).toNat) else (twoTo (e - 2).toNat, 1)
  let (scale2, scalec) : Nat × Nat :=
    if k < 0 then (tenTo (-k).toNat, 1) else (1, tenTo k.toNat)
  let x := c * unitc * scalec
  let a := lo * unit2 * scale2
  let b := hi * unit2 * scale2
  if closed then a ≤ x && x ≤ b else a < x && x < b

/-- The multiple of `10 ^ k` nearest to `n / d` among those that read back as
`m · 2 ^ e`, if there is one; of two equally near ones the larger. -/
def shortestAt (m : Nat) (e : Int) (n d : Nat) (k : Int) : Option Nat :=
  let (n, d) := if k < 0 then (n * tenTo (-k).toNat, d) else (n, d * tenTo k.toNat)
  let c := n / d
  let down := readsBack m e c k
  let up := readsBack m e (c + 1) k
  if down && up then some (if 2 * (n % d) < d then c else c + 1)
  else if down then some c
  else if up then some (c + 1)
  else none

/-- Searches finer and finer grids for the first one with a number that reads back. -/
def shortestFrom (m : Nat) (e : Int) (n d : Nat) (k : Int) : Nat → Nat × Int
  | 0 => (n / d, 0)
  | fuel + 1 =>
    match shortestAt m e n d k with
    | some c => (c, k)
    | none => shortestFrom m e n d (k - 1) fuel

/-- A decimal exponent that is at least that of `n / d`. -/
def decimalExponent (n d : Nat) : Int :=
  ((Text.digits n).length : Int) - (Text.digits d).length + 1

/-- The fewest digits `c` and the exponent `k` for which `c · 10 ^ k` reads back. -/
def shortest (m : Nat) (e : Int) : Nat × Int :=
  let (n, d) := shiftRatio m 1 e
  shortestFrom m e n d (decimalExponent n d) 24

/-- The digits of `c · 10 ^ k`, written without exponent. -/
def positional (c : Nat) (k : Int) : List Char :=
  if 0 ≤ k then Text.digits (c * tenTo k.toNat)
  else
    let places := (-k).toNat
    Text.digits (c / tenTo places) ++ '.' :: Text.paddedDigits places (c % tenTo places)

/-- The fewest decimal digits that read back, written without exponent. -/
def text : Binary64 → String
  | .nan => "NaN"
  | .infinite s => if s then "-inf" else "inf"
  | .finite s m e =>
    let digits := if m = 0 then ['0'] else
      let (c, k) := shortest m e
      positional c k
    String.ofList (if s then '-' :: digits else digits)

/-! ### Two roundings -/

/-- The product with a rounded power of ten, rounded again. -/
def timesPower (x : Binary64) (k : Nat) : Binary64 :=
  match x.ratio?, (ofScientific false 1 k).ratio? with
  | some (n, d), some (p, q) => ofRatio x.isNegative (n * p) (d * q)
  | _, _ => x

/-- The quotient by a rounded power of ten, rounded again. -/
def overPower (x : Binary64) (k : Nat) : Binary64 :=
  match x.ratio?, (ofScientific false 1 k).ratio? with
  | some (n, d), some (p, q) => ofRatio x.isNegative (n * q) (d * p)
  | _, _ => x

/-- A significand below 2⁶⁴ scaled by a power of ten: the significand is rounded
first, then its product or quotient.  There is no number beyond the largest. -/
def ofSignificand? (negative : Bool) (significand : Nat) (k : Int) : Option Binary64 :=
  let x := ofRatio negative significand 1
  if significand = 0 then some x
  else if 308 < k then none
  else if 0 ≤ k then
    match timesPower x k.toNat with
    | .infinite _ => none
    | y => some y
  else if -308 ≤ k then some (overPower x (-k).toNat)
  else if -616 ≤ k then some (overPower (overPower x 308) (-k - 308).toNat)
  else some (.finite negative 0 0)

end Binary64

end CashMachine
