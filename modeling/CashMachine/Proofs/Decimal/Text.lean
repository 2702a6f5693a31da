/-
Amounts are read back from what is written.

The digits of an amount fit, so they are all taken, and the amount is read with the coefficient
and the scale it was written with; only a zero loses its sign.  A text with two fraction digits is
read as the cents of the amount: where digits were cut off, that is less than the amount was, and
zeros that were filled up change nothing, taken or not.

* `readFrom_append` — a row of digits that fit is taken as a whole;
* `readFrom_zeros` — zeros at the end do not change the number;
* `read?_text` — an amount in full;
* `exists_read?_moneyText`, `cents_eq_iff` — an amount with two fraction digits, and when it is
  the same number.
-/
import CashMachine.Decimal.Text
import CashMachine.Proofs.Decimal.Digits
import CashMachine.Proofs.Decimal.Sum

namespace CashMachine.Decimal

open CashMachine.Text

/-! ### Rows of digits -/

/-- What has been read after a row of digits that fit. -/
def Reading.after (r : Reading) (ds : List Char) : Reading where
  coefficient := digitsValue r.coefficient ds
  scale := if r.point then r.scale + ds.length else r.scale
  point := r.point
  digit := r.digit || !ds.isEmpty

/-- Digits that fit are all taken. -/
theorem readFrom_append {ds : List Char} (hd : ds.all isDigit = true) {r : Reading}
    (hc : digitsValue r.coefficient ds ≤ maxCoefficient)
    (hs : r.point = true → r.scale + ds.length ≤ maxScale) (rest : List Char) :
    readFrom r (ds ++ rest) = readFrom (r.after ds) rest := by
  induction ds generalizing r with
  | nil =>
    have hr : r.after [] = r := by
      obtain ⟨c, k, p, d⟩ := r
      cases p <;> simp [Reading.after, digitsValue]
    rw [List.nil_append, hr]
  | cons c ds ih =>
    rw [List.all_cons, Bool.and_eq_true] at hd
    rw [digitsValue_cons] at hc
    have hnext : ¬ maxCoefficient < 10 * r.coefficient + digitValue c :=
      Nat.not_lt.mpr (Nat.le_trans (le_digitsValue _ ds) hc)
    rw [List.cons_append, readFrom, if_pos hd.1]
    cases hp : r.point with
    | true =>
      have hlen := hs hp
      rw [List.length_cons] at hlen
      have hroom : ¬ (r.scale = maxScale ∨ maxCoefficient < 10 * r.coefficient + digitValue c) := by
        rintro (hfull | hlarge)
        · omega
        · exact hnext hlarge
      simp only [if_true, if_neg hroom]
      have hlonger : r.scale + 1 + ds.length ≤ maxScale := by omega
      rw [ih hd.2 hc fun _ => hlonger]
      congr 1
      simp only [Reading.after, digitsValue_cons, hp, if_true, List.length_cons]
      simp [Nat.add_assoc, Nat.add_comm 1]
    | false =>
      simp only [Bool.false_eq_true, if_false, if_neg hnext]
      rw [ih hd.2 hc (fun h => absurd h (by simp))]
      congr 1
      simp [Reading.after, digitsValue_cons, hp]

/-- Zeros at the end are taken as long as they fit, and the rest of them do not count. -/
theorem readFrom_zeros (zeros : Nat) {r : Reading} (hp : r.point = true) (hd : r.digit = true)
    (hc : r.coefficient ≤ maxCoefficient) (hs : r.scale ≤ maxScale) :
    ∃ c k, readFrom r (List.replicate zeros '0') = some (c, k) ∧ c ≤ maxCoefficient ∧
      k ≤ maxScale ∧ c * tenTo r.scale = r.coefficient * tenTo k := by
  induction zeros generalizing r with
  | zero =>
    refine ⟨r.coefficient, r.scale, ?_, hc, hs, rfl⟩
    rw [List.replicate_zero, readFrom, if_pos hd]
  | succ zeros ih =>
    have hzero : digitValue '0' = 0 := rfl
    have hdigit : isDigit '0' = true := rfl
    rw [List.replicate_succ, readFrom, if_pos hdigit, hzero, Nat.add_zero]
    simp only [hp, if_true]
    split
    · -- the first zero that is not taken rounds nothing up
      refine ⟨r.coefficient, r.scale, ?_, hc, hs, rfl⟩
      have htail : isTail (List.replicate zeros '0') = true := by
        rw [isTail, List.all_replicate]
        split <;> rfl
      simp [finish, htail, hzero]
    · rename_i hroom
      rw [not_or] at hroom
      have hlarger : 10 * r.coefficient ≤ maxCoefficient := Nat.le_of_not_lt hroom.2
      have hlonger : r.scale + 1 ≤ maxScale := Nat.lt_of_le_of_ne hs hroom.1
      obtain ⟨c, k, hread, hc', hk, hvalue⟩ :=
        ih (r := ⟨10 * r.coefficient, r.scale + 1, true, true⟩) rfl rfl hlarger hlonger
      refine ⟨c, k, hread, hc', hk, ?_⟩
      simp only [tenTo_succ] at hvalue
      have hten : 10 * (c * tenTo r.scale) = 10 * (r.coefficient * tenTo k) := by
        rw [Nat.mul_comm 10, Nat.mul_assoc, hvalue, Nat.mul_assoc]
      exact Nat.eq_of_mul_eq_mul_left (by decide) hten

/-! ### Signs -/

/-- A number with a sign. -/
def signed (negative : Bool) (n : Nat) : ℤ :=
  if negative then -n else n

theorem coefficient_eq_signed (a : Decimal) : a.coefficient = signed a.negative a.magnitude := rfl

theorem natAbs_signed (negative : Bool) (n : Nat) : (signed negative n).natAbs = n := by
  unfold signed
  split <;> omega

theorem cast_signed (negative : Bool) (n : Nat) :
    ((signed negative n : ℤ) : ℚ) = (if negative then -1 else 1) * n := by
  unfold signed
  split <;> simp

/-- The same sign on the same quotient is the same number. -/
theorem value_eq_of_signed {d : Decimal} {negative : Bool} {c n k : Nat}
    (hd : d.coefficient = signed negative c) (h : c * tenTo k = n * tenTo d.scale) :
    d.value = signed negative n / (tenTo k : ℕ) := by
  have hq : (c : ℚ) * (tenTo k : ℕ) = n * (tenTo d.scale : ℕ) := by exact_mod_cast h
  rw [value, hd, div_eq_div_iff (ne_of_gt (cast_tenTo_pos _)) (ne_of_gt (cast_tenTo_pos _)),
    cast_signed, cast_signed, mul_assoc, mul_assoc, hq]

/-- A text that starts with a digit has no sign. -/
theorem readPlain?_of_digit {c : Char} {rest : List Char} (h : isDigit c = true) :
    readPlain? (c :: rest) = (readUnsigned? (c :: rest)).bind fun r => mk? r.1 r.2 := by
  unfold readPlain?
  split
  · rename_i heq
    rw [(List.cons.inj heq).1] at h
    exact absurd h (by decide)
  · rename_i heq
    rw [(List.cons.inj heq).1] at h
    exact absurd h (by decide)
  · rfl

/-- A sign, and digits behind it, are read together. -/
theorem readChars?_signed (a : Decimal) {x : Char} {rest : List Char} {c k : Nat}
    (hx : isDigit x = true) (h : readUnsigned? (x :: rest) = some (c, k))
    (hc : (signed a.negative c).natAbs ≤ maxCoefficient) (hk : k ≤ maxScale) :
    readChars? (a.signChars ++ x :: rest) =
      some (ofCoefficient (signed a.negative c) k hc hk) := by
  have hmk : mk? (signed a.negative c) k = some (ofCoefficient (signed a.negative c) k hc hk) :=
    (mk?_eq_some_iff hk).mpr ⟨hc, rfl⟩
  have hplain : readPlain? (a.signChars ++ x :: rest) = mk? (signed a.negative c) k := by
    unfold signChars signed
    cases a.negative with
    | true => simp [readPlain?, h]
    | false => simp [readPlain?_of_digit hx, h]
  rw [readChars?, hplain, hmk]

/-! ### Amounts -/

theorem exists_wholeChars (a : Decimal) :
    ∃ x rest, a.wholeChars = x :: rest ∧ isDigit x = true := by
  have hdigits := all_isDigit_digits (a.magnitude / tenTo a.scale)
  cases hw : a.wholeChars with
  | nil => exact absurd hw (digits_ne_nil _)
  | cons x rest =>
    rw [wholeChars] at hw
    rw [hw, List.all_cons, Bool.and_eq_true] at hdigits
    exact ⟨x, rest, rfl, hdigits.1⟩

theorem all_isDigit_fractionChars (a : Decimal) : a.fractionChars.all isDigit = true := by
  unfold fractionChars
  split
  · rfl
  · exact all_isDigit_paddedDigits _ _

theorem length_fractionChars (a : Decimal) : a.fractionChars.length = a.scale := by
  unfold fractionChars
  split
  · rename_i hs
    rw [hs, List.length_nil]
  · exact length_paddedDigits (by omega) (Nat.mod_lt _ (tenTo_pos _))

/-- The digits of the fraction behind those of the whole part are the magnitude. -/
theorem digitsValue_fractionChars (a : Decimal) :
    digitsValue (a.magnitude / tenTo a.scale) a.fractionChars = a.magnitude := by
  have hfraction : digitsValue 0 a.fractionChars = a.magnitude % tenTo a.scale := by
    unfold fractionChars
    split
    · rename_i hs
      rw [hs, tenTo_zero, Nat.mod_one]
      rfl
    · exact digitsValue_paddedDigits _ _
  rw [digitsValue_eq, length_fractionChars, hfraction, Nat.mul_comm]
  exact Nat.div_add_mod _ _

/-- The whole part of an amount is read as far as the point. -/
theorem readUnsigned?_wholeChars (a : Decimal) (rest : List Char) :
    readUnsigned? (a.wholeChars ++ rest) =
      readFrom ⟨a.magnitude / tenTo a.scale, 0, false, true⟩ rest := by
  have hdigits : a.wholeChars.all isDigit = true := all_isDigit_digits _
  have hvalue : digitsValue 0 a.wholeChars = a.magnitude / tenTo a.scale := digitsValue_digits _
  have hle : digitsValue 0 a.wholeChars ≤ maxCoefficient := by
    rw [hvalue]
    exact Nat.le_trans (Nat.div_le_self _ _) a.magnitude_le
  obtain ⟨x, xs, hw, _⟩ := a.exists_wholeChars
  rw [readUnsigned?, readFrom_append hdigits hle (fun h => absurd h (by simp))]
  simp only [Reading.after, hvalue]
  rw [hw]
  rfl

/-- Digits that fit are taken behind the point. -/
theorem readFrom_point {ds : List Char} (hd : ds.all isDigit = true) {n : Nat}
    (hc : digitsValue n ds ≤ maxCoefficient) (hs : ds.length ≤ maxScale) (rest : List Char) :
    readFrom ⟨n, 0, false, true⟩ ('.' :: (ds ++ rest)) =
      readFrom ⟨digitsValue n ds, ds.length, true, true⟩ rest := by
  have hdigit : isDigit '.' = false := rfl
  have hpoint : readFrom ⟨n, 0, false, true⟩ ('.' :: (ds ++ rest)) =
      readFrom ⟨n, 0, true, true⟩ (ds ++ rest) := by
    simp [readFrom, hdigit]
  rw [hpoint, readFrom_append hd hc (fun _ => by simpa using hs)]
  simp [Reading.after]

/-- What is read behind the point: digits that fit, and zeros. -/
theorem exists_readFrom_point {ds : List Char} (hd : ds.all isDigit = true) {n : Nat}
    (hc : digitsValue n ds ≤ maxCoefficient) (hs : ds.length ≤ maxScale) (zeros : Nat) :
    ∃ c k, readFrom ⟨n, 0, false, true⟩ ('.' :: (ds ++ List.replicate zeros '0')) = some (c, k) ∧
      c ≤ maxCoefficient ∧ k ≤ maxScale ∧
      c * tenTo ds.length = digitsValue n ds * tenTo k := by
  rw [readFrom_point hd hc hs]
  exact readFrom_zeros zeros rfl rfl hc hs

/-- The digits of an amount in full are its magnitude and its scale. -/
theorem readUnsigned?_chars (a : Decimal) :
    readUnsigned? (a.wholeChars ++ if a.scale = 0 then [] else '.' :: a.fractionChars) =
      some (a.magnitude, a.scale) := by
  rw [readUnsigned?_wholeChars]
  split
  · rename_i hs
    rw [hs, tenTo_zero, Nat.div_one]
    rfl
  · have hle : digitsValue (a.magnitude / tenTo a.scale) a.fractionChars ≤ maxCoefficient := by
      rw [digitsValue_fractionChars]
      exact a.magnitude_le
    have hread := readFrom_point a.all_isDigit_fractionChars hle
      (by rw [length_fractionChars]; exact a.scale_le) []
    rw [List.append_nil, digitsValue_fractionChars, length_fractionChars] at hread
    exact hread

/-- The amount without the minus sign that a zero can have. -/
def unsignedZero (a : Decimal) : Decimal :=
  ofCoefficient a.coefficient a.scale a.natAbs_coefficient_le a.scale_le

theorem coefficient_unsignedZero (a : Decimal) : a.unsignedZero.coefficient = a.coefficient :=
  coefficient_ofCoefficient _ _ _ _

theorem scale_unsignedZero (a : Decimal) : a.unsignedZero.scale = a.scale := rfl

theorem value_unsignedZero (a : Decimal) : a.unsignedZero.value = a.value := by
  rw [value, coefficient_unsignedZero, scale_unsignedZero, ← value]

/-- An amount is read back from its text, but a zero loses its minus sign. -/
theorem read?_text (a : Decimal) : read? a.text = some a.unsignedZero := by
  obtain ⟨x, rest, hw, hx⟩ := a.exists_wholeChars
  have hread := a.readUnsigned?_chars
  rw [hw, List.cons_append] at hread
  have hfits : (signed a.negative a.magnitude).natAbs ≤ maxCoefficient := a.natAbs_coefficient_le
  rw [read?, text, String.toList_ofList, chars, hw, List.append_assoc, List.cons_append,
    readChars?_signed a hx hread hfits a.scale_le]
  rfl

/-! ### Two fraction digits -/

/-- The number of whole cents in an amount. -/
def cents (a : Decimal) : ℤ :=
  signed a.negative (a.magnitude * 100 / tenTo a.scale)

/-- An amount is the number of its cents exactly when it is a whole number of them. -/
theorem cents_eq_iff {a : Decimal} : (a.cents : ℚ) = a.value * 100 ↔ a.IsCents := by
  constructor
  · intro h
    exact ⟨a.cents, h.symm⟩
  · rintro ⟨n, hn⟩
    have hpos := cast_tenTo_pos a.scale
    -- the magnitude in cents is divided without a remainder
    have hz : signed a.negative a.magnitude * 100 = n * (tenTo a.scale : ℕ) := by
      have hq : (a.coefficient : ℚ) * 100 = n * (tenTo a.scale : ℕ) := by
        rw [← hn, value_eq_iff.mp rfl]
        ring
      exact_mod_cast hq
    have habs : a.magnitude * 100 = n.natAbs * tenTo a.scale := by
      have := congrArg Int.natAbs hz
      rwa [Int.natAbs_mul, Int.natAbs_mul, natAbs_signed] at this
    have hexact : a.magnitude * 100 / tenTo a.scale * tenTo a.scale = a.magnitude * 100 :=
      Nat.div_mul_cancel ⟨n.natAbs, by rw [habs, Nat.mul_comm]⟩
    have hq : ((a.magnitude * 100 / tenTo a.scale : ℕ) : ℚ) * (tenTo a.scale : ℕ) =
        a.magnitude * 100 := by exact_mod_cast hexact
    rw [cents, cast_signed, value, coefficient_eq_signed, cast_signed, div_mul_eq_mul_div,
      eq_div_iff (ne_of_gt hpos), mul_assoc, hq, mul_assoc]

/-- The digits that are shown are those of the cents, zeros that are missing apart. -/
theorem shown_mul (m s : Nat) :
    m / tenTo (s - 2) * 100 = m * 100 / tenTo s * tenTo (min 2 s) := by
  match s with
  | 0 => simp
  | 1 =>
    have hone : tenTo 1 = 10 := rfl
    have hmin : min 2 1 = 1 := rfl
    simp only [hmin, hone, Nat.reduceSub, tenTo_zero]
    omega
  | s + 2 =>
    have htwo : tenTo 2 = 100 := rfl
    rw [Nat.add_sub_cancel, tenTo_add, htwo, Nat.mul_div_mul_right _ _ (by decide),
      Nat.min_eq_left (by omega), htwo]

/-- From a text with two fraction digits the cents of an amount are read. -/
theorem exists_read?_moneyText (a : Decimal) :
    ∃ d, read? a.moneyText = some d ∧ d.value * 100 = a.cents := by
  obtain ⟨x, rest, hw, hx⟩ := a.exists_wholeChars
  -- two digits are shown, of the fraction as far as it goes
  have htaken : (a.fractionChars ++ ['0', '0']).take 2 =
      a.fractionChars.take 2 ++ List.replicate (2 - a.scale) '0' := by
    have hzeros : ['0', '0'] = List.replicate 2 '0' := rfl
    rw [List.take_append, length_fractionChars, hzeros, List.take_replicate,
      Nat.min_eq_left (Nat.sub_le _ _)]
  have hdigits : (a.fractionChars.take 2).all isDigit = true :=
    List.all_eq_true.mpr fun c hc =>
      List.all_eq_true.mp a.all_isDigit_fractionChars c (List.mem_of_mem_take hc)
  have hlength : (a.fractionChars.take 2).length = min 2 a.scale := by
    rw [List.length_take, length_fractionChars]
  have hshown : digitsValue (a.magnitude / tenTo a.scale) (a.fractionChars.take 2) =
      a.magnitude / tenTo (a.scale - 2) := by
    rw [digitsValue_take a.all_isDigit_fractionChars, digitsValue_fractionChars,
      length_fractionChars]
  obtain ⟨c, k, hread, hc, hk, hvalue⟩ := exists_readFrom_point hdigits
    (n := a.magnitude / tenTo a.scale)
    (by rw [hshown]; exact Nat.le_trans (Nat.div_le_self _ _) a.magnitude_le)
    (by rw [hlength]; exact Nat.le_trans (Nat.min_le_left _ _) (by decide)) (2 - a.scale)
  rw [← htaken, ← readUnsigned?_wholeChars, hw, List.cons_append] at hread
  rw [hlength, hshown] at hvalue
  have hfits : (signed a.negative c).natAbs ≤ maxCoefficient := by
    rw [natAbs_signed]
    exact hc
  have hd := readChars?_signed a hx hread hfits hk
  refine ⟨ofCoefficient (signed a.negative c) k hfits hk, ?_, ?_⟩
  · rw [read?, moneyText, String.toList_ofList, hw]
    simpa using hd
  · have hcents : c * tenTo 2 = a.magnitude * 100 / tenTo a.scale * tenTo k := by
      have hmul := shown_mul a.magnitude a.scale
      have htwo : tenTo 2 = 100 := rfl
      refine Nat.eq_of_mul_eq_mul_right (tenTo_pos (min 2 a.scale)) ?_
      calc c * tenTo 2 * tenTo (min 2 a.scale)
          = c * tenTo (min 2 a.scale) * 100 := by rw [htwo, Nat.mul_right_comm]
        _ = a.magnitude / tenTo (a.scale - 2) * 100 * tenTo k := by
          rw [hvalue, Nat.mul_right_comm]
        _ = a.magnitude * 100 / tenTo a.scale * tenTo k * tenTo (min 2 a.scale) := by
          rw [hmul, Nat.mul_right_comm]
    rw [value_eq_of_signed (coefficient_ofCoefficient _ _ hfits hk) hcents, cents]
    have htwo : ((tenTo 2 : ℕ) : ℚ) = 100 := by norm_num [tenTo]
    rw [htwo, div_mul_cancel₀ _ (by norm_num)]

end CashMachine.Decimal
