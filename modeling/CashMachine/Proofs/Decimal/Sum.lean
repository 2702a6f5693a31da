/-
Sums and differences as numbers.

A sum of amounts is the exact sum of their numbers, rounded to as many fraction
digits as fit (`isRounding_add?`, `isRounding_sub?`).  What that means for the callers:

* `IsRounding.nonneg` — a number that is not negative does not become negative;
* `IsRounding.value_eq` — a number that fits in some number of digits is kept as it is;
* `IsRounding.value_eq_of_cents` — so is a whole number of cents, where the result is not too
  large for cents (`maxCents`);
* `exists_sub?_of_le` — an amount that is covered can always be taken away;
* `value_sub?_of_whole` — a whole amount is taken away exactly;
* `value_add?_of_cents`, `value_sub?_of_cents` — so are whole cents, in the range of cents.

The rounding of a number depends on the number alone, not on the scale of the operands: every
fact about sums goes through `IsRounding`, and none looks at the digits again.
-/
import CashMachine.Proofs.Decimal.Value

namespace CashMachine.Decimal

/-- The amount is the number, rounded to as many fraction digits as fit. -/
structure IsRounding (v : ℚ) (c : Decimal) : Prop where
  /-- The number has finitely many digits, no fewer than the amount. -/
  finite : ∃ (r : ℕ) (n : ℤ), v * (tenTo r : ℕ) = n ∧ c.scale ≤ r
  /-- The amount has the nearest coefficient for its scale. -/
  nearest : ∀ {r : ℕ} {n : ℤ}, v * (tenTo r : ℕ) = n → c.scale ≤ r →
    c.coefficient = roundHalfEven n (tenTo (r - c.scale))
  /-- Unless the amount is exact, one more digit would not have fitted. -/
  finest : ∀ {r : ℕ} {n : ℤ}, v * (tenTo r : ℕ) = n → c.scale ≤ r →
    c.value = v ∨ c.scale < r ∧
      maxCoefficient < (roundHalfEven n (tenTo (r - c.scale - 1))).natAbs

/-! ### The digits that are rounded away -/

theorem mk?_eq_some_iff {n : ℤ} {s : ℕ} {c : Decimal} (hs : s ≤ maxScale) :
    mk? n s = some c ↔ ∃ h : n.natAbs ≤ maxCoefficient, c = ofCoefficient n s h hs := by
  unfold mk?
  by_cases h : n.natAbs ≤ maxCoefficient
  · rw [dif_pos ⟨h, hs⟩, Option.some_inj]
    exact ⟨fun hc => ⟨h, hc.symm⟩, fun ⟨_, hc⟩ => hc.symm⟩
  · rw [dif_neg fun hh => h hh.1]
    exact ⟨fun hc => (Option.some_ne_none c hc.symm).elim, fun ⟨hh, _⟩ => (h hh).elim⟩

theorem mk?_eq_none_iff {n : ℤ} {s : ℕ} (hs : s ≤ maxScale) :
    mk? n s = none ↔ maxCoefficient < n.natAbs := by
  unfold mk?
  by_cases h : n.natAbs ≤ maxCoefficient
  · rw [dif_pos ⟨h, hs⟩]
    simp [h]
  · rw [dif_neg fun hh => h hh.1]
    simp [Nat.lt_of_not_le h]

/-- What `fitFrom` finds: the first number of dropped digits with which the rest fits. -/
theorem fitFrom_eq_some {exact : ℤ} {left dropped : ℕ} {c : Decimal} (hl : left ≤ maxScale)
    (h : fitFrom exact left dropped = some c) :
    ∃ k ≤ left, c.coefficient = roundHalfEven exact (tenTo (dropped + k)) ∧ c.scale = left - k ∧
      ∀ j < k, maxCoefficient < (roundHalfEven exact (tenTo (dropped + j))).natAbs := by
  induction left generalizing dropped with
  | zero =>
    obtain ⟨hc, rfl⟩ := (mk?_eq_some_iff hl).mp h
    exact ⟨0, le_rfl, coefficient_ofCoefficient .., rfl, fun j hj => absurd hj (Nat.not_lt_zero j)⟩
  | succ left ih =>
    rw [fitFrom] at h
    cases hm : mk? (roundHalfEven exact (tenTo dropped)) (left + 1) with
    | some a =>
      rw [hm, Option.some_inj] at h
      subst h
      obtain ⟨hc, rfl⟩ := (mk?_eq_some_iff hl).mp hm
      exact ⟨0, Nat.zero_le _, coefficient_ofCoefficient .., rfl,
        fun j hj => absurd hj (Nat.not_lt_zero j)⟩
    | none =>
      -- this length does not fit: it is the bound for `0`, and the search goes on with the others
      rw [hm] at h
      obtain ⟨k, hk, hc, hs, hlt⟩ := ih (Nat.le_of_succ_le hl) h
      refine ⟨k + 1, Nat.succ_le_succ hk, ?_, by omega, ?_⟩
      · rw [hc, Nat.add_right_comm, Nat.add_assoc]
      · intro j hj
        cases j with
        | zero => exact (mk?_eq_none_iff hl).mp hm
        | succ j =>
          have := hlt j (by omega)
          rwa [Nat.add_right_comm, Nat.add_assoc] at this

/-- Where nothing is found, dropping all digits is not enough. -/
theorem fitFrom_eq_none {exact : ℤ} {left dropped : ℕ} (hl : left ≤ maxScale)
    (h : fitFrom exact left dropped = none) :
    maxCoefficient < (roundHalfEven exact (tenTo (dropped + left))).natAbs := by
  induction left generalizing dropped with
  | zero => exact (mk?_eq_none_iff hl).mp h
  | succ left ih =>
    rw [fitFrom] at h
    cases hm : mk? (roundHalfEven exact (tenTo dropped)) (left + 1) with
    | some a =>
      rw [hm] at h
      exact absurd h (Option.some_ne_none a)
    | none =>
      rw [hm] at h
      have := ih (Nat.le_of_succ_le hl) h
      rwa [Nat.add_right_comm, Nat.add_assoc] at this

theorem isRounding_fit {exact : ℤ} {s : ℕ} {v : ℚ} {c : Decimal} (hs : s ≤ maxScale)
    (hv : v * (tenTo s : ℕ) = exact) (h : fit exact s = some c) : IsRounding v c := by
  obtain ⟨k, hk, hc, hsc, hlt⟩ := fitFrom_eq_some hs h
  simp only [Nat.zero_add] at hc hlt
  -- wherever the number is whole at a scale, rounding that integer is rounding `exact`
  have hround : ∀ {r : ℕ} {n : ℤ}, v * (tenTo r : ℕ) = n → c.scale ≤ r → ∀ i ≤ k,
      i ≤ r + k - s →
        roundHalfEven exact (tenTo (k - i)) = roundHalfEven n (tenTo (r - c.scale - i)) := by
    intro r n hn hr i hi hir
    refine roundHalfEven_congr (tenTo_pos _) (tenTo_pos _) ?_
    have hq : v * (tenTo (s + (r - c.scale - i)) : ℕ) = v * (tenTo (r + (k - i)) : ℕ) := by
      rw [show s + (r - c.scale - i) = r + (k - i) by omega]
    rw [tenTo_add, tenTo_add, Nat.cast_mul, Nat.cast_mul, ← mul_assoc, ← mul_assoc, hv, hn] at hq
    exact_mod_cast hq
  refine ⟨⟨s, exact, hv, by omega⟩, ?_, ?_⟩
  · intro r n hn hr
    rw [hc]
    exact hround hn hr 0 (Nat.zero_le k) (Nat.zero_le _)
  · intro r n hn hr
    by_cases hr' : c.scale = r
    · -- no digit of the number is dropped
      left
      rw [value_eq_iff, hc, ← Nat.sub_zero k, hround hn hr 0 (Nat.zero_le k) (Nat.zero_le _), hr',
        Nat.sub_self, tenTo_zero, roundHalfEven_one, hn]
    · cases k with
      | zero =>
        left
        rw [value_eq_iff, hc, tenTo_zero, roundHalfEven_one, hsc, Nat.sub_zero, hv]
      | succ k =>
        right
        refine ⟨by omega, ?_⟩
        have hlast := hlt k (Nat.lt_succ_self k)
        rwa [show k = k + 1 - 1 from rfl, hround hn hr 1 (by omega) (by omega)] at hlast

/-- An amount is a rounding of its own number. -/
theorem isRounding_self (c : Decimal) : IsRounding c.value c := by
  refine ⟨⟨c.scale, c.coefficient, (value_eq_iff.mp rfl).symm, le_rfl⟩, ?_, fun _ _ => .inl rfl⟩
  intro r n hn hr
  have hc : n = c.coefficient * (tenTo (r - c.scale) : ℕ) := by
    have := coefficientAt_eq c hr
    rw [hn, coefficientAt] at this
    exact_mod_cast this.symm
  rw [hc, roundHalfEven_mul _ (tenTo_pos _)]

/-! ### Sums and differences -/

theorem isRounding_add? {a b c : Decimal} (h : a.add? b = some c) :
    IsRounding (a.value + b.value) c := by
  unfold add? at h
  -- next to a zero the other amount is returned as it is, not at the larger scale
  by_cases ha : a.isZero = true
  · rw [if_pos ha, Option.some_inj] at h
    rw [isZero_iff.mp ha, zero_add, h]
    exact isRounding_self c
  · rw [if_neg ha] at h
    by_cases hb : b.isZero = true
    · rw [if_pos hb, Option.some_inj] at h
      rw [isZero_iff.mp hb, add_zero, h]
      exact isRounding_self c
    · rw [if_neg hb] at h
      refine isRounding_fit (max_le a.scale_le b.scale_le) ?_ h
      push_cast
      rw [coefficientAt_eq a (le_max_left _ _), coefficientAt_eq b (le_max_right _ _)]
      ring

theorem isRounding_sub? {a b c : Decimal} (h : a.sub? b = some c) :
    IsRounding (a.value - b.value) c := by
  rw [sub_eq_add_neg, ← value_neg]
  exact isRounding_add? h

/-- What is left of an amount is in range: no more digits can be needed than it has itself. -/
theorem exists_sub?_of_le {a b : Decimal} (hb : 0 ≤ b.value) (hab : b.value ≤ a.value) :
    ∃ c, a.sub? b = some c := by
  rw [sub?, add?]
  split
  · exact ⟨b.neg, rfl⟩
  split
  · exact ⟨a, rfl⟩
  simp only
  have hsa : a.scale ≤ max a.scale b.neg.scale := le_max_left _ _
  have hsb : b.neg.scale ≤ max a.scale b.neg.scale := le_max_right _ _
  have hs : max a.scale b.neg.scale ≤ maxScale := max_le a.scale_le b.neg.scale_le
  generalize max a.scale b.neg.scale = s at hsa hsb hs ⊢
  generalize he : a.coefficientAt s + b.neg.coefficientAt s = exact
  -- the exact difference is between zero and the first amount
  have hexact : (exact : ℚ) = (a.value - b.value) * (tenTo s : ℕ) := by
    rw [← he, Int.cast_add, coefficientAt_eq a hsa, coefficientAt_eq b.neg hsb, value_neg]
    ring
  have hpos : 0 ≤ exact := nonneg_of_mul_tenTo hexact.symm (sub_nonneg.mpr hab)
  have hle : exact ≤ a.coefficient * (tenTo s : ℕ) := by
    have hcoef : a.value ≤ a.coefficient := by
      refine div_le_self ?_ (by exact_mod_cast tenTo_pos a.scale)
      have ha : 0 ≤ a.value := hb.trans hab
      rwa [value, le_div_iff₀ (cast_tenTo_pos a.scale), zero_mul] at ha
    have : (exact : ℚ) ≤ a.coefficient * (tenTo s : ℕ) := by
      rw [hexact]
      exact mul_le_mul_of_nonneg_right (by linarith) (cast_tenTo_pos s).le
    exact_mod_cast this
  cases hf : fit exact s with
  | some c => exact ⟨c, rfl⟩
  | none =>
    -- with all digits dropped it would be at most the coefficient of the first amount
    have hlarge := fitFrom_eq_none hs hf
    have h1 := roundHalfEven_le (tenTo_pos (0 + s)) ((Nat.zero_add s).symm ▸ hle)
    have h2 := roundHalfEven_nonneg hpos (tenTo (0 + s))
    have h3 := a.natAbs_coefficient_le
    omega

/-! ### Numbers that are kept -/

/-- The largest whole number of cents that is kept to the cent. -/
def maxCents : ℚ :=
  (maxCoefficient : ℚ) / 100

namespace IsRounding

variable {v : ℚ} {c : Decimal}

theorem nonneg (h : IsRounding v c) (hv : 0 ≤ v) : 0 ≤ c.value := by
  obtain ⟨r, n, hn, hr⟩ := h.finite
  have hn0 : 0 ≤ n := nonneg_of_mul_tenTo hn hv
  rw [value, h.nearest hn hr]
  exact div_nonneg (by exact_mod_cast roundHalfEven_nonneg hn0 _) (cast_tenTo_pos _).le

/-- An amount with at least as many digits as the number needs is the number. -/
theorem value_eq_of_scale_le (h : IsRounding v c) {r : ℕ} {n : ℤ} (hn : v * (tenTo r : ℕ) = n)
    (hr : r ≤ c.scale) : c.value = v := by
  have hs : tenTo c.scale = tenTo r * tenTo (c.scale - r) := by
    rw [← tenTo_add, Nat.add_sub_cancel' hr]
  have hm : v * (tenTo c.scale : ℕ) = ((n * (tenTo (c.scale - r) : ℕ) : ℤ) : ℚ) := by
    rw [hs]
    push_cast
    rw [← mul_assoc, hn]
  have hc := h.nearest hm le_rfl
  rw [Nat.sub_self, tenTo_zero, roundHalfEven_one] at hc
  rw [value_eq_iff, hc, hm]

theorem value_eq (h : IsRounding v c) {r : ℕ} {n : ℤ} (hn : v * (tenTo r : ℕ) = n)
    (hle : n.natAbs ≤ maxCoefficient) : c.value = v := by
  by_cases hr : r ≤ c.scale
  · exact h.value_eq_of_scale_le hn hr
  · rcases h.finest hn (by omega) with hv | ⟨_, hlt⟩
    · exact hv
    · have := natAbs_roundHalfEven_le n (tenTo_pos (r - c.scale - 1))
      omega

/-- A whole number of cents is kept wherever the result is in the range of cents: rounding it
away would leave a result out of that range. -/
theorem value_eq_of_cents (h : IsRounding v c) {n : ℤ} (hn : v * 100 = n)
    (hc : |c.value| ≤ maxCents) : c.value = v := by
  have hn2 : v * (tenTo 2 : ℕ) = n := by
    rw [← hn]
    norm_num [tenTo]
  by_cases hle : n.natAbs ≤ maxCoefficient
  · exact h.value_eq hn2 hle
  by_cases hs : 2 ≤ c.scale
  · exact h.value_eq_of_scale_le hn2 hs
  have hcoef := h.nearest hn2 (by omega)
  have hfine := h.finest hn2 (by omega)
  rw [value, maxCents, abs_div, abs_of_pos (cast_tenTo_pos _), div_le_div_iff₀ (cast_tenTo_pos _)
    (by norm_num), ← Int.cast_abs, Int.abs_eq_natAbs] at hc
  have hbound : c.coefficient.natAbs * 100 ≤ maxCoefficient * tenTo c.scale := by
    exact_mod_cast hc
  have hdist := roundHalfEven_dist n (tenTo_pos (2 - c.scale))
  rw [← hcoef] at hdist
  have t1 : tenTo 1 = 10 := rfl
  have t2 : tenTo 2 = 100 := rfl
  obtain hs | hs : c.scale = 1 ∨ c.scale = 0 := by omega
  · -- one digit dropped: the coefficient is a multiple of ten cents in range
    rw [hs, t1] at hbound hdist
    rw [maxCoefficient] at hbound hle
    omega
  · -- two digits dropped: then one digit alone would not have been enough
    rcases hfine with hv | ⟨_, hlt⟩
    · exact hv
    · have hdist' := roundHalfEven_dist n (tenTo_pos (2 - c.scale - 1))
      rw [hs, Nat.sub_zero, t1] at hdist' hlt
      rw [hs, Nat.sub_zero, t2] at hdist
      rw [hs, tenTo_zero, maxCoefficient] at hbound
      rw [maxCoefficient] at hle hlt
      omega

end IsRounding

/-- A whole amount is taken away exactly, at every scale of the first amount. -/
theorem value_sub?_of_whole {a b c : Decimal} (h : a.sub? b = some c) {n : ℕ} (hb : b.value = n)
    (hab : b.value ≤ a.value) : c.value = a.value - b.value := by
  -- the difference needs no more digits than the first amount has, and is not larger
  have hd : (a.value - b.value) * (tenTo a.scale : ℕ) =
      ((a.coefficient - n * (tenTo a.scale : ℕ) : ℤ) : ℚ) := by
    rw [sub_mul, ← value_eq_iff.mp rfl, hb]
    push_cast
    ring
  have h0 : 0 ≤ a.coefficient - n * (tenTo a.scale : ℕ) :=
    nonneg_of_mul_tenTo hd (sub_nonneg.mpr hab)
  have hpos : (0 : ℤ) ≤ n * (tenTo a.scale : ℕ) :=
    mul_nonneg (Int.natCast_nonneg n) (Int.natCast_nonneg _)
  have hmax := a.natAbs_coefficient_le
  exact (isRounding_sub? h).value_eq hd (by omega)

/-! ### Cents -/

theorem IsCents.add {a b c : Decimal} (ha : a.IsCents) (hb : b.IsCents)
    (h : c.value = a.value + b.value) : c.IsCents := by
  obtain ⟨n, hn⟩ := ha
  obtain ⟨k, hk⟩ := hb
  refine ⟨n + k, ?_⟩
  rw [h, add_mul, hn, hk, Int.cast_add]

theorem IsCents.sub {a b c : Decimal} (ha : a.IsCents) (hb : b.IsCents)
    (h : c.value = a.value - b.value) : c.IsCents := by
  obtain ⟨n, hn⟩ := ha
  obtain ⟨k, hk⟩ := hb
  refine ⟨n - k, ?_⟩
  rw [h, sub_mul, hn, hk, Int.cast_sub]

/-- Whole cents are added exactly, where the sum is in the range of cents. -/
theorem value_add?_of_cents {a b c : Decimal} (h : a.add? b = some c) (ha : a.IsCents)
    (hb : b.IsCents) (hc : |c.value| ≤ maxCents) : c.value = a.value + b.value := by
  obtain ⟨n, hn⟩ := ha
  obtain ⟨k, hk⟩ := hb
  have hsum : (a.value + b.value) * 100 = ((n + k : ℤ) : ℚ) := by
    rw [add_mul, hn, hk, Int.cast_add]
  exact (isRounding_add? h).value_eq_of_cents hsum hc

/-- Whole cents are taken away exactly, where what is left is in the range of cents. -/
theorem value_sub?_of_cents {a b c : Decimal} (h : a.sub? b = some c) (ha : a.IsCents)
    (hb : b.IsCents) (hc : |c.value| ≤ maxCents) : c.value = a.value - b.value := by
  obtain ⟨n, hn⟩ := ha
  obtain ⟨k, hk⟩ := hb
  have hdifference : (a.value - b.value) * 100 = ((n - k : ℤ) : ℚ) := by
    rw [sub_mul, hn, hk, Int.cast_sub]
  exact (isRounding_sub? h).value_eq_of_cents hdifference hc

end CashMachine.Decimal
