/-
Steps that nothing checks on the way.

Some steps of the machine are made without asking whether they can be: amounts are multiplied and
added up in the range of amounts, differences are taken of counts, a count is cut down to 32 bits,
and conditions are asserted that are to hold anyway.  Here each of them is written out, and work
breaks off where one of them cannot be made: it leaves neither an answer nor a state
(`Unchecked`).  It is safe where it comes to what the work without these steps comes to (`Safe`).

* `Safe.bind` — one piece of work after another one, `Safe.after` — after one without such steps,
  `Safe.step`, `Safe.assert` — after a step that can be made;
* `Notes.total?_eq` — the total of every holding is in range, at every count on the way;
* `Dispenser.allocate?_eq`, `Dispenser.exists_decompose?` — so are all numbers of the two walks over
  the notes, for every amount;
* `Account.safe_debit?`, `Account.safe_credit?`, `Reserve.safe_remove?`, `Reserve.consume?_eq`,
  `Reserve.setInk?_eq` — the changes of accounts and of the reserve.
-/
import CashMachine.Machine.Money
import CashMachine.Proofs.Allocation
import CashMachine.Proofs.Machine.Perform
import CashMachine.Proofs.Remainder

namespace CashMachine

/-- Work on a state that may fail on the way, and may also break off. -/
abbrev Unchecked (σ : Type) := ExceptT Error (StateT σ Option)

namespace Unchecked

variable {σ τ α β : Type}

/-- Work without unchecked steps. -/
def of (w : Work σ α) : Unchecked σ α :=
  fun s => some (w s)

instance : MonadLift (Work σ) (Unchecked σ) := ⟨of⟩

def check (condition : Bool) (e : Error) : Unchecked σ Unit :=
  of (Work.check condition e)

def require (value : Option α) (e : Error) : Unchecked σ α :=
  of (Work.require value e)

def current : Unchecked σ σ :=
  of Work.current

def change (f : σ → σ) : Unchecked σ Unit :=
  of (Work.change f)

/-- Breaks off where the condition does not hold. -/
def assert (condition : Bool) : Unchecked σ Unit :=
  fun s => if condition then some (.ok (), s) else none

/-- Work on a part of the state, which is put back in either case. -/
def focus (part : σ → τ) (put : σ → τ → σ) (w : Unchecked τ α) : Unchecked σ α :=
  fun s => (w (part s)).map fun r => (r.1, put s r.2)

/-- From a state, the work does not break off, and comes to what the other one comes to. -/
def Safe (w' : Unchecked σ α) (w : Work σ α) (s : σ) : Prop :=
  w' s = some (w s)

namespace Safe

variable {w' : Unchecked σ α} {w : Work σ α} {f' : α → Unchecked σ β} {f : α → Work σ β} {s : σ}

/-- One piece of work after another one: the second one starts where the first one has led. -/
theorem bind (h : Safe w' w s) (hf : ∀ a t, w s = (.ok a, t) → Safe (f' a) (f a) t) :
    Safe (w' >>= f') (w >>= f) s := by
  show StateT.bind w' (ExceptT.bindCont f') s = some _
  have hw' : w' s = some (w s) := h
  simp only [StateT.bind, hw', Work.run_bind]
  rcases hw : w s with ⟨e | a, t⟩
  · rfl
  · exact hf a t hw

/-- Work without unchecked steps before; so are the next ones. -/
theorem after (hf : ∀ a t, w s = (.ok a, t) → Safe (f' a) (f a) t) :
    Safe (liftM w >>= f') (w >>= f) s :=
  bind rfl hf

theorem lift {x : Except Error α} (hf : ∀ a, x = .ok a → Safe (f' a) (f a) s) :
    Safe (liftM x >>= f') (liftM x >>= f) s := by
  cases x with
  | error e => rfl
  | ok a => exact hf a rfl

theorem check {condition : Bool} {e : Error} {f' : Unit → Unchecked σ β} {f : Unit → Work σ β}
    (hf : condition = true → Safe (f' ()) (f ()) s) :
    Safe (Unchecked.check condition e >>= f') (Work.check condition e >>= f) s := by
  cases condition with
  | false => rfl
  | true => exact hf rfl

theorem require {value : Option α} {e : Error} (hf : ∀ a, value = some a → Safe (f' a) (f a) s) :
    Safe (Unchecked.require value e >>= f') (Work.require value e >>= f) s := by
  cases value with
  | none => rfl
  | some a => exact hf a rfl

theorem current {f' : σ → Unchecked σ β} {f : σ → Work σ β} (hf : Safe (f' s) (f s) s) :
    Safe (Unchecked.current >>= f') (Work.current >>= f) s := hf

/-- Looking at the state, which only one of the two does, changes nothing. -/
theorem look {f' : σ → Unchecked σ β} {w : Work σ β} (h : Safe (f' s) w s) :
    Safe (Unchecked.current >>= f') w s := h

/-- A step that can be made, with what it gives. -/
theorem step {x : Option α} {a : α} {w : Work σ β} (hx : x = some a) (h : Safe (f' a) w s) :
    Safe (liftM x >>= f') w s := by
  subst hx
  exact h

theorem assert {condition : Bool} {f' : Unit → Unchecked σ α} (hc : condition = true)
    (h : Safe (f' ()) w s) : Safe (Unchecked.assert condition >>= f') w s := by
  subst hc
  exact h

theorem focus {part : σ → τ} {put : σ → τ → σ} {w' : Unchecked τ α} {w : Work τ α}
    (h : Safe w' w (part s)) : Safe (Unchecked.focus part put w') (Work.focus part put w) s := by
  rw [Safe, Unchecked.focus, h]
  rfl

theorem forM {f' : β → Unchecked σ PUnit} {f : β → Work σ PUnit} (h : ∀ b s, Safe (f' b) (f b) s)
    (bs : List β) (s : σ) : Safe (bs.forM f') (bs.forM f) s := by
  induction bs generalizing s with
  | nil => rfl
  | cons b bs ih => exact (h b s).bind fun _ t _ => ih t

end Safe

end Unchecked

/-! ### Numbers -/

/-- The product of two natural numbers, if it is below 2⁶⁴. -/
def Word.product? (a b : Nat) : Option Nat :=
  if a * b < 18446744073709551616 then some (a * b) else none

/-- The difference of two natural numbers, if it is not below zero. -/
def Word.difference? (a b : Nat) : Option Nat :=
  if b ≤ a then some (a - b) else none

/-- The difference of two counts, if it is not below zero. -/
def Nat32.sub? (a b : Nat32) : Option Nat32 :=
  if b.val ≤ a.val then some (a.sub b) else none

/-- The face value as an amount. -/
def Denomination.amount (d : Denomination) : Decimal :=
  Decimal.ofNat d.value (by cases d <;> decide)

/-- The count as an amount. -/
def Nat32.amount (a : Nat32) : Decimal :=
  Decimal.ofNat a.val (Nat.le_trans a.val_le (by decide))

/-- The product of two amounts, if its whole part is in range. -/
def Decimal.mul? (a b : Decimal) : Option Decimal :=
  fit (a.coefficient * b.coefficient) (a.scale + b.scale)

namespace Decimal

theorem fit_natCast {n : ℕ} (h : n ≤ maxCoefficient) : fit n 0 = some (ofNat n h) := by
  have hn : (n : ℤ).natAbs ≤ maxCoefficient := h
  exact fit_of_le hn (by decide)

theorem mul?_ofNat {m n : ℕ} (hm : m ≤ maxCoefficient) (hn : n ≤ maxCoefficient)
    (h : m * n ≤ maxCoefficient) : mul? (ofNat m hm) (ofNat n hn) = some (ofNat (m * n) h) := by
  have hproduct : (ofNat m hm).coefficient * (ofNat n hn).coefficient = (m * n : ℕ) :=
    (Nat.cast_mul m n).symm
  rw [mul?, hproduct]
  exact fit_natCast h

theorem add?_ofNat {m n : ℕ} (hm : m ≤ maxCoefficient) (hn : n ≤ maxCoefficient)
    (h : m + n ≤ maxCoefficient) : add? (ofNat m hm) (ofNat n hn) = some (ofNat (m + n) h) := by
  have hsum : (ofNat m hm).coefficientAt 0 + (ofNat n hn).coefficientAt 0 = (m + n : ℕ) := by
    simp [coefficientAt, coefficient, ofNat]
  -- a zero is left out of the sum, which is the other amount
  by_cases hm0 : m = 0
  · subst hm0
    simp only [Nat.zero_add]
    exact zero_add? rfl _
  by_cases hn0 : n = 0
  · subst hn0
    exact add?_zero _ (beq_false_of_ne hm0) rfl
  rw [add?, if_neg (by simpa [isZero, ofNat] using hm0),
    if_neg (by simpa [isZero, ofNat] using hn0)]
  show fit ((ofNat m hm).coefficientAt 0 + (ofNat n hn).coefficientAt 0) 0 = _
  rw [hsum]
  exact fit_natCast h

end Decimal

/-! ### Notes -/

namespace Notes

/-- The sum with the worth of one entry. -/
def addWorth? (sum : Decimal) (e : Denomination × Nat32) : Option Decimal := do
  let worth ← Decimal.mul? e.1.amount e.2.amount
  Decimal.add? sum worth

/-- The sum of face value times count, one product after the other. -/
def total? (n : Notes) : Option Decimal :=
  n.entries.foldlM addWorth? 0

theorem addWorth?_ofNat (e : Denomination × Nat32) {sum : ℕ}
    (h : sum + e.1.value * e.2.val ≤ Decimal.maxCoefficient) :
    addWorth? (.ofNat sum (Nat.le_trans (Nat.le_add_right _ _) h)) e =
      some (.ofNat (sum + e.1.value * e.2.val) h) := by
  have hworth := Nat.le_trans (Nat.le_add_left _ _) h
  rw [addWorth?, Denomination.amount, Nat32.amount, Decimal.mul?_ofNat _ _ hworth]
  exact Decimal.add?_ofNat _ hworth h

/-- The sums on the way grow with the row of denominations; where there are no notes of one, the
sum stays as it is. -/
theorem foldlM_addWorth? (n : Notes) (ds : List Denomination) {sum : ℕ}
    (h : sum + n.worth ds ≤ Decimal.maxCoefficient) :
    (ds.map fun d => (d, n.get d)).foldlM
        (fun sum e => if decide (e.2.val ≠ 0) = true then addWorth? sum e else pure sum)
        (Decimal.ofNat sum (Nat.le_trans (Nat.le_add_right _ _) h)) =
      some (Decimal.ofNat (sum + n.worth ds) h) := by
  induction ds generalizing sum with
  | nil => rfl
  | cons d ds ih =>
    rw [worth_cons, ← Nat.add_assoc] at h
    have hd := Nat.le_trans (Nat.le_add_right _ _) h
    rw [List.map_cons, List.foldlM_cons]
    simp only [worth_cons, ← Nat.add_assoc]
    by_cases hcount : (n.get d).val = 0
    · have hrest := ih h
      simp only [hcount, Nat.mul_zero, Nat.add_zero] at hrest
      simpa [hcount] using hrest
    · rw [if_pos (by simpa using hcount), addWorth?_ofNat (d, n.get d) hd]
      exact ih h

theorem worth_ascending (n : Notes) : n.worth Denomination.ascending = n.value := by
  simp [worth, value, Denomination.ascending]

/-- The total of a holding is in range, and so is every product and every sum on the way. -/
theorem total?_eq (n : Notes) : n.total? = some n.total := by
  have hrange : 0 + n.worth Denomination.ascending ≤ Decimal.maxCoefficient := by
    rw [worth_ascending, Nat.zero_add]
    exact n.value_le
  have hsum := n.foldlM_addWorth? Denomination.ascending hrange
  simp only [worth_ascending, Nat.zero_add] at hsum
  rw [total?, entries, List.foldlM_filter]
  exact hsum

end Notes

/-! ### Dispensing -/

namespace Dispenser

/-- As many notes of one denomination as fit in what is left: their number is cut down to 32 bits,
and their worth is taken off. -/
def take? (available : Notes) (s : Notes × Nat) (d : Denomination) : Option (Notes × Nat) := do
  let count := min (s.2 / d.value) (available.get d).val
  if count = 0 then pure s
  else
    let taken ← Nat32.ofNat? count
    let worth ← Word.product? count d.value
    let left ← Word.difference? s.2 worth
    pure (s.1.set d taken, left)

/-- The greedy plan for an amount, step by step. -/
def allocate? (amount : Decimal) (available : Notes) : Option (Option Notes) :=
  match amount.wholeUnits? with
  | none => pure none
  | some units =>
    if units % Denomination.smallest.value ≠ 0 then pure none
    else do
      let (plan, left) ← Denomination.descending.foldlM (take? available) (Notes.empty, units)
      pure (if left = 0 then some plan else none)

/-- The notes of a deposit, and the part of it that is taken as no note. -/
def decompose? (amount : Decimal) : Option (Notes × Decimal) :=
  match amount.truncate.wholeUnits? with
  | none => pure (Notes.empty, amount)
  | some units => do
    let notes := absorb Denomination.descending units Notes.empty
    let total ← notes.total?
    let untracked ← amount.sub? total
    pure (notes, untracked)

variable {available plan : Notes} {left : ℕ}

/-- What is taken of one denomination is held, so that its number has 32 bits, and worth no more
than what is left. -/
theorem take?_eq (available : Notes) {d : Denomination} (hplan : plan.get d = 0)
    (hleft : left < 18446744073709551616) :
    take? available (plan, left) d =
      some (plan.set d ((available.get d).atMost (left / d.value)),
        left - ((available.get d).atMost (left / d.value)).val * d.value) := by
  have hrest := value_take_add_rest available d left
  have hcount : min (left / d.value) (available.get d).val =
      ((available.get d).atMost (left / d.value)).val := Nat.min_comm _ _
  simp only [take?, hcount]
  generalize (available.get d).atMost (left / d.value) = taken at hrest ⊢
  have hworth : taken.val * d.value ≤ left := by omega
  by_cases hzero : taken.val = 0
  · -- nothing is taken, and the plan has nothing of it
    obtain rfl : taken = 0 := Nat32.ext hzero
    have hset : plan.set d 0 = plan := by
      rw [← hplan]
      cases d <;> rfl
    simp [hset]
  · have hproduct : Word.product? taken.val d.value = some (taken.val * d.value) :=
      if_pos (Nat.lt_of_le_of_lt hworth hleft)
    have hdifference : Word.difference? left (taken.val * d.value) =
        some (left - taken.val * d.value) := if_pos hworth
    simp [hzero, Nat32.ofNat?_val, hproduct, hdifference]

/-- Down a row of denominations, the counts that are set are those of the greedy plan. -/
theorem foldlM_take? (available : Notes) {ds : List Denomination} (hn : ds.Nodup)
    (hplan : ∀ d ∈ ds, plan.get d = 0) (hleft : left < 18446744073709551616) :
    ∃ r, ds.foldlM (take? available) (plan, left) = some (r, (takeGreedy available ds left).2) ∧
      ∀ e, r.get e = if e ∈ ds then (takeGreedy available ds left).1.get e else plan.get e := by
  induction ds generalizing plan left with
  | nil => exact ⟨plan, rfl, fun e => by rw [if_neg List.not_mem_nil]⟩
  | cons d ds ih =>
    rw [List.nodup_cons] at hn
    rw [List.foldlM_cons, take?_eq available (hplan d List.mem_cons_self) hleft, takeGreedy]
    generalize (available.get d).atMost (left / d.value) = taken
    have hrest : ∀ e ∈ ds, (plan.set d taken).get e = 0 := by
      intro e he
      rw [Notes.get_set_of_ne plan taken (ne_of_mem_of_not_mem he hn.1)]
      exact hplan e (List.mem_cons_of_mem d he)
    obtain ⟨r, hr, hget⟩ := ih hn.2 hrest (Nat.lt_of_le_of_lt (Nat.sub_le _ _) hleft)
    refine ⟨r, hr, fun e => ?_⟩
    rw [hget]
    by_cases hd : e = d
    · subst hd
      rw [if_neg hn.1, if_pos List.mem_cons_self, Notes.get_set_self, Notes.get_set_self]
    · rw [Notes.get_set_of_ne _ _ hd, Notes.get_set_of_ne _ _ hd]
      simp only [List.mem_cons, hd, false_or]

/-- No step of the greedy walk goes wrong, for any amount and any notes. -/
theorem allocate?_eq (amount : Decimal) (available : Notes) :
    allocate? amount available = some (allocate amount available) := by
  rw [allocate?, allocate]
  rcases hunits : amount.wholeUnits? with _ | units
  · rfl
  · simp only
    split
    · rfl
    · have hempty : ∀ d ∈ Denomination.descending, Notes.empty.get d = 0 :=
        fun d _ => Notes.get_empty d
      have hrange := (Decimal.wholeUnits?_eq_some_iff.mp hunits).2.2
      obtain ⟨r, hr, hget⟩ := foldlM_take? available (by decide) hempty hrange
      have heq : r = (takeGreedy available Denomination.descending units).1 :=
        Notes.ext fun d => by rw [hget, if_pos (Denomination.mem_descending d)]
      rw [hr, heq]
      rfl

/-- No step of taking a deposit in goes wrong, for any amount: what is taken is worth no more than
the amount. -/
theorem exists_decompose? (amount : Decimal) :
    ∃ rest, decompose? amount = some (absorbed amount, rest) ∧ untracked? amount = some rest := by
  rcases hunits : amount.truncate.wholeUnits? with _ | units
  · exact ⟨amount, by simp [decompose?, absorbed, hunits], by simp [untracked?, hunits]⟩
  · have hnonneg : 0 ≤ amount.value := by
      have hsign : amount.negative = false := (Decimal.wholeUnits?_eq_some_iff.mp hunits).1
      rw [Decimal.value_of_not_negative hsign]
      positivity
    obtain ⟨rest, hrest, _⟩ := exists_untracked hnonneg
    refine ⟨rest, ?_, hrest⟩
    have habsorbed : absorb Denomination.descending units Notes.empty = absorbed amount := by
      rw [absorbed, hunits]
    rw [untracked?, hunits] at hrest
    simp only at hrest
    simp [decompose?, hunits, habsorbed, Notes.total?_eq, hrest]

end Dispenser

/-! ### Accounts -/

namespace Account

variable {σ : Type}

/-- The balance after a debit; the difference is not checked. -/
def debited? (a : Account) (amount : Decimal) : Unchecked σ Decimal := do
  if !amount.isPositive || a.balance < amount then throw .insufficientFunds
  let b ← a.balance.sub? amount
  pure b

/-- A debit; that the balance is not negative is asserted. -/
def debit? (a : Account) (amount : Decimal) : Unchecked σ Account := do
  let b ← a.debited? amount
  Unchecked.assert !b.isNegative
  pure { a with balance := b }

/-- A credit; that the balance is not negative is asserted. -/
def credit? (a : Account) (amount : Decimal) : Unchecked σ Account := do
  let b ← liftM (a.credited amount)
  Unchecked.assert !b.isNegative
  pure { a with balance := b }

variable (a : Account) (amount : Decimal) (s : σ)

/-- What is left after a debit is in range. -/
theorem safe_debited? : (a.debited? amount).Safe (liftM (a.debited amount)) s := by
  by_cases h : (!amount.isPositive || decide (a.balance < amount)) = true
  · rw [debited?, debited, if_pos h, if_pos h]
    rfl
  · have hcovered := h
    simp only [Bool.or_eq_true, Bool.not_eq_true', decide_eq_true_eq, not_or,
      Bool.not_eq_false, Decimal.isPositive_iff, Decimal.lt_iff_value_lt, not_lt] at hcovered
    obtain ⟨b, hb, hdifference⟩ := a.exists_debited hcovered.1 hcovered.2
    rw [debited?, if_neg h, hdifference, hb]
    rfl

/-- What is left after a debit is not negative. -/
theorem safe_debit? : (a.debit? amount).Safe (liftM (a.debit amount)) s := by
  have hdebit : (liftM (a.debit amount) : Work σ Account) =
      liftM (a.debited amount) >>= fun b => pure { a with balance := b } := by
    rw [debit]
    cases a.debited amount <;> rfl
  rw [hdebit]
  refine (a.safe_debited? amount s).bind fun b t hb => ?_
  rw [Work.run_lift, Prod.mk.injEq, debited_eq_ok_iff] at hb
  obtain ⟨⟨_, hle, hb⟩, rfl⟩ := hb
  rw [Decimal.lt_iff_value_lt, not_lt] at hle
  have hnonneg := (Decimal.isRounding_sub? hb).nonneg (sub_nonneg.mpr hle)
  exact .assert (by rw [Decimal.isNegative_eq_false_iff.mpr hnonneg]; rfl) rfl

/-- What there is after a credit is not negative, where there was nothing negative before. -/
theorem safe_credit? (h : 0 ≤ a.balance.value) :
    (a.credit? amount).Safe (liftM (a.credit amount)) s := by
  have hcredit : (liftM (a.credit amount) : Work σ Account) =
      liftM (a.credited amount) >>= fun b => pure { a with balance := b } := by
    rw [credit]
    cases a.credited amount <;> rfl
  rw [hcredit]
  refine .lift fun b hb => ?_
  rw [credited_eq_ok_iff, Decimal.isPositive_iff] at hb
  obtain ⟨hpos, hb⟩ := hb
  have hnonneg := (Decimal.isRounding_add? hb).nonneg (add_nonneg h hpos.le)
  exact .assert (by rw [Decimal.isNegative_eq_false_iff.mpr hnonneg]; rfl) rfl

/-- To an account that is negative a credit can break off. -/
example : (credit? ⟨"A", "Ada", .checking, .ofCoefficient (-5) 0 (by decide) (by decide)⟩
    (.ofNat 1 (by decide)) : Unchecked Unit Account) () = none := rfl

end Account

/-! ### The reserve -/

namespace Reserve

variable {σ : Type}

/-- Takes notes of one denomination out; the difference of the counts is not checked. -/
def remove? (r : Reserve) (d : Denomination) (count : Nat32) : Unchecked σ Reserve := do
  if (r.notes.get d).val < count.val then throw (.unavailable .cash)
  let left ← (r.notes.get d).sub? count
  pure { r with notes := r.notes.set d left }

/-- The reserve with an ink level that is asserted to be in its range. -/
def withInk? (r : Reserve) (level : Nat) : Option Reserve :=
  if h : level ≤ 100 then some { r with ink := level, ink_le := h } else none

/-- The reserve with an ink level moved into its range. -/
def setInk? (r : Reserve) (level : Int) : Option Reserve :=
  r.withInk? (max 0 (min level 100)).toNat

/-- The reserve after a receipt, if there is ink and paper for one. -/
def consume? (r : Reserve) : Option Reserve :=
  if r.canPrint then { r with paper := r.paper.sub 1 }.withInk? (r.ink - 1) else some r

theorem safe_remove? (r : Reserve) (d : Denomination) (count : Nat32) (s : σ) :
    (r.remove? d count).Safe (liftM (r.remove d count)) s := by
  by_cases h : (r.notes.get d).val < count.val
  · rw [remove?, remove, if_pos h, if_pos h]
    rfl
  · have hleft : (r.notes.get d).sub? count = some ((r.notes.get d).sub count) :=
      if_pos (Nat.le_of_not_lt h)
    rw [remove?, remove, if_neg h, if_neg h, hleft]
    rfl

theorem setInk?_eq (r : Reserve) (level : Int) : r.setInk? level = some (r.setInk level) := by
  have hlevel : (max 0 (min level 100)).toNat = min level.toNat 100 := by omega
  have hrange : min level.toNat 100 ≤ 100 := Nat.min_le_right _ _
  rw [setInk?, hlevel, withInk?, dif_pos hrange]
  rfl

theorem consume?_eq (r : Reserve) : r.consume? = some r.consume := by
  have hrange : r.ink - 1 ≤ 100 := Nat.le_trans (Nat.sub_le _ _) r.ink_le
  rw [consume?, consume]
  split
  · exact dif_pos hrange
  · rfl

end Reserve

end CashMachine
