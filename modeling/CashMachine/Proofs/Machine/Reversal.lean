/-
A deposit can be taken back.

The notes that a deposit is taken as are the ones that a withdrawal of the same amount takes first,
whatever other notes there are: they are a greedy selection from any holding that has them.  So the
withdrawal hands out just these notes, and where the balance has whole cents, the sum and the
difference are exact and cancel.

* `isGreedy_absorbed`, `allocate_absorbed` — the notes of a deposit, as a plan;
* `Notes.less_addAll` — notes that fit in can be taken out again;
* `deposit_of_sum`, `withdraw_of_plan` — when the two operations are answered;
* `deposit_withdraw_restores` — one after the other, on every machine that can be reached.
-/
import CashMachine.Proofs.Decimal.Scale
import CashMachine.Proofs.Feasibility
import CashMachine.Proofs.Machine.Soundness
import CashMachine.Proofs.Takings

namespace CashMachine

/-! ### The notes of a deposit -/

namespace Notes

variable {n m : Notes}

theorem less_addAll (h : n.Fits m) : (n.addAll m).less m = n := by
  refine ext fun d => Nat32.ext ?_
  have hd := h d
  simp only [Nat32.max] at hd
  rw [get_less, get_addAll, Nat32.val_sub, Nat32.val_add]
  omega

theorem within_addAll (n m : Notes) : m.within (n.addAll m) = true := by
  refine within_iff.mpr fun d => ?_
  have hd := (m.get d).val_le
  rw [get_addAll, Nat32.val_add]
  omega

end Notes

namespace Dispenser

variable {ds : List Denomination} {amount : Decimal} {available notes : Notes}

theorem get_absorb_of_notMem {d : Denomination} (h : d ∉ ds) (left : Nat) (notes : Notes) :
    (absorb ds left notes).get d = notes.get d := by
  induction ds generalizing left notes with
  | nil => rfl
  | cons e ds ih =>
    rw [absorb, ih (List.not_mem_of_not_mem_cons h),
      Notes.get_add_of_ne _ _ (List.ne_of_not_mem_cons h)]

/-- The notes that are taken are worth no more than the units there were. -/
theorem worth_absorb_le (hn : ds.Nodup) (hnone : ∀ d ∈ ds, notes.get d = 0) (left : Nat) :
    (absorb ds left notes).worth ds ≤ left := by
  induction ds generalizing left notes with
  | nil => exact Nat.zero_le left
  | cons d ds ih =>
    rw [List.nodup_cons] at hn
    have hrest : (absorb (d :: ds) left notes).worth ds ≤ left % d.value := by
      refine ih hn.2 (fun e he => ?_) _
      rw [Notes.get_add_of_ne _ _ (ne_of_mem_of_not_mem he hn.1)]
      exact hnone e (List.mem_cons_of_mem d he)
    have hcount : ((absorb (d :: ds) left notes).get d).val ≤ left / d.value := by
      rw [absorb, get_absorb_of_notMem hn.1, Notes.get_add_self, hnone d List.mem_cons_self,
        Nat32.val_add, Nat32.val_zero, Nat32.val_capped]
      omega
    have hworth := Nat.mul_le_mul_left d.value hcount
    have hdiv := Nat.div_add_mod left d.value
    rw [Notes.worth_cons]
    omega

/-- What is taken of the smaller notes is worth less than one more of the larger. -/
theorem worth_absorb_lt (hn : ds.Nodup) (hnone : ∀ d ∈ ds, notes.get d = 0) {d : Denomination}
    {smaller : List Denomination} (h : d :: smaller <:+ ds) (left : Nat) :
    (absorb ds left notes).worth smaller < d.value := by
  induction ds generalizing left notes with
  | nil => simp at h
  | cons e ds ih =>
    rw [List.nodup_cons] at hn
    have hnone' : ∀ f ∈ ds, (notes.add e (Nat32.capped (left / e.value))).get f = 0 := by
      intro f hf
      rw [Notes.get_add_of_ne _ _ (ne_of_mem_of_not_mem hf hn.1)]
      exact hnone f (List.mem_cons_of_mem e hf)
    rw [absorb]
    rcases List.suffix_cons_iff.mp h with heq | hsuffix
    · obtain ⟨rfl, rfl⟩ := List.cons.inj heq
      exact lt_of_le_of_lt (worth_absorb_le hn.2 hnone' _) (Nat.mod_lt _ d.value_pos)
    · exact ih hn.2 hnone' hsuffix _

/-- From any holding that has them, the notes of a deposit are a greedy selection. -/
theorem isGreedy_absorbed (h : (absorbed amount).within available = true) :
    (absorbed amount).IsGreedy available := by
  refine ⟨Notes.within_iff.mp h, fun {d smaller} hs => .inr ?_⟩
  cases hunits : amount.truncate.wholeUnits? with
  | none =>
    have hempty : Notes.empty.worth smaller = 0 := by simp [Notes.worth]
    rw [absorbed, hunits, hempty]
    exact d.value_pos
  | some units =>
    rw [absorbed, hunits]
    exact worth_absorb_lt (by decide) (fun e _ => Notes.get_empty e) hs units

/-- The notes of a deposit of tens are the plan for it, wherever they are held. -/
theorem allocate_absorbed (hpos : 0 < amount.value) (hlt : amount.value < 100 * 2 ^ 32)
    {k : ℕ} (hten : amount.value = (10 * k : ℕ)) (h : (absorbed amount).within available = true) :
    (absorbed amount).total.value = amount.value ∧
      allocate amount available = some (absorbed amount) := by
  have hvalue : amount.value = (absorbed amount).value := by
    have hk : amount.value / 10 = k := by
      rw [hten]
      push_cast
      ring
    rw [value_absorbed hpos hlt, hk, Nat.floor_natCast, hten]
  refine ⟨by rw [Notes.value_total, hvalue], ?_⟩
  exact allocate_eq_some_iff.mpr
    ⟨Decimal.negative_eq_false_of_pos hpos, hvalue, isGreedy_absorbed h⟩

end Dispenser

/-! ### The balance -/

theorem Decimal.isCents_of_whole {a : Decimal} {n : ℕ} (h : a.value = n) : a.IsCents :=
  ⟨100 * n, by rw [h]; push_cast; ring⟩

namespace Machine

variable {m m₁ : Machine} {reads : Reads} {id : AccountId} {a : Account} {amount b : Decimal}
  {plan : Notes}

theorem deposit_of_sum (stamp : Stamp) (hc : checkAmount amount = .ok ())
    (hl : m.load reads id = (.ok a, m₁)) (hb : a.balance.add? amount = some b) :
    (m.deposit reads stamp id amount).answer = .ok (.deposit stamp id amount) ∧
      (m.deposit reads stamp id amount).machine =
        m₁.paidIn id b (Dispenser.absorbed amount) := by
  have hpos := Decimal.isPositive_iff.mpr (checkAmount_eq_ok_iff.mp hc).1
  have hcredit := Account.credit_of_credited (Account.credited_eq_ok_iff.mpr ⟨hpos, hb⟩)
  simp [deposit, Step.of, hc, Progress.run_account, hl, hcredit, putBalance, run_takeIn, paidIn]

/-- A plan that is carried out is worth no more than the notes it is taken from. -/
theorem covers_of_plan (hp : m.plan? amount = some plan) : m.reserve.covers amount = true := by
  obtain ⟨_, htotal, hwithin⟩ := plan?_eq_some_iff.mp hp
  rw [Decimal.equals_iff_value_eq, Notes.value_total] at htotal
  have hless := Notes.value_less_add hwithin
  refine decide_eq_true (Decimal.le_iff_value_le.mpr ?_)
  rw [← htotal, Reserve.cash, Notes.value_total]
  have hle : plan.value ≤ m.reserve.notes.value := by omega
  exact_mod_cast hle

theorem withdraw_of_plan (stamp : Stamp) (hc : checkAmount amount = .ok ())
    (hl : m.load reads id = (.ok a, m₁)) (hle : amount.value ≤ a.balance.value)
    (hp : m₁.plan? amount = some plan) (hb : a.balance.sub? amount = some b) :
    (m.withdraw reads stamp id amount).answer = .ok (.withdrawal stamp id amount) ∧
      (m.withdraw reads stamp id amount).machine = m₁.paidOut id b plan := by
  have hpos := Decimal.isPositive_iff.mpr (checkAmount_eq_ok_iff.mp hc).1
  have hlt : ¬ a.balance < amount := by
    rw [Decimal.lt_iff_value_lt]
    exact not_lt.mpr hle
  have hdebit := Account.debit_of_debited (Account.debited_eq_ok_iff.mpr ⟨hpos, hlt, hb⟩)
  have hcovers := covers_of_plan hp
  have hwithin := (plan?_eq_some_iff.mp hp).2.2
  simp [withdraw, Step.of, hc, Progress.run_account, hl, hlt, hcovers, hp, hdebit, putBalance,
    forM_takeOut_of_within, hwithin, Progress.withNotes, paidOut]

/-- An account that a machine with a sound ledger finds is there afterwards, and not in debt. -/
theorem load_of_sound (hm : m.ledger.Sound) (hl : m.load reads id = (.ok a, m₁)) :
    m₁.ledger.find? id = some a ∧ 0 ≤ a.balance.value := by
  have hfind := (load_eq_ok hl).1
  have hsound := sound_admitted hm reads (.balance id)
  have hgather : m.admitted reads (.balance id) = m₁ := by
    rw [admitted_eq_gather (by simp), Request.lookups, gather_one, hl]
  rw [hgather] at hsound
  exact ⟨hfind, (hsound id a hfind).2⟩

/-- Notes that fit in and are then paid out leave the reserve as it was. -/
theorem reserve_paidOut_paidIn {notes : Notes} {c : Decimal} (h : m.reserve.notes.Fits notes) :
    ((m.paidIn id b notes).paidOut id c notes).reserve = m.reserve :=
  Reserve.ext (Notes.less_addAll h) rfl rfl

/-- Once a deposit of tens has been paid in, a withdrawal of the same amount is answered, and its
plan is the notes of the deposit. -/
theorem withdraw_of_paidIn (hgreedy : m.dispenser = Dispenser.greedy)
    (ha : m.ledger.find? id = some a) (hpos : 0 < amount.value)
    (hlt : amount.value < 100 * 2 ^ 32) {k : ℕ} (hten : amount.value = (10 * k : ℕ))
    (hle : amount.value ≤ b.value) (reads : Reads) (stamp : Stamp) :
    ∃ c, c.value = b.value - amount.value ∧
      (m.paidIn id b (Dispenser.absorbed amount)).plan? amount =
        some (Dispenser.absorbed amount) ∧
      ((m.paidIn id b (Dispenser.absorbed amount)).withdraw reads stamp id amount).answer =
        .ok (.withdrawal stamp id amount) ∧
      ((m.paidIn id b (Dispenser.absorbed amount)).withdraw reads stamp id amount).machine =
        (m.paidIn id b (Dispenser.absorbed amount)).paidOut id c (Dispenser.absorbed amount) := by
  obtain ⟨c, hc⟩ := Decimal.exists_sub?_of_le hpos.le hle
  have hcheck : checkAmount amount = .ok () :=
    checkAmount_eq_ok_iff.mpr ⟨hpos, Decimal.isCents_of_whole hten⟩
  have hload : (m.paidIn id b (Dispenser.absorbed amount)).load reads id =
      (.ok { a with balance := b }, m.paidIn id b (Dispenser.absorbed amount)) := by
    refine load_of_find? ?_ reads
    show (m.ledger.setBalance id b).find? id = _
    rw [Ledger.find?_setBalance_self, ha, Option.map_some]
  have hwithin := Notes.within_addAll m.reserve.notes (Dispenser.absorbed amount)
  obtain ⟨htotal, hallocate⟩ := Dispenser.allocate_absorbed hpos hlt hten hwithin
  have hplan : (m.paidIn id b (Dispenser.absorbed amount)).plan? amount =
      some (Dispenser.absorbed amount) := by
    refine plan?_eq_some_iff.mpr ⟨?_, Decimal.equals_iff_value_eq.mpr htotal, hwithin⟩
    show m.dispenser amount (m.reserve.notes.addAll (Dispenser.absorbed amount)) = _
    rw [hgreedy]
    exact hallocate
  exact ⟨c, Decimal.value_sub?_of_whole hc hten hle, hplan,
    withdraw_of_plan stamp hcheck hload hle hplan hc⟩

/-- On every machine with the greedy dispenser that can be reached, a deposit of a multiple of ten
to an account with whole cents is answered, where sum and counts stay in their ranges, and so is a
withdrawal of the same amount right after it.  The withdrawal hands out the notes of the deposit,
whatever else is held, and leaves the balance as a number, the reserve and all other accounts as
they were before both. -/
theorem deposit_withdraw_restores {σ : Type} {stores : Stores σ} {c : Configuration} {s s' : σ}
    {m₀ : Machine} (hbuild : build stores c s = (.ok m₀, s')) (visits : List Visit)
    (hrun : m₀.run visits = m) (hgreedy : m.dispenser = Dispenser.greedy)
    (ha : (m.load reads id).1 = .ok a) (hcents : a.balance.IsCents) (hpos : 0 < amount.value)
    (hlt : amount.value < 100 * 2 ^ 32) {k : ℕ} (hten : amount.value = 10 * k)
    (hmax : a.balance.value + amount.value ≤ Decimal.maxCents)
    (hfits : m.reserve.notes.Fits (Dispenser.absorbed amount))
    {reads' : Reads} {stamp stamp' : Stamp} {paid returned : Step Transaction}
    (hpaid : m.deposit reads stamp id amount = paid)
    (hreturned : paid.machine.withdraw reads' stamp' id amount = returned) :
    paid.answer = .ok (.deposit stamp id amount) ∧
      returned.answer = .ok (.withdrawal stamp' id amount) ∧
      paid.machine.plan? amount = some (Dispenser.absorbed amount) ∧
      (∀ d, (paid.machine.reserve.notes.get d).val =
        (returned.machine.reserve.notes.get d).val + ((Dispenser.absorbed amount).get d).val) ∧
      (∃ balance, returned.machine.ledger.find? id = some { a with balance } ∧
        balance.value = a.balance.value) ∧
      returned.machine.reserve = m.reserve ∧
      ∀ other, other ≠ id →
        returned.machine.ledger.find? other = m.ledger.find? other := by
  subst hrun hpaid hreturned
  have hsound := sound_run (sound_build hbuild) visits
  generalize m₀.run visits = m at *
  obtain ⟨m₁, hl⟩ : ∃ m₁, m.load reads id = (.ok a, m₁) := ⟨_, Prod.ext ha rfl⟩
  obtain ⟨hfind, hzero⟩ := load_of_sound hsound hl
  obtain ⟨_, hothers⟩ := load_eq_ok hl
  have hgrown : Grown reads [id] m m₁ := by
    have h := grown_load m reads id
    rwa [hl] at h
  have hreserve : m₁.reserve = m.reserve := hgrown.reserve
  -- the sum is exact, and so is the difference, and they cancel
  have hwhole : amount.value = (10 * k : ℕ) := by
    rw [hten]
    push_cast
    ring
  have hamount := Decimal.isCents_of_whole hwhole
  obtain ⟨b, hb, hsum⟩ := Decimal.exists_add?_of_cents hcents hamount
    (by rw [abs_of_nonneg (by linarith)]; exact hmax)
  have hle : amount.value ≤ b.value := by linarith
  obtain ⟨hanswer, hmachine⟩ :=
    deposit_of_sum stamp (checkAmount_eq_ok_iff.mpr ⟨hpos, hamount⟩) hl hb
  obtain ⟨d, hdifference, hplan, hanswer', hmachine'⟩ :=
    withdraw_of_paidIn (hgrown.dispenser.trans hgreedy) hfind hpos hlt hwhole hle reads' stamp'
  rw [hmachine, hmachine']
  refine ⟨hanswer, hanswer', hplan, ?_, ⟨d, ?_, by linarith⟩, ?_, ?_⟩
  · intro e
    have hheld := Notes.within_iff.mp
      (Notes.within_addAll m₁.reserve.notes (Dispenser.absorbed amount)) e
    show _ = (((m₁.reserve.notes.addAll _).less _).get e).val + _
    rw [Notes.get_less, Nat32.val_sub, Nat.sub_add_cancel hheld]
    rfl
  · show ((m₁.ledger.setBalance id b).setBalance id d).find? id = _
    rw [Ledger.find?_setBalance_self, Ledger.find?_setBalance_self, hfind]
    rfl
  · rw [← hreserve] at hfits
    exact (reserve_paidOut_paidIn hfits).trans hreserve
  · intro other hother
    show ((m₁.ledger.setBalance id b).setBalance id d).find? other = _
    rw [Ledger.find?_setBalance_of_ne _ _ hother, Ledger.find?_setBalance_of_ne _ _ hother,
      hothers other hother]

/-- Sixty, on a machine that holds a fifty and three twenties and has no plan for it: once a fifty
and a ten have been paid in, there is one. -/
theorem deposit_withdraw_restores_sixty :
    let a : Account := ⟨"A", "Ada", .checking, ⟨false, 1234, 2, by decide, by decide⟩⟩
    let c : Configuration :=
      { accounts := [a], reserve := { Reserve.empty with notes := ⟨0, ⟨3, by decide⟩, 1, 0⟩ } }
    let amount : Decimal := .ofNat 60 (by decide)
    let stamp : Stamp := ⟨"T", Instant.epoch⟩
    ∃ m s, build Memory.stores c Memory.empty = (.ok m, s) ∧ m.plan? amount = none ∧
      (m.deposit (Memory.reads s) stamp "A" amount).machine.plan? amount = some ⟨1, 0, 1, 0⟩ ∧
      ((m.deposit (Memory.reads s) stamp "A" amount).machine.withdraw (Memory.reads s) stamp "A"
        amount).machine.reserve = m.reserve := by
  intro a c amount stamp
  obtain ⟨m, s, hbuild, hnone, hgreedy, hload, hfits, hnotes⟩ :
      ∃ m s, build Memory.stores c Memory.empty = (.ok m, s) ∧ m.plan? amount = none ∧
        m.dispenser = Dispenser.greedy ∧ (m.load (Memory.reads s) "A").1 = .ok a ∧
        m.reserve.notes.Fits (Dispenser.absorbed amount) ∧
        Dispenser.absorbed amount = ⟨1, 0, 1, 0⟩ :=
    ⟨_, _, rfl, by decide +kernel, rfl, by decide +kernel, by decide +kernel, by decide +kernel⟩
  have hamount : amount.value = 10 * (6 : ℕ) := by
    norm_num [amount, Decimal.value, Decimal.ofNat, Decimal.coefficient, tenTo]
  have hbalance : a.balance.value = 1234 / 100 := by
    norm_num [a, Decimal.value, Decimal.coefficient, tenTo]
  have hpos : 0 < amount.value := by
    rw [hamount]
    norm_num
  have hlt : amount.value < 100 * 2 ^ 32 := by
    rw [hamount]
    norm_num
  have hmax : a.balance.value + amount.value ≤ Decimal.maxCents := by
    rw [hamount, hbalance]
    norm_num [Decimal.maxCents, Decimal.maxCoefficient]
  obtain ⟨_, _, hplan, _, _, hreserve, _⟩ := deposit_withdraw_restores hbuild [] rfl hgreedy hload
    (by decide +kernel) hpos hlt hamount hmax hfits rfl rfl
  exact ⟨m, s, hbuild, hnone, hnotes ▸ hplan, hreserve⟩

end Machine

end CashMachine
