/-
The cash in the machine reconciles with what was answered.

Only three requests move notes, and each in its own way: maintenance fills notes in, a deposit is
taken as notes down to the multiple of ten below it, and a withdrawal is paid out by a plan that
is worth the amount.  Along a run in which no count of notes goes beyond the largest one, the
cash is what it was at the start, plus what came in, minus what was paid out.

* `Outcome.notes_eq` — what does not move notes;
* `Outcome.cash`, `Session.cash_run` — one operation, and by induction a run;
* `cash_reconciles` — every run, and every further request.
-/
import CashMachine.Proofs.Reconciliation
import CashMachine.Proofs.Takings

namespace CashMachine

namespace Request

/-- The notes that maintenance has filled in, by the answer to it. -/
def replenished : Request → Except Error Reply → List Notes
  | .replenish _ notes, .ok _ => [notes]
  | _, _ => []

/-- The amount that was deposited, by the answer. -/
def deposited : Request → Except Error Reply → List Decimal
  | .deposit _ amount, .ok _ => [amount]
  | _, _ => []

/-- The amount that was withdrawn, by the answer. -/
def withdrawn : Request → Except Error Reply → List Decimal
  | .withdraw _ amount, .ok _ => [amount]
  | _, _ => []

/-- The notes that came into the machine, by the answer. -/
def takenIn (r : Request) (answer : Except Error Reply) : List Notes :=
  r.replenished answer ++ (r.deposited answer).map Dispenser.absorbed

/-- The requests that can move notes. -/
def movesNotes : Request → Bool
  | .withdraw .. | .deposit .. | .replenish .. => true
  | _ => false

end Request

/-- What came in by a row of refills and deposits, less what a row of withdrawals paid out. -/
def netCash (refills : List Notes) (deposits withdrawals : List Decimal) : ℚ :=
  (refills.map fun n => n.total.value).sum +
    (deposits.map fun a => (10 * ⌊a.value / 10⌋₊ : ℚ)).sum - (withdrawals.map Decimal.value).sum

/-- The net cash of one request, by its answer. -/
def Request.cash (r : Request) (answer : Except Error Reply) : ℚ :=
  netCash (r.replenished answer) (r.deposited answer) (r.withdrawn answer)

theorem netCash_append (ns ns' : List Notes) (ds ds' ws ws' : List Decimal) :
    netCash (ns ++ ns') (ds ++ ds') (ws ++ ws') = netCash ns ds ws + netCash ns' ds' ws' := by
  simp only [netCash, List.map_append, List.sum_append]
  ring

theorem Request.cash_of_still {r : Request} {answer : Except Error Reply}
    (h : r.movesNotes = false ∨ ∃ e, answer = .error e) : r.cash answer = 0 := by
  have hnothing : netCash [] [] [] = 0 := by simp [netCash]
  obtain hr | ⟨e, rfl⟩ := h
  · cases r with
    | withdraw | deposit | replenish => cases hr
    | _ => exact hnothing
  · cases r <;> exact hnothing

namespace Reserve

theorem cash_value (r : Reserve) : r.cash.value = r.notes.value :=
  Notes.value_total r.notes

theorem cash_addAll {r : Reserve} {notes : Notes} (h : r.notes.Fits notes) :
    (r.addAll notes).cash.value = r.cash.value + notes.total.value := by
  rw [cash_value, cash_value, Notes.value_total, addAll, Notes.value_addAll h, Nat.cast_add]

end Reserve

namespace Machine

variable {reads : Reads} {stamp : Stamp} {m : Machine} {r : Request} {s : Step Reply}

/-- Requests that are refused leave the notes as they are, and so do all but the three that can
move notes. -/
theorem Outcome.notes_eq (h : Outcome reads stamp m r s)
    (hr : r.movesNotes = false ∨ ∃ e, s.answer = .error e) :
    s.machine.reserve.notes = m.reserve.notes := by
  cases h with
  | withdrawn | deposited | replenished =>
    obtain hr | ⟨e, he⟩ := hr
    · cases hr
    · cases he
  | printed | printedBalance => exact m.reserve.notes_consume
  | _ => rfl

theorem Outcome.cash_of_still (h : Outcome reads stamp m r s)
    (hr : r.movesNotes = false ∨ ∃ e, s.answer = .error e) :
    s.machine.reserve.cash.value = m.reserve.cash.value + r.cash s.answer := by
  rw [Reserve.cash, h.notes_eq hr, Request.cash_of_still hr, add_zero, Reserve.cash]

/-- An operation changes the cash by what it is answered for. -/
theorem Outcome.cash (h : Outcome reads stamp m r s)
    (hsmall : ∀ a ∈ r.deposited s.answer, a.value < 100 * 2 ^ 32)
    (hroom : ∀ n ∈ r.takenIn s.answer, m.reserve.notes.Fits n) :
    s.machine.reserve.cash.value = m.reserve.cash.value + r.cash s.answer := by
  by_cases hstill : r.movesNotes = false ∨ ∃ e, s.answer = .error e
  · exact h.cash_of_still hstill
  cases h with
  | @withdrawn id amount b a plan hc ha hle hp hb =>
    -- the plan is worth the amount, and leaves the machine
    obtain ⟨_, htotal, hwithin⟩ := plan?_eq_some_iff.mp hp
    rw [Decimal.equals_iff_value_eq, Notes.value_total] at htotal
    have hless : ((m.reserve.notes.less plan).value : ℚ) + plan.value = m.reserve.notes.value := by
      exact_mod_cast Notes.value_less_add hwithin
    have hnet : netCash [] [] [amount] = -amount.value := by simp [netCash]
    show (m.reserve.notes.less plan).total.value = _ + netCash [] [] [amount]
    rw [hnet, Reserve.cash_value, Notes.value_total]
    linarith
  | @deposited id amount b a hc ha hb =>
    -- the amount is positive, since it was checked
    have hpos := (checkAmount_eq_ok_iff.mp hc).1
    have habsorbed := Dispenser.value_absorbed hpos (hsmall amount List.mem_cons_self)
    have hnet : netCash [] [amount] [] = (Dispenser.absorbed amount).total.value := by
      simp [netCash, Notes.value_total, habsorbed]
    show (m.reserve.addAll (Dispenser.absorbed amount)).cash.value = _ + netCash [] [amount] []
    rw [hnet]
    exact Reserve.cash_addAll (hroom _ List.mem_cons_self)
  | @replenished role notes h hn =>
    have hnet : netCash [notes] [] [] = notes.total.value := by simp [netCash]
    show (m.reserve.addAll notes).cash.value = _ + netCash [notes] [] []
    rw [hnet]
    exact Reserve.cash_addAll (hroom _ List.mem_cons_self)
  | refused e => exact absurd (.inr ⟨e, rfl⟩) hstill
  | _ => exact absurd (.inl rfl) hstill

end Machine

/-! ### Runs -/

namespace Session

variable {σ : Type} {stores : Stores σ} {s : Session σ}

/-- What a request contributes by the answer to it. -/
def answered {α : Type} (f : Request → Except Error Reply → List α) (stores : Stores σ)
    (s : Session σ) (r : Stamp × Request) : List α :=
  f r.2 (s.perform stores r.1 r.2).answer

theorem notes_perform (stores : Stores σ) (s : Session σ) (stamp : Stamp) {r : Request}
    (hr : r.movesNotes = false ∨ ∃ e, (s.perform stores stamp r).answer = .error e) :
    (s.perform stores stamp r).session.machine.reserve.notes = s.machine.reserve.notes := by
  have h := (Machine.outcome_perform s.machine (stores.reads s.store) stamp r).notes_eq hr
  rw [Machine.reserve_admitted] at h
  exact h

theorem cash_perform (r : Stamp × Request)
    (hsmall : ∀ a ∈ s.answered Request.deposited stores r, a.value < 100 * 2 ^ 32)
    (hroom : ∀ n ∈ s.answered Request.takenIn stores r, s.machine.reserve.notes.Fits n) :
    (s.perform stores r.1 r.2).session.machine.reserve.cash.value =
      s.machine.reserve.cash.value + netCash (s.answered Request.replenished stores r)
        (s.answered Request.deposited stores r) (s.answered Request.withdrawn stores r) := by
  have ho := Machine.outcome_perform s.machine (stores.reads s.store) r.1 r.2
  have h := ho.cash hsmall (by rw [Machine.reserve_admitted]; exact hroom)
  rw [Machine.reserve_admitted] at h
  exact h

theorem cash_run (s : Session σ) (rs : List (Stamp × Request))
    (hsmall : ∀ a ∈ s.along stores (answered Request.deposited stores) rs, a.value < 100 * 2 ^ 32)
    (hroom : ∀ qs r, qs ++ [r] <+: rs →
      ∀ n ∈ (s.run stores qs).answered Request.takenIn stores r,
        (s.run stores qs).machine.reserve.notes.Fits n) :
    (s.run stores rs).machine.reserve.cash.value =
      s.machine.reserve.cash.value +
        netCash (s.along stores (answered Request.replenished stores) rs)
          (s.along stores (answered Request.deposited stores) rs)
          (s.along stores (answered Request.withdrawn stores) rs) := by
  induction rs generalizing s with
  | nil => simp [along, netCash, run]
  | cons r rs ih =>
    simp only [along, List.mem_append] at hsmall
    have hfirst := cash_perform r (fun a ha => hsmall a (.inl ha)) (hroom [] r ⟨rs, rfl⟩)
    -- the points of the rest of the run are points of the run
    have hrest := ih (s.perform stores r.1 r.2).session (fun a ha => hsmall a (.inr ha))
      fun qs q hq => hroom (r :: qs) q (List.cons_prefix_cons.mpr ⟨rfl, hq⟩)
    simp only [along]
    rw [netCash_append, ← add_assoc, ← hfirst]
    exact hrest

end Session

/-- After any run, over any stores and with any dispenser, in which each deposit that is answered
is in the range of the largest note, and no note comes in on top of the largest count: the cash is
that of the start, of a machine that was just set up or of any other, plus the value of what was
filled in, plus every deposit down to the multiple of ten below it, minus every withdrawal.  Of
further requests, those that are refused and all but the three that move notes leave every count
of notes as it is. -/
theorem cash_reconciles {σ : Type} {stores : Stores σ} {s₀ s : Session σ}
    {rs : List (Stamp × Request)} {refills : List Notes} {deposits withdrawals : List Decimal}
    (hs : s₀.run stores rs = s)
    (hrefills : s₀.along stores (Session.answered Request.replenished stores) rs = refills)
    (hdeposits : s₀.along stores (Session.answered Request.deposited stores) rs = deposits)
    (hwithdrawals : s₀.along stores (Session.answered Request.withdrawn stores) rs = withdrawals)
    (hsmall : ∀ a ∈ deposits, a.value < 100 * 2 ^ 32)
    (hroom : ∀ qs r, qs ++ [r] <+: rs →
      ∀ n ∈ (s₀.run stores qs).answered Request.takenIn stores r,
        (s₀.run stores qs).machine.reserve.notes.Fits n) :
    s.machine.reserve.cash.value = s₀.machine.reserve.cash.value +
        (refills.map fun n => n.total.value).sum +
        (deposits.map fun a => (10 * ⌊a.value / 10⌋₊ : ℚ)).sum -
        (withdrawals.map Decimal.value).sum ∧
      ∀ stamp r, r.movesNotes = false ∨ (∃ e, (s.perform stores stamp r).answer = .error e) →
        ∀ d, (s.perform stores stamp r).session.machine.reserve.notes.get d =
          s.machine.reserve.notes.get d := by
  subst hs hrefills hdeposits hwithdrawals
  constructor
  · have hcash := Session.cash_run s₀ rs hsmall hroom
    rw [netCash] at hcash
    linarith
  · intro stamp r hr d
    rw [Session.notes_perform stores _ stamp hr]

/-- Two hundreds filled in, a deposit of `57.30`, and a withdrawal of `50`. -/
theorem cash_reconciles_three :
    let a : Account := ⟨"A", "Ada", .checking, .ofNat 30 (by decide)⟩
    let c : Configuration := { version := ⟨2, 0⟩, accounts := [a] }
    let filled : Stamp × Request :=
      (⟨"T1", Instant.epoch⟩, .replenish .technician ⟨0, 0, 0, 2⟩)
    let deposit : Stamp × Request :=
      (⟨"T2", Instant.epoch⟩, .deposit "A" ⟨false, 5730, 2, by decide, by decide⟩)
    let withdrawal : Stamp × Request :=
      (⟨"T3", Instant.epoch⟩, .withdraw "A" (.ofNat 50 (by decide)))
    ∃ m s₁ s, Machine.build Memory.stores c Memory.empty = (.ok m, s₁) ∧
      Session.run Memory.stores ⟨m, s₁⟩ [filled, deposit, withdrawal] = s ∧
      s.machine.reserve.notes = ⟨0, 0, 0, 2⟩ ∧
      s.machine.reserve.cash.value = m.reserve.cash.value + 200 + 50 - 50 := by
  intro a c filled deposit withdrawal
  let amount : Decimal := ⟨false, 5730, 2, by decide, by decide⟩
  let paid : Decimal := .ofNat 50 (by decide)
  obtain ⟨m, s₁, hbuild, hnotes, hrefills, hdeposits, hwithdrawals, hroom⟩ :
      ∃ m s₁, Machine.build Memory.stores c Memory.empty = (.ok m, s₁) ∧
        (Session.run Memory.stores ⟨m, s₁⟩
          [filled, deposit, withdrawal]).machine.reserve.notes = ⟨0, 0, 0, 2⟩ ∧
        Session.along Memory.stores (Session.answered Request.replenished Memory.stores) ⟨m, s₁⟩
          [filled, deposit, withdrawal] = [⟨0, 0, 0, 2⟩] ∧
        Session.along Memory.stores (Session.answered Request.deposited Memory.stores) ⟨m, s₁⟩
          [filled, deposit, withdrawal] = [amount] ∧
        Session.along Memory.stores (Session.answered Request.withdrawn Memory.stores) ⟨m, s₁⟩
          [filled, deposit, withdrawal] = [paid] ∧
        ∀ ps ∈ [filled, deposit, withdrawal].inits, ∀ r ∈ ps.getLast?,
          ∀ n ∈ (Session.run Memory.stores ⟨m, s₁⟩ ps.dropLast).answered Request.takenIn
              Memory.stores r,
            (Session.run Memory.stores ⟨m, s₁⟩ ps.dropLast).machine.reserve.notes.Fits n :=
    ⟨_, _, rfl, by decide +kernel, by decide +kernel, by decide +kernel, by decide +kernel,
      by decide +kernel⟩
  have hamount : amount.value = 5730 / 100 := by
    norm_num [amount, Decimal.value, Decimal.coefficient, tenTo]
  have hpaid : paid.value = 50 := by
    norm_num [paid, Decimal.value, Decimal.ofNat, Decimal.coefficient, tenTo]
  have hsmall : ∀ a ∈ [amount], a.value < 100 * 2 ^ 32 := by
    intro a ha
    rw [List.mem_singleton.mp ha, hamount]
    norm_num
  obtain ⟨hcash, _⟩ := cash_reconciles rfl hrefills hdeposits hwithdrawals hsmall
    fun qs r hqs n hn => by
      have h := hroom (qs ++ [r]) ((List.mem_inits _ _).mpr hqs) r (by simp)
      rw [List.dropLast_concat] at h
      exact h n hn
  have hfloor : ⌊amount.value / 10⌋₊ = 5 := by
    rw [hamount]
    norm_num [Nat.floor_eq_iff]
  have hrefill : (⟨0, 0, 0, 2⟩ : Notes).total.value = 200 := by
    rw [Notes.value_total, show (⟨0, 0, 0, 2⟩ : Notes).value = 200 by decide, Nat.cast_ofNat]
  refine ⟨m, s₁, _, hbuild, rfl, hnotes, hcash.trans ?_⟩
  simp only [List.map_cons, List.map_nil, List.sum_cons, List.sum_nil, hrefill, hfloor, hpaid]
  norm_num

end CashMachine
