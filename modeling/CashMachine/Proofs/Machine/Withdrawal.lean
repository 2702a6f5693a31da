/-
Withdrawals move the same money out of the account and out of the machine.

A dispenser proposes a plan, and nothing is known about it.  A withdrawal that is answered has
carried out a plan that is worth the amount and was held (`plan?_eq_some_iff`), so the amount is
a whole one, and it leaves the balance exactly, whatever the scale of the balance
(`Decimal.value_sub?_of_whole`).

* `withdraw_exact` — the account, the notes, and everything that stays as it is.
-/
import CashMachine.Proofs.Machine.Perform
import CashMachine.Store.Memory

namespace CashMachine.Machine

variable {m : Machine} {reads : Reads} {stamp : Stamp} {id : AccountId} {amount : Decimal}
  {t : Transaction}

/-- An amount that can be moved is looked up for. -/
theorem admitted_withdraw (hc : checkAmount amount = .ok ()) :
    m.admitted reads (.withdraw id amount) = (m.load reads id).2 := by
  have h : m.admitted reads (.withdraw id amount) = m.gather reads [id] := by
    simp [admitted, Request.lookups, hc]
  rw [h, gather_one]

/-- What a withdrawal that is answered has found and done. -/
theorem withdraw_eq_of_ok (h : (m.withdraw reads stamp id amount).answer = .ok t) :
    ∃ a m₁ plan b, m.load reads id = (.ok a, m₁) ∧ m₁.plan? amount = some plan ∧
      amount.value ≤ a.balance.value ∧ a.balance.sub? amount = some b ∧
      (m.withdraw reads stamp id amount).machine = m₁.paidOut id b plan := by
  have ho := outcome_withdraw reads stamp m id amount
  -- the answer tells which of the two outcomes of a withdrawal it was
  generalize hs : (m.withdraw reads stamp id amount).map Reply.committed = s at ho
  have hmachine : (m.withdraw reads stamp id amount).machine = s.machine := by
    rw [← hs, Step.machine_map]
  have hanswer : s.answer = .ok (.committed t) := by
    rw [← hs, Step.map, h]
    rfl
  cases ho with
  | refused e => cases hanswer
  | @withdrawn _ _ b a plan hc ha hle hp hb =>
    rw [admitted_withdraw hc] at ha hp hmachine
    exact ⟨a, _, plan, b, load_of_find?_after ha, hp, hle, hb, hmachine⟩

/-- A withdrawal that is answered leaves the account with exactly the amount less, and the machine
with exactly the notes of the dispenser's plan less, which are worth the amount and were all
there; nothing else is changed. -/
theorem withdraw_exact {s : Step Transaction} (hs : m.withdraw reads stamp id amount = s)
    (h : s.answer = .ok t) :
    ∃ plan a b, m.dispenser amount m.reserve.notes = some plan ∧
      plan.total.value = amount.value ∧
      (m.load reads id).1 = .ok a ∧
      s.machine.ledger.find? id = some { a with balance := b } ∧
      b.value = a.balance.value - amount.value ∧
      (∀ d, (plan.get d).val ≤ (m.reserve.notes.get d).val ∧
        (s.machine.reserve.notes.get d).val = (m.reserve.notes.get d).val - (plan.get d).val) ∧
      s.machine.reserve.cash.value = m.reserve.cash.value - amount.value ∧
      s.machine.reserve.ink = m.reserve.ink ∧
      s.machine.reserve.paper = m.reserve.paper ∧
      s.machine.version = m.version ∧
      ∀ other, other ≠ id → s.machine.ledger.find? other = m.ledger.find? other := by
  subst hs
  obtain ⟨a, m₁, plan, b, hl, hp, hle, hb, hm⟩ := withdraw_eq_of_ok h
  obtain ⟨hfind, hothers⟩ := load_eq_ok hl
  obtain ⟨hd, htotal, hwithin⟩ := plan?_eq_some_iff.mp hp
  rw [Decimal.equals_iff_value_eq] at htotal
  -- the look-up has changed nothing but the ledger
  have hgrown := grown_load m reads id
  rw [hl] at hgrown
  have hreserve : m₁.reserve = m.reserve := hgrown.reserve
  rw [hreserve] at hwithin
  rw [hreserve, show m₁.dispenser = m.dispenser from hgrown.dispenser] at hd
  -- denominations are whole numbers, so the amount is one, whatever scale it was given in
  have hwhole : amount.value = (plan.value : ℕ) := by rw [← htotal, Notes.value_total]
  rw [hm]
  refine ⟨plan, a, b, hd, htotal, by rw [hl], ?_, ?_, ?_, ?_, ?_, ?_, hgrown.version, ?_⟩
  · show (m₁.ledger.setBalance id b).find? id = _
    rw [Ledger.find?_setBalance_self, hfind, Option.map_some]
  · exact Decimal.value_sub?_of_whole hb hwhole hle
  · intro d
    refine ⟨Notes.within_iff.mp hwithin d, ?_⟩
    show ((m₁.reserve.notes.less plan).get d).val = _
    rw [hreserve, Notes.get_less, Nat32.val_sub]
  · show (m₁.reserve.notes.less plan).total.value = m.reserve.notes.total.value - amount.value
    rw [hreserve, hwhole, Notes.value_total, Notes.value_total, ← Notes.value_less_add hwithin]
    push_cast
    ring
  · show m₁.reserve.ink = _
    rw [hreserve]
  · show m₁.reserve.paper = _
    rw [hreserve]
  · intro other hother
    show (m₁.ledger.setBalance id b).find? other = _
    rw [Ledger.find?_setBalance_of_ne _ _ hother, hothers other hother]

/-- Ten out of a balance of `12.345`, with a dispenser that proposes one note of ten. -/
theorem withdraw_exact_ten :
    let a : Account := ⟨"A", "Ada", .checking, ⟨false, 12345, 3, by decide, by decide⟩⟩
    let amount : Decimal := ⟨false, 100, 1, by decide, by decide⟩
    let m : Machine :=
      ⟨"M", fun _ _ => some ⟨1, 0, 0, 0⟩, Ledger.empty,
        { Reserve.empty with notes := ⟨2, 1, 0, 0⟩ }, ⟨1, 0⟩⟩
    let s := m.withdraw (Memory.reads { Memory.empty with accounts := [a] })
      ⟨"T", Instant.epoch⟩ "A" amount
    ∃ b, s.machine.ledger.find? "A" = some { a with balance := b } ∧
      b.value = a.balance.value - amount.value ∧
      s.machine.reserve.cash.value = m.reserve.cash.value - amount.value := by
  intro a amount m s
  have hs : m.withdraw _ _ _ _ = s := rfl
  have h : s.answer = .ok (.withdrawal ⟨"T", Instant.epoch⟩ "A" amount) := by decide +kernel
  obtain ⟨_, a', b, _, _, hl, hfind, hb, _, hcash, _⟩ := withdraw_exact hs h
  have ha : a' = a := by
    refine (Except.ok.inj (hl.symm.trans ?_))
    decide +kernel
  rw [ha] at hfind hb
  exact ⟨b, hfind, hb, hcash⟩

end CashMachine.Machine
