/-
A failed operation has done nothing.

Whatever was asked of the machine, with whatever dispenser and stores: if the answer is an
error, nothing was written or printed, and the machine is as it was.  Only its ledger may have
more accounts at the end, those that the store answered with to the look-ups of this very
operation (`perform_of_error`).

The operations work in place and have their changes one after the other, so this is not seen
from their form: it says that none of them fails after its first change (`Outcome`).
-/
import CashMachine.Proofs.Machine.Perform
import CashMachine.Store.Memory

namespace CashMachine.Machine

variable {m : Machine} {reads : Reads} {stamp : Stamp} {r : Request} {e : Error}

theorem Outcome.of_error {s : Step Reply} (h : Outcome reads stamp m r s)
    (he : s.answer = .error e) : s = ⟨.error e, m, []⟩ := by
  cases h with
  | refused e' =>
    cases he
    rfl
  | _ => cases he

/-- The accounts that a failed operation brought in come from its look-ups; an account that
could not be opened is not among them. -/
theorem grown_admitted_of_error (h : (m.perform reads stamp r).answer = .error e) :
    Grown reads r.lookups m (m.admitted reads r) := by
  by_cases hr : ∃ a, r = .openAccount a
  · obtain ⟨a, rfl⟩ := hr
    have hm : m.admitted reads (.openAccount a) = m := by
      obtain ⟨ho, _⟩ | ⟨ho, _⟩ | ⟨k, ho, hk, _, hf⟩ := m.ledger.openAccount_cases a
      · simp [admitted, ho]
      · simp [admitted, ho]
      · -- an account that could be opened is answered with `true`
        rw [perform, openAccount_of_new ho (Ledger.find?_new hk hf)] at h
        cases h
    rw [hm]
    exact .refl reads _ m
  · rw [admitted_eq_gather fun a ha => hr ⟨a, ha⟩]
    exact grown_gather m reads r.lookups

/-- An operation that answers with an error has written and printed nothing, and has changed
nothing: the ledger has its old entries, followed by accounts that the store answered with to
one of the look-ups of the operation. -/
theorem perform_of_error (h : (m.perform reads stamp r).answer = .error e) :
    (m.perform reads stamp r).effects = [] ∧
      (m.perform reads stamp r).machine =
        { m with ledger := (m.perform reads stamp r).machine.ledger } ∧
      ∃ gained, (m.perform reads stamp r).machine.ledger.entries = m.ledger.entries ++ gained ∧
        ∀ entry ∈ gained, entry.1 = entry.2.id ∧
          ∃ name ∈ r.lookups, m.ledger.find? name = none ∧
            reads.account name = .ok (some entry.2) := by
  have hs := (outcome_perform m reads stamp r).of_error h
  obtain ⟨heq, gained, hentries, hgained⟩ := grown_admitted_of_error h
  rw [hs]
  refine ⟨rfl, heq, gained, hentries, ?_⟩
  intro entry hentry
  obtain ⟨hid, _, hname⟩ := hgained entry hentry
  exact ⟨hid, hname⟩

/-- A withdrawal of ten from a stored account of five: the account is known afterwards, and that
is all. -/
theorem perform_of_insufficientFunds :
    let a : Account := ⟨"A", "Ada", .checking, .ofNat 5 (by decide)⟩
    let m : Machine := ⟨"M", Dispenser.greedy, Ledger.empty, Reserve.empty, ⟨1, 0⟩⟩
    let s := m.perform (Memory.reads { Memory.empty with accounts := [a] })
      ⟨"T", Instant.epoch⟩ (.withdraw "A" (.ofNat 10 (by decide)))
    s.answer = .error .insufficientFunds ∧ s.effects = [] ∧
      s.machine.ledger.entries = [("A", a)] := by
  intro a m s
  have h : s.answer = .error .insufficientFunds := by rfl
  obtain ⟨heffects, _⟩ := perform_of_error h
  exact ⟨h, heffects, by rfl⟩

end CashMachine.Machine
