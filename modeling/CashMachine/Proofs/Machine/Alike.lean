/-
Two machines that are alike.

Machines that are alike have the same accounts, reserve, version and dispenser.  Over stores that
answer alike when an account is looked up that the ledgers do not have, they do the same: each
operation answers alike, prints alike and leaves machines that are alike, up to the names and
times that transactions are given.  What becomes of the writes of the two plays no part.

* `Machine.Alike`, `Progress.Alike` — the two machines, before an operation and on its way;
* `Ledger.congruence_alike` — an account that is looked up comes into both ledgers;
* `alike_openAccount` — so does an account that is opened;
* `alike_perform` — all operations; of questions about transactions only the machines are compared.
-/
import CashMachine.Proofs.Machine.Congruence

namespace CashMachine

/-- The two machines differ in nothing but their names. -/
structure Machine.Alike (m n : Machine) : Prop where
  ledger : n.ledger = m.ledger
  reserve : n.reserve = m.reserve
  version : n.version = m.version
  dispenser : n.dispenser = m.dispenser

/-- Two machines that are alike, on the way, have printed the same up to stamps; and look-ups of
accounts that they do not have are answered alike. -/
structure Progress.Alike (reads reads' : Reads) (p q : Progress) : Prop where
  machine : p.machine.Alike q.machine
  prints : (Effect.prints q.effects).map Printed.unstamped =
    (Effect.prints p.effects).map Printed.unstamped
  lookups : ∀ id, p.machine.ledger.find? id = none → reads'.account id = reads.account id

/-- The ledgers are the same, and accounts that they do not have are looked up alike. -/
structure Ledger.Alike (reads reads' : Reads) (l k : Ledger) : Prop where
  eq : k = l
  lookups : ∀ id, l.find? id = none → reads'.account id = reads.account id

/-- Two steps that come to the same, with replies that are the same up to stamps. -/
abbrev Step.Answered (reads reads' : Reads) : Step Reply → Step Reply → Prop :=
  Step.InStep (Progress.Alike reads reads') fun a b => b.unstamped = a.unstamped

variable {reads reads' : Reads} {m n : Machine}

/-! ### Ledgers that are alike -/

/-- The same account is found in both ledgers, or comes into both of them. -/
theorem Ledger.congruence_alike (reads reads' : Reads) :
    Congruence reads reads' fun _ => Ledger.Alike reads reads' where
  weaken h := h
  find? h _ := by rw [h.eq]
  setBalance b h _ := by
    refine ⟨by rw [h.eq], fun other hother => h.lookups other ?_⟩
    rw [find?_setBalance, Option.map_eq_none_iff] at hother
    exact hother
  load ids id m n h := by
    have hgrown := Machine.grown_load m reads id
    have hload : (n.load reads' id).1 = (m.load reads id).1 ∧
        (n.load reads' id).2.ledger = (m.load reads id).2.ledger := by
      rw [Machine.load, Machine.load, h.eq]
      cases hf : m.ledger.find? id with
      | some a => exact ⟨rfl, h.eq⟩
      | none =>
        -- neither has it, so both stores are asked, and answer alike
        rw [h.lookups id hf]
        cases Machine.enroll m.ledger id (reads.account id) with
        | error e => exact ⟨rfl, h.eq⟩
        | ok ledger => exact ⟨rfl, rfl⟩
    have halike : Ledger.Alike reads reads' (m.load reads id).2.ledger
        (n.load reads' id).2.ledger :=
      ⟨hload.2, fun other hother => h.lookups other (hgrown.find?_eq_none hother)⟩
    exact .of_agree (.of_eq hload.1) halike halike

namespace Progress

theorem Alike.along (h : Alike reads reads' ⟨m, []⟩ ⟨n, []⟩) :
    Along (Ledger.Alike reads reads') ⟨m, []⟩ ⟨n, []⟩ :=
  ⟨⟨h.machine.ledger, h.lookups⟩, h.machine.reserve, h.machine.version, h.machine.dispenser, rfl⟩

theorem Along.alike {p q : Progress} (h : Along (Ledger.Alike reads reads') p q) :
    Alike reads reads' p q :=
  ⟨⟨h.ledger.eq, h.reserve, h.version, h.dispenser⟩, h.prints, h.ledger.lookups⟩

end Progress

namespace Machine

/-! ### All operations -/

section Operations

variable {stamp stamp' : Stamp} (hmn : Progress.Alike reads reads' ⟨m, []⟩ ⟨n, []⟩)

include hmn

theorem alike_openAccount (a : Account) :
    Step.InStep (Progress.Alike reads reads') Eq (m.openAccount a) (n.openAccount a) := by
  have hledger : n.ledger = m.ledger := hmn.machine.ledger
  obtain ⟨ho, _⟩ | ⟨ho, _⟩ | ⟨k, ho, hk, _, hf⟩ := m.ledger.openAccount_cases a
  · rw [openAccount_of_refused ho, openAccount_of_refused (hledger ▸ ho)]
    exact ⟨.error _, hmn⟩
  · have ho' : n.ledger.openAccount a = .ok (n.ledger, false) := by rw [hledger, ho]
    rw [openAccount_of_known ho, openAccount_of_known ho']
    exact ⟨.ok rfl, hmn⟩
  · have hfind := Ledger.find?_new hk hf
    have ho' : n.ledger.openAccount a = .ok (k, true) := by rw [hledger, ho]
    rw [openAccount_of_new ho hfind, openAccount_of_new ho' hfind]
    refine ⟨.ok rfl, ⟨rfl, hmn.machine.reserve, hmn.machine.version, hmn.machine.dispenser⟩,
      rfl, ?_⟩
    -- the ledger has gained an account, and looks up no other ones than before
    intro id (hid : k.find? id = none)
    rw [Ledger.find?_append hk, Option.or_eq_none_iff] at hid
    exact hmn.lookups id hid.1

/-- The same requests, up to stamps, are answered alike and lead to machines that are alike. -/
theorem alike_perform {r q : Request} (hrq : r.Restamped q) (hr : r.asksTransactions = false) :
    Step.Answered reads reads' (m.perform reads stamp r) (n.perform reads' stamp' q) := by
  by_cases hopen : ∃ a, r = .openAccount a
  · obtain ⟨a, rfl⟩ := hopen
    cases hrq
    exact (alike_openAccount hmn a).map fun _ _ hab => hab ▸ rfl
  · refine Step.InStep.imp ?_ (fun _ _ => Progress.Along.alike) fun _ _ h => h
    exact (Ledger.congruence_alike reads reads').inStep_perform hmn.along hrq
      (fun a ha => hopen ⟨a, ha⟩) hr

/-- Questions about transactions may be answered in any way, but leave the machines alike. -/
theorem progress_alike_perform {r q : Request} (hrq : r.Restamped q) :
    Progress.Alike reads reads' (m.perform reads stamp r).progress
      (n.perform reads' stamp' q).progress := by
  by_cases hopen : ∃ a, r = .openAccount a
  · obtain ⟨a, rfl⟩ := hopen
    exact (alike_perform hmn hrq rfl).progress
  · refine Progress.Along.alike ?_
    exact (Ledger.congruence_alike reads reads').along_perform hmn.along hrq
      fun a ha => hopen ⟨a, ha⟩

end Operations

end Machine

end CashMachine
