/-
Stores that keep an audit trail.

The trail is the part of the stores that transactions go to and come from; what the stores do
with accounts, reserves and versions is left open (`Stores.Audited`).  Writes append to its log
exactly the transactions among them (`Audited.log_writeAll`), as long as their names are new.

Memory is such a store, with its own trail (`Memory.audited`), and so are separate stores of which
one is a trail (`Separate.audited`).
-/
import Mathlib.Data.List.Nodup
import CashMachine.Machine.Session
import CashMachine.Store.Memory
import CashMachine.Store.Separate

namespace CashMachine

/-- Every transaction of a trail is found by its name. -/
theorem AuditTrail.get_of_mem {a : AuditTrail} {t : Transaction} (h : t ∈ a.log) :
    a.get t.id = some t := by
  cases hg : a.get t.id with
  | none => exact absurd (List.mem_map_of_mem h) (AuditTrail.get_eq_none.mp hg)
  | some u =>
    rw [AuditTrail.get_eq_find?] at hg
    have hid : u.id = t.id := by simpa using List.find?_some hg
    rw [List.inj_on_of_nodup_map a.nodup (List.mem_of_find?_eq_some hg) h hid]

/-- The transactions among writes, in order. -/
def Write.transactions (ws : List Write) : List Transaction :=
  ws.filterMap fun
    | .transaction t => some t
    | _ => none

/-- Stores whose transactions are kept in a trail, which takes every transaction with a new
name and answers every question. -/
structure Stores.Audited {σ : Type} (stores : Stores σ) (trail : σ → AuditTrail) : Prop where
  history : ∀ s id, (stores.reads s).history id = .ok ((trail s).forAccount id)
  transaction : ∀ s id, (stores.reads s).transaction id = .ok ((trail s).get id)
  append : ∀ s t a, (trail s).push t = .ok a → trail (stores.write (.transaction t) s).2 = a
  other : ∀ s w, Write.transactions [w] = [] → trail (stores.write w s).2 = trail s

namespace Stores.Audited

variable {σ : Type} {stores : Stores σ} {trail : σ → AuditTrail}

theorem log_write (h : stores.Audited trail) (w : Write) (s : σ)
    (hnew : (((trail s).log ++ Write.transactions [w]).map Transaction.id).Nodup) :
    (trail (stores.write w s).2).log = (trail s).log ++ Write.transactions [w] := by
  cases w with
  | transaction t =>
    -- the trail would refuse a name that it has
    have hnone : (trail s).get t.id = none := by
      rw [AuditTrail.get_eq_none]
      rw [List.map_append, List.nodup_append] at hnew
      intro hmem
      exact hnew.2.2 _ hmem _ List.mem_cons_self rfl
    obtain ⟨a, hpush, hlog⟩ := AuditTrail.push_of_new hnone
    rw [h.append s t a hpush, hlog]
    rfl
  | _ =>
    rw [h.other s _ rfl]
    exact (List.append_nil _).symm

/-- Writes append to the log what transactions there are among them, and nothing else. -/
theorem log_writeAll (h : stores.Audited trail) (ws : List Write) (s : σ)
    (hnew : (((trail s).log ++ Write.transactions ws).map Transaction.id).Nodup) :
    (trail (stores.writeAll ws s)).log = (trail s).log ++ Write.transactions ws := by
  induction ws generalizing s with
  | nil => exact (List.append_nil _).symm
  | cons w ws ih =>
    have hcons : Write.transactions (w :: ws) =
        Write.transactions [w] ++ Write.transactions ws := by
      rw [Write.transactions, ← List.singleton_append, List.filterMap_append]
      rfl
    rw [hcons, ← List.append_assoc] at hnew ⊢
    have hw := h.log_write w s ?_
    -- the log after the first write is the one that the others are appended to
    · rw [← hw] at hnew ⊢
      exact ih _ hnew
    · rw [List.map_append] at hnew
      exact hnew.of_append_left

end Stores.Audited

namespace Memory

theorem audited : stores.Audited Memory.trail where
  history _ _ := rfl
  transaction _ _ := rfl
  append m t a h := by
    show (write (.transaction t) m).2.trail = a
    rw [write, h]
  other m w h := by
    cases w with
    | transaction t => cases h
    | _ => rfl

end Memory

theorem Separate.audited {α μ : Type} (accounts : AccountStore α) (machine : MachineStore μ) :
    (stores accounts .ofTrail machine).Audited Separate.transactions where
  history _ _ := rfl
  transaction _ _ := rfl
  append s t a h := by
    have happend : TransactionStore.ofTrail.append t s.transactions = (.ok (), a) := by
      simp only [TransactionStore.ofTrail, h]
    exact congrArg Prod.snd happend
  other s w h := by
    cases w with
    | transaction t => cases h
    | _ => rfl

end CashMachine
