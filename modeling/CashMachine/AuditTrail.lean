/-
The audit trail: the committed transactions in the order in which they came.

Nothing is ever removed, and a name that is in the trail is not taken a second
time (`AuditTrail.push`).

Main statements: `push_of_new`, `push_eq_error_iff` — exactly when a transaction is taken;
`log_of_push`, `get_push` — what the trail holds and what can be found afterwards.
-/
import CashMachine.Transaction

namespace CashMachine

/-- Transactions in the order in which they came, and an index of them by their names. -/
structure AuditTrail where
  log : List Transaction
  index : List (TransactionId × Transaction)
  nodup : (log.map Transaction.id).Nodup := by simp
  /-- What the index gives is what a search of the log gives. -/
  indexed : ∀ id, index.lookup id = log.find? fun t => t.id = id := by simp
deriving Repr

namespace AuditTrail

def empty : AuditTrail := ⟨[], [], by simp, by simp⟩

instance : Inhabited AuditTrail := ⟨empty⟩

def get (a : AuditTrail) (id : TransactionId) : Option Transaction :=
  a.index.lookup id

/-- The transactions that name an account, the oldest first. -/
def forAccount (a : AuditTrail) (account : AccountId) : List Transaction :=
  a.log.filter fun t => t.involves account

def size (a : AuditTrail) : Nat :=
  a.log.length

theorem get_eq_find? (a : AuditTrail) (id : TransactionId) :
    a.get id = a.log.find? fun t => t.id = id :=
  a.indexed id

theorem get_eq_none {a : AuditTrail} {id : TransactionId} :
    a.get id = none ↔ id ∉ a.log.map Transaction.id := by
  simp [get_eq_find?, List.find?_eq_none]

/-- The trail with one more transaction, whose name is new: it goes to the end of the log
and into the index. -/
def extend (a : AuditTrail) (t : Transaction) (h : a.get t.id = none) : AuditTrail where
  log := a.log ++ [t]
  index := (t.id, t) :: a.index
  nodup := by
    rw [get_eq_none] at h
    rw [List.map_append, List.map_cons, List.map_nil, List.nodup_append]
    refine ⟨a.nodup, by simp, ?_⟩
    intro x hx y hy
    simp only [List.mem_singleton] at hy
    subst hy
    intro hxy
    exact h (hxy ▸ hx)
  indexed := by
    intro id
    rw [List.find?_append, ← a.indexed id]
    by_cases hid : id = t.id
    · subst hid
      have hn : a.index.lookup t.id = none := h
      simp [hn]
    · have hb : (id == t.id) = false := beq_false_of_ne hid
      simp [List.lookup_cons, hb, Ne.symm hid]

/-- Puts a transaction at the end, unless its name is there already. -/
def push (a : AuditTrail) (t : Transaction) : Except StoreError AuditTrail :=
  if h : a.get t.id = none then .ok (a.extend t h) else .error (.duplicateTransaction t.id)

theorem push_of_new {a : AuditTrail} {t : Transaction} (h : a.get t.id = none) :
    ∃ b, a.push t = .ok b ∧ b.log = a.log ++ [t] :=
  ⟨a.extend t h, by rw [push, dif_pos h], rfl⟩

theorem log_of_push {a b : AuditTrail} {t : Transaction} (h : a.push t = .ok b) :
    a.get t.id = none ∧ b.log = a.log ++ [t] := by
  unfold push at h
  split at h
  · rename_i hn
    exact ⟨hn, (Except.ok.inj h) ▸ rfl⟩
  · cases h

theorem push_eq_error_iff {a : AuditTrail} {t : Transaction} {e : StoreError} :
    a.push t = .error e ↔ a.get t.id ≠ none ∧ e = .duplicateTransaction t.id := by
  unfold push
  split
  · rename_i h
    simp [h]
  · rename_i h
    simp [h, eq_comm]

theorem get_push {a b : AuditTrail} {t : Transaction} (h : a.push t = .ok b)
    (id : TransactionId) : b.get id = if t.id = id then some t else a.get id := by
  obtain ⟨hn, hb⟩ := log_of_push h
  rw [get_eq_find?, hb, List.find?_append, ← get_eq_find?]
  by_cases hid : t.id = id
  · subst hid
    simp [hn]
  · simp [hid]

end AuditTrail

end CashMachine
