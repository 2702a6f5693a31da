/-
The books of a ledger.

Transactions say what accounts received and paid.  A ledger is balanced with them when each of
its balances is the one with which the account came in, plus what it received, minus what it
paid (`Ledger.Balanced`).  Every operation keeps that, with the transaction that it commits:

* `Outcome.transactions` — an operation writes its transaction exactly when it is answered;
* `Outcome.balance_change` — what it does to each balance, by the transaction;
* `Outcome.balance_cases` — the same against what the transaction says about the account;
* `Outcome.balance_eq` — the same as numbers: in whole cents, and in the range in which these
  are kept (`Decimal.maxCents`), sums and differences are exact at every scale;
* `Balanced.append`, `Outcome.balanced` — accounts that come in, and one operation.
-/
import CashMachine.Proofs.Machine.Soundness
import CashMachine.Proofs.Trail

namespace CashMachine

/-! ### What transactions say about an account -/

namespace Transaction

/-- The sum of the amounts that transactions bring to an account. -/
def received (id : AccountId) (ts : List Transaction) : ℚ :=
  ((ts.filter fun t => t.destination = some id).map fun t => t.amount.value).sum

/-- The sum of the amounts that transactions take from an account. -/
def paid (id : AccountId) (ts : List Transaction) : ℚ :=
  ((ts.filter fun t => t.source = some id).map fun t => t.amount.value).sum

variable {id : AccountId}

theorem received_append (id : AccountId) (ts us : List Transaction) :
    received id (ts ++ us) = received id ts + received id us := by
  simp [received]

theorem paid_append (id : AccountId) (ts us : List Transaction) :
    paid id (ts ++ us) = paid id ts + paid id us := by
  simp [paid]

@[simp] theorem received_nil (id : AccountId) : received id [] = 0 := rfl

@[simp] theorem paid_nil (id : AccountId) : paid id [] = 0 := rfl

theorem received_one (id : AccountId) (t : Transaction) :
    received id [t] = if t.destination = some id then t.amount.value else 0 := by
  by_cases h : t.destination = some id <;> simp [received, h]

theorem paid_one (id : AccountId) (t : Transaction) :
    paid id [t] = if t.source = some id then t.amount.value else 0 := by
  by_cases h : t.source = some id <;> simp [paid, h]

theorem received_eq_zero {ts : List Transaction} (h : ∀ t ∈ ts, t.involves id = false) :
    received id ts = 0 := by
  have hf : ts.filter (fun t => t.destination = some id) = [] := by
    rw [List.filter_eq_nil_iff]
    intro t ht hd
    have := involves_iff.mpr (.inr (of_decide_eq_true hd))
    rw [h t ht] at this
    cases this
  rw [received, hf]
  rfl

theorem paid_eq_zero {ts : List Transaction} (h : ∀ t ∈ ts, t.involves id = false) :
    paid id ts = 0 := by
  have hf : ts.filter (fun t => t.source = some id) = [] := by
    rw [List.filter_eq_nil_iff]
    intro t ht hd
    have := involves_iff.mpr (.inl (of_decide_eq_true hd))
    rw [h t ht] at this
    cases this
  rw [paid, hf]
  rfl

end Transaction

/-- The transaction that an operation commits where it is answered. -/
def Request.transaction? (stamp : Stamp) : Request → Option Transaction
  | .withdraw id amount => some (.withdrawal stamp id amount)
  | .deposit id amount => some (.deposit stamp id amount)
  | .transfer source destination amount => some (.transfer stamp source destination amount)
  | _ => none

/-- The transaction that a request has committed, given what was answered. -/
def Request.committed (stamp : Stamp) (r : Request) : Except Error Reply → List Transaction
  | .ok _ => (r.transaction? stamp).toList
  | .error _ => []

namespace Machine

variable {m : Machine} {reads : Reads} {stamp : Stamp} {r : Request} {s : Step Reply}

/-! ### One operation -/

/-- An operation writes the transaction that it commits, and no other one. -/
theorem Outcome.transactions (h : Outcome reads stamp m r s) :
    Write.transactions (Effect.writes s.effects) = r.committed stamp s.answer := by
  cases h with
  | @deposited _ amount _ _ _ _ _ =>
    by_cases hn : (Dispenser.absorbed amount).isEmpty = true
    · simp [Effect.writes, Write.transactions, Request.committed, Request.transaction?, hn]
    · simp [Effect.writes, Write.transactions, Request.committed, Request.transaction?, hn]
  | _ => rfl

/-- What an operation does to a balance, by the transaction that it commits: the amount is added
for the account that is named as the destination, and taken off for the one that is named as the
source; no account is both, and all others keep their balances. -/
theorem Outcome.balance_change (h : Outcome reads stamp m r s) {id : AccountId} {a : Account}
    (ha : m.ledger.find? id = some a) :
    ∃ b, s.machine.ledger.find? id = some { a with balance := b } ∧
      (b = a.balance ∧ (∀ t ∈ r.committed stamp s.answer, t.involves id = false) ∨
        ∃ t, r.committed stamp s.answer = [t] ∧ t.amount.IsCents ∧
          (t.destination = some id ∧ t.source ≠ some id ∧ a.balance.add? t.amount = some b ∨
            t.source = some id ∧ t.destination ≠ some id ∧
              a.balance.sub? t.amount = some b)) := by
  cases h with
  | @withdrawn other amount b a' plan hc ho hle hp hb =>
    have hamount := (checkAmount_eq_ok_iff.mp hc).2
    obtain ⟨rfl, rfl, hfind⟩ | ⟨hid, hfind⟩ := Ledger.find?_setBalance_cases ha ho b
    · exact ⟨b, hfind, .inr ⟨_, rfl, hamount, .inr ⟨rfl, nofun, hb⟩⟩⟩
    · refine ⟨a.balance, hfind, .inl ⟨rfl, fun t ht => ?_⟩⟩
      obtain rfl := List.mem_singleton.mp ht
      rw [Transaction.involves_withdrawal, decide_eq_false hid]
  | @deposited other amount b a' hc ho hb =>
    have hamount := (checkAmount_eq_ok_iff.mp hc).2
    obtain ⟨rfl, rfl, hfind⟩ | ⟨hid, hfind⟩ := Ledger.find?_setBalance_cases ha ho b
    · exact ⟨b, hfind, .inr ⟨_, rfl, hamount, .inl ⟨rfl, nofun, hb⟩⟩⟩
    · refine ⟨a.balance, hfind, .inl ⟨rfl, fun t ht => ?_⟩⟩
      obtain rfl := List.mem_singleton.mp ht
      rw [Transaction.involves_deposit, decide_eq_false hid]
  | @transferred source destination amount x y a' b' hc hne hs hd hle hx hy =>
    have hamount := (checkAmount_eq_ok_iff.mp hc).2
    -- the destination's balance is replaced in the ledger that has the source's new one
    have hd' := (m.ledger.find?_setBalance_of_ne x hne.symm).trans hd
    obtain ⟨rfl, rfl, hfind⟩ | ⟨hid, hfind⟩ := Ledger.find?_setBalance_cases ha hs x
    · obtain ⟨heq, _⟩ | ⟨hid', hfind'⟩ := Ledger.find?_setBalance_cases hfind hd' y
      · exact absurd heq.symm hne
      · exact ⟨x, hfind', .inr ⟨_, rfl, hamount, .inr ⟨rfl, mt Option.some_inj.mp hid', hx⟩⟩⟩
    · obtain ⟨rfl, rfl, hfind'⟩ | ⟨hid', hfind'⟩ := Ledger.find?_setBalance_cases hfind hd' y
      · exact ⟨y, hfind', .inr ⟨_, rfl, hamount, .inl ⟨rfl, mt Option.some_inj.mp hne, hy⟩⟩⟩
      · refine ⟨a.balance, hfind', .inl ⟨rfl, fun t ht => ?_⟩⟩
        obtain rfl := List.mem_singleton.mp ht
        rw [Transaction.involves_transfer, decide_eq_false hid, decide_eq_false hid']
        rfl
  | _ => exact ⟨a.balance, ha, .inl ⟨rfl, fun t ht => absurd ht List.not_mem_nil⟩⟩

/-- The same against what the transaction says about the account: nothing, or one sum, or one
difference. -/
theorem Outcome.balance_cases (h : Outcome reads stamp m r s) {id : AccountId} {a : Account}
    (ha : m.ledger.find? id = some a) :
    ∃ b, s.machine.ledger.find? id = some { a with balance := b } ∧
      (b = a.balance ∧ Transaction.received id (r.committed stamp s.answer) = 0 ∧
          Transaction.paid id (r.committed stamp s.answer) = 0 ∨
        ∃ amount : Decimal, amount.IsCents ∧
          (a.balance.add? amount = some b ∧
              Transaction.received id (r.committed stamp s.answer) = amount.value ∧
              Transaction.paid id (r.committed stamp s.answer) = 0 ∨
            a.balance.sub? amount = some b ∧
              Transaction.received id (r.committed stamp s.answer) = 0 ∧
              Transaction.paid id (r.committed stamp s.answer) = amount.value)) := by
  obtain ⟨b, hfind, ⟨hb, hother⟩ | ⟨t, ht, hamount, hcase⟩⟩ := h.balance_change ha
  · exact ⟨b, hfind, .inl ⟨hb, Transaction.received_eq_zero hother,
      Transaction.paid_eq_zero hother⟩⟩
  · rw [ht, Transaction.received_one, Transaction.paid_one]
    obtain ⟨hd, hs, hadd⟩ | ⟨hs, hd, hsub⟩ := hcase
    · exact ⟨b, hfind, .inr ⟨t.amount, hamount, .inl ⟨hadd, if_pos hd, if_neg hs⟩⟩⟩
    · exact ⟨b, hfind, .inr ⟨t.amount, hamount, .inr ⟨hsub, if_neg hd, if_pos hs⟩⟩⟩

/-- Among whole cents, an operation changes each balance by exactly what the transaction that it
commits says about the account. -/
theorem Outcome.balance_eq (h : Outcome reads stamp m r s) {id : AccountId} {a : Account}
    (ha : m.ledger.find? id = some a) (hcents : a.balance.IsCents)
    (hsmall : ∀ b, s.machine.ledger.find? id = some b → |b.balance.value| ≤ Decimal.maxCents) :
    ∃ b, s.machine.ledger.find? id = some { a with balance := b } ∧ b.IsCents ∧
      b.value = a.balance.value + Transaction.received id (r.committed stamp s.answer) -
        Transaction.paid id (r.committed stamp s.answer) := by
  obtain ⟨b, hfind, hcase⟩ := h.balance_cases ha
  have hb : |b.value| ≤ Decimal.maxCents := hsmall { a with balance := b } hfind
  refine ⟨b, hfind, ?_⟩
  obtain ⟨rfl, hr, hp⟩ | ⟨amount, hamount, ⟨hadd, hr, hp⟩ | ⟨hsub, hr, hp⟩⟩ := hcase
  · refine ⟨hcents, ?_⟩
    rw [hr, hp, add_zero, sub_zero]
  · have hv := Decimal.value_add?_of_cents hadd hcents hamount hb
    refine ⟨hcents.add hamount hv, ?_⟩
    rw [hr, hp, hv, sub_zero]
  · have hv := Decimal.value_sub?_of_cents hsub hcents hamount hb
    refine ⟨hcents.sub hamount hv, ?_⟩
    rw [hr, hp, hv, add_zero]

/-- A transaction that is committed names accounts of the ledger. -/
theorem Outcome.find?_ne_none (h : Outcome reads stamp m r s) {t : Transaction}
    (ht : t ∈ r.committed stamp s.answer) {id : AccountId} (hid : t.involves id = true) :
    m.ledger.find? id ≠ none := by
  cases h with
  | withdrawn hc ha hle hp hb =>
    obtain rfl := List.mem_singleton.mp ht
    rw [Transaction.involves_withdrawal, decide_eq_true_eq] at hid
    exact hid ▸ Option.ne_none_iff_exists'.mpr ⟨_, ha⟩
  | deposited hc ha hb =>
    obtain rfl := List.mem_singleton.mp ht
    rw [Transaction.involves_deposit, decide_eq_true_eq] at hid
    exact hid ▸ Option.ne_none_iff_exists'.mpr ⟨_, ha⟩
  | transferred hc hne ha hb hle hx hy =>
    obtain rfl := List.mem_singleton.mp ht
    rw [Transaction.involves_transfer, Bool.or_eq_true, decide_eq_true_eq,
      decide_eq_true_eq] at hid
    rcases hid with hid | hid
    · exact hid ▸ Option.ne_none_iff_exists'.mpr ⟨_, ha⟩
    · exact hid ▸ Option.ne_none_iff_exists'.mpr ⟨_, hb⟩
  | _ => cases ht

end Machine

/-! ### Balanced ledgers -/

/-- The ledger has the accounts that came in, in order, with balances in whole cents that are
those with which they came and what the transactions say since. -/
structure Ledger.Balanced (opened : List (AccountId × Account)) (ts : List Transaction)
    (l : Ledger) : Prop where
  names : l.entries.map Prod.fst = opened.map Prod.fst
  known : ∀ t ∈ ts, ∀ id, t.involves id = true → l.find? id ≠ none
  balance : ∀ id a, l.find? id = some a → a.balance.IsCents ∧
    ∃ o, opened.lookup id = some o ∧ a.balance.value =
      o.balance.value + Transaction.received id ts - Transaction.paid id ts

namespace Ledger

variable {l k : Ledger} {opened gained : List (AccountId × Account)} {ts : List Transaction}

/-- Before any transaction, a ledger of whole cents is balanced with what is in it. -/
theorem balanced_nil (h : ∀ e ∈ l.entries, e.2.balance.IsCents) : Balanced l.entries [] l := by
  refine ⟨rfl, fun t ht => absurd ht List.not_mem_nil, fun id a ha => ?_⟩
  refine ⟨h _ (mem_entries_of_find? ha), a, ha, ?_⟩
  rw [Transaction.received_nil, Transaction.paid_nil, add_zero, sub_zero]

/-- Accounts that come in have no transactions yet: those that there are name accounts of the
ledger as it was. -/
theorem Balanced.append (h : Balanced opened ts l) (hk : k.entries = l.entries ++ gained)
    (hg : ∀ e ∈ gained, e.2.balance.IsCents) : Balanced (opened ++ gained) ts k := by
  refine ⟨?_, ?_, ?_⟩
  · rw [hk, List.map_append, List.map_append, h.names]
  · intro t ht id hid hnone
    rw [find?_append hk, Option.or_eq_none_iff] at hnone
    exact h.known t ht id hid hnone.1
  · intro id a ha
    rw [find?_append hk, Option.or_eq_some_iff] at ha
    rcases ha with ha | ⟨hnone, ha⟩
    · obtain ⟨hc, o, ho, hv⟩ := h.balance id a ha
      refine ⟨hc, o, ?_, hv⟩
      rw [List.lookup_append, ho, Option.some_or]
    · -- an account that comes in: no transaction names it, so it has the balance it came with
      have hnew : ∀ t ∈ ts, t.involves id = false := by
        intro t ht
        by_contra hid
        exact h.known t ht id (Bool.not_eq_false _ ▸ hid) hnone
      have hopened : opened.lookup id = none := by
        rw [find?_eq_none, h.names] at hnone
        rw [List.lookup_eq_none_iff]
        intro e he
        rw [bne_iff_ne]
        intro heq
        exact hnone (heq ▸ List.mem_map_of_mem he)
      refine ⟨hg _ (mem_of_lookup ha), a, ?_, ?_⟩
      · rw [List.lookup_append, hopened, Option.none_or, ha]
      · rw [Transaction.received_eq_zero hnew, Transaction.paid_eq_zero hnew, add_zero, sub_zero]

end Ledger

namespace Machine

variable {m : Machine} {reads : Reads} {stamp : Stamp} {r : Request} {s : Step Reply}

theorem Outcome.balanced (h : Outcome reads stamp m r s) {opened : List (AccountId × Account)}
    {ts : List Transaction} (hm : m.ledger.Balanced opened ts)
    (hsmall : ∀ id b, s.machine.ledger.find? id = some b →
      |b.balance.value| ≤ Decimal.maxCents) :
    s.machine.ledger.Balanced opened (ts ++ r.committed stamp s.answer) := by
  refine ⟨h.names.trans hm.names, ?_, ?_⟩
  · intro t ht id hid
    rw [Ne, Ledger.find?_eq_none_congr h.names]
    rcases List.mem_append.mp ht with ht | ht
    · exact hm.known t ht id hid
    · exact h.find?_ne_none ht hid
  · -- the account was there before the operation, with a balance that the books explain
    intro id a ha
    obtain ⟨a₀, _, ha₀, _⟩ := h.exists_find?_before ha
    obtain ⟨hc, o, ho, hv⟩ := hm.balance id a₀ ha₀
    obtain ⟨b, hfind, hcents, hb⟩ := h.balance_eq ha₀ hc (hsmall id)
    obtain rfl := Option.some_inj.mp (ha.symm.trans hfind)
    refine ⟨hcents, o, ho, ?_⟩
    show b.value = _
    rw [hb, hv, Transaction.received_append, Transaction.paid_append]
    ring

end Machine

end CashMachine
