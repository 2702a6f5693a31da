/-
What the operations of the ledger come to.

* `find?_of_append` — entries put at the end change nothing that was there;
* `openAccount_cases` — an account is refused, known already, or put at the end as it is;
* `move_of_legs` — a move is made where both legs of it can be;
* `move_cases` — a move is refused and leaves the ledger as it was, or both balances are
  replaced: once the checks are passed, neither the debit nor the credit can fail.
-/
import CashMachine.Ledger

namespace CashMachine

namespace Account

theorem opened_of_not_negative {a : Account} (h : a.balance.isNegative = false) :
    a.opened = a := by
  simp [opened, h]

theorem debit_of_debited {a : Account} {amount b : Decimal} (h : a.debited amount = .ok b) :
    a.debit amount = .ok { a with balance := b } := by
  rw [debit, h]
  rfl

theorem credit_of_credited {a : Account} {amount b : Decimal} (h : a.credited amount = .ok b) :
    a.credit amount = .ok { a with balance := b } := by
  rw [credit, h]
  rfl

theorem credit_of_refused {a : Account} {amount : Decimal} {e : Error}
    (h : a.credited amount = .error e) : a.credit amount = .error e := by
  rw [credit, h]
  rfl

end Account

namespace Ledger

variable {l k : Ledger} {gained : List (AccountId × Account)} {id : AccountId} {a : Account}

/-! ### Finding accounts -/

theorem find?_append (h : k.entries = l.entries ++ gained) (id : AccountId) :
    k.find? id = (l.find? id).or (gained.lookup id) := by
  rw [find?, h, List.lookup_append]
  rfl

theorem find?_of_append (h : k.entries = l.entries ++ gained) (ha : l.find? id = some a) :
    k.find? id = some a := by
  rw [find?_append h, ha, Option.some_or]

theorem find?_append_one {name : AccountId} (h : k.entries = l.entries ++ [(name, a)])
    (id : AccountId) : k.find? id = (l.find? id).or (if id = name then some a else none) := by
  rw [find?_append h]
  congr 1
  by_cases hid : id = name
  · subst hid
    rw [List.lookup_cons_self, if_pos rfl]
  · rw [List.lookup_cons, beq_false_of_ne hid, if_neg hid]
    rfl

theorem find?_new (h : k.entries = l.entries ++ [(a.id, a)]) (hn : l.find? a.id = none) :
    k.find? a.id = some a := by
  rw [find?_append_one h, hn, if_pos rfl, Option.none_or]

theorem mem_of_lookup {entries : List (AccountId × Account)} (h : entries.lookup id = some a) :
    (id, a) ∈ entries := by
  rw [List.lookup_eq_some_iff] at h
  obtain ⟨before, after, he, _⟩ := h
  rw [he]
  exact List.mem_append_right _ List.mem_cons_self

theorem mem_entries_of_find? (h : l.find? id = some a) : (id, a) ∈ l.entries :=
  mem_of_lookup h

/-- An entry is the one that is found under its name: no two entries have the same name. -/
theorem find?_of_mem_entries (h : (id, a) ∈ l.entries) : l.find? id = some a := by
  obtain ⟨before, after, he⟩ := List.mem_iff_append.mp h
  refine List.lookup_eq_some_iff.mpr ⟨before, after, he, fun e hmem => ?_⟩
  have hnodup := l.nodup
  rw [he, List.map_append, List.nodup_append] at hnodup
  have hne := hnodup.2.2 e.1 (List.mem_map_of_mem hmem) id List.mem_cons_self
  simpa using hne.symm

theorem find?_eq_none_congr (h : k.entries.map Prod.fst = l.entries.map Prod.fst)
    (id : AccountId) : k.find? id = none ↔ l.find? id = none := by
  rw [find?_eq_none, find?_eq_none, h]

theorem get_eq_ok_iff : l.get id = .ok a ↔ l.find? id = some a := by
  unfold get
  split
  · rename_i b hb
    rw [hb, Except.ok.injEq, Option.some_inj]
  · rename_i hb
    rw [hb]
    constructor
    · intro h
      cases h
    · intro h
      cases h

/-- A new balance is all that an account can have afterwards that it had not before. -/
theorem exists_find?_setBalance (l : Ledger) (ha : l.find? id = some a) (other : AccountId)
    (b : Decimal) :
    ∃ c, (l.setBalance other b).find? id = some { a with balance := c } ∧
      (id ≠ other → c = a.balance) := by
  by_cases hid : id = other
  · subst hid
    refine ⟨b, ?_, fun hne => absurd rfl hne⟩
    rw [find?_setBalance_self, ha, Option.map_some]
  · refine ⟨a.balance, ?_, fun _ => rfl⟩
    rw [find?_setBalance_of_ne l b hid, ha]

/-- Of two accounts that are there, a new balance for one is a new balance for the other exactly
when they are the same. -/
theorem find?_setBalance_cases {other : AccountId} {o : Account} (ha : l.find? id = some a)
    (ho : l.find? other = some o) (b : Decimal) :
    (other = id ∧ o = a ∧ (l.setBalance other b).find? id = some { a with balance := b }) ∨
      (other ≠ id ∧ (l.setBalance other b).find? id = some a) := by
  by_cases hid : other = id
  · subst hid
    refine .inl ⟨rfl, Option.some_inj.mp (ho.symm.trans ha), ?_⟩
    rw [find?_setBalance_self, ha, Option.map_some]
  · refine .inr ⟨hid, ?_⟩
    rw [find?_setBalance_of_ne l b (Ne.symm hid), ha]

/-- The accounts of the first ledger are in the second one, as they are. -/
def Within (l k : Ledger) : Prop :=
  ∀ id a, l.find? id = some a → k.find? id = some a

/-! ### Opening accounts -/

theorem openAccount_cases (l : Ledger) (a : Account) :
    (l.openAccount a = .error .invalidAmount ∧ a.balance.isNegative = true) ∨
      (l.openAccount a = .ok (l, false) ∧ l.find? a.id ≠ none) ∨
      ∃ k, l.openAccount a = .ok (k, true) ∧ k.entries = l.entries ++ [(a.id, a)] ∧
        a.balance.isNegative = false ∧ l.find? a.id = none := by
  unfold openAccount
  by_cases hn : a.balance.isNegative = true
  · rw [if_pos hn]
    exact .inl ⟨rfl, hn⟩
  · rw [if_neg hn]
    right
    by_cases hf : l.find? a.id = none
    · rw [dif_pos hf]
      -- a balance that is not negative is taken over without being set to zero
      have hno := Bool.not_eq_true _ ▸ hn
      refine .inr ⟨l.push a.opened hf, rfl, ?_, hno, hf⟩
      show l.entries ++ [(a.opened.id, a.opened)] = _
      rw [Account.opened_of_not_negative hno]
    · rw [dif_neg hf]
      exact .inl ⟨rfl, hf⟩

/-- Where an account is not refused, the ledger is as it was, or has it at its end. -/
theorem openAccount_eq_ok {isNew : Bool} (h : l.openAccount a = .ok (k, isNew)) :
    k = l ∧ l.find? a.id ≠ none ∨
      k.entries = l.entries ++ [(a.id, a)] ∧ a.balance.isNegative = false ∧
        l.find? a.id = none := by
  obtain ⟨ho, _⟩ | ⟨ho, hf⟩ | ⟨k', ho, hk, hn, hf⟩ := l.openAccount_cases a
  · rw [ho] at h
    cases h
  · rw [ho] at h
    cases h
    exact .inl ⟨rfl, hf⟩
  · rw [ho] at h
    cases h
    exact .inr ⟨hk, hn, hf⟩

/-- An account with a negative balance is refused, whether there is one of its name or not. -/
theorem not_negative_of_openAccount {isNew : Bool} (h : l.openAccount a = .ok (k, isNew)) :
    a.balance.isNegative = false := by
  refine (Bool.not_eq_true _).mp fun hn => ?_
  rw [openAccount, if_pos hn] at h
  cases h

theorem openAccount_of_negative (l : Ledger) (h : a.balance.isNegative = true) :
    l.openAccount a = .error .invalidAmount :=
  if_pos h

theorem exists_openAccount (l : Ledger) (h : a.balance.isNegative = false) :
    ∃ k isNew, l.openAccount a = .ok (k, isNew) := by
  obtain ⟨_, hn⟩ | ⟨ho, _⟩ | ⟨k, ho, _⟩ := l.openAccount_cases a
  · rw [h] at hn
    cases hn
  · exact ⟨l, false, ho⟩
  · exact ⟨k, true, ho⟩

/-- However an account is opened, it is there afterwards, and so are those that were there. -/
theorem find?_ne_none_of_openAccount {isNew : Bool} (h : l.openAccount a = .ok (k, isNew)) :
    k.find? a.id ≠ none ∧ ∀ id, l.find? id ≠ none → k.find? id ≠ none := by
  obtain ⟨rfl, hf⟩ | ⟨hk, _, hf⟩ := openAccount_eq_ok h
  · exact ⟨hf, fun _ hid => hid⟩
  · rw [find?_new hk hf]
    refine ⟨Option.some_ne_none a, fun id hid => ?_⟩
    obtain ⟨b, hb⟩ := Option.ne_none_iff_exists'.mp hid
    rw [find?_of_append hk hb]
    exact Option.some_ne_none b

/-! ### Moving money -/

/-- Where both legs can be made, the move is made. -/
theorem move_of_legs {source destination : AccountId} {amount x y : Decimal} {b : Account}
    (hne : source ≠ destination) (ha : l.find? source = some a)
    (hb : l.find? destination = some b) (hx : a.debited amount = .ok x)
    (hy : b.credited amount = .ok y) :
    move source destination amount l =
      (.ok ({ a with balance := x }, { b with balance := y }),
        (l.setBalance source x).setBalance destination y) := by
  have hp := (Account.debited_eq_ok_iff.mp hx).1
  simp [move, hne, hp, get_eq_ok_iff.mpr ha, get_eq_ok_iff.mpr hb, hx, hy,
    Account.debit_of_debited hx, Account.credit_of_credited hy]

/-- What a move comes to.  The checks look at the very balances that are then replaced, so what
they allow is done. -/
theorem move_cases (l : Ledger) (source destination : AccountId) (amount : Decimal) :
    (∃ e, move source destination amount l = (.error e, l)) ∨
      ∃ a b x y, source ≠ destination ∧ l.find? source = some a ∧ l.find? destination = some b ∧
        a.debited amount = .ok x ∧ b.credited amount = .ok y ∧
        move source destination amount l =
          (.ok ({ a with balance := x }, { b with balance := y }),
            (l.setBalance source x).setBalance destination y) := by
  -- the checks in the order in which they are made; each refusal leaves the ledger alone
  by_cases hne : source = destination
  · exact .inl ⟨_, by simp [move, hne]; rfl⟩
  cases hp : amount.isPositive with
  | false => exact .inl ⟨_, by simp [move, hp]; rfl⟩
  | true =>
    cases ha : l.get source with
    | error e => exact .inl ⟨e, by simp [move, hne, hp, ha]⟩
    | ok a =>
      cases hb : l.get destination with
      | error e => exact .inl ⟨e, by simp [move, hne, hp, ha, hb]⟩
      | ok b =>
        cases hx : a.debited amount with
        | error e => exact .inl ⟨e, by simp [move, hne, hp, ha, hb, hx]⟩
        | ok x =>
          cases hy : b.credited amount with
          | error e => exact .inl ⟨e, by simp [move, hne, hp, ha, hb, hx, hy]⟩
          | ok y =>
            rw [get_eq_ok_iff] at ha hb
            exact .inr ⟨a, b, x, y, hne, ha, hb, hx, hy, move_of_legs hne ha hb hx hy⟩

end Ledger

end CashMachine
