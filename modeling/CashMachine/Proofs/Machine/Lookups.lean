/-
Looking accounts up.

A look-up may bring one account into the ledger: the one that the store answered with, under
its own name, whichever name was asked for.  An operation makes its look-ups one after the
other, before everything else, and goes no further than the first one that fails
(`Machine.gather`).

* `Grown` — what look-ups leave of a machine, and what they may add to it;
* `grown_gather` — every row of look-ups does no more than that, however it ends;
* `load_eq_ok` — where a look-up succeeds, the account is in the ledger under the name that was
  asked for, and all other names are as they were;
* `balance_eq`, `history_eq`, `transaction_eq` — questions do nothing but look things up.
-/
import CashMachine.Machine.Session
import CashMachine.Proofs.Ledger

namespace CashMachine

namespace Machine

variable {m m₁ : Machine} {reads : Reads} {id : AccountId} {a : Account}

/-- The machine after look-ups in turn, up to the first one that fails. -/
def gather (m : Machine) (reads : Reads) : List AccountId → Machine
  | [] => m
  | id :: ids =>
    match m.load reads id with
    | (.ok _, m₁) => m₁.gather reads ids
    | (.error _, m₁) => m₁

/-- The second machine is the first one with accounts that the stores answered with, to a
look-up of one of the names, put at the end of its ledger. -/
structure Grown (reads : Reads) (names : List AccountId) (m m₁ : Machine) : Prop where
  eq : m₁ = { m with ledger := m₁.ledger }
  entries : ∃ gained, m₁.ledger.entries = m.ledger.entries ++ gained ∧
    ∀ e ∈ gained, e.1 = e.2.id ∧ e.2.balance.isNegative = false ∧
      ∃ name ∈ names, m.ledger.find? name = none ∧ reads.account name = .ok (some e.2)

namespace Grown

variable {names more : List AccountId} {m₂ : Machine}

theorem refl (reads : Reads) (names : List AccountId) (m : Machine) : Grown reads names m m :=
  ⟨rfl, [], by simp, by simp⟩

theorem reserve (h : Grown reads names m m₁) : m₁.reserve = m.reserve := by
  rw [h.eq]

theorem version (h : Grown reads names m m₁) : m₁.version = m.version := by
  rw [h.eq]

theorem dispenser (h : Grown reads names m m₁) : m₁.dispenser = m.dispenser := by
  rw [h.eq]

theorem find? (h : Grown reads names m m₁) (ha : m.ledger.find? id = some a) :
    m₁.ledger.find? id = some a := by
  obtain ⟨gained, he, _⟩ := h.entries
  exact Ledger.find?_of_append he ha

/-- What is not there after look-ups was not there before. -/
theorem find?_eq_none (h : Grown reads names m m₁) (hn : m₁.ledger.find? id = none) :
    m.ledger.find? id = none := by
  cases hf : m.ledger.find? id with
  | none => rfl
  | some a =>
    rw [h.find? hf] at hn
    cases hn

theorem trans (h : Grown reads names m m₁) (h' : Grown reads more m₁ m₂) :
    Grown reads (names ++ more) m m₂ := by
  obtain ⟨gained, he, hg⟩ := h.entries
  obtain ⟨gained', he', hg'⟩ := h'.entries
  refine ⟨by rw [h'.eq, h.eq], gained ++ gained', by rw [he', he, List.append_assoc], ?_⟩
  intro e hmem
  rcases List.mem_append.mp hmem with hmem | hmem
  · obtain ⟨h1, h2, name, hname, h3⟩ := hg e hmem
    exact ⟨h1, h2, name, List.mem_append_left _ hname, h3⟩
  · obtain ⟨h1, h2, name, hname, hnone, h3⟩ := hg' e hmem
    exact ⟨h1, h2, name, List.mem_append_right _ hname, h.find?_eq_none hnone, h3⟩

end Grown

/-- What one look-up comes to: the account is there, or the store is asked, and may be answering
with an account that then is put at the end of the ledger. -/
theorem load_cases (m : Machine) (reads : Reads) (id : AccountId) :
    (∃ x, m.load reads id = (x, m) ∧ ∀ a, x = .ok a → m.ledger.find? id = some a) ∨
      ∃ stored k, m.ledger.find? id = none ∧ reads.account id = .ok (some stored) ∧
        stored.balance.isNegative = false ∧
        k.entries = m.ledger.entries ++ [(stored.id, stored)] ∧
        m.load reads id = (k.get id, { m with ledger := k }) := by
  unfold load
  cases hf : m.ledger.find? id with
  | some b => exact .inl ⟨.ok b, rfl, fun a ha => by cases ha; rfl⟩
  | none =>
    -- the store can fail, know nothing, or answer with an account, of whatever name
    rcases hr : reads.account id with e | _ | stored
    · exact .inl ⟨_, rfl, fun a ha => by cases ha⟩
    · exact .inl ⟨_, rfl, fun a ha => by cases ha⟩
    · obtain ⟨ho, _⟩ | ⟨ho, hs⟩ | ⟨k, ho, hk, hn, _⟩ := m.ledger.openAccount_cases stored
      · left
        simp only [enroll, ho, Except.map]
        exact ⟨_, rfl, fun a ha => by cases ha⟩
      · left
        simp only [enroll, ho, Except.map]
        refine ⟨_, rfl, fun a ha => ?_⟩
        rw [Ledger.get_eq_ok_iff.mp ha] at hf
        cases hf
      · right
        refine ⟨stored, k, rfl, rfl, hn, hk, ?_⟩
        simp only [enroll, ho, Except.map]

/-- A store that answers with an account of the name asked for, with a balance that is not
negative, brings it in. -/
theorem load_of_stored (hf : m.ledger.find? a.id = none)
    (hr : reads.account a.id = .ok (some a)) (hn : a.balance.isNegative = false) :
    ∃ k : Ledger, k.entries = m.ledger.entries ++ [(a.id, a)] ∧
      m.load reads a.id = (.ok a, { m with ledger := k }) := by
  obtain ⟨_, hnegative⟩ | ⟨_, hknown⟩ | ⟨k, ho, hk, _, _⟩ := m.ledger.openAccount_cases a
  · rw [hn] at hnegative
    cases hnegative
  · exact absurd hf hknown
  · refine ⟨k, hk, ?_⟩
    simp [load, hf, hr, enroll, ho, Except.map, Ledger.get_eq_ok_iff.mpr (Ledger.find?_new hk hf)]

/-- A store that has no account of the name leaves the machine as it is. -/
theorem load_of_unknown (hf : m.ledger.find? id = none) (hr : reads.account id = .ok none) :
    m.load reads id = (.error (.accountNotFound id), m) := by
  simp [load, hf, hr, enroll]

theorem grown_load (m : Machine) (reads : Reads) (id : AccountId) :
    Grown reads [id] m (m.load reads id).2 := by
  obtain ⟨x, hl, _⟩ | ⟨stored, k, hf, hr, hn, hk, hl⟩ := load_cases m reads id
  · rw [hl]
    exact .refl reads [id] m
  · rw [hl]
    refine ⟨rfl, [(stored.id, stored)], hk, ?_⟩
    intro e he
    rw [List.mem_singleton] at he
    subst he
    exact ⟨rfl, hn, id, List.mem_cons_self, hf, hr⟩

theorem grown_gather (m : Machine) (reads : Reads) (names : List AccountId) :
    Grown reads names m (m.gather reads names) := by
  induction names generalizing m with
  | nil => exact .refl reads [] m
  | cons id names ih =>
    have h := grown_load m reads id
    rw [gather]
    generalize m.load reads id = result at h ⊢
    rcases result with ⟨e | a, m₁⟩
    · -- the first failure ends the row, but what it brought in stays
      exact h.trans (.refl reads names m₁)
    · exact h.trans (ih m₁)

/-- A single look-up leaves the machine as `load` does. -/
theorem gather_one (m : Machine) (reads : Reads) (id : AccountId) :
    m.gather reads [id] = (m.load reads id).2 := by
  rw [gather]
  rcases m.load reads id with ⟨_ | _, _⟩ <;> rfl

/-- An account that was looked up is there, and what is there under other names was there
before: a store that answers with another account makes the look-up fail. -/
theorem load_eq_ok (h : m.load reads id = (.ok a, m₁)) :
    m₁.ledger.find? id = some a ∧
      ∀ other, other ≠ id → m₁.ledger.find? other = m.ledger.find? other := by
  obtain ⟨x, hl, hx⟩ | ⟨stored, k, hf, _, _, hk, hl⟩ := load_cases m reads id
  · rw [hl, Prod.mk.injEq] at h
    obtain ⟨rfl, rfl⟩ := h
    exact ⟨hx a rfl, fun _ _ => rfl⟩
  · rw [hl, Prod.mk.injEq, Ledger.get_eq_ok_iff] at h
    obtain ⟨hget, rfl⟩ := h
    refine ⟨hget, ?_⟩
    -- the name was not there, so it is found only if it is the stored account's own
    have hid : id = stored.id := by
      refine Decidable.byContradiction fun hne => ?_
      rw [Ledger.find?_append_one hk, hf, if_neg hne] at hget
      cases hget
    intro other hother
    show k.find? other = _
    rw [Ledger.find?_append_one hk, if_neg (hid ▸ hother), Option.or_none]

/-- Where the account is in the ledger afterwards, the look-up was answered with it. -/
theorem load_of_find?_after (h : (m.load reads id).2.ledger.find? id = some a) :
    m.load reads id = (.ok a, (m.load reads id).2) := by
  obtain ⟨x, hl, _⟩ | ⟨stored, k, _, _, _, _, hl⟩ := load_cases m reads id
  · rw [hl] at h ⊢
    rw [← hl, load_of_find? h]
  · rw [hl] at h ⊢
    rw [Ledger.get_eq_ok_iff.mpr h]

/-! ### Questions -/

/-- A question about a balance is a look-up. -/
theorem balance_eq (m : Machine) (reads : Reads) (id : AccountId) :
    m.balance reads id = ⟨(m.load reads id).1.map Account.balance, (m.load reads id).2, []⟩ := by
  rcases hl : m.load reads id with ⟨e | a, m₁⟩
  · simp [balance, Step.of, Progress.run_account, hl, Except.map]
  · simp [balance, Step.of, Progress.run_account, hl, Except.map]

/-- A question about transactions of an account is a look-up and then one of the stores. -/
theorem history_eq (m : Machine) (reads : Reads) (id : AccountId) :
    m.history reads id =
      ⟨(m.load reads id).1.bind fun _ => ofStore (reads.history id), (m.load reads id).2, []⟩ := by
  rcases hl : m.load reads id with ⟨e | a, m₁⟩
  · simp [history, Step.of, Progress.run_account, hl, Except.bind]
  · simp [history, Step.of, Progress.run_account, hl, Except.bind]

/-- A question about a transaction leaves everything as it was. -/
theorem transaction_eq (m : Machine) (reads : Reads) (id : TransactionId) :
    m.transaction reads id = ⟨(m.transaction reads id).answer, m, []⟩ := by
  rcases hr : reads.transaction id with e | _ | t
  · simp [transaction, Step.of, hr, ofStore]
  · simp [transaction, Step.of, hr, ofStore]
  · simp [transaction, Step.of, hr, ofStore]

end Machine

end CashMachine
