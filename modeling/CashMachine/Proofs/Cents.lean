/-
Which balances are whole cents.

Amounts that are moved are checked to be whole cents; balances that come into the ledger are not.
An account that came in with whole cents has whole cents at every point, whatever is rounded away
where balances are large.  One that came in with more digits keeps them, and then the three places
where its balance is given to somebody else differ from it: the slip, which is cut off, and the
saved record and the row of the table of accounts, which are rounded.

* `Account.exists_shown`, `Account.exists_saved`, `Account.exists_listed` — what is read from the
  slip, from the saved record and from the table;
* `Ledger.Cents`, `Session.cents_run` — the accounts of a ledger against those that came in;
* `balances_in_cents` — every run;
* `Session.not_forall_in_cents` — an account that is opened with `1.999`.
-/
import CashMachine.Batch.Replay
import CashMachine.Proofs.Machine.Provisioning
import CashMachine.Proofs.Reconciliation
import CashMachine.Proofs.Saving

namespace CashMachine

namespace Decimal

/-- Rounding keeps whole cents whole: either both digits fit, or there are no more than two. -/
theorem IsRounding.isCents {v : ℚ} {c : Decimal} (h : IsRounding v c) {n : ℤ}
    (hn : v * 100 = n) : c.IsCents := by
  by_cases hs : c.scale ≤ 2
  · exact isCents_of_scale_le hs
  · have hn2 : v * (tenTo 2 : ℕ) = n := by
      rw [← hn]
      norm_num [tenTo]
    refine ⟨n, ?_⟩
    rw [h.value_eq_of_scale_le hn2 (by omega), hn]

theorem isCents_add? {a b c : Decimal} (h : a.add? b = some c) (ha : a.IsCents)
    (hb : b.IsCents) : c.IsCents := by
  obtain ⟨n, hn⟩ := ha
  obtain ⟨k, hk⟩ := hb
  refine (isRounding_add? h).isCents (n := n + k) ?_
  rw [add_mul, hn, hk, Int.cast_add]

theorem isCents_sub? {a b c : Decimal} (h : a.sub? b = some c) (ha : a.IsCents)
    (hb : b.IsCents) : c.IsCents := by
  obtain ⟨n, hn⟩ := ha
  obtain ⟨k, hk⟩ := hb
  refine (isRounding_sub? h).isCents (n := n - k) ?_
  rw [sub_mul, hn, hk, Int.cast_sub]

theorem value_round_eq_iff {a : Decimal} : (a.round 2).value = a.value ↔ a.IsCents := by
  rw [← equals_iff_value_eq, equals_round_iff]

end Decimal

/-! ### What is said of a balance -/

namespace Account

/-- The amount that a balance slip shows is the balance exactly where that is whole cents. -/
theorem exists_shown (a : Account) :
    ∃ d, Decimal.read? a.balance.moneyText = some d ∧
      (d.value = a.balance.value ↔ a.balance.IsCents) := by
  obtain ⟨d, hd, hv⟩ := a.balance.exists_read?_moneyText
  refine ⟨d, hd, ?_⟩
  rw [← Decimal.cents_eq_iff, ← hv, mul_left_inj' (by norm_num)]

/-- The same of the balance in a row of the table of accounts. -/
theorem exists_listed (a : Account) :
    ∃ t d, Batch.accountFields a = [a.id, a.owner, a.kind.text, t] ∧
      Decimal.read? t = some d ∧ (d.value = a.balance.value ↔ a.balance.IsCents) := by
  refine ⟨a.savedBalance.text, a.savedBalance.unsignedZero, rfl, a.savedBalance.read?_text, ?_⟩
  rw [Decimal.value_unsignedZero]
  exact Decimal.value_round_eq_iff

/-- The same of the balance in the saved record, which is otherwise the account. -/
theorem exists_saved (a : Account) :
    ∃ b, ofSaved? a.saved = some { a with balance := b } ∧
      (b.value = a.balance.value ↔ a.balance.IsCents) := by
  refine ⟨a.savedBalance.unsignedZero, a.ofSaved?_saved, ?_⟩
  rw [Decimal.value_unsignedZero]
  exact Decimal.value_round_eq_iff

end Account

/-! ### Ledgers and runs -/

/-- Every account of the ledger came in, and has whole cents if it came in with them. -/
def Ledger.Cents (opened : List (AccountId × Account)) (l : Ledger) : Prop :=
  ∀ id a, l.find? id = some a →
    ∃ o, (id, o) ∈ opened ∧ (o.balance.IsCents → a.balance.IsCents)

namespace Ledger

variable {l k : Ledger} {opened gained : List (AccountId × Account)}

theorem cents_entries (l : Ledger) : Cents l.entries l :=
  fun _ a ha => ⟨a, mem_entries_of_find? ha, fun h => h⟩

theorem Cents.append (h : Cents opened l) (hk : k.entries = l.entries ++ gained) :
    Cents (opened ++ gained) k := by
  intro id a ha
  rw [find?_append hk, Option.or_eq_some_iff] at ha
  rcases ha with ha | ⟨_, ha⟩
  · obtain ⟨o, ho, hcents⟩ := h id a ha
    exact ⟨o, List.mem_append_left _ ho, hcents⟩
  · exact ⟨a, List.mem_append_right _ (mem_of_lookup ha), fun h => h⟩

end Ledger

namespace Machine

variable {reads : Reads} {stamp : Stamp} {m : Machine} {r : Request} {s : Step Reply}

/-- Whole cents are moved, so every account keeps them. -/
theorem Outcome.cents (h : Outcome reads stamp m r s) {opened : List (AccountId × Account)}
    (hm : m.ledger.Cents opened) : s.machine.ledger.Cents opened := by
  intro id a ha
  obtain ⟨a₀, _, ha₀, _⟩ := h.exists_find?_before ha
  obtain ⟨o, ho, hcents⟩ := hm id a₀ ha₀
  obtain ⟨b, hfind, hb⟩ := h.balance_cases ha₀
  obtain rfl := Option.some_inj.mp (ha.symm.trans hfind)
  refine ⟨o, ho, fun hopened => ?_⟩
  obtain ⟨rfl, _⟩ | ⟨amount, hamount, ⟨hadd, _⟩ | ⟨hsub, _⟩⟩ := hb
  · exact hcents hopened
  · exact Decimal.isCents_add? hadd (hcents hopened) hamount
  · exact Decimal.isCents_sub? hsub (hcents hopened) hamount

/-- What is printed of an account is its balance in the ledger. -/
theorem Outcome.prints {id : AccountId} {a : Account}
    (h : Outcome reads stamp m (.printBalance id) s) (ha : m.ledger.find? id = some a) :
    ∀ p ∈ Effect.prints s.effects, p = .balance id a.balance := by
  cases h with
  | refused => exact fun p hp => absurd hp List.not_mem_nil
  | printedBalance ha' =>
    obtain rfl := Option.some_inj.mp (ha.symm.trans ha')
    exact fun p hp => List.mem_singleton.mp hp

end Machine

namespace Session

variable {σ : Type} {stores : Stores σ} {s : Session σ}

theorem cents_perform (stores : Stores σ) {opened : List (AccountId × Account)}
    (h : s.machine.ledger.Cents opened) (r : Stamp × Request) :
    (s.perform stores r.1 r.2).session.machine.ledger.Cents (opened ++ s.entered stores r) := by
  have ho := Machine.outcome_perform s.machine (stores.reads s.store) r.1 r.2
  exact ho.cents (h.append (entries_admitted stores s r))

theorem cents_run (stores : Stores σ) {opened : List (AccountId × Account)} (s : Session σ)
    (h : s.machine.ledger.Cents opened) (rs : List (Stamp × Request)) :
    (s.run stores rs).machine.ledger.Cents (opened ++ s.along stores (entered stores) rs) := by
  induction rs generalizing s opened with
  | nil =>
    rw [along, List.append_nil]
    exact h
  | cons r rs ih =>
    rw [along, ← List.append_assoc]
    exact ih _ (cents_perform stores h r)

/-- The slip that is printed for an account of the ledger. -/
theorem printed_perform {id : AccountId} {a : Account} (ha : s.machine.ledger.find? id = some a)
    (stamp : Stamp) : ∀ p ∈ (s.perform stores stamp (.printBalance id)).printed,
      p = .balance id a.balance := by
  have ho := Machine.outcome_perform s.machine (stores.reads s.store) stamp (.printBalance id)
  exact ho.prints (Machine.find?_admitted ha _ _)

end Session

/-- After any run, over any stores, from a machine that was just set up or any other (a replay of a
table is a run, `Batch.exists_run_replay`): every account of the ledger has whole cents if it came
in with them, and accounts are let in with any balance that is not negative.  What the balance
slip, the saved record and the table say of the balance of an account is the balance exactly where
that is whole cents. -/
theorem balances_in_cents {σ : Type} {stores : Stores σ} {s₀ s : Session σ}
    {rs : List (Stamp × Request)} {opened : List (AccountId × Account)}
    (hs : s₀.run stores rs = s)
    (hopened : s₀.machine.ledger.entries ++ s₀.along stores (Session.entered stores) rs = opened) :
    (∀ id a, s.machine.ledger.find? id = some a →
      (∃ o, (id, o) ∈ opened ∧ (o.balance.IsCents → a.balance.IsCents)) ∧
      (∀ stamp, ∀ p ∈ (s.perform stores stamp (.printBalance id)).printed,
        ∃ shown d, p.text = Receipt.block "       BALANCE RECEIPT          "
            ["Account: " ++ id, "Balance: " ++ ("€" ++ shown)] ∧
          Decimal.read? shown = some d ∧ (d.value = a.balance.value ↔ a.balance.IsCents)) ∧
      (∃ b, Account.ofSaved? a.saved = some { a with balance := b } ∧
        (b.value = a.balance.value ↔ a.balance.IsCents)) ∧
      ∃ listed d, Batch.accountFields a = [a.id, a.owner, a.kind.text, listed] ∧
        Decimal.read? listed = some d ∧ (d.value = a.balance.value ↔ a.balance.IsCents)) ∧
    ∀ stamp a, s.machine.ledger.find? a.id = none → a.balance.isNegative = false →
      (s.perform stores stamp (.openAccount a)).session.machine.ledger.find? a.id = some a := by
  subst hs hopened
  have hcents := Session.cents_run stores s₀ s₀.machine.ledger.cents_entries rs
  refine ⟨fun id a ha => ⟨hcents id a ha, ?_, a.exists_saved, a.exists_listed⟩, ?_⟩
  · intro stamp p hp
    obtain rfl := Session.printed_perform ha stamp p hp
    obtain ⟨d, hd, hv⟩ := a.exists_shown
    exact ⟨a.balance.moneyText, d, rfl, hd, hv⟩
  · intro stamp a hnew hnonneg
    obtain ⟨x, _, _, hknown | hnegative⟩ | ⟨k, hperform, hk, _, hf⟩ :=
      Session.perform_openAccount_cases stores (s₀.run stores rs) stamp a
    · exact absurd hnew hknown
    · rw [hnonneg] at hnegative
      cases hnegative
    · rw [hperform]
      exact Ledger.find?_new hk hf

/-- An account that is opened with `1.999` has that balance, which is neither the one in its saved
record nor the one that its slip shows. -/
theorem balances_in_cents_opened :
    let a : Account := ⟨"A", "Ada", .checking, ⟨false, 1999, 3, by decide, by decide⟩⟩
    let opening : Stamp × Request := (⟨"T1", Instant.epoch⟩, .openAccount a)
    ∃ m s₁ s b, Machine.build Memory.stores {} Memory.empty = (.ok m, s₁) ∧
      Session.run Memory.stores ⟨m, s₁⟩ [opening] = s ∧
      s.machine.ledger.find? "A" = some a ∧
      Account.ofSaved? a.saved = some { a with balance := b } ∧ b.value ≠ a.balance.value := by
  intro a opening
  obtain ⟨m, s₁, s, hbuild, hs, ha⟩ :
      ∃ m s₁ s, Machine.build Memory.stores {} Memory.empty = (.ok m, s₁) ∧
        Session.run Memory.stores ⟨m, s₁⟩ [opening] = s ∧
        s.machine.ledger.find? "A" = some a :=
    ⟨_, _, _, rfl, rfl, rfl⟩
  have hmills : ¬ a.balance.IsCents := by decide
  obtain ⟨hall, _⟩ := balances_in_cents hs rfl
  obtain ⟨_, _, ⟨b, hb, hv⟩, _⟩ := hall "A" a ha
  exact ⟨m, s₁, s, b, hbuild, hs, ha, hb, fun heq => hmills (hv.mp heq)⟩

/-- Not all balances are whole cents. -/
theorem Session.not_forall_in_cents :
    ¬ ∀ (c : Configuration) (s₀ s₁ : Memory) (m : Machine) (rs : List (Stamp × Request)),
      Machine.build Memory.stores c s₀ = (.ok m, s₁) →
        ∀ id a, (Session.run Memory.stores ⟨m, s₁⟩ rs).machine.ledger.find? id = some a →
          a.balance.IsCents := by
  intro h
  let a : Account := ⟨"A", "Ada", .checking, ⟨false, 1999, 3, by decide, by decide⟩⟩
  obtain ⟨m, s₁, hbuild, ha⟩ :
      ∃ m s₁, Machine.build Memory.stores {} Memory.empty = (.ok m, s₁) ∧
        (Session.run Memory.stores ⟨m, s₁⟩
          [(⟨"T1", Instant.epoch⟩, .openAccount a)]).machine.ledger.find? "A" = some a :=
    ⟨_, _, rfl, rfl⟩
  have hcents := h {} Memory.empty s₁ m _ hbuild "A" a ha
  revert hcents
  decide

end CashMachine
