/-
The books reconcile with the audit trail.

A run is taken from a machine that was set up, over stores that keep an audit trail and do with
everything else what they like.  The trail then has exactly the transactions of the requests
that were answered, in order, after those that it had; and every balance is the one with which
the account came into the ledger, plus what these transactions bring it, minus what they take.

* `Session.along` — what the requests of a run contribute, one after the other;
* `log_run`, `balanced_run` — the trail and the ledger after a run, by induction on it;
* `books_reconcile` — what the machine answers about an account after a run.
-/
import Mathlib.Data.List.Infix
import CashMachine.Proofs.Books

namespace CashMachine

namespace Session

variable {σ : Type} {stores : Stores σ} {trail : σ → AuditTrail} {s : Session σ}

/-- What each request of a run contributes, in order. -/
def along {α : Type} (stores : Stores σ) (f : Session σ → Stamp × Request → List α)
    (s : Session σ) : List (Stamp × Request) → List α
  | [] => []
  | r :: rs => f s r ++ along stores f (s.perform stores r.1 r.2).session rs

/-- The transaction that a request commits. -/
def committed (stores : Stores σ) (s : Session σ) (r : Stamp × Request) : List Transaction :=
  r.2.committed r.1 (s.perform stores r.1 r.2).answer

/-- The accounts that come into the ledger with a request, as they come, under their names. -/
def entered (stores : Stores σ) (s : Session σ) (r : Stamp × Request) :
    List (AccountId × Account) :=
  (s.machine.admitted (stores.reads s.store) r.2).ledger.entries.drop
    s.machine.ledger.entries.length

theorem entries_admitted (stores : Stores σ) (s : Session σ) (r : Stamp × Request) :
    (s.machine.admitted (stores.reads s.store) r.2).ledger.entries =
      s.machine.ledger.entries ++ s.entered stores r := by
  obtain ⟨gained, hg, _⟩ := Machine.exists_entries_admitted s.machine (stores.reads s.store) r.2
  rw [entered, hg, List.drop_left]

/-- A run of requests is a run of the machine, over what the stores answer on the way. -/
theorem exists_machine_run (stores : Stores σ) (s : Session σ) (rs : List (Stamp × Request)) :
    ∃ visits, (s.run stores rs).machine = s.machine.run visits := by
  induction rs generalizing s with
  | nil => exact ⟨[], rfl⟩
  | cons r rs ih =>
    obtain ⟨visits, hv⟩ := ih (s.perform stores r.1 r.2).session
    exact ⟨⟨stores.reads s.store, r.1, r.2⟩ :: visits, hv⟩

/-! ### The trail -/

theorem log_perform (h : stores.Audited trail) (r : Stamp × Request)
    (hnew : (((trail s.store).log ++ s.committed stores r).map Transaction.id).Nodup) :
    (trail (s.perform stores r.1 r.2).session.store).log =
      (trail s.store).log ++ s.committed stores r := by
  have ht := (Machine.outcome_perform s.machine (stores.reads s.store) r.1 r.2).transactions
  have hc : s.committed stores r = Write.transactions (Effect.writes
      (s.machine.perform (stores.reads s.store) r.1 r.2).effects) := ht.symm
  rw [hc] at hnew ⊢
  exact h.log_writeAll _ s.store hnew

/-- After a run the log has the transactions that were committed, at its end and in order. -/
theorem log_run (h : stores.Audited trail) (s : Session σ) (rs : List (Stamp × Request))
    (hnew : (((trail s.store).log ++ s.along stores (committed stores) rs).map
      Transaction.id).Nodup) :
    (trail (s.run stores rs).store).log =
      (trail s.store).log ++ s.along stores (committed stores) rs := by
  induction rs generalizing s with
  | nil => exact (List.append_nil _).symm
  | cons r rs ih =>
    -- what the first request commits moves from the front of the run to the end of the log
    rw [along, ← List.append_assoc] at hnew ⊢
    have hr : (((trail s.store).log ++ s.committed stores r).map Transaction.id).Nodup := by
      rw [List.map_append] at hnew
      exact hnew.of_append_left
    rw [← log_perform h r hr] at hnew ⊢
    exact ih _ hnew

/-! ### The ledger -/

theorem balanced_perform {opened : List (AccountId × Account)} {ts : List Transaction}
    (hs : s.machine.ledger.Balanced opened ts) (r : Stamp × Request)
    (hcents : ∀ e ∈ s.entered stores r, e.2.balance.IsCents)
    (hsmall : ∀ id b, (s.perform stores r.1 r.2).session.machine.ledger.find? id = some b →
      |b.balance.value| ≤ Decimal.maxCents) :
    (s.perform stores r.1 r.2).session.machine.ledger.Balanced (opened ++ s.entered stores r)
      (ts ++ s.committed stores r) := by
  have ho := Machine.outcome_perform s.machine (stores.reads s.store) r.1 r.2
  exact ho.balanced (hs.append (entries_admitted stores s r) hcents) hsmall

/-- After a run the ledger is balanced with all that came in and all that was committed. -/
theorem balanced_run (s : Session σ) {opened : List (AccountId × Account)} {ts : List Transaction}
    (hs : s.machine.ledger.Balanced opened ts) (rs : List (Stamp × Request))
    (hcents : ∀ e ∈ s.along stores (entered stores) rs, e.2.balance.IsCents)
    (hsmall : ∀ qs, qs <+: rs → ∀ id b, (s.run stores qs).machine.ledger.find? id = some b →
      |b.balance.value| ≤ Decimal.maxCents) :
    (s.run stores rs).machine.ledger.Balanced (opened ++ s.along stores (entered stores) rs)
      (ts ++ s.along stores (committed stores) rs) := by
  -- the first request adds to what was opened and committed, the others go on from there
  induction rs generalizing s opened ts with
  | nil =>
    rw [along, along, List.append_nil, List.append_nil]
    exact hs
  | cons r rs ih =>
    rw [along] at hcents
    have hfirst : [r] <+: r :: rs := ⟨rs, rfl⟩
    have hstep := balanced_perform hs r
      (fun e he => hcents e (List.mem_append_left _ he)) (hsmall [r] hfirst)
    rw [along, along, ← List.append_assoc, ← List.append_assoc]
    refine ih _ hstep (fun e he => hcents e (List.mem_append_right _ he)) ?_
    intro qs hqs
    exact hsmall (r :: qs) (List.cons_prefix_cons.mpr ⟨rfl, hqs⟩)

end Session

/-! ### Reconciliation -/

/-- After any run from a machine that was set up, over stores with an audit trail, with new names
for its transactions, with whole cents in the accounts that come in, and without a balance above
the range of cents at any point: about an account of the ledger, the machine answers with the
history that the trail had and then the transactions of the run that name it, each of which is
found by its name; nothing else was added to the trail; and it answers with the balance with
which the account came in, plus what it received in the run, minus what it paid. -/
theorem books_reconcile {σ : Type} {stores : Stores σ} {trail : σ → AuditTrail}
    (haudit : stores.Audited trail) {c : Configuration} {s₀ s₁ : σ} {m : Machine}
    (hbuild : Machine.build stores c s₀ = (.ok m, s₁)) {rs : List (Stamp × Request)}
    {ts : List Transaction} {opened : List (AccountId × Account)} {s : Session σ}
    (hts : Session.along stores (Session.committed stores) ⟨m, s₁⟩ rs = ts)
    (hopened : m.ledger.entries ++ Session.along stores (Session.entered stores) ⟨m, s₁⟩ rs =
      opened)
    (hs : Session.run stores ⟨m, s₁⟩ rs = s)
    (hdistinct : (ts.map Transaction.id).Nodup) (hnew : ∀ t ∈ ts, (trail s₁).get t.id = none)
    (hcents : ∀ e ∈ opened, e.2.balance.IsCents)
    (hsmall : ∀ qs, qs <+: rs → ∀ id b,
      (Session.run stores ⟨m, s₁⟩ qs).machine.ledger.find? id = some b →
        b.balance.value ≤ Decimal.maxCents)
    {id : AccountId} {a : Account} (ha : s.machine.ledger.find? id = some a) :
    (s.machine.history (stores.reads s.store) id).answer =
        .ok ((trail s₁).forAccount id ++ ts.filter fun t => t.involves id) ∧
      (∀ t ∈ ts, (s.machine.transaction (stores.reads s.store) t.id).answer = .ok t) ∧
      (trail s.store).log = (trail s₁).log ++ ts ∧
      (s.machine.balance (stores.reads s.store) id).answer = .ok a.balance ∧
      ∃ o, opened.lookup id = some o ∧ a.balance.value =
        o.balance.value + Transaction.received id ts - Transaction.paid id ts := by
  subst hts hopened hs
  -- names that are new to the trail and distinct stay so all along the run
  have hids : (((trail s₁).log ++
      Session.along stores (Session.committed stores) ⟨m, s₁⟩ rs).map Transaction.id).Nodup := by
    rw [List.map_append, List.nodup_append]
    refine ⟨(trail s₁).nodup, hdistinct, ?_⟩
    intro x hx y hy hxy
    obtain ⟨t, ht, rfl⟩ := List.mem_map.mp hy
    exact AuditTrail.get_eq_none.mp (hnew t ht) (hxy ▸ hx)
  have hlog := Session.log_run haudit ⟨m, s₁⟩ rs hids
  -- no balance is negative, so the bound from above is all that is needed
  have hrange : ∀ qs, qs <+: rs → ∀ id b,
      (Session.run stores ⟨m, s₁⟩ qs).machine.ledger.find? id = some b →
        |b.balance.value| ≤ Decimal.maxCents := by
    intro qs hqs id b hb
    obtain ⟨visits, hv⟩ := Session.exists_machine_run stores ⟨m, s₁⟩ qs
    have hsound := Machine.sound_run (Machine.sound_build hbuild) visits
    rw [abs_of_nonneg (hsound id b (hv ▸ hb)).2]
    exact hsmall qs hqs id b hb
  have hstart := Ledger.balanced_nil fun e he => hcents e (List.mem_append_left _ he)
  have hbalanced := Session.balanced_run ⟨m, s₁⟩ hstart rs
    (fun e he => hcents e (List.mem_append_right _ he)) hrange
  rw [List.nil_append] at hbalanced
  have hload := Machine.load_of_find? ha
    (stores.reads (Session.run stores ⟨m, s₁⟩ rs).store)
  refine ⟨?_, ?_, hlog, ?_, (hbalanced.balance id a ha).2⟩
  · simp [Machine.history, Step.of, Progress.run_account, hload, haudit.history, Machine.ofStore,
      AuditTrail.forAccount, hlog]
  · intro t ht
    have hget := AuditTrail.get_of_mem (hlog ▸ List.mem_append_right _ ht)
    simp [Machine.transaction, Step.of, haudit.transaction, Machine.ofStore, hget]
  · simp [Machine.balance, Step.of, Progress.run_account, hload]

/-- Two accounts, a deposit of `2.50` to the first and a transfer of `5` from it to the second. -/
theorem books_reconcile_two :
    let c : Configuration :=
      { accounts := [⟨"A", "Ada", .checking, ⟨false, 5000, 2, by decide, by decide⟩⟩,
          ⟨"B", "Bo", .savings, .ofNat 7 (by decide)⟩] }
    let deposited : Stamp × Request :=
      (⟨"T1", Instant.epoch⟩, .deposit "A" ⟨false, 250, 2, by decide, by decide⟩)
    let moved : Stamp × Request :=
      (⟨"T2", Instant.epoch⟩, .transfer "A" "B" (.ofNat 5 (by decide)))
    ∃ m s₁ s a, Machine.build Memory.stores c Memory.empty = (.ok m, s₁) ∧
      Session.run Memory.stores ⟨m, s₁⟩ [deposited, moved] = s ∧
      s.machine.ledger.find? "A" = some a ∧
      ∃ ts o, ts.map Transaction.id = ["T1", "T2"] ∧ s.store.trail.log = ts ∧
        m.ledger.entries.lookup "A" = some o ∧ a.balance.value =
          o.balance.value + Transaction.received "A" ts - Transaction.paid "A" ts := by
  intro c deposited moved
  obtain ⟨m, s₁, hbuild, hs₁, hentered, hids, hrange, a, ha⟩ :
      ∃ m s₁, Machine.build Memory.stores c Memory.empty = (.ok m, s₁) ∧
        s₁.trail.log = [] ∧
        Session.along Memory.stores (Session.entered Memory.stores) ⟨m, s₁⟩
          [deposited, moved] = [] ∧
        (Session.along Memory.stores (Session.committed Memory.stores) ⟨m, s₁⟩
          [deposited, moved]).map Transaction.id = ["T1", "T2"] ∧
        (∀ qs ∈ [deposited, moved].inits,
          ∀ e ∈ (Session.run Memory.stores ⟨m, s₁⟩ qs).machine.ledger.entries,
            e.2.balance.scale ≤ 2 ∧ e.2.balance.value ≤ Decimal.maxCents) ∧
        ∃ a, (Session.run Memory.stores ⟨m, s₁⟩ [deposited, moved]).machine.ledger.find? "A" =
          some a :=
    ⟨_, _, rfl, rfl, by decide +kernel, by decide +kernel, by decide +kernel, _, rfl⟩
  have hopened : m.ledger.entries ++ Session.along Memory.stores (Session.entered Memory.stores)
      ⟨m, s₁⟩ [deposited, moved] = m.ledger.entries := by
    rw [hentered, List.append_nil]
  have hdistinct : ((Session.along Memory.stores (Session.committed Memory.stores) ⟨m, s₁⟩
      [deposited, moved]).map Transaction.id).Nodup := by
    rw [hids]
    decide
  have hnew : ∀ t : Transaction, s₁.trail.get t.id = none := by
    intro t
    rw [AuditTrail.get_eq_none, hs₁]
    exact List.not_mem_nil
  have hcents : ∀ e ∈ m.ledger.entries, e.2.balance.IsCents := by
    intro e he
    exact Decimal.isCents_of_scale_le (hrange [] ((List.mem_inits _ _).mpr ⟨_, rfl⟩) e he).1
  obtain ⟨_, _, hlog, _, o, ho, hv⟩ := books_reconcile Memory.audited hbuild rfl hopened rfl
    hdistinct (fun t _ => hnew t) hcents
    (fun qs hqs id b hb => (hrange qs ((List.mem_inits _ _).mpr hqs) (id, b)
      (Ledger.mem_entries_of_find? hb)).2) ha
  rw [show (Memory.trail s₁).log = [] from hs₁, List.nil_append] at hlog
  exact ⟨m, s₁, _, a, hbuild, rfl, ha, _, o, hids, hlog, ho, hv⟩

end CashMachine
