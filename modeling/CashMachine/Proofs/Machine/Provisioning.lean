/-
Provisioning accounts on a running machine.

Whether an account is there already is asked of the ledger alone: an account that the stores keep
is not looked up before another one of its name is opened, and is then written over.  Where a
machine is set up, the stores are asked first.

* `Session.Spares` — all that is known of an account stays as it was;
* `perform_openAccount_cases` — what opening an account comes to;
* `openAccount_spares_iff` — exactly when it is so, and what happens otherwise;
* `Machine.provide_of_stored` — setting up spares every account that is kept.
-/
import CashMachine.Machine.Build
import CashMachine.Proofs.Machine.Perform
import CashMachine.Store.Memory

namespace CashMachine

namespace Machine

variable {σ : Type}

/-- Of an account that the stores answer with, setting up takes the stored one and writes
nothing. -/
theorem provide_of_stored (stores : Stores σ) (l : Ledger) {a stored : Account} {s : σ}
    (h : (stores.reads s).account a.id = .ok (some stored)) :
    provide stores l a s = ((l.openAccount stored).map Prod.fst, s) := by
  rw [provide, Work.bind_of_ok (ask_of_ok stores h)]
  show ((liftM (l.openAccount stored) : Work σ (Ledger × Bool)) >>= fun p => pure p.1) s = _
  cases ho : l.openAccount stored with
  | error e => exact Work.bind_of_error (Work.run_lift _ s) _
  | ok result => exact Work.bind_of_ok (Work.run_lift _ s) _

end Machine

namespace Session

variable {σ : Type} {stores : Stores σ} {s : Session σ} {stamp : Stamp} {a : Account}

/-- Asking for an account to be opened leaves all that is known under its name as it was: it is
answered that it is there, or with an error, and neither what the stores keep of it nor what the
machine answers about its balance changes. -/
structure Spares (stores : Stores σ) (s : Session σ) (stamp : Stamp) (a : Account) : Prop where
  answer : (s.perform stores stamp (.openAccount a)).answer = .ok (.opened false) ∨
    ∃ e, (s.perform stores stamp (.openAccount a)).answer = .error e
  stored : (stores.reads (s.perform stores stamp (.openAccount a)).session.store).account a.id =
    (stores.reads s.store).account a.id
  balance : ((s.perform stores stamp (.openAccount a)).session.machine.balance
      (stores.reads (s.perform stores stamp (.openAccount a)).session.store) a.id).answer =
    (s.machine.balance (stores.reads s.store) a.id).answer

/-- An account is opened over whatever the stores keep under its name. -/
structure Replaces (stores : Stores σ) (s : Session σ) (stamp : Stamp) (a : Account) : Prop where
  answer : (s.perform stores stamp (.openAccount a)).answer = .ok (.opened true)
  store : (s.perform stores stamp (.openAccount a)).session.store =
    (stores.write (.account a) s.store).2
  balance : ((s.perform stores stamp (.openAccount a)).session.machine.balance
      (stores.reads (s.perform stores stamp (.openAccount a)).session.store) a.id).answer =
    .ok a.balance

theorem Replaces.not_spares (h : Replaces stores s stamp a) : ¬ Spares stores s stamp a := by
  rintro ⟨hanswer, _, _⟩
  rw [h.answer] at hanswer
  rcases hanswer with hfalse | ⟨e, herror⟩
  · cases hfalse
  · cases herror

/-- Opening an account does nothing at all, or puts the account at the end of the ledger and
writes it. -/
theorem perform_openAccount_cases (stores : Stores σ) (s : Session σ) (stamp : Stamp)
    (a : Account) :
    (∃ x, s.perform stores stamp (.openAccount a) = ⟨x, [], s⟩ ∧
        (x = .ok (.opened false) ∨ ∃ e, x = .error e) ∧
        (s.machine.ledger.find? a.id ≠ none ∨ a.balance.isNegative = true)) ∨
      ∃ k, s.perform stores stamp (.openAccount a) =
          ⟨.ok (.opened true), [],
            ⟨{ s.machine with ledger := k }, (stores.write (.account a) s.store).2⟩⟩ ∧
        k.entries = s.machine.ledger.entries ++ [(a.id, a)] ∧
        a.balance.isNegative = false ∧ s.machine.ledger.find? a.id = none := by
  obtain ⟨ho, hn⟩ | ⟨ho, hf⟩ | ⟨k, ho, hk, hn, hf⟩ := s.machine.ledger.openAccount_cases a
  · refine .inl ⟨.error .invalidAmount, ?_, .inr ⟨_, rfl⟩, .inr hn⟩
    rw [perform, Machine.perform, Machine.openAccount_of_refused ho]
    rfl
  · refine .inl ⟨.ok (.opened false), ?_, .inl rfl, .inl hf⟩
    rw [perform, Machine.perform, Machine.openAccount_of_known ho]
    rfl
  · refine .inr ⟨k, ?_, hk, hn, hf⟩
    rw [perform, Machine.perform, Machine.openAccount_of_new ho (Ledger.find?_new hk hf)]
    rfl

/-- A request that does nothing leaves every answer as it was. -/
theorem spares_of_idle {x : Except Error Reply}
    (h : s.perform stores stamp (.openAccount a) = ⟨x, [], s⟩)
    (hx : x = .ok (.opened false) ∨ ∃ e, x = .error e) : Spares stores s stamp a := by
  refine ⟨?_, ?_, ?_⟩
  · rw [h]
    exact hx
  · rw [h]
  · rw [h]

theorem replaces_of_new {k : Ledger}
    (h : s.perform stores stamp (.openAccount a) = ⟨.ok (.opened true), [],
      ⟨{ s.machine with ledger := k }, (stores.write (.account a) s.store).2⟩⟩)
    (hk : k.find? a.id = some a) : Replaces stores s stamp a := by
  have hload := Machine.load_of_find? (m := { s.machine with ledger := k }) hk
  refine ⟨?_, ?_, ?_⟩
  · rw [h]
  · rw [h]
  · rw [h]
    simp [Machine.balance, Step.of, Progress.run_account, hload]

/-- An account is spared exactly when the ledger has one of its name, or it is refused for a
negative balance, whatever the stores keep.  Otherwise it is opened in place of theirs. -/
theorem openAccount_spares_iff (stores : Stores σ) (s : Session σ) (stamp : Stamp) (a : Account) :
    (Spares stores s stamp a ↔
        s.machine.ledger.find? a.id ≠ none ∨ a.balance.isNegative = true) ∧
      (Spares stores s stamp a ∨ Replaces stores s stamp a) := by
  obtain ⟨x, hs, hx, hspared⟩ | ⟨k, hs, hk, hn, hf⟩ := perform_openAccount_cases stores s stamp a
  · have h : Spares stores s stamp a := spares_of_idle hs hx
    exact ⟨iff_of_true h hspared, .inl h⟩
  · have h : Replaces stores s stamp a := replaces_of_new hs (Ledger.find?_new hk hf)
    refine ⟨iff_of_false h.not_spares ?_, .inr h⟩
    rintro (hknown | hnegative)
    · exact hknown hf
    · rw [hn] at hnegative
      cases hnegative

/-- An account that is kept with a balance of `5`, and has not been asked for yet, is written over
by one with a balance of `100`. -/
theorem not_forall_stored_spares :
    ¬ ∀ (s : Session Memory) (stamp : Stamp) (a stored : Account),
      (Memory.stores.reads s.store).account a.id = .ok (some stored) →
        Spares Memory.stores s stamp a := by
  intro h
  let stored : Account := ⟨"A", "Ada", .checking, .ofNat 5 (by decide)⟩
  let m : Machine := ⟨"M", Dispenser.greedy, Ledger.empty, Reserve.empty, ⟨1, 0⟩⟩
  let s : Session Memory := ⟨m, { Memory.empty with accounts := [stored] }⟩
  let a : Account := { stored with balance := .ofNat 100 (by decide) }
  -- nothing has been loaded yet, so the machine takes the account for a new one
  have hreplaces : Replaces Memory.stores s ⟨"T", Instant.epoch⟩ a :=
    replaces_of_new (k := ⟨[("A", a)], by decide⟩) rfl rfl
  exact hreplaces.not_spares (h s _ a stored rfl)

end Session

end CashMachine
