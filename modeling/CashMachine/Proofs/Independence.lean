/-
Writes that fail leave no trace in the machine.

Two machines that are alike are run side by side, each over its own stores, where writes may fail
or succeed in any way.  The stores need only answer alike to look-ups of accounts that are not in
the ledgers, and keep every account apart from the others (`Stores.Apart`).  Accounts are written
once they are in the ledger, and from then on they are not looked up any more: so nothing that
was written, or was not, is ever read back, except when it is asked for transactions.

* `Session.Alike` — the two machines between requests, and their stores;
* `alike_perform`, `alike_run` — one request, and a run of them;
* `writes_never_read_back` — what both machines then have and answer.
-/
import CashMachine.Proofs.Machine.Alike
import CashMachine.Proofs.Machine.Writes
import CashMachine.Store.Memory

namespace CashMachine

/-- A write, whether it fails or not, changes at most the account that it is of: look-ups of all
others are answered as before. -/
def Stores.Apart {σ : Type} (stores : Stores σ) : Prop :=
  ∀ w s id, (∀ a, w = .account a → a.id ≠ id) →
    (stores.reads (stores.write w s).2).account id = (stores.reads s).account id

namespace Stores.Apart

variable {σ : Type} {stores : Stores σ}

theorem writeAll (h : stores.Apart) {ws : List Write} {id : AccountId}
    (hws : ∀ a, .account a ∈ ws → a.id ≠ id) (s : σ) :
    (stores.reads (stores.writeAll ws s)).account id = (stores.reads s).account id := by
  induction ws generalizing s with
  | nil => rfl
  | cons w ws ih =>
    have hw := h w s id fun a ha => hws a (ha ▸ List.mem_cons_self)
    exact (ih (fun a ha => hws a (List.mem_cons_of_mem w ha)) _).trans hw

end Stores.Apart

theorem Memory.apart : Memory.stores.Apart := by
  intro w m id hw
  cases w with
  | account a =>
    show (reads (write (.account a) m).2).account id = _
    rw [memory_write_account, if_neg (hw a rfl)]
    rfl
  | transaction t =>
    exact congrArg (fun accounts => Except.ok (find? accounts id)) (write_transaction t m).1
  | _ => rfl

namespace Session

variable {σ τ : Type} {stores : Stores σ} {others : Stores τ}

/-- The machines are alike, with their accounts under their own names, and both stores answer
alike when an account is looked up that is not in the ledgers. -/
structure Alike (stores : Stores σ) (others : Stores τ) (s : Session σ) (t : Session τ) : Prop where
  machine : s.machine.Alike t.machine
  named : s.machine.ledger.Named
  lookups : ∀ id, s.machine.ledger.find? id = none →
    (others.reads t.store).account id = (stores.reads s.store).account id

/-- An operation writes the accounts as they are in the ledger afterwards. -/
theorem find?_of_written {s : Session σ} (hs : s.machine.ledger.Named) (stamp : Stamp)
    (r : Request) {a : Account}
    (ha : .account a ∈
      Effect.writes (s.machine.perform (stores.reads s.store) stamp r).effects) :
    (s.perform stores stamp r).session.machine.ledger.find? a.id = some a := by
  have hcovers := (Machine.outcome_perform s.machine (stores.reads s.store) stamp r).covers
    (Machine.named_admitted hs (stores.reads s.store) r)
  exact hcovers.account a ha

/-- So it does not touch what can still be looked up. -/
theorem account_perform (h : stores.Apart) {s : Session σ} (hs : s.machine.ledger.Named)
    (stamp : Stamp) (r : Request) {id : AccountId}
    (hid : (s.perform stores stamp r).session.machine.ledger.find? id = none) :
    (stores.reads (s.perform stores stamp r).session.store).account id =
      (stores.reads s.store).account id := by
  refine h.writeAll ?_ s.store
  intro a ha hname
  have hfind := find?_of_written hs stamp r ha
  rw [hname] at hfind
  exact Option.some_ne_none a (hfind.symm.trans hid)

variable {s : Session σ} {t : Session τ} {r q : Request}

theorem Alike.progress (h : Alike stores others s t) :
    Progress.Alike (stores.reads s.store) (others.reads t.store) ⟨s.machine, []⟩
      ⟨t.machine, []⟩ :=
  ⟨h.machine, rfl, h.lookups⟩

theorem alike_perform (hstores : stores.Apart) (hothers : others.Apart)
    (h : Alike stores others s t) (hrq : r.Restamped q) (stamp stamp' : Stamp) :
    Alike stores others (s.perform stores stamp r).session
      (t.perform others stamp' q).session := by
  have hp : Progress.Alike _ _ (s.machine.perform (stores.reads s.store) stamp r).progress
      (t.machine.perform (others.reads t.store) stamp' q).progress :=
    Machine.progress_alike_perform h.progress hrq
  have hnamed := Machine.named_perform h.named (stores.reads s.store) stamp r
  refine ⟨hp.machine, hnamed, ?_⟩
  intro id hid
  have hid' : (t.perform others stamp' q).session.machine.ledger.find? id = none :=
    (congrArg (·.find? id) hp.machine.ledger).trans hid
  have hnamed' : t.machine.ledger.Named := h.machine.ledger ▸ h.named
  rw [account_perform hstores h.named stamp r hid, account_perform hothers hnamed' stamp' q hid']
  exact hp.lookups id hid

theorem alike_run (hstores : stores.Apart) (hothers : others.Apart) (h : Alike stores others s t)
    {rs qs : List (Stamp × Request)} (hrs : List.Forall₂ (fun r q => r.2.Restamped q.2) rs qs) :
    Alike stores others (s.run stores rs) (t.run others qs) := by
  induction hrs generalizing s t with
  | nil => exact h
  | cons hrq _ ih => exact ih (alike_perform hstores hothers h hrq _ _)

end Session

/-- After any two runs of the same requests, up to stamps, the machines have the same ledger,
reserve and version, and every further request is answered alike and prints alike, whichever
writes have failed.  Only questions about transactions may be answered in another way.  That
accounts are under their own names holds of every machine that has been set up. -/
theorem writes_never_read_back {σ τ : Type} {stores : Stores σ} {others : Stores τ}
    (hstores : stores.Apart) (hothers : others.Apart) {m n : Machine} {s₀ : σ} {t₀ : τ}
    (hmn : m.Alike n) (hnamed : m.ledger.Named)
    (hreads : ∀ id, m.ledger.find? id = none →
      (others.reads t₀).account id = (stores.reads s₀).account id)
    {rs qs : List (Stamp × Request)}
    (hrs : List.Forall₂ (fun r q => r.2.Restamped q.2) rs qs) {s : Session σ} {t : Session τ}
    (hs : Session.run stores ⟨m, s₀⟩ rs = s) (ht : Session.run others ⟨n, t₀⟩ qs = t) :
    t.machine.ledger = s.machine.ledger ∧ t.machine.reserve = s.machine.reserve ∧
      t.machine.version = s.machine.version ∧ t.machine.accounts = s.machine.accounts ∧
      ∀ (stamp stamp' : Stamp) (r q : Request), r.Restamped q → r.asksTransactions = false →
        (t.perform others stamp' q).answer.map Reply.unstamped =
            (s.perform stores stamp r).answer.map Reply.unstamped ∧
          (t.perform others stamp' q).printed.map Printed.unstamped =
            (s.perform stores stamp r).printed.map Printed.unstamped := by
  have h : Session.Alike stores others s t := by
    rw [← hs, ← ht]
    exact Session.alike_run hstores hothers ⟨hmn, hnamed, hreads⟩ hrs
  refine ⟨h.machine.ledger, h.machine.reserve, h.machine.version, ?_, ?_⟩
  · rw [Machine.accounts, Machine.accounts, h.machine.ledger]
  · intro stamp stamp' r q hrq hr
    have hstep : Step.Answered _ _ (s.machine.perform (stores.reads s.store) stamp r)
        (t.machine.perform (others.reads t.store) stamp' q) :=
      Machine.alike_perform h.progress hrq hr
    exact ⟨hstep.answer.map_eq, hstep.progress.prints⟩

/-- A deposit that one memory keeps and another one refuses to keep: afterwards the machines have
the same ledger, and answer with the same balance. -/
theorem writes_never_read_back_refused :
    let a : Account := ⟨"A", "Ada", .checking, .ofNat 50 (by decide)⟩
    let m : Machine := ⟨"M", Dispenser.greedy, Ledger.empty, Reserve.empty, ⟨1, 0⟩⟩
    let n : Machine := { m with id := "N" }
    let memory : Memory := { Memory.empty with accounts := [a] }
    let refusing : Stores Memory := ⟨Memory.reads, fun _ s => (.error (.backend "full"), s)⟩
    let deposit : Request := .deposit "A" (.ofNat 10 (by decide))
    let stamp : Stamp := ⟨"T1", Instant.epoch⟩
    let stamp' : Stamp := ⟨"T2", Instant.epoch⟩
    ∃ s t, Session.run Memory.stores ⟨m, memory⟩ [(stamp, deposit)] = s ∧
      Session.run refusing ⟨n, memory⟩ [(stamp', deposit)] = t ∧
      t.store.accounts = [a] ∧ (Memory.find? s.store.accounts "A").map Account.balance =
        some (.ofNat 60 (by decide)) ∧
      t.machine.ledger = s.machine.ledger ∧
      (t.perform refusing stamp' (.balance "A")).answer.map Reply.unstamped =
        .ok (.balance (.ofNat 60 (by decide))) := by
  intro a m n memory refusing deposit stamp stamp'
  have hrefusing : refusing.Apart := fun _ _ _ _ => rfl
  have hnamed : m.ledger.Named := by
    intro id b hb
    cases hb
  have hrs : List.Forall₂ (fun r q : Stamp × Request => r.2.Restamped q.2) [(stamp, deposit)]
      [(stamp', deposit)] := .cons (.same deposit) .nil
  have hmn : m.Alike n := ⟨rfl, rfl, rfl, rfl⟩
  have hreads : ∀ id, m.ledger.find? id = none →
      (refusing.reads memory).account id = (Memory.stores.reads memory).account id :=
    fun _ _ => rfl
  obtain ⟨hledger, _, _, _, hanswers⟩ := writes_never_read_back Memory.apart hrefusing hmn hnamed
    hreads hrs rfl rfl
  obtain ⟨hanswer, _⟩ := hanswers stamp stamp' (.balance "A") (.balance "A") (.same _) rfl
  have hstore : (Session.run refusing ⟨n, memory⟩ [(stamp', deposit)]).store.accounts = [a] := by
    decide +kernel
  have hkept : (Memory.find? (Session.run Memory.stores ⟨m, memory⟩
      [(stamp, deposit)]).store.accounts "A").map Account.balance =
        some (.ofNat 60 (by decide)) := by decide +kernel
  have hbalance : ((Session.run Memory.stores ⟨m, memory⟩ [(stamp, deposit)]).perform Memory.stores
      stamp (.balance "A")).answer.map Reply.unstamped =
        .ok (.balance (.ofNat 60 (by decide))) := by decide +kernel
  exact ⟨_, _, rfl, rfl, hstore, hkept, hledger, hanswer.trans hbalance⟩

end CashMachine
