/-
Receipts never move money.

The same table is replayed twice from the same session, with receipts and without.  With receipts,
every committed transaction is followed by a slip, and a balance is asked for with one; a slip takes
ink and paper, and is not printed where there is none.  So the two machines come to have different
levels of ink and paper, and different rows are rejected; but nothing that has to do with money
depends on that, and the two keep the same accounts, notes, version and recorded transactions.  Of
the stores it is only asked that how they look up accounts does not depend on which reserves have
been saved, nor on stamps (`Stores.Steady`).

* `Likeness.levels` — the likeness that leaves ink and paper free, and names;
* `Session.Level` — two sessions that differ in no more than that, with stores that have been given
  the same from one state on, but for reserves and stamps;
* `level_perform` — requests that ask for no slip keep two sessions level;
* `Level.after_slip`, `Level.after_balance` — so do a slip on one side, and a balance with a slip on
  one side and without on the other;
* `level_request`, `level_applyRow`, `level_replay` — one operation, one row, and a table;
* `receipts_never_move_money` — what is the same in the end.
-/
import CashMachine.Proofs.Names
import CashMachine.Proofs.Replay
import CashMachine.Proofs.Steady

namespace CashMachine

/-- Ink and paper may be at any levels, transactions may have any names, and nothing else may
differ. -/
def Likeness.levels : Likeness :=
  { restamped with
    reserve := fun r s => s.notes = r.notes
    notes_eq := fun h => h
    withNotes := fun _ _ => rfl
    consume := fun {r s} h => by rw [Reserve.notes_consume, Reserve.notes_consume, h]
    refillInk := fun h => h
    restockPaper := fun h _ => h }

theorem Likeness.sameAmounts_levels : levels.SameAmounts :=
  Iff.rfl

/-- Writes that are alike up to levels differ in reserves and stamps only. -/
theorem Write.lasting_eq_of_like {w v : Write} (h : w.Like .levels v) : v.lasting = w.lasting := by
  cases h with
  | account h => rw [(Account.like_iff Likeness.sameAmounts_levels).mp h]
  | reserve => rfl
  | version => rfl
  | @transaction t u h =>
    have hlike : t.Like .restamped u := ⟨h.name, h.kind, h.amount, h.source, h.destination⟩
    have hstamps : u.unstamped = t.unstamped := Transaction.like_restamped_iff.mp hlike
    exact congrArg (fun t => some (Write.transaction t)) hstamps

theorem Write.filterMap_lasting_eq {ws vs : List Write} (h : List.Forall₂ (Like .levels) ws vs) :
    vs.filterMap lasting = ws.filterMap lasting := by
  induction h with
  | nil => rfl
  | cons h _ ih => rw [List.filterMap_cons, List.filterMap_cons, lasting_eq_of_like h, ih]

namespace Machine

variable {reads : Reads} {stamp : Stamp} {m : Machine} {r : Request} {s : Step Reply}

/-- A request for a slip changes and writes nothing but ink and paper. -/
theorem Outcome.of_asksForSlip (h : Outcome reads stamp m r s) (hr : r.asksForSlip = true) :
    s.machine = { m with reserve := s.machine.reserve } ∧
      s.machine.reserve.notes = m.reserve.notes ∧
      (Effect.writes s.effects).filterMap Write.lasting = [] := by
  cases h with
  | refused => exact ⟨rfl, rfl, rfl⟩
  | printed | printedBalance => exact ⟨rfl, m.reserve.notes_consume, rfl⟩
  | _ => cases hr

/-- A question about a balance changes nothing once the account has come in. -/
theorem Outcome.of_balance {id : AccountId} (h : Outcome reads stamp m (.balance id) s) :
    s.machine = m ∧ s.effects = [] := by
  cases h with
  | refused | balance => exact ⟨rfl, rfl⟩

/-- An account that the ledger has stays in it. -/
theorem find?_perform_ne_none {id : AccountId} (h : m.ledger.find? id ≠ none) :
    (m.perform reads stamp r).machine.ledger.find? id ≠ none := by
  obtain ⟨a, ha⟩ := Option.ne_none_iff_exists'.mp h
  have hadmitted := find?_admitted ha reads r
  obtain ⟨b, hb, _⟩ := (outcome_perform m reads stamp r).find? hadmitted
  rw [hb]
  exact Option.some_ne_none _

end Machine

namespace Session

variable {σ : Type} {stores : Stores σ} {s₀ : σ} {s s' t : Session σ} {stamp stamp' : Stamp}

/-- The machine has the account. -/
def Knows (s : Session σ) (id : AccountId) : Prop :=
  s.machine.ledger.find? id ≠ none

/-- The machines differ in no more than ink and paper, with their accounts under their own names,
and the stores have been given the same from `s₀` on, but for reserves and stamps. -/
structure Level (stores : Stores σ) (s₀ : σ) (s t : Session σ) : Prop where
  machine : s.machine.Like .levels (fun l k => k = l) t.machine
  named : s.machine.ledger.Named
  parted : stores.Parted s₀ s.Knows s.store t.store

theorem Level.refl (stores : Stores σ) (hs : s.machine.ledger.Named) :
    Level stores s.store s s :=
  ⟨⟨rfl, rfl, rfl, rfl⟩, hs, .refl stores s.store s.Knows⟩

/-- Over steady stores, accounts that the machines do not have are looked up alike. -/
theorem Level.along (h : Level stores s₀ s t) (hstores : stores.Steady s₀) :
    Progress.Like .levels (Ledger.Alike (stores.reads s.store) (stores.reads t.store))
      ⟨s.machine, []⟩ ⟨t.machine, []⟩ := by
  refine ⟨{ h.machine with ledger := ⟨h.machine.ledger, fun id hid => ?_⟩ }, .nil⟩
  exact h.parted.account_eq hstores fun hknown => hknown hid

/-- Requests that ask for no slip are answered alike, and keep the sessions level. -/
theorem level_perform (hstores : stores.Steady s₀) (h : Level stores s₀ s t) {r q : Request}
    (hrq : r.Like .levels q) (hopen : ∀ a, r ≠ .openAccount a)
    (hasks : r.asksTransactions = false) (hslip : r.asksForSlip = false) :
    Agree (Reply.Like .levels) (s.perform stores stamp r).answer
        (t.perform stores stamp' q).answer ∧
      Level stores s₀ (s.perform stores stamp r).session (t.perform stores stamp' q).session := by
  have hsimulation := (Ledger.congruence_alike (stores.reads s.store)
    (stores.reads t.store)).simulation Likeness.sameAmounts_levels
  have hstep : Step.InStep _ _ (s.machine.perform (stores.reads s.store) stamp r)
      (t.machine.perform (stores.reads t.store) stamp' q) :=
    hsimulation.inStep_perform (h.along hstores) trivial hrq hopen hasks fun hr => by
      rw [hslip] at hr
      cases hr
  have hmachine := hstep.progress.machine
  refine ⟨hstep.answer, { hmachine with ledger := hmachine.ledger.eq },
    Machine.named_perform h.named _ stamp r, ?_⟩
  refine h.parted.writeAll (fun _ hid => Machine.find?_perform_ne_none hid)
    (Write.filterMap_lasting_eq (Effect.forall₂_writes hstep.progress.effects)) ?_
  intro a ha hunknown
  exact Option.some_ne_none a ((find?_of_written h.named stamp r ha).symm.trans hunknown)

/-- Other ink and paper on one side, and nothing but reserves written there. -/
theorem Level.left (h : Level stores s₀ s t)
    (hmachine : s'.machine = { s.machine with reserve := s'.machine.reserve })
    (hnotes : s'.machine.reserve.notes = s.machine.reserve.notes) {ws : List Write}
    (hstore : s'.store = stores.writeAll ws s.store) (hws : ws.filterMap Write.lasting = []) :
    Level stores s₀ s' t := by
  have hledger : s'.machine.ledger = s.machine.ledger := by rw [hmachine]
  refine ⟨⟨?_, ?_, ?_, ?_⟩, hledger ▸ h.named, ?_⟩
  · exact h.machine.ledger.trans hledger.symm
  · exact h.machine.reserve.trans hnotes.symm
  · rw [hmachine]
    exact h.machine.version
  · rw [hmachine]
    exact h.machine.dispenser
  · have hknows : s'.Knows = s.Knows := by
      funext id
      rw [Knows, Knows, hledger]
    rw [hstore, hknows]
    exact h.parted.left hws

/-- A slip on one side. -/
theorem Level.after_slip (h : Level stores s₀ s t) (stamp : Stamp) (u : Transaction) :
    Level stores s₀ (s.perform stores stamp (.printReceipt u)).session t := by
  have houtcome : Machine.Outcome (stores.reads s.store) stamp s.machine (.printReceipt u)
      (s.machine.perform (stores.reads s.store) stamp (.printReceipt u)) :=
    Machine.outcome_perform s.machine (stores.reads s.store) stamp (.printReceipt u)
  obtain ⟨hmachine, hnotes, hwrites⟩ := houtcome.of_asksForSlip rfl
  exact h.left hmachine hnotes rfl hwrites

/-- A balance that is asked for with a slip on one side, and without on the other. -/
theorem Level.after_balance (hstores : stores.Steady s₀) (h : Level stores s₀ s t)
    (stamp stamp' : Stamp) (id : AccountId) :
    Level stores s₀ (s.perform stores stamp (.printBalance id)).session
      (t.perform stores stamp' (.balance id)).session := by
  have hasked : Level stores s₀ (s.perform stores stamp (.balance id)).session
      (t.perform stores stamp' (.balance id)).session :=
    (level_perform hstores h (.balance id) nofun rfl rfl).2
  -- the slip is paid for behind the same look-up, so its machine is that of the plain question
  obtain ⟨hbalance, heffects⟩ := (Machine.outcome_perform s.machine (stores.reads s.store) stamp
    (.balance id)).of_balance
  obtain ⟨hslip, hnotes, hwrites⟩ := (Machine.outcome_perform s.machine (stores.reads s.store)
    stamp (.printBalance id)).of_asksForSlip rfl
  have hmachine : (s.perform stores stamp (.balance id)).session.machine =
      s.machine.admitted (stores.reads s.store) (.printBalance id) := hbalance
  have hstore : (s.perform stores stamp (.printBalance id)).session.store =
      stores.writeAll (Effect.writes (s.machine.perform (stores.reads s.store) stamp
        (.printBalance id)).effects) (s.perform stores stamp (.balance id)).session.store := by
    rw [(perform_of_no_effects stores heffects).1]
    rfl
  exact hasked.left (hmachine ▸ hslip) (hmachine ▸ hnotes) hstore hwrites

end Session

/-! ### Replays -/

namespace Batch

variable {σ : Type} {stores : Stores σ} {s₀ : σ} {s t : Session σ}

/-- An operation that asks for no slip makes the same request on both sides: it leaves the sessions
level and commits the same up to stamps. -/
theorem level_request_of_like (hstores : stores.Steady s₀) (h : s.Level stores s₀ t)
    (stamp stamp' : Stamp) {op : Operation}
    (hlike : (op.request true).Like .levels (op.request false))
    (hslip : (op.request true).asksForSlip = false) :
    (s.perform stores stamp (op.request true)).session.Level stores s₀
        (t.perform stores stamp' (op.request false)).session ∧
      (t.committed stores (stamp', op.request false)).map Transaction.unstamped =
        (s.committed stores (stamp, op.request true)).map Transaction.unstamped := by
  obtain ⟨hanswer, hlevel⟩ := Session.level_perform hstores h hlike
    (op.request_ne_openAccount true) (op.asksTransactions_request true) hslip
  exact ⟨hlevel, committed_unstamped hanswer stamp stamp' op true false⟩

theorem committed_balance (stores : Stores σ) (s : Session σ) (stamp : Stamp) (id : AccountId)
    (withSlip : Bool) :
    s.committed stores (stamp, (Operation.balance id).request withSlip) = [] := by
  rw [Session.committed]
  generalize Session.Result.answer _ = x
  cases withSlip <;> cases x <;> rfl

/-- So does a balance, though it is asked for with a slip on one side and without on the other. -/
theorem level_request (hstores : stores.Steady s₀) (h : s.Level stores s₀ t)
    (stamp stamp' : Stamp) (op : Operation) :
    (s.perform stores stamp (op.request true)).session.Level stores s₀
        (t.perform stores stamp' (op.request false)).session ∧
      (t.committed stores (stamp', op.request false)).map Transaction.unstamped =
        (s.committed stores (stamp, op.request true)).map Transaction.unstamped := by
  have hsame : (op.request true).Like .levels (op.request false) → _ → _ :=
    level_request_of_like hstores h stamp stamp'
  cases op with
  | balance id =>
    refine ⟨h.after_balance hstores stamp stamp' id, ?_⟩
    rw [committed_balance, committed_balance]
  | withdraw id amount => exact hsame (.withdraw id rfl) rfl
  | deposit id amount => exact hsame (.deposit id rfl) rfl
  | transfer source destination amount => exact hsame (.transfer source destination rfl) rfl
  | replenish notes => exact hsame (.replenish .technician notes) rfl
  | refillInk => exact hsame (.refillInk .technician) rfl
  | restockPaper sheets => exact hsame (.restockPaper .technician sheets) rfl
  | updateSoftware version => exact hsame (.updateSoftware .technician version) rfl

/-- So does a row, though what is committed is followed by a slip on the one side. -/
theorem level_applyRow (hstores : stores.Steady s₀) (h : s.Level stores s₀ t)
    (stamp stamp' : Stamp) (row : Option Row) :
    (applyRow stores true s stamp row).session.Level stores s₀
        (applyRow stores false t stamp' row).session ∧
      (recordedRow stores false t (stamp', row)).map Transaction.unstamped =
        (recordedRow stores true s (stamp, row)).map Transaction.unstamped := by
  rw [recordedRow, recordedRow]
  cases hop : operation? row with
  | none =>
    rw [session_applyRow_of_none hop, session_applyRow_of_none hop]
    exact ⟨h, rfl⟩
  | some op =>
    obtain ⟨hasked, hcommitted⟩ := level_request hstores h stamp stamp' op
    refine ⟨?_, hcommitted⟩
    rw [applyRow_of_operation hop, applyRow_of_operation hop]
    obtain ht | ⟨_, hfalse, _⟩ := session_apply_cases stores false t stamp' op rfl
    · rw [ht]
      obtain hs | ⟨u, _, hs⟩ := session_apply_cases stores true s stamp op rfl
      · rw [hs]
        exact hasked
      · rw [hs]
        exact hasked.after_slip stamp u
    · cases hfalse

/-- Two replays of the same rows, up to stamps. -/
theorem level_replay (hstores : stores.Steady s₀) (h : s.Level stores s₀ t)
    {rows qs : List (Stamp × Option Row)} (hrows : List.Forall₂ (fun r q => q.2 = r.2) rows qs) :
    (replay stores true s rows).session.Level stores s₀ (replay stores false t qs).session ∧
      (recorded stores false t qs).map Transaction.unstamped =
        (recorded stores true s rows).map Transaction.unstamped := by
  induction hrows generalizing s t with
  | nil => exact ⟨h, rfl⟩
  | @cons r q rows qs hrq _ ih =>
    obtain ⟨stamp, row⟩ := r
    obtain ⟨stamp', _⟩ := q
    cases hrq
    obtain ⟨hrow, hfirst⟩ := level_applyRow hstores h stamp stamp' row
    obtain ⟨hlast, hrest⟩ := ih hrow
    rw [session_replay_cons, session_replay_cons, recorded, recorded, List.map_append,
      List.map_append, hfirst, hrest]
    exact ⟨hlast, rfl⟩

theorem forall₂_stampedRows (stamps stamps' : Nat → Stamp) (first first' : Nat)
    (bytes : List UInt8) :
    List.Forall₂ (fun r q => q.2 = r.2) (stampedRows stamps first bytes)
      (stampedRows stamps' first' bytes) := by
  rw [stampedRows, stampedRows, List.forall₂_iff_get]
  simp

end Batch

/-- A table is replayed from the same session with receipts and without, with any stamps.  In the
end both machines have the same ledger, of which the same table is made, the same notes and the
same version, and they have committed the same transactions, up to stamps; and where the stores
keep a trail and the names of the stamps are new, the trails have the same transactions.

The two replays save other reserves, and transactions with other stamps.  The stores may do anything
with these but answer look-ups of accounts by them, and no store of accounts does that is separate
from the others (`Separate.filed`, `Stores.Filed.steady`).  That accounts are under their own names
holds of every machine that has been set up. -/
theorem receipts_never_move_money {σ : Type} {stores : Stores σ} {s : Session σ}
    (hstores : stores.Steady s.store) (hnamed : s.machine.ledger.Named)
    (stamps stamps' : Nat → Stamp) (first first' : Nat) (bytes : List UInt8)
    {rows qs : List (Stamp × Option Row)} (hrows : Batch.stampedRows stamps first bytes = rows)
    (hqs : Batch.stampedRows stamps' first' bytes = qs) {o p : Batch.Outcome σ}
    (ho : Batch.replay stores true s rows = o) (hp : Batch.replay stores false s qs = p) :
    p.session.machine.ledger = o.session.machine.ledger ∧
      Batch.accountsTable p.session.machine.accounts =
        Batch.accountsTable o.session.machine.accounts ∧
      p.session.machine.reserve.notes = o.session.machine.reserve.notes ∧
      p.session.machine.version = o.session.machine.version ∧
      (Batch.recorded stores false s qs).map Transaction.unstamped =
        (Batch.recorded stores true s rows).map Transaction.unstamped ∧
      ∀ trail : σ → AuditTrail, stores.Audited trail →
        ((trail s.store).log.map Transaction.id ++ rows.map (·.1.id)).Nodup →
        ((trail s.store).log.map Transaction.id ++ qs.map (·.1.id)).Nodup →
        (trail p.session.store).log.map Transaction.unstamped =
          (trail o.session.store).log.map Transaction.unstamped := by
  subst hrows hqs ho hp
  obtain ⟨hlevel, hrecorded⟩ := Batch.level_replay hstores (.refl stores hnamed)
    (Batch.forall₂_stampedRows stamps stamps' first first' bytes)
  have hledger := hlevel.machine.ledger
  refine ⟨hledger, ?_, hlevel.machine.reserve, hlevel.machine.version, hrecorded, ?_⟩
  · rw [Machine.accounts, Machine.accounts, hledger]
  · intro trail haudited hnew hnew'
    rw [Batch.log_replay haudited hnew, Batch.log_replay haudited hnew', List.map_append,
      List.map_append, hrecorded]

/-- Ink for one receipt only, and an account store that is offline after two updates: the second row
is rejected with receipts and accepted without, the withdrawal behind it is committed on both sides,
and the last row finds the store offline on both. -/
theorem receipts_never_move_money_without_ink :
    let a : Account := ⟨"A", "Ada", .checking, .ofNat 50 (by decide)⟩
    let b : Account := ⟨"B", "Bo", .checking, .ofNat 70 (by decide)⟩
    let accounts : AccountStore (List Account × Nat) :=
      ⟨fun kept id =>
        if kept.2 < 2 then .ok (Memory.find? kept.1 id) else .error (.backend "offline"),
        fun a kept => (.ok (), Memory.put kept.1 a, kept.2 + 1)⟩
    let machine : MachineStore Unit :=
      ⟨fun _ => .ok none, fun _ => .ok none, fun _ _ => (.ok (), ()), fun _ _ => (.ok (), ())⟩
    let stores := Separate.stores accounts .ofTrail machine
    let reserve := Reserve.ofLevels (Notes.empty.set .twenty ⟨3, by decide⟩) 1 9
    let m : Machine := ⟨"M", Dispenser.greedy, Ledger.empty, reserve, ⟨2, 0⟩⟩
    let s : Session (Separate (List Account × Nat) AuditTrail Unit) :=
      ⟨m, ⟨([a, b], 0), AuditTrail.empty, ()⟩⟩
    let table := "op,account,to,amount,detail\ndeposit,A,,100,\nbalance,A,,,\n" ++
      "withdraw,A,,60,\ndeposit,B,,10,\n"
    let rows := Batch.stampedRows (Stamp.series 1 Instant.epoch) 0 table.toUTF8.toList
    let qs := Batch.stampedRows (Stamp.series 2 Instant.epoch) 0 table.toUTF8.toList
    let offline : Error := .storage (.backend "offline")
    ∃ o p, Batch.replay stores true s rows = o ∧ Batch.replay stores false s qs = p ∧
      o.verdicts = [.accepted, .rejected (.unavailable .ink), .accepted, .rejected offline] ∧
      p.verdicts = [.accepted, .accepted, .accepted, .rejected offline] ∧
      o.session.machine.reserve.ink = 0 ∧ p.session.machine.reserve.ink = 1 ∧
      p.session.machine.ledger = o.session.machine.ledger ∧
      p.session.machine.reserve.notes = o.session.machine.reserve.notes ∧
      o.session.store.transactions.log.length = 2 ∧
      p.session.store.transactions.log.map Transaction.unstamped =
        o.session.store.transactions.log.map Transaction.unstamped := by
  intro a b accounts machine stores reserve m s table rows qs offline
  have hnamed : s.machine.ledger.Named := by
    intro id b hb
    cases hb
  have hsteady : stores.Steady s.store := (Separate.filed accounts .ofTrail machine).steady s.store
  obtain ⟨hledger, _, hnotes, _, _, htrail⟩ := receipts_never_move_money hsteady hnamed
    (Stamp.series 1 Instant.epoch) (Stamp.series 2 Instant.epoch) 0 0 table.toUTF8.toList rfl rfl
    rfl rfl
  have hfew : 0 + (Row.ofTable table.toUTF8.toList).length ≤ TransactionId.count := by
    decide +kernel
  have hlog := htrail Separate.transactions (Separate.audited accounts machine)
    (Batch.nodup_stampedRows 1 Instant.epoch hfew) (Batch.nodup_stampedRows 2 Instant.epoch hfew)
  refine ⟨_, _, rfl, rfl, ?_, ?_, ?_, ?_, hledger, hnotes, ?_, hlog⟩
  all_goals decide +kernel

end CashMachine
