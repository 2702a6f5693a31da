/-
Bad rows are as if absent.

A row of a table can be malformed, ask for nothing, or be rejected by the machine.  On a machine
that has been set up over empty stores none of this leaves a trace: there is no account that a
rejected request could have loaded.  So such rows can be deleted, any of them, and the other ones
are replayed as before; only the stamps that they are given may be other ones, and nothing but the
names and times of transactions depends on these.

* `verdict`, `verdicts_applyRow` — what is said about a row;
* `session_applyRow_of_bad`, `recordedRow_of_bad` — a bad row does nothing and commits nothing;
* `alike_applyRow` — a row with other stamps;
* `Thinned`, `alike_replay` — a table without some of its bad rows;
* `bad_rows_absent` — what is the same in the end.
-/
import CashMachine.Proofs.Independence
import CashMachine.Proofs.Replay
import CashMachine.Proofs.Settled
import CashMachine.Settings.Basic

namespace CashMachine

/-- A write leaves all accounts but its own as they are kept, so they are looked up as before. -/
theorem Stores.Shelved.apart {σ : Type} {stores : Stores σ} {kept : σ → AccountId → Option Account}
    (h : stores.Shelved kept) : stores.Apart := by
  intro w s id hw
  rw [h.account, h.account]
  by_cases hput : ∃ a, w = .account a
  · obtain ⟨a, rfl⟩ := hput
    rw [h.put, if_neg (hw a rfl)]
  · rw [h.other s w fun a ha => hput ⟨a, ha⟩]

theorem Settings.build_eq_ok {σ : Type} {stores : Stores σ} {settings : Settings} {m : Machine}
    {s₀ s₁ : σ} (h : settings.build stores s₀ = (.ok m, s₁)) :
    ∃ c, Machine.build stores c s₀ = (.ok m, s₁) := by
  rw [build] at h
  cases hc : settings.configuration with
  | error e =>
    rw [hc] at h
    cases h
  | ok c =>
    simp only [hc] at h
    refine ⟨c, ?_⟩
    rcases hb : Machine.build stores c s₀ with ⟨e | built, s⟩
    · rw [hb] at h
      cases h
    · rw [hb] at h
      cases h
      rfl

namespace Batch

variable {σ : Type} {stores : Stores σ} {kept : σ → AccountId → Option Account} {receipts : Bool}
  {s t : Session σ} {stamp stamp' : Stamp} {row : Option Row}

/-! ### Verdicts -/

/-- What is said about a row.  Whether a receipt could be printed does not count. -/
def verdict (stores : Stores σ) (receipts : Bool) (s : Session σ) (stamp : Stamp) :
    Option Row → Verdict
  | none => .malformed
  | some row =>
    match Operation.ofRow? row with
    | none => .noOperation
    | some op =>
      match (s.perform stores stamp (op.request receipts)).answer with
      | .error e => .rejected e
      | .ok _ => .accepted

theorem verdict_of_operation {op : Operation} (h : operation? row = some op) :
    verdict stores receipts s stamp row =
      match (s.perform stores stamp (op.request receipts)).answer with
      | .error e => .rejected e
      | .ok _ => .accepted := by
  cases row with
  | none => cases h
  | some row =>
    have h : Operation.ofRow? row = some op := h
    rw [verdict, h]

theorem verdicts_applyRow (stores : Stores σ) (receipts : Bool) (s : Session σ) (stamp : Stamp)
    (row : Option Row) :
    (applyRow stores receipts s stamp row).verdicts = [verdict stores receipts s stamp row] := by
  cases row with
  | none => rfl
  | some row =>
    rw [applyRow, verdict]
    cases Operation.ofRow? row with
    | none => rfl
    | some op =>
      simp only [apply]
      cases (s.perform stores stamp (op.request receipts)).answer with
      | error e => rfl
      | ok reply => cases receipts <;> rfl

theorem verdicts_replay_cons (stores : Stores σ) (receipts : Bool) (s : Session σ) (stamp : Stamp)
    (row : Option Row) (rows : List (Stamp × Option Row)) :
    (replay stores receipts s ((stamp, row) :: rows)).verdicts =
      verdict stores receipts s stamp row ::
        (replay stores receipts (applyRow stores receipts s stamp row).session rows).verdicts := by
  rw [replay_cons]
  simp only [verdicts_applyRow, List.singleton_append]

/-! ### Bad rows -/

/-- A row that is not accepted asks for nothing, or is answered with an error. -/
theorem exists_error_of_bad (h : verdict stores receipts s stamp row ≠ .accepted) {op : Operation}
    (hop : operation? row = some op) :
    ∃ e, (s.perform stores stamp (op.request receipts)).answer = .error e := by
  rw [verdict_of_operation hop] at h
  cases ha : (s.perform stores stamp (op.request receipts)).answer with
  | error e => exact ⟨e, rfl⟩
  | ok reply =>
    rw [ha] at h
    exact absurd rfl h

theorem recordedRow_of_bad (h : verdict stores receipts s stamp row ≠ .accepted) :
    recordedRow stores receipts s (stamp, row) = [] := by
  rw [recordedRow]
  cases hop : operation? row with
  | none => rfl
  | some op =>
    obtain ⟨e, he⟩ := exists_error_of_bad h hop
    show Request.committed _ _ _ = []
    rw [he]
    rfl

theorem session_applyRow_of_bad (hstores : stores.Shelved kept) (hs : s.Settled kept)
    (h : verdict stores receipts s stamp row ≠ .accepted) :
    (applyRow stores receipts s stamp row).session = s := by
  cases hop : operation? row with
  | none => exact session_applyRow_of_none hop
  | some op =>
    obtain ⟨e, he⟩ := exists_error_of_bad h hop
    rw [applyRow_of_operation hop, apply]
    simp only [he]
    exact hs.session_of_error hstores (op.request_ne_openAccount receipts) he

theorem settled_applyRow (hstores : stores.Shelved kept) (hs : s.Settled kept) (stamp : Stamp)
    (row : Option Row) : (applyRow stores receipts s stamp row).session.Settled kept := by
  cases hop : operation? row with
  | none =>
    rw [session_applyRow_of_none hop]
    exact hs
  | some op =>
    rw [applyRow_of_operation hop]
    have hfirst := Session.settled_perform hstores hs stamp (op.request_ne_openAccount receipts)
    obtain heq | ⟨u, _, heq⟩ := session_apply_cases stores receipts s stamp op rfl
    · exact heq ▸ hfirst
    · exact heq ▸ Session.settled_perform hstores hfirst stamp nofun

/-! ### Rows with other stamps -/

theorem alike_printReceipt (hstores : stores.Apart) (h : s.Alike stores stores t) {a b : Reply}
    (hab : b.unstamped = a.unstamped) :
    (printReceipt stores s stamp a).2.Alike stores stores (printReceipt stores t stamp' b).2 := by
  cases a with
  | committed u =>
    cases b with
    | committed v =>
      have huv : u.Restamped v := Reply.committed.inj hab
      exact Session.alike_perform hstores hstores h (.printReceipt huv) stamp stamp'
    | _ => cases hab
  | _ =>
    cases b with
    | committed v => cases hab
    | _ => exact h

theorem alike_apply (hstores : stores.Apart) (h : s.Alike stores stores t) (stamp stamp' : Stamp)
    (op : Operation) (receipts : Bool) :
    Agree (fun a b : Reply => b.unstamped = a.unstamped)
        (s.perform stores stamp (op.request receipts)).answer
        (t.perform stores stamp' (op.request receipts)).answer ∧
      (apply stores receipts s stamp op).session.Alike stores stores
        (apply stores receipts t stamp' op).session := by
  have hanswer : Agree (fun a b : Reply => b.unstamped = a.unstamped)
      (s.perform stores stamp (op.request receipts)).answer
      (t.perform stores stamp' (op.request receipts)).answer :=
    (Machine.alike_perform h.progress (.same _) (op.asksTransactions_request receipts)).answer
  have hfirst := Session.alike_perform hstores hstores h (.same (op.request receipts)) stamp stamp'
  refine ⟨hanswer, ?_⟩
  rw [apply, apply]
  generalize s.perform stores stamp (op.request receipts) = x at hanswer hfirst ⊢
  generalize t.perform stores stamp' (op.request receipts) = y at hanswer hfirst ⊢
  obtain ⟨a, _, s'⟩ := x
  obtain ⟨b, _, t'⟩ := y
  cases hanswer with
  | error e => exact hfirst
  | ok hab =>
    -- the same slip, up to stamps, is printed on both sides or on neither
    cases receipts with
    | false => exact hfirst
    | true => exact alike_printReceipt hstores hfirst hab

theorem alike_applyRow (hstores : stores.Apart) (h : s.Alike stores stores t)
    (stamp stamp' : Stamp) (row : Option Row) :
    (applyRow stores receipts s stamp row).session.Alike stores stores
        (applyRow stores receipts t stamp' row).session ∧
      verdict stores receipts t stamp' row = verdict stores receipts s stamp row ∧
      (recordedRow stores receipts t (stamp', row)).map Transaction.unstamped =
        (recordedRow stores receipts s (stamp, row)).map Transaction.unstamped := by
  rw [recordedRow, recordedRow]
  cases hop : operation? row with
  | none =>
    rw [session_applyRow_of_none hop, session_applyRow_of_none hop]
    refine ⟨h, ?_, rfl⟩
    cases row with
    | none => rfl
    | some row =>
      have hop : Operation.ofRow? row = none := hop
      rw [verdict, verdict, hop]
  | some op =>
    obtain ⟨hanswer, halike⟩ := alike_apply hstores h stamp stamp' op receipts
    rw [applyRow_of_operation hop, applyRow_of_operation hop, verdict_of_operation hop,
      verdict_of_operation hop]
    refine ⟨halike, ?_, committed_unstamped hanswer stamp stamp' op _ _⟩
    generalize (s.perform stores stamp (op.request receipts)).answer = x at hanswer ⊢
    generalize (t.perform stores stamp' (op.request receipts)).answer = y at hanswer ⊢
    cases hanswer <;> rfl

/-! ### Tables without bad rows -/

/-- Some rows are deleted, none of which was accepted.  The other ones stay, with their verdicts,
and may get other stamps. -/
inductive Thinned : List (Stamp × Option Row) → List Verdict →
    List (Stamp × Option Row) → List Verdict → Prop
  | nil : Thinned [] [] [] []
  | keep {rows qs : List (Stamp × Option Row)} {vs ws : List Verdict} (stamp stamp' : Stamp)
    (row : Option Row) (v : Verdict) (h : Thinned rows vs qs ws) :
    Thinned ((stamp, row) :: rows) (v :: vs) ((stamp', row) :: qs) (v :: ws)
  | delete {rows qs : List (Stamp × Option Row)} {vs ws : List Verdict} (stamp : Stamp)
    (row : Option Row) {v : Verdict} (hv : v ≠ .accepted) (h : Thinned rows vs qs ws) :
    Thinned ((stamp, row) :: rows) (v :: vs) qs ws

/-- A table and what is left of it, replayed side by side: a row that is deleted leaves the first
session as it was, and any other one is taken by both. -/
theorem alike_replay (hstores : stores.Shelved kept) (hs : s.Settled kept)
    (h : s.Alike stores stores t) {rows qs : List (Stamp × Option Row)} {vs ws : List Verdict}
    (hthinned : Thinned rows vs qs ws) (hvs : (replay stores receipts s rows).verdicts = vs) :
    (replay stores receipts s rows).session.Alike stores stores
        (replay stores receipts t qs).session ∧
      (replay stores receipts t qs).verdicts = ws ∧
      (recorded stores receipts t qs).map Transaction.unstamped =
        (recorded stores receipts s rows).map Transaction.unstamped := by
  induction hthinned generalizing s t with
  | nil => exact ⟨h, rfl, rfl⟩
  | keep stamp stamp' row v _ ih =>
    rw [verdicts_replay_cons, List.cons.injEq] at hvs
    obtain ⟨hv, hvs⟩ := hvs
    obtain ⟨hrow, hverdict, hfirst⟩ := alike_applyRow hstores.apart h stamp stamp' row
    obtain ⟨hsession, hws, hrest⟩ := ih (settled_applyRow hstores hs stamp row) hrow hvs
    rw [session_replay_cons, session_replay_cons, verdicts_replay_cons, hverdict, hv, hws,
      recorded, recorded, List.map_append, List.map_append, hfirst, hrest]
    exact ⟨hsession, rfl, rfl⟩
  | delete stamp row hv _ ih =>
    rw [verdicts_replay_cons, List.cons.injEq] at hvs
    obtain ⟨rfl, hvs⟩ := hvs
    -- the other session has not seen the row, and the first one is where it was
    have hsame := session_applyRow_of_bad hstores hs hv
    rw [hsame] at hvs
    rw [session_replay_cons, recorded, recordedRow_of_bad hv, List.nil_append, hsame]
    exact ih hs h hvs

end Batch

/-- On a machine that has been set up from settings over empty memory, a table is replayed, with
receipts or without, and then the same table without some of the rows that were not accepted, with
any stamps.  In the end the machines have the same ledger, reserve and version, and have committed
the same transactions, up to stamps; each row that has stayed has the same verdict; and where the
names of the stamps are distinct, the trails have the same transactions. -/
theorem bad_rows_absent {settings : Settings} {m : Machine} {memory : Memory}
    (hbuild : settings.build Memory.stores Memory.empty = (.ok m, memory)) (receipts : Bool)
    {rows qs : List (Stamp × Option Row)} {ws : List Verdict} {o p : Batch.Outcome Memory}
    (ho : Batch.replay Memory.stores receipts ⟨m, memory⟩ rows = o)
    (hp : Batch.replay Memory.stores receipts ⟨m, memory⟩ qs = p)
    (hthinned : Batch.Thinned rows o.verdicts qs ws) :
    p.session.machine.ledger = o.session.machine.ledger ∧
      p.session.machine.reserve = o.session.machine.reserve ∧
      p.session.machine.version = o.session.machine.version ∧ p.verdicts = ws ∧
      (Batch.recorded Memory.stores receipts ⟨m, memory⟩ qs).map Transaction.unstamped =
        (Batch.recorded Memory.stores receipts ⟨m, memory⟩ rows).map Transaction.unstamped ∧
      ((rows.map (·.1.id)).Nodup → (qs.map (·.1.id)).Nodup →
        p.session.store.trail.log.map Transaction.unstamped =
          o.session.store.trail.log.map Transaction.unstamped) := by
  subst ho hp
  obtain ⟨c, hc⟩ := Settings.build_eq_ok hbuild
  have hsettled : Session.Settled (fun s : Memory => Memory.find? s.accounts) ⟨m, memory⟩ :=
    Machine.settled_build Memory.shelved (fun _ => rfl) hc
  have halike : Session.Alike Memory.stores Memory.stores ⟨m, memory⟩ ⟨m, memory⟩ :=
    ⟨⟨rfl, rfl, rfl, rfl⟩, hsettled.named, fun _ _ => rfl⟩
  obtain ⟨h, hws, hrecorded⟩ := Batch.alike_replay Memory.shelved hsettled halike hthinned rfl
  refine ⟨h.machine.ledger, h.machine.reserve, h.machine.version, hws, hrecorded, ?_⟩
  -- nothing has been recorded while the machine was set up
  have haccount : ∀ (s : Memory) (a : Account),
      Memory.trail (Memory.stores.write (.account a) s).2 = Memory.trail s := fun _ _ => rfl
  have htrail : Memory.trail memory = AuditTrail.empty :=
    Machine.observe_build haccount (fun _ _ => rfl) hc
  have hempty : (Memory.trail memory).log = [] := congrArg AuditTrail.log htrail
  intro hnew hnew'
  have hlog := Batch.log_replay_of_empty Memory.audited (s := ⟨m, memory⟩) hempty receipts hnew
  have hlog' := Batch.log_replay_of_empty Memory.audited (s := ⟨m, memory⟩) hempty receipts hnew'
  exact (congrArg _ hlog').trans (hrecorded.trans (congrArg _ hlog).symm)

/-- A deposit and a withdrawal, with four bad rows between them: of these a withdrawal that is not
covered stays, and a row that is malformed, one that asks for nothing, and one that names no
account of the machine are deleted. -/
theorem bad_rows_absent_four :
    let stamp := Stamp.series 1 Instant.epoch
    let stamp' := Stamp.series 2 Instant.epoch
    let row (op account : String) (amount : Decimal) : Option Row :=
      some ⟨op, account, "", some amount, ""⟩
    let deposit := row "deposit" "A" (.ofNat 100 (by decide))
    let large := row "withdraw" "A" (.ofNat 9999 (by decide))
    let withdrawal := row "Withdrawal" "A" (.ofNat 120 (by decide))
    let rows := [(stamp 0, deposit), (stamp 1, none), (stamp 2, row "dance" "A" 0),
      (stamp 3, row "withdraw" "B" (.ofNat 10 (by decide))), (stamp 4, large),
      (stamp 5, withdrawal)]
    let qs := [(stamp' 0, deposit), (stamp' 1, large), (stamp' 2, withdrawal)]
    ∃ m memory o p,
      Settings.build Memory.stores
          { accounts := [⟨"A", "Ada", .checking, .ofNat 50 (by decide)⟩] } Memory.empty =
        (.ok m, memory) ∧
      Batch.replay Memory.stores true ⟨m, memory⟩ rows = o ∧
      Batch.replay Memory.stores true ⟨m, memory⟩ qs = p ∧
      o.verdicts = [.accepted, .malformed, .noOperation, .rejected (.accountNotFound "B"),
        .rejected .insufficientFunds, .accepted] ∧
      p.verdicts = [.accepted, .rejected .insufficientFunds, .accepted] ∧
      p.session.machine.ledger = o.session.machine.ledger ∧
      p.session.machine.reserve = o.session.machine.reserve ∧
      o.session.machine.reserve.ink = 3 ∧ o.session.store.trail.log.length = 2 ∧
      p.session.store.trail.log.map Transaction.unstamped =
        o.session.store.trail.log.map Transaction.unstamped := by
  intro stamp stamp' row deposit large withdrawal rows qs
  obtain ⟨m, memory, hbuild, hverdicts, hink, hlength⟩ : ∃ m memory,
      Settings.build Memory.stores
          { accounts := [⟨"A", "Ada", .checking, .ofNat 50 (by decide)⟩] } Memory.empty =
        (.ok m, memory) ∧
      (Batch.replay Memory.stores true ⟨m, memory⟩ rows).verdicts =
        [.accepted, .malformed, .noOperation, .rejected (.accountNotFound "B"),
          .rejected .insufficientFunds, .accepted] ∧
      (Batch.replay Memory.stores true ⟨m, memory⟩ rows).session.machine.reserve.ink = 3 ∧
      (Batch.replay Memory.stores true ⟨m, memory⟩ rows).session.store.trail.log.length = 2 :=
    ⟨_, _, rfl, by decide +kernel, by decide +kernel, by decide +kernel⟩
  have hthinned : Batch.Thinned rows (Batch.replay Memory.stores true ⟨m, memory⟩ rows).verdicts qs
      [.accepted, .rejected .insufficientFunds, .accepted] := by
    rw [hverdicts]
    refine .keep _ _ _ _ (.delete _ _ nofun (.delete _ _ nofun (.delete _ _ nofun ?_)))
    exact .keep _ _ _ _ (.keep _ _ _ _ .nil)
  obtain ⟨hledger, hreserve, _, hws, _, htrail⟩ := bad_rows_absent hbuild true rfl rfl hthinned
  have hlog := htrail (by decide +kernel) (by decide +kernel)
  exact ⟨m, memory, _, _, hbuild, rfl, rfl, hverdicts, hws, hledger, hreserve, hink, hlength, hlog⟩

end CashMachine
