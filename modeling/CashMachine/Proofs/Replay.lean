/-
What a replay records.

A row that asks for something makes one request, and with receipts on, one more behind it where a
transaction was committed.  So a row commits at most one transaction, which has the name of the
row's stamp; and where the names of the stamps are new and distinct, the audit trail has afterwards
what it had, and then the transactions of the rows, in order.

* `session_apply_cases` — the requests of one row;
* `replay_cons` — a replay, row by row;
* `recorded` — the transactions of the rows, `recordedRow_names` — their names, and
  `committed_unstamped` — what they depend on;
* `log_replay` — the trail after a replay.
-/
import CashMachine.Batch.Replay
import CashMachine.Proofs.Machine.Congruence
import CashMachine.Proofs.Reconciliation

namespace CashMachine

theorem Operation.request_ne_openAccount (op : Operation) (withSlip : Bool) (a : Account) :
    op.request withSlip ≠ .openAccount a := by
  cases op <;> cases withSlip <;> simp [request]

theorem Operation.asksTransactions_request (op : Operation) (withSlip : Bool) :
    (op.request withSlip).asksTransactions = false := by
  cases op <;> cases withSlip <;> rfl

namespace Batch

variable {σ : Type} {stores : Stores σ} {receipts : Bool} {s : Session σ}

/-! ### Rows -/

/-- The operation that a record asks for, if it is a row and asks for one. -/
def operation? (row : Option Row) : Option Operation :=
  row.bind Operation.ofRow?

theorem applyRow_of_operation {stamp : Stamp} {row : Option Row} {op : Operation}
    (h : operation? row = some op) :
    applyRow stores receipts s stamp row = apply stores receipts s stamp op := by
  cases row with
  | none => cases h
  | some row =>
    have h : Operation.ofRow? row = some op := h
    rw [applyRow, h]

theorem session_applyRow_of_none {stamp : Stamp} {row : Option Row} (h : operation? row = none) :
    (applyRow stores receipts s stamp row).session = s := by
  cases row with
  | none => rfl
  | some row =>
    have h : Operation.ofRow? row = none := h
    rw [applyRow, h]

/-- An operation is one request, or two where it is followed by a receipt. -/
theorem session_apply_cases (stores : Stores σ) (receipts : Bool) (s : Session σ) (stamp : Stamp)
    (op : Operation) {r : Session.Result σ}
    (hr : s.perform stores stamp (op.request receipts) = r) :
    (apply stores receipts s stamp op).session = r.session ∨
      ∃ t, receipts = true ∧ (apply stores receipts s stamp op).session =
        (r.session.perform stores stamp (.printReceipt t)).session := by
  rw [apply, hr]
  obtain ⟨_ | reply, printed, session⟩ := r
  · exact .inl rfl
  cases receipts with
  | false => exact .inl rfl
  | true =>
    cases reply with
    | committed t => exact .inr ⟨t, rfl, rfl⟩
    | _ => exact .inl rfl

theorem replay_cons (stores : Stores σ) (receipts : Bool) (s : Session σ)
    (row : Stamp × Option Row) (rows : List (Stamp × Option Row)) :
    replay stores receipts s (row :: rows) =
      let a := applyRow stores receipts s row.1 row.2
      let b := replay stores receipts a.session rows
      ⟨b.session, a.printed ++ b.printed, a.verdicts ++ b.verdicts⟩ := by
  rw [replay, List.foldl_cons, foldl_next]
  rfl

theorem session_replay_cons (stores : Stores σ) (receipts : Bool) (s : Session σ) (stamp : Stamp)
    (row : Option Row) (rows : List (Stamp × Option Row)) :
    (replay stores receipts s ((stamp, row) :: rows)).session =
      (replay stores receipts (applyRow stores receipts s stamp row).session rows).session := by
  rw [replay_cons]

/-! ### Transactions -/

/-- The transaction that a row commits. -/
def recordedRow (stores : Stores σ) (receipts : Bool) (s : Session σ)
    (row : Stamp × Option Row) : List Transaction :=
  match operation? row.2 with
  | none => []
  | some op => s.committed stores (row.1, op.request receipts)

/-- The transactions that a replay commits, in order. -/
def recorded (stores : Stores σ) (receipts : Bool) (s : Session σ) :
    List (Stamp × Option Row) → List Transaction
  | [] => []
  | row :: rows => recordedRow stores receipts s row ++
      recorded stores receipts (applyRow stores receipts s row.1 row.2).session rows

/-- What an operation commits depends on the answer only as far as there is one, and on the stamp
only in the name and the time. -/
theorem committed_unstamped {V : Reply → Reply → Prop} {x y : Except Error Reply} (h : Agree V x y)
    (stamp stamp' : Stamp) (op : Operation) (withSlip withSlip' : Bool) :
    ((op.request withSlip').committed stamp' y).map Transaction.unstamped =
      ((op.request withSlip).committed stamp x).map Transaction.unstamped := by
  cases h with
  | error e => rfl
  | ok h => cases op <;> cases withSlip <;> cases withSlip' <;> rfl

theorem committed_names (stores : Stores σ) (s : Session σ) (r : Stamp × Request) :
    ((s.committed stores r).map Transaction.id).Sublist [r.1.id] := by
  rw [Session.committed]
  cases (s.perform stores r.1 r.2).answer with
  | error e => exact List.nil_sublist _
  | ok reply =>
    obtain ⟨stamp, r⟩ := r
    cases r with
    | withdraw | deposit | transfer => exact List.Sublist.refl _
    | _ => exact List.nil_sublist _

/-- A transaction has the name of the stamp of its row. -/
theorem recordedRow_names (stores : Stores σ) (receipts : Bool) (s : Session σ)
    (row : Stamp × Option Row) :
    ((recordedRow stores receipts s row).map Transaction.id).Sublist [row.1.id] := by
  rw [recordedRow]
  split
  · exact List.nil_sublist _
  · exact committed_names stores s _

/-! ### The trail -/

variable {trail : σ → AuditTrail}

/-- A receipt is not recorded. -/
theorem log_applyRow (h : stores.Audited trail) (row : Stamp × Option Row)
    (hnew : (((trail s.store).log ++ recordedRow stores receipts s row).map
      Transaction.id).Nodup) :
    (trail (applyRow stores receipts s row.1 row.2).session.store).log =
      (trail s.store).log ++ recordedRow stores receipts s row := by
  rw [recordedRow] at hnew ⊢
  cases hop : operation? row.2 with
  | none => rw [session_applyRow_of_none hop, List.append_nil]
  | some op =>
    rw [hop] at hnew
    have hlog := Session.log_perform h (row.1, op.request receipts) hnew
    rw [applyRow_of_operation hop]
    obtain hs | ⟨t, _, hs⟩ := session_apply_cases stores receipts s row.1 op rfl
    · rw [hs, hlog]
    · -- the slip is paid for with ink and paper, and commits nothing
      have hslip : ∀ s : Session σ, s.committed stores (row.1, .printReceipt t) = [] := by
        intro s
        rw [Session.committed]
        cases (s.perform stores row.1 (.printReceipt t)).answer <;> rfl
      have hprinted := Session.log_perform h (s := (s.perform stores row.1
        (op.request receipts)).session) (row.1, .printReceipt t)
      rw [hslip, List.append_nil] at hprinted
      rw [hs, hprinted (AuditTrail.nodup _), hlog]

/-- With names that are new to the trail and distinct, the transactions of the rows are recorded at
its end, in order. -/
theorem log_replay (h : stores.Audited trail) {rows : List (Stamp × Option Row)}
    (hnew : ((trail s.store).log.map Transaction.id ++ rows.map (·.1.id)).Nodup) :
    (trail (replay stores receipts s rows).session.store).log =
      (trail s.store).log ++ recorded stores receipts s rows := by
  induction rows generalizing s with
  | nil => exact (List.append_nil _).symm
  | cons row rows ih =>
    have hnames := recordedRow_names stores receipts s row
    rw [List.map_cons, ← List.singleton_append] at hnew
    have hrow : (((trail s.store).log ++ recordedRow stores receipts s row).map
        Transaction.id ++ rows.map (·.1.id)).Nodup := by
      rw [List.map_append, List.append_assoc]
      exact hnew.sublist ((List.Sublist.refl _).append (hnames.append (List.Sublist.refl _)))
    have hlog := log_applyRow h row hrow.of_append_left
    rw [← hlog] at hrow
    rw [replay_cons, recorded, ← List.append_assoc, ← hlog]
    exact ih hrow

theorem log_replay_of_empty (h : stores.Audited trail) (hempty : (trail s.store).log = [])
    (receipts : Bool) {rows : List (Stamp × Option Row)} (hnew : (rows.map (·.1.id)).Nodup) :
    (trail (replay stores receipts s rows).session.store).log =
      recorded stores receipts s rows := by
  have hids : ((trail s.store).log.map Transaction.id ++ rows.map (·.1.id)).Nodup := by
    rw [hempty]
    exact hnew
  rw [log_replay h hids, hempty, List.nil_append]

end Batch

end CashMachine
