/-
Replaying a table of operations.

Rows are taken one by one; one that is no row, asks for nothing, or is refused
does not stop the others.  With receipts on, a committed transaction is printed
if there is ink and paper for it, and stays committed if there is not.

Main statements: `replay_append` — a table is replayed part by part;
`exists_run_replay` — a replay is a run of requests.
-/
import CashMachine.Batch.Operation
import CashMachine.Stamp

namespace CashMachine

/-- What became of a row. -/
inductive Verdict where
  /-- The record is no row. -/
  | malformed
  /-- The row asks for nothing. -/
  | noOperation
  | rejected (e : Error)
  | accepted
deriving DecidableEq, Repr

namespace Batch

variable {σ : Type}

/-- What a row or a table led to. -/
structure Outcome (σ : Type) where
  session : Session σ
  printed : List Printed
  verdicts : List Verdict

/-- Prints the receipt of a reply that is a committed transaction. -/
def printReceipt (stores : Stores σ) (s : Session σ) (stamp : Stamp) :
    Reply → List Printed × Session σ
  | .committed t =>
    let r := s.perform stores stamp (.printReceipt t)
    (r.printed, r.session)
  | _ => ([], s)

def apply (stores : Stores σ) (receipts : Bool) (s : Session σ) (stamp : Stamp)
    (op : Operation) : Outcome σ :=
  let r := s.perform stores stamp (op.request receipts)
  match r.answer with
  | .error e => ⟨r.session, r.printed, [.rejected e]⟩
  | .ok reply =>
    if receipts then
      let (printed, session) := printReceipt stores r.session stamp reply
      ⟨session, r.printed ++ printed, [.accepted]⟩
    else ⟨r.session, r.printed, [.accepted]⟩

def applyRow (stores : Stores σ) (receipts : Bool) (s : Session σ) (stamp : Stamp) :
    Option Row → Outcome σ
  | none => ⟨s, [], [.malformed]⟩
  | some row =>
    match Operation.ofRow? row with
    | none => ⟨s, [], [.noOperation]⟩
    | some op => apply stores receipts s stamp op

/-- Takes one more row behind others. -/
def Outcome.next (stores : Stores σ) (receipts : Bool) (o : Outcome σ)
    (row : Stamp × Option Row) : Outcome σ :=
  let r := applyRow stores receipts o.session row.1 row.2
  ⟨r.session, o.printed ++ r.printed, o.verdicts ++ r.verdicts⟩

/-- Takes rows one after the other, each with its stamp. -/
def replay (stores : Stores σ) (receipts : Bool) (s : Session σ)
    (rows : List (Stamp × Option Row)) : Outcome σ :=
  rows.foldl (Outcome.next stores receipts) ⟨s, [], []⟩

theorem foldl_next (stores : Stores σ) (receipts : Bool) (o : Outcome σ)
    (rows : List (Stamp × Option Row)) :
    rows.foldl (Outcome.next stores receipts) o =
      let r := replay stores receipts o.session rows
      ⟨r.session, o.printed ++ r.printed, o.verdicts ++ r.verdicts⟩ := by
  induction rows generalizing o with
  | nil => simp [replay]
  | cons row rows ih =>
    rw [List.foldl_cons, ih]
    simp only [replay, List.foldl_cons]
    rw [ih (Outcome.next stores receipts ⟨o.session, [], []⟩ row)]
    simp [Outcome.next, replay, List.append_assoc]

theorem replay_append (stores : Stores σ) (receipts : Bool) (s : Session σ)
    (rows more : List (Stamp × Option Row)) :
    replay stores receipts s (rows ++ more) =
      let a := replay stores receipts s rows
      let b := replay stores receipts a.session more
      ⟨b.session, a.printed ++ b.printed, a.verdicts ++ b.verdicts⟩ := by
  rw [replay, List.foldl_append, foldl_next]
  rfl

theorem exists_run_printReceipt (stores : Stores σ) (s : Session σ) (stamp : Stamp)
    (reply : Reply) : ∃ rs, (printReceipt stores s stamp reply).2 = s.run stores rs := by
  cases reply with
  | committed t => exact ⟨[(stamp, .printReceipt t)], rfl⟩
  | _ => exact ⟨[], rfl⟩

theorem exists_run_apply (stores : Stores σ) (receipts : Bool) (s : Session σ) (stamp : Stamp)
    (op : Operation) : ∃ rs, (apply stores receipts s stamp op).session = s.run stores rs := by
  have hone : (s.perform stores stamp (op.request receipts)).session =
      s.run stores [(stamp, op.request receipts)] := rfl
  unfold apply
  generalize s.perform stores stamp (op.request receipts) = r at hone ⊢
  obtain ⟨answer, printed, session⟩ := r
  simp only at hone
  cases answer with
  | error e => exact ⟨_, hone⟩
  | ok reply =>
    cases receipts with
    | false => exact ⟨_, hone⟩
    | true =>
      -- the slip is one more request behind the operation
      obtain ⟨rs, hrs⟩ := exists_run_printReceipt stores session stamp reply
      refine ⟨[(stamp, op.request true)] ++ rs, ?_⟩
      rw [Session.run_append, ← hone]
      exact hrs

/-- A replay makes requests one after the other: it is a run. -/
theorem exists_run_replay (stores : Stores σ) (receipts : Bool) (s : Session σ)
    (rows : List (Stamp × Option Row)) :
    ∃ rs, (replay stores receipts s rows).session = s.run stores rs := by
  induction rows generalizing s with
  | nil => exact ⟨[], rfl⟩
  | cons row rows ih =>
    have hrow : ∃ rs, (applyRow stores receipts s row.1 row.2).session = s.run stores rs := by
      unfold applyRow
      split
      · exact ⟨[], rfl⟩
      · split
        · exact ⟨[], rfl⟩
        · exact exists_run_apply stores receipts s _ _
    obtain ⟨rs, hrs⟩ := hrow
    obtain ⟨qs, hqs⟩ := ih (applyRow stores receipts s row.1 row.2).session
    refine ⟨rs ++ qs, ?_⟩
    rw [replay, List.foldl_cons, foldl_next, Session.run_append, ← hrs, ← hqs]
    rfl

/-- The rows of a table with their stamps, which are numbered from `first`. -/
def stampedRows (stamps : Nat → Stamp) (first : Nat) (bytes : List UInt8) :
    List (Stamp × Option Row) :=
  (Row.ofTable bytes).mapIdx fun i row => (stamps (first + i), row)

/-- The fields of an account as it is written. -/
def accountFields (a : Account) : List String :=
  [a.id, a.owner, a.kind.text, a.savedBalance.text]

/-- The accounts as a table, with a header unless there are none. -/
def accountsTable (accounts : List Account) : String :=
  if accounts.isEmpty then ""
  else String.join ((Account.fieldNames :: accounts.map accountFields).map Table.line)

end Batch

end CashMachine
