/-
Sessions: a machine together with its stores, one request after the other.

The writes of a step are made in order, and none of them can stop it: a write
that fails leaves the machine ahead of the store.

Main statements: `perform_of_no_effects` — a request without effects leaves the stores as they
are; `run_append` — a run of requests is the run of its parts.
-/
import CashMachine.Machine.Upkeep

namespace CashMachine

/-- What the machine can be asked to do. -/
inductive Request where
  | openAccount (a : Account)
  | withdraw (account : AccountId) (amount : Decimal)
  | deposit (account : AccountId) (amount : Decimal)
  | transfer (source destination : AccountId) (amount : Decimal)
  | balance (account : AccountId)
  | history (account : AccountId)
  | transaction (id : TransactionId)
  | printReceipt (t : Transaction)
  | printBalance (account : AccountId)
  | replenish (role : Role) (notes : Notes)
  | refillInk (role : Role)
  | restockPaper (role : Role) (sheets : Nat32)
  | updateSoftware (role : Role) (version : Version)
deriving DecidableEq, Repr

/-- What the machine answers. -/
inductive Reply where
  /-- Whether the account is a new one. -/
  | opened (isNew : Bool)
  | committed (t : Transaction)
  | balance (b : Decimal)
  | history (ts : List Transaction)
  | found (t : Transaction)
  | printed
  | reserve (r : Reserve)
  | ink (level : Nat)
  | paper (sheets : Nat32)
  | policy (p : Policy)
deriving DecidableEq, Repr

/-- The operation that a request asks for.  A transaction that it commits takes its
name and time from the stamp. -/
def Machine.perform (m : Machine) (reads : Reads) (stamp : Stamp) : Request → Step Reply
  | .openAccount a => (m.openAccount a).map .opened
  | .withdraw id amount => (m.withdraw reads stamp id amount).map .committed
  | .deposit id amount => (m.deposit reads stamp id amount).map .committed
  | .transfer source destination amount =>
    (m.transfer reads stamp source destination amount).map .committed
  | .balance id => (m.balance reads id).map .balance
  | .history id => (m.history reads id).map .history
  | .transaction id => (m.transaction reads id).map .found
  | .printReceipt t => (m.printReceipt t).map fun _ => .printed
  | .printBalance id => (m.printBalance reads id).map .balance
  | .replenish role notes => (m.replenish role notes).map .reserve
  | .refillInk role => (m.refillInk role).map .ink
  | .restockPaper role sheets => (m.restockPaper role sheets).map .paper
  | .updateSoftware role version => (m.updateSoftware role version).map .policy

def Effect.writes (effects : List Effect) : List Write :=
  effects.filterMap fun
    | .write w => some w
    | .print _ => none

def Effect.prints (effects : List Effect) : List Printed :=
  effects.filterMap fun
    | .write _ => none
    | .print p => some p

/-- A machine and the state of its stores. -/
structure Session (σ : Type) where
  machine : Machine
  store : σ

namespace Session

variable {σ : Type}

/-- What a request leads to. -/
structure Result (σ : Type) where
  answer : Except Error Reply
  printed : List Printed
  session : Session σ

def perform (stores : Stores σ) (s : Session σ) (stamp : Stamp) (r : Request) : Result σ :=
  let step := s.machine.perform (stores.reads s.store) stamp r
  ⟨step.answer, Effect.prints step.effects,
    ⟨step.machine, stores.writeAll (Effect.writes step.effects) s.store⟩⟩

/-- Makes requests one after the other; each comes with its stamp. -/
def run (stores : Stores σ) (s : Session σ) (rs : List (Stamp × Request)) : Session σ :=
  rs.foldl (fun s r => (s.perform stores r.1 r.2).session) s

theorem perform_of_no_effects (stores : Stores σ) {s : Session σ} {stamp : Stamp} {r : Request}
    (h : (s.machine.perform (stores.reads s.store) stamp r).effects = []) :
    (s.perform stores stamp r).session.store = s.store ∧
      (s.perform stores stamp r).printed = [] := by
  simp [perform, h, Effect.writes, Effect.prints, Stores.writeAll]

theorem run_append (stores : Stores σ) (s : Session σ) (rs qs : List (Stamp × Request)) :
    s.run stores (rs ++ qs) = (s.run stores rs).run stores qs := by
  simp [run]

/-- What every request keeps, a run keeps. -/
theorem run_keeps (stores : Stores σ) {P : Session σ → Prop}
    (hstep : ∀ s (r : Stamp × Request), P s → P (s.perform stores r.1 r.2).session)
    {s : Session σ} (h : P s) (rs : List (Stamp × Request)) : P (s.run stores rs) := by
  induction rs generalizing s with
  | nil => exact h
  | cons r rs ih => exact ih (hstep s r h)

end Session

end CashMachine
