/-
The machine, and the form of its operations.

An operation is work on the machine and on what it has done outside so far
(`Progress`): it looks at the machine and at what the stores answer, changes the machine,
writes and prints, one thing after the other.  An operation that fails on the way leaves
what it has done by then.  What it comes to is its answer, the machine afterwards, and
what it wrote and printed (`Step`).

Accounts come into the ledger when they are first asked for (`Machine.load`).

Main statement: `load_of_find?` — an account of the ledger is not looked up.
-/
import CashMachine.Dispenser
import CashMachine.Ledger
import CashMachine.Policy
import CashMachine.Receipt
import CashMachine.Store.Basic

namespace CashMachine

structure Machine where
  id : String
  dispenser : Dispenser
  ledger : Ledger
  reserve : Reserve
  /-- The installed software. -/
  version : Version

inductive Printed where
  | transaction (t : Transaction)
  | balance (account : AccountId) (balance : Decimal)
deriving DecidableEq, Repr

def Printed.text : Printed → String
  | transaction t => Receipt.ofTransaction t
  | balance account b => Receipt.ofBalance account b

/-- What an operation does outside the machine. -/
inductive Effect where
  | write (w : Write)
  | print (p : Printed)
deriving DecidableEq, Repr

/-- A machine at work, and what it has done outside so far. -/
structure Progress where
  machine : Machine
  effects : List Effect

/-- What an operation comes to. -/
structure Step (α : Type) where
  answer : Except Error α
  machine : Machine
  effects : List Effect

namespace Step

variable {α β : Type}

/-- What the work of a machine comes to, from its start. -/
def of (m : Machine) (w : Work Progress α) : Step α :=
  let (answer, p) := w ⟨m, []⟩
  ⟨answer, p.machine, p.effects⟩

def map (f : α → β) (s : Step α) : Step β :=
  { s with answer := s.answer.map f }

@[simp] theorem machine_map (f : α → β) (s : Step α) : (s.map f).machine = s.machine := rfl

end Step

namespace Machine

/-- What the running software allows. -/
def policy (m : Machine) : Policy :=
  Policy.ofVersion m.version

/-- An amount that can be moved: positive, in whole cents. -/
def checkAmount (amount : Decimal) : Except Error Unit :=
  if amount.isPositive && (amount.round Account.places).equals amount then .ok ()
  else .error .invalidAmount

/-- Takes what a store answered to a look-up of `id` into the ledger. -/
def enroll (l : Ledger) (id : AccountId) :
    Except StoreError (Option Account) → Except Error Ledger
  | .error e => .error (.storage e)
  | .ok none => .error (.accountNotFound id)
  | .ok (some stored) => (l.openAccount stored).map Prod.fst

/-- The account under a name: that of the ledger, or else the stored one, which then
comes into the ledger. -/
def load (m : Machine) (reads : Reads) (id : AccountId) : Except Error Account × Machine :=
  match m.ledger.find? id with
  | some a => (.ok a, m)
  | none =>
    match enroll m.ledger id (reads.account id) with
    | .error e => (.error e, m)
    | .ok ledger => (ledger.get id, { m with ledger })

theorem load_of_find? {m : Machine} {id : AccountId} {a : Account}
    (h : m.ledger.find? id = some a) (reads : Reads) : m.load reads id = (.ok a, m) := by
  simp [load, h]

end Machine

namespace Progress

def change (f : Machine → Machine) : Work Progress Unit :=
  Work.change fun p => { p with machine := f p.machine }

/-- Writes or prints something. -/
def emit (e : Effect) : Work Progress Unit :=
  Work.change fun p => { p with effects := p.effects ++ [e] }

/-- The account under a name, which comes into the ledger if it is not there yet. -/
def account (reads : Reads) (id : AccountId) : Work Progress Account :=
  fun p => ((p.machine.load reads id).1, { p with machine := (p.machine.load reads id).2 })

/-- Work on the ledger of the machine. -/
def onLedger {α : Type} (w : Work Ledger α) : Work Progress α :=
  Work.focus (fun p => p.machine.ledger)
    (fun p ledger => { p with machine := { p.machine with ledger } }) w

def changeReserve (f : Reserve → Reserve) : Work Progress Unit :=
  change fun m => { m with reserve := f m.reserve }

/-- Writes the reserve as it is at that moment. -/
def saveReserve : Work Progress Unit := do
  emit (.write (.reserve (← Work.current).machine.reserve))

/-! ### Running it -/

@[simp] theorem run_change (f : Machine → Machine) (p : Progress) :
    change f p = (.ok (), { p with machine := f p.machine }) := rfl

@[simp] theorem run_emit (e : Effect) (p : Progress) :
    emit e p = (.ok (), { p with effects := p.effects ++ [e] }) := rfl

theorem run_account (reads : Reads) (id : AccountId) (p : Progress) :
    account reads id p =
      ((p.machine.load reads id).1, { p with machine := (p.machine.load reads id).2 }) := rfl

theorem run_onLedger {α : Type} (w : Work Ledger α) (p : Progress) :
    onLedger w p = ((w p.machine.ledger).1,
      { p with machine := { p.machine with ledger := (w p.machine.ledger).2 } }) := rfl

@[simp] theorem run_changeReserve (f : Reserve → Reserve) (p : Progress) :
    changeReserve f p =
      (.ok (), { p with machine := { p.machine with reserve := f p.machine.reserve } }) := rfl

@[simp] theorem run_saveReserve (p : Progress) :
    saveReserve p =
      (.ok (), { p with effects := p.effects ++ [.write (.reserve p.machine.reserve)] }) := rfl

end Progress

end CashMachine
