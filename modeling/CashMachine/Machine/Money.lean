/-
What customers do with money: withdrawals, deposits and transfers, and the
questions about accounts.

A withdrawal is paid out by a plan of the dispenser, which must sum to the
amount and use only notes that are held.  The account and the notes are changed only when
the plan is there, first the account, then the notes of one denomination after the other.

Main statement: `plan?_eq_some_iff` — the plans that are carried out.
-/
import CashMachine.Machine.Basic

namespace CashMachine.Machine

/-! ### Accounts -/

/-- Opens an account, unless there is one of its name in the ledger; whether it was
opened. -/
def openAccount (m : Machine) (a : Account) : Step Bool :=
  .of m do
    let (ledger, isNew) ← (← Work.current).machine.ledger.openAccount a
    Progress.change ({ · with ledger })
    if isNew then
      let opened ← (← Work.current).machine.ledger.get a.id
      Progress.emit (.write (.account opened))
    pure isNew

def balance (m : Machine) (reads : Reads) (id : AccountId) : Step Decimal :=
  .of m do
    let a ← Progress.account reads id
    pure a.balance

/-- The accounts of the ledger in the order of their names. -/
def accounts (m : Machine) : List Account :=
  m.ledger.records

/-! ### Moving money -/

/-- The dispenser's plan for an amount, if it sums to the amount and is held. -/
def plan? (m : Machine) (amount : Decimal) : Option Notes :=
  (m.dispenser amount m.reserve.notes).filter fun plan =>
    plan.total.equals amount && plan.within m.reserve.notes

theorem plan?_eq_some_iff {m : Machine} {amount : Decimal} {plan : Notes} :
    m.plan? amount = some plan ↔
      m.dispenser amount m.reserve.notes = some plan ∧ plan.total.equals amount = true ∧
        plan.within m.reserve.notes = true := by
  simp [plan?, Option.filter_eq_some_iff]

def putBalance (id : AccountId) (balance : Decimal) : Work Progress Unit :=
  Progress.change fun m => { m with ledger := m.ledger.setBalance id balance }

/-- Takes notes of one denomination out of the machine. -/
def takeOut (e : Denomination × Nat32) : Work Progress Unit := do
  let reserve ← (← Work.current).machine.reserve.remove e.1 e.2
  Progress.changeReserve fun _ => reserve

/-- Pays an amount out of an account in notes. -/
def withdraw (m : Machine) (reads : Reads) (stamp : Stamp) (id : AccountId) (amount : Decimal) :
    Step Transaction :=
  .of m do
    checkAmount amount
    let a ← Progress.account reads id
    let m := (← Work.current).machine
    Work.check (¬ a.balance < amount) .insufficientFunds
    Work.check (m.reserve.covers amount) (.unavailable .cash)
    let plan ← Work.require (m.plan? amount) (.unavailable .exactSplit)
    let a ← a.debit amount
    putBalance id a.balance
    plan.entries.forM takeOut
    Progress.emit (.write (.account a))
    Progress.saveReserve
    let t := Transaction.withdrawal stamp id amount
    Progress.emit (.write (.transaction t))
    pure t

/-- Puts notes into the machine and writes its reserve; nothing where there are no notes. -/
def takeIn (notes : Notes) : Work Progress Unit :=
  if notes.isEmpty then pure ()
  else do
    Progress.changeReserve (·.addAll notes)
    Progress.saveReserve

/-- Takes an amount in for an account: all of it goes to the balance, and as much of
it as notes can be made of to the reserve. -/
def deposit (m : Machine) (reads : Reads) (stamp : Stamp) (id : AccountId) (amount : Decimal) :
    Step Transaction :=
  .of m do
    checkAmount amount
    let a ← Progress.account reads id
    let a ← a.credit amount
    putBalance id a.balance
    Progress.emit (.write (.account a))
    takeIn (Dispenser.absorbed amount)
    let t := Transaction.deposit stamp id amount
    Progress.emit (.write (.transaction t))
    pure t

def transfer (m : Machine) (reads : Reads) (stamp : Stamp) (source destination : AccountId)
    (amount : Decimal) : Step Transaction :=
  .of m do
    checkAmount amount
    Work.check (source ≠ destination) .invalidAmount
    let _ ← Progress.account reads source
    let _ ← Progress.account reads destination
    let (a, b) ← Progress.onLedger (Ledger.move source destination amount)
    Progress.emit (.write (.account a))
    Progress.emit (.write (.account b))
    let t := Transaction.transfer stamp source destination amount
    Progress.emit (.write (.transaction t))
    pure t

/-! ### Questions about transactions -/

/-- The answer of a store as an answer of the machine. -/
def ofStore {α : Type} : Except StoreError α → Except Error α
  | .ok a => .ok a
  | .error e => .error (.storage e)

/-- The transactions that name an account, the oldest first. -/
def history (m : Machine) (reads : Reads) (id : AccountId) : Step (List Transaction) :=
  .of m do
    let _ ← Progress.account reads id
    ofStore (reads.history id)

def transaction (m : Machine) (reads : Reads) (id : TransactionId) : Step Transaction :=
  .of m do
    let found ← ofStore (reads.transaction id)
    Work.require found (.transactionNotFound id)

end CashMachine.Machine
