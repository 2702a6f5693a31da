/-
Three stores that know nothing of each other.

Accounts, transactions and the state of the machine are kept in stores of their own.  Nothing is
assumed of any of the three but that it is asked, and given to keep, only what is its own.
-/
import CashMachine.Store.Basic
import CashMachine.AuditTrail

namespace CashMachine

/-- A store of accounts with states `α`. -/
structure AccountStore (α : Type) where
  find : α → AccountId → Except StoreError (Option Account)
  update : Account → α → Except StoreError Unit × α

/-- A store of transactions with states `τ`. -/
structure TransactionStore (τ : Type) where
  history : τ → AccountId → Except StoreError (List Transaction)
  find : τ → TransactionId → Except StoreError (Option Transaction)
  append : Transaction → τ → Except StoreError Unit × τ

/-- The audit trail as a store: it answers every question, and refuses a name that it has. -/
def TransactionStore.ofTrail : TransactionStore AuditTrail where
  history trail id := .ok (trail.forAccount id)
  find trail id := .ok (trail.get id)
  append t trail :=
    match trail.push t with
    | .ok trail => (.ok (), trail)
    | .error e => (.error e, trail)

/-- A store of the state of the machine, with states `μ`. -/
structure MachineStore (μ : Type) where
  reserve : μ → Except StoreError (Option Reserve)
  version : μ → Except StoreError (Option Version)
  saveReserve : Reserve → μ → Except StoreError Unit × μ
  saveVersion : Version → μ → Except StoreError Unit × μ

/-- The states of the three stores. -/
structure Separate (α τ μ : Type) where
  accounts : α
  transactions : τ
  machine : μ

namespace Separate

variable {α τ μ : Type}

def reads (accounts : AccountStore α) (transactions : TransactionStore τ)
    (machine : MachineStore μ) (s : Separate α τ μ) : Reads where
  account := accounts.find s.accounts
  history := transactions.history s.transactions
  transaction := transactions.find s.transactions
  reserve := machine.reserve s.machine
  version := machine.version s.machine

/-- Each write goes to the store that it is for. -/
def write (accounts : AccountStore α) (transactions : TransactionStore τ)
    (machine : MachineStore μ) (w : Write) (s : Separate α τ μ) :
    Except StoreError Unit × Separate α τ μ :=
  match w with
  | .account a =>
    let (answer, kept) := accounts.update a s.accounts
    (answer, { s with accounts := kept })
  | .reserve r =>
    let (answer, kept) := machine.saveReserve r s.machine
    (answer, { s with machine := kept })
  | .version v =>
    let (answer, kept) := machine.saveVersion v s.machine
    (answer, { s with machine := kept })
  | .transaction t =>
    let (answer, kept) := transactions.append t s.transactions
    (answer, { s with transactions := kept })

/-- The three as the stores of one machine. -/
def stores (accounts : AccountStore α) (transactions : TransactionStore τ)
    (machine : MachineStore μ) : Stores (Separate α τ μ) :=
  ⟨reads accounts transactions machine, write accounts transactions machine⟩

end Separate

end CashMachine
