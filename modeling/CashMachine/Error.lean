/-
What can go wrong, as causes, and the words for it (`Error.message`).

Two causes look alike from outside and are kept apart here: a withdrawal that
the account cannot pay (`insufficientFunds`) and one that the machine cannot
(`unavailable`).  `overflow` is the result of a sum or difference beyond the
largest amount where the machine does not check for it.
-/
import CashMachine.Version

namespace CashMachine

abbrev AccountId := String

abbrev TransactionId := String

/-- What the machine is short of. -/
inductive Shortage where
  /-- The machine holds less than the amount. -/
  | cash
  /-- No plan for the notes held. -/
  | exactSplit
  | ink
  | paper
deriving DecidableEq, Repr

def Shortage.message : Shortage → String
  | cash => "machine out of cash"
  | exactSplit => "cannot dispense exact amount with available denominations"
  | ink => "out of ink"
  | paper => "out of paper"

/-- Why technician work is refused. -/
inductive Refusal where
  | notTechnician
  /-- The software only allows reports. -/
  | readOnly (running required : Version)
deriving DecidableEq, Repr

def Refusal.message : Refusal → String
  | notTechnician => "technician role required"
  | readOnly running required =>
    "maintenance is read-only on software version " ++ running.text ++ "; upgrade to " ++
      required.text ++ " for full maintenance"

/-- Why a store did not answer or did not accept. -/
inductive StoreError where
  | backend (reason : String)
  | duplicateTransaction (id : TransactionId)
deriving DecidableEq, Repr

def StoreError.message : StoreError → String
  | backend reason => "storage backend failure: " ++ reason
  | duplicateTransaction id => "duplicate transaction ID: " ++ id

/-- Why an operation of the machine failed. -/
inductive Error where
  | accountNotFound (id : AccountId)
  | transactionNotFound (id : TransactionId)
  | insufficientFunds
  | unavailable (what : Shortage)
  | invalidAmount
  | unauthorized (why : Refusal)
  | notNewer (requested running : Version)
  | storage (e : StoreError)
  | overflow
deriving DecidableEq, Repr

def Error.message : Error → String
  | accountNotFound id => "account not found: " ++ id
  | transactionNotFound id => "transaction not found: " ++ id
  | insufficientFunds => "insufficient funds"
  | unavailable what => "resource unavailable: " ++ what.message
  | invalidAmount => "invalid amount"
  | unauthorized why => "operation not permitted: " ++ why.message
  | notNewer requested running =>
    "software version " ++ requested.text ++ " is not newer than " ++ running.text
  | storage e => e.message
  | overflow => "amount out of range"

end CashMachine
