/-
The operations that rows of a table ask for.

A word in any case names the operation, and a withdrawal has two; each operation has
fields that it needs.  Maintenance is done by a technician.
-/
import CashMachine.Batch.Row
import CashMachine.Machine.Session
import CashMachine.Notes.Text
import CashMachine.Text.Lower

namespace CashMachine

inductive Operation where
  | withdraw (account : AccountId) (amount : Decimal)
  | deposit (account : AccountId) (amount : Decimal)
  | transfer (source destination : AccountId) (amount : Decimal)
  | balance (account : AccountId)
  | replenish (notes : Notes)
  | refillInk
  | restockPaper (sheets : Nat32)
  | updateSoftware (version : Version)
deriving DecidableEq, Repr

namespace Operation

/-- The name of an account, which is not empty. -/
def accountOf? (s : String) : Option AccountId :=
  if s.isEmpty then none else some s

/-- The words that rows start with. -/
inductive Word where
  | withdraw
  | deposit
  | transfer
  | balance
  | replenish
  | refillInk
  | restockPaper
  | updateSoftware
deriving DecidableEq, Repr

/-- The word that a text is, in any case. -/
def Word.ofText? (s : String) : Option Word :=
  [("withdraw", withdraw), ("withdrawal", withdraw), ("deposit", deposit),
    ("transfer", transfer), ("balance", balance), ("replenish", replenish),
    ("refill_ink", refillInk), ("restock_paper", restockPaper),
    ("update_software", updateSoftware)].lookup (Text.lower s)

/-- The operation that a row asks for with a word, if it has the fields for it. -/
def ofWord? (r : Row) : Word → Option Operation
  | .withdraw => do some (.withdraw (← accountOf? r.account) (← r.amount))
  | .deposit => do some (.deposit (← accountOf? r.account) (← r.amount))
  | .transfer => do
    some (.transfer (← accountOf? r.account) (← accountOf? r.destination) (← r.amount))
  | .balance => do some (.balance (← accountOf? r.account))
  | .replenish => do some (.replenish (← (Notes.ofText r.detail).toOption))
  | .refillInk => some .refillInk
  | .restockPaper => do some (.restockPaper (← (← r.amount).wholePart32?))
  | .updateSoftware => do some (.updateSoftware (← (Version.ofText r.detail).toOption))

/-- The operation that a row asks for. -/
def ofRow? (r : Row) : Option Operation :=
  Word.ofText? r.op >>= ofWord? r

/-- The request that an operation makes; the balance is asked for with a slip or
without. -/
def request (withSlip : Bool) : Operation → Request
  | .withdraw account amount => .withdraw account amount
  | .deposit account amount => .deposit account amount
  | .transfer source destination amount => .transfer source destination amount
  | .balance account => if withSlip then .printBalance account else .balance account
  | .replenish notes => .replenish .technician notes
  | .refillInk => .refillInk .technician
  | .restockPaper sheets => .restockPaper .technician sheets
  | .updateSoftware version => .updateSoftware .technician version

end Operation

end CashMachine
