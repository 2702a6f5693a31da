/-
Transactions: what has been committed, with its name and its time.

A withdrawal has a source, a deposit has a destination, a transfer has both.

Main statements: `involves_iff` — the accounts that a transaction names;
`involves_withdrawal`, `involves_deposit`, `involves_transfer` — those of each
kind that the machine commits.
-/
import CashMachine.Error
import CashMachine.Decimal.Text
import CashMachine.Document.Basic
import CashMachine.Instant.Text

namespace CashMachine

inductive TransactionKind where
  | withdrawal
  | deposit
  | transfer
  | balanceInquiry
deriving DecidableEq, Repr, Inhabited

namespace TransactionKind

def all : List TransactionKind := [withdrawal, deposit, transfer, balanceInquiry]

def text : TransactionKind → String
  | withdrawal => "WITHDRAWAL"
  | deposit => "DEPOSIT"
  | transfer => "TRANSFER"
  | balanceInquiry => "BALANCE_INQUIRY"

def ofText? (s : String) : Option TransactionKind :=
  all.find? fun k => k.text = s

theorem ofText?_text (k : TransactionKind) : ofText? k.text = some k := by
  cases k <;> decide

end TransactionKind

/-- The name and the time that a transaction is given when it is committed. -/
structure Stamp where
  id : TransactionId
  time : Instant
deriving DecidableEq, Repr, Inhabited

/-- A committed transaction. -/
structure Transaction where
  id : TransactionId
  kind : TransactionKind
  amount : Decimal
  source : Option AccountId
  destination : Option AccountId
  time : Instant
deriving DecidableEq, Repr, Inhabited

namespace Transaction

def withdrawal (stamp : Stamp) (account : AccountId) (amount : Decimal) : Transaction :=
  ⟨stamp.id, .withdrawal, amount, some account, none, stamp.time⟩

def deposit (stamp : Stamp) (account : AccountId) (amount : Decimal) : Transaction :=
  ⟨stamp.id, .deposit, amount, none, some account, stamp.time⟩

def transfer (stamp : Stamp) (source destination : AccountId) (amount : Decimal) : Transaction :=
  ⟨stamp.id, .transfer, amount, some source, some destination, stamp.time⟩

def involves (t : Transaction) (account : AccountId) : Bool :=
  decide (t.source = some account ∨ t.destination = some account)

theorem involves_iff {t : Transaction} {account : AccountId} :
    t.involves account = true ↔ t.source = some account ∨ t.destination = some account := by
  simp [involves]

@[simp] theorem involves_withdrawal (stamp : Stamp) (account other : AccountId)
    (amount : Decimal) :
    (withdrawal stamp account amount).involves other = decide (account = other) := by
  simp [involves, withdrawal]

@[simp] theorem involves_deposit (stamp : Stamp) (account other : AccountId)
    (amount : Decimal) :
    (deposit stamp account amount).involves other = decide (account = other) := by
  simp [involves, deposit]

@[simp] theorem involves_transfer (stamp : Stamp) (source destination other : AccountId)
    (amount : Decimal) :
    (transfer stamp source destination amount).involves other =
      (decide (source = other) || decide (destination = other)) := by
  simp [involves, transfer]

/-! ### Saved form -/

/-- The names of the saved fields, in their order. -/
def fieldNames : List String := ["id", "kind", "amount", "from", "to", "timestamp"]

/-- An account that may be missing, in saved form. -/
def savedAccount : Option AccountId → Document
  | some id => .text id
  | none => .null

def saved (t : Transaction) : Document :=
  .table [("id", .text t.id), ("kind", .text t.kind.text), ("amount", .text t.amount.text),
    ("from", savedAccount t.source), ("to", savedAccount t.destination),
    ("timestamp", .text t.time.text)]

/-- The account that a saved form stands for, which may be missing. -/
def savedAccount? : Document → Option (Option AccountId)
  | .null => some none
  | .text id => some (some id)
  | _ => none

/-- The fields of a saved transaction: a table, or a list of all six. -/
def savedFields? (saved : Document) : Option (List (String × Document)) :=
  match saved with
  | .list items => if items.length = fieldNames.length then saved.fields? fieldNames else none
  | _ => saved.fields? fieldNames

def ofSaved? (saved : Document) : Option Transaction := do
  let fields ← savedFields? saved
  let id ← (← fields.lookup "id").text?
  let kind ← TransactionKind.ofText? (← (← fields.lookup "kind").choice?)
  let amount ← Decimal.read? (← (← fields.lookup "amount").text?)
  let source ← (fields.lookup "from").elim (some none) savedAccount?
  let destination ← (fields.lookup "to").elim (some none) savedAccount?
  let time ← Instant.read? (← (← fields.lookup "timestamp").text?)
  some ⟨id, kind, amount, source, destination, time⟩

end Transaction

end CashMachine
