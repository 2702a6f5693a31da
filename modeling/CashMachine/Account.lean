/-
Accounts: a name, an owner, a kind and a balance.

`debited` and `credited` are the balances after a debit and a credit, with the
conditions under which there is one.

Main statements: `debited_eq_ok_iff`, `credited_eq_ok_iff` — exactly when a
debit or a credit is possible, and the balance it leaves.
-/
import CashMachine.Error
import CashMachine.Decimal.Sum
import CashMachine.Decimal.Text
import CashMachine.Document.Basic

namespace CashMachine

inductive AccountKind where
  | checking
  | savings
deriving DecidableEq, Repr, Inhabited

namespace AccountKind

def text : AccountKind → String
  | checking => "checking"
  | savings => "savings"

def ofText? (s : String) : Option AccountKind :=
  if s = "checking" then some checking
  else if s = "savings" then some savings
  else none

theorem ofText?_text (k : AccountKind) : ofText? k.text = some k := by
  cases k <;> decide

end AccountKind

structure Account where
  id : AccountId
  owner : String
  kind : AccountKind
  balance : Decimal
deriving DecidableEq, Repr, Inhabited

namespace Account

/-- Balances are kept in cents: two fraction digits. -/
def places : Nat := 2

/-- The account as it is opened: a negative balance starts at zero. -/
def opened (a : Account) : Account :=
  { a with balance := if a.balance.isNegative then 0 else a.balance }

/-- The balance after a debit: a positive amount that the balance covers. -/
def debited (a : Account) (amount : Decimal) : Except Error Decimal :=
  if !amount.isPositive || a.balance < amount then .error .insufficientFunds
  else
    match a.balance.sub? amount with
    | some b => .ok b
    | none => .error .overflow

/-- The balance after a credit: a positive amount, and a sum in range. -/
def credited (a : Account) (amount : Decimal) : Except Error Decimal :=
  if !amount.isPositive then .error .invalidAmount
  else
    match a.balance.add? amount with
    | some b => .ok b
    | none => .error .invalidAmount

def debit (a : Account) (amount : Decimal) : Except Error Account := do
  let b ← a.debited amount
  pure { a with balance := b }

def credit (a : Account) (amount : Decimal) : Except Error Account := do
  let b ← a.credited amount
  pure { a with balance := b }

theorem debited_eq_ok_iff {a : Account} {amount b : Decimal} :
    a.debited amount = .ok b ↔
      amount.isPositive = true ∧ ¬ a.balance < amount ∧ a.balance.sub? amount = some b := by
  unfold debited
  by_cases h : (!amount.isPositive || decide (a.balance < amount)) = true
  · rw [if_pos h]
    simp only [Bool.or_eq_true, Bool.not_eq_true', decide_eq_true_eq] at h
    constructor
    · simp
    · rintro ⟨h1, h2, _⟩
      rcases h with h | h
      · simp [h] at h1
      · exact absurd h h2
  · rw [if_neg h]
    simp only [Bool.or_eq_true, Bool.not_eq_true', decide_eq_true_eq, not_or,
      Bool.not_eq_false] at h
    cases hs : a.balance.sub? amount with
    | none => simp
    | some c => simp [h.1, h.2]

theorem credited_eq_ok_iff {a : Account} {amount b : Decimal} :
    a.credited amount = .ok b ↔
      amount.isPositive = true ∧ a.balance.add? amount = some b := by
  unfold credited
  cases h : amount.isPositive with
  | false => simp
  | true => cases hs : a.balance.add? amount <;> simp

/-! ### Saved form -/

/-- The names of the saved fields, in their order. -/
def fieldNames : List String := ["account", "owner", "kind", "balance"]

/-- The balance in cents, a half rounded to the even cent. -/
def savedBalance (a : Account) : Decimal :=
  a.balance.round places

/-- The fields of an account with the given balance. -/
def fields (a : Account) (balance : Decimal) : List (String × Document) :=
  [("account", .text a.id), ("owner", .text a.owner), ("kind", .text a.kind.text),
    ("balance", .text balance.text)]

/-- The account in saved form: its balance is rounded to cents. -/
def saved (a : Account) : Document :=
  .table (a.fields a.savedBalance)

/-- The account with its balance in full. -/
def record (a : Account) : Document :=
  .table (a.fields a.balance)

/-- The account that a saved form stands for. -/
def ofSaved? (saved : Document) : Option Account := do
  let fields ← saved.fields? fieldNames
  let id ← (← fields.lookup "account").text?
  let owner ← (← fields.lookup "owner").text?
  let kind ← AccountKind.ofText? (← (← fields.lookup "kind").choice?)
  let balance ← Decimal.read? (← (← fields.lookup "balance").text?)
  some ⟨id, owner, kind, balance⟩

end Account

end CashMachine
