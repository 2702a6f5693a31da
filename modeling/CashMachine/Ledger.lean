/-
The ledger: the accounts of the machine, each under a name.

Entries are kept in the order in which they were opened; they are never removed.
An account is opened under its own name.  A change to one entry
(`Ledger.setBalance`) leaves all others as they are.

Main statements: `find?_setBalance_self`, `find?_setBalance_of_ne` — what a new
balance changes.
-/
import CashMachine.Account
import CashMachine.Work

namespace CashMachine

/-- Accounts under distinct names. -/
structure Ledger where
  entries : List (AccountId × Account)
  nodup : (entries.map Prod.fst).Nodup := by simp
deriving Repr

namespace Ledger

def empty : Ledger := ⟨[], by simp⟩

instance : Inhabited Ledger := ⟨empty⟩

def find? (l : Ledger) (id : AccountId) : Option Account :=
  l.entries.lookup id

def contains (l : Ledger) (id : AccountId) : Bool :=
  (l.find? id).isSome

/-- The accounts in the order in which they were opened. -/
def accounts (l : Ledger) : List Account :=
  l.entries.map Prod.snd

def size (l : Ledger) : Nat :=
  l.entries.length

/-- The account under a name, or the reason why there is none. -/
def get (l : Ledger) (id : AccountId) : Except Error Account :=
  match l.find? id with
  | some a => .ok a
  | none => .error (.accountNotFound id)

theorem find?_eq_none {l : Ledger} {id : AccountId} :
    l.find? id = none ↔ id ∉ l.entries.map Prod.fst := by
  rw [find?, List.lookup_eq_none_iff]
  simp only [List.mem_map, not_exists, not_and, bne_iff_ne, ne_eq]
  exact ⟨fun h e he hid => h e he hid.symm, fun h e he hid => h e he hid.symm⟩

/-- The ledger with one more account, whose name is new. -/
def push (l : Ledger) (a : Account) (h : l.find? a.id = none) : Ledger :=
  ⟨l.entries ++ [(a.id, a)], by
    rw [find?_eq_none] at h
    rw [List.map_append, List.map_cons, List.map_nil, List.nodup_append]
    refine ⟨l.nodup, by simp, ?_⟩
    intro x hx y hy
    simp only [List.mem_singleton] at hy
    subst hy
    intro hxy
    exact h (hxy ▸ hx)⟩

/-- Opens an account unless there is one of its name, in which case that one stays as
it is; and whether it was opened.  A negative balance is refused in either case. -/
def openAccount (l : Ledger) (a : Account) : Except Error (Ledger × Bool) :=
  if a.balance.isNegative then .error .invalidAmount
  else if h : l.find? a.id = none then .ok (l.push a.opened h, true)
  else .ok (l, false)

/-- The entry with another balance, if it is the one of the name. -/
def rebalance (id : AccountId) (balance : Decimal) (e : AccountId × Account) :
    AccountId × Account :=
  if e.1 = id then (e.1, { e.2 with balance := balance }) else e

@[simp] theorem fst_rebalance (id : AccountId) (balance : Decimal) (e : AccountId × Account) :
    (rebalance id balance e).1 = e.1 := by
  unfold rebalance
  split <;> rfl

theorem names_rebalance (entries : List (AccountId × Account)) (id : AccountId)
    (balance : Decimal) :
    (entries.map (rebalance id balance)).map Prod.fst = entries.map Prod.fst := by
  rw [List.map_map]
  apply List.map_congr_left
  intro e _
  exact fst_rebalance id balance e

/-- The ledger with the balance of one account replaced. -/
def setBalance (l : Ledger) (id : AccountId) (balance : Decimal) : Ledger :=
  ⟨l.entries.map (rebalance id balance), by
    rw [names_rebalance]
    exact l.nodup⟩

theorem names_setBalance (l : Ledger) (id : AccountId) (balance : Decimal) :
    (l.setBalance id balance).entries.map Prod.fst = l.entries.map Prod.fst :=
  names_rebalance l.entries id balance

theorem lookup_map_rebalance (entries : List (AccountId × Account)) (id other : AccountId)
    (balance : Decimal) :
    (entries.map (rebalance id balance)).lookup other =
      (entries.lookup other).map fun a => if other = id then { a with balance } else a := by
  induction entries with
  | nil => rfl
  | cons e rest ih =>
    obtain ⟨key, a⟩ := e
    rw [List.map_cons, List.lookup_cons, fst_rebalance, List.lookup_cons, ih]
    by_cases h : other = key
    · subst h
      by_cases hid : other = id <;> simp [rebalance, hid]
    · have hb : (other == key) = false := beq_false_of_ne h
      simp [hb]

theorem find?_setBalance (l : Ledger) (id other : AccountId) (balance : Decimal) :
    (l.setBalance id balance).find? other =
      (l.find? other).map fun a => if other = id then { a with balance } else a :=
  lookup_map_rebalance l.entries id other balance

theorem find?_setBalance_of_ne (l : Ledger) {id other : AccountId} (balance : Decimal)
    (h : other ≠ id) : (l.setBalance id balance).find? other = l.find? other := by
  rw [find?_setBalance]
  simp [h]

theorem find?_setBalance_self (l : Ledger) (id : AccountId) (balance : Decimal) :
    (l.setBalance id balance).find? id =
      (l.find? id).map fun a => { a with balance } := by
  rw [find?_setBalance]
  simp

/-! ### Money -/

/-- Takes an amount from an account; the new balance. -/
def debit (l : Ledger) (id : AccountId) (amount : Decimal) : Except Error (Ledger × Decimal) := do
  let a ← l.get id
  let b ← a.debited amount
  pure (l.setBalance id b, b)

/-- Adds an amount to an account; the new balance. -/
def credit (l : Ledger) (id : AccountId) (amount : Decimal) : Except Error (Ledger × Decimal) := do
  let a ← l.get id
  let b ← a.credited amount
  pure (l.setBalance id b, b)

/-- Moves an amount from one account to another one, and gives both as they are
afterwards.  Both the debit and the credit are checked before either is made. -/
def move (source destination : AccountId) (amount : Decimal) : Work Ledger (Account × Account) := do
  Work.check (source ≠ destination && amount.isPositive) .invalidAmount
  let a ← (← Work.current).get source
  let b ← (← Work.current).get destination
  let _ ← a.debited amount
  let _ ← b.credited amount
  let a ← a.debit amount
  Work.change (·.setBalance source a.balance)
  let b ← b.credit amount
  Work.change (·.setBalance destination b.balance)
  pure (a, b)

/-- Moves an amount, and then tells a listener of both accounts as they are afterwards.  What the
listener works on is kept beside the ledger. -/
def moveTelling {σ : Type} (tell : Account → Account → σ → σ) (source destination : AccountId)
    (amount : Decimal) : Work (Ledger × σ) (Account × Account) := do
  let (a, b) ← Work.focus Prod.fst (fun s l => (l, s.2)) (move source destination amount)
  Work.change fun s => (s.1, tell a b s.2)
  pure (a, b)

structure Transfer where
  ledger : Ledger
  /-- The source as it is afterwards. -/
  source : Account
  /-- The destination as it is afterwards. -/
  destination : Account

/-- Moves an amount from one account to another one. -/
def transfer (l : Ledger) (source destination : AccountId) (amount : Decimal) :
    Except Error Transfer :=
  match move source destination amount l with
  | (.ok (a, b), moved) => .ok ⟨moved, a, b⟩
  | (.error e, _) => .error e

/-! ### Views -/

/-- The accounts in the order of their names. -/
def records (l : Ledger) : List Account :=
  l.accounts.mergeSort fun a b => a.id ≤ b.id

/-- The sum of all balances, if it is in range. -/
def total? (l : Ledger) : Option Decimal :=
  Decimal.sum? (l.accounts.map Account.balance)

end Ledger

end CashMachine
