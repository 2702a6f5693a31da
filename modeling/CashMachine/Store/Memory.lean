/-
Stores kept in memory.

Accounts are kept under their own names, the last one written of each; of the
reserve and the version the last one written is kept; transactions go to an
audit trail, which takes no name twice.

Main statements: `find?_put`, `memory_write_account` — what writing an account changes;
`write_transaction` — a transaction goes to the trail only.
-/
import CashMachine.Store.Basic
import CashMachine.AuditTrail

namespace CashMachine

/-- What is kept in memory. -/
structure Memory where
  accounts : List Account
  reserve : Option Reserve
  version : Option Version
  trail : AuditTrail
  /-- How often a reserve has been written. -/
  saves : Nat
deriving Repr

namespace Memory

/-- Nothing is kept. -/
def empty : Memory := ⟨[], none, none, AuditTrail.empty, 0⟩

instance : Inhabited Memory := ⟨empty⟩

/-- The account kept under a name. -/
def find? (accounts : List Account) (id : AccountId) : Option Account :=
  accounts.find? fun a => a.id = id

/-- The accounts with one in place of that of the same name. -/
def put (accounts : List Account) (a : Account) : List Account :=
  match accounts with
  | [] => [a]
  | b :: rest => if b.id = a.id then a :: rest else b :: put rest a

theorem find?_put (accounts : List Account) (a : Account) (id : AccountId) :
    find? (put accounts a) id = if a.id = id then some a else find? accounts id := by
  induction accounts with
  | nil =>
    by_cases h : a.id = id <;> simp [put, find?, h]
  | cons b rest ih =>
    unfold put
    by_cases hb : b.id = a.id
    · rw [if_pos hb]
      by_cases h : a.id = id
      · simp [find?, h]
      · have : b.id ≠ id := by rw [hb]; exact h
        simp [find?, h, this]
    · rw [if_neg hb]
      by_cases h : b.id = id
      · have : a.id ≠ id := by rw [← h]; exact fun e => hb e.symm
        simp [find?, h, this]
      · simp only [find?, List.find?_cons, h, decide_false] at ih ⊢
        exact ih

/-- The accounts of a row, the last one of each name. -/
def ofAccounts (accounts : List Account) : List Account :=
  accounts.foldl put []

def reads (m : Memory) : Reads where
  account id := .ok (find? m.accounts id)
  history id := .ok (m.trail.forAccount id)
  transaction id := .ok (m.trail.get id)
  reserve := .ok m.reserve
  version := .ok m.version

/-- What memory keeps of a write. -/
def write (w : Write) (m : Memory) : Except StoreError Unit × Memory :=
  match w with
  | .account a => (.ok (), { m with accounts := put m.accounts a })
  | .reserve r => (.ok (), { m with reserve := some r, saves := m.saves + 1 })
  | .version v => (.ok (), { m with version := some v })
  | .transaction t =>
    match m.trail.push t with
    | .ok trail => (.ok (), { m with trail })
    | .error e => (.error e, m)

def stores : Stores Memory := ⟨reads, write⟩

theorem memory_write_account (m : Memory) (a : Account) (id : AccountId) :
    (reads (write (.account a) m).2).account id =
      if a.id = id then .ok (some a) else (reads m).account id := by
  simp only [write, reads, find?_put]
  split <;> rfl

/-- A transaction goes to the trail only. -/
theorem write_transaction (t : Transaction) (m : Memory) :
    (write (.transaction t) m).2.accounts = m.accounts ∧
      (write (.transaction t) m).2.reserve = m.reserve ∧
      (write (.transaction t) m).2.version = m.version := by
  rw [write]
  cases m.trail.push t with
  | ok trail => exact ⟨rfl, rfl, rfl⟩
  | error e => exact ⟨rfl, rfl, rfl⟩

end Memory

end CashMachine
