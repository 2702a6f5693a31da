/-
Setting a machine up over stores.

A saved reserve is taken as it is; otherwise the configured one is saved.  Of
the saved and the configured version the newer one is installed.  Then the
configured accounts are gone through in order: one that the store knows comes
into the ledger as it is stored, and any other one is opened and stored.  The
first error ends it all.

Main statements: `openReserve_saved`, `openVersion_eq_newer` — what the stores say
comes before what is configured.
-/
import CashMachine.Machine.Money

namespace CashMachine

/-- What a machine is set up with. -/
structure Configuration where
  machineId : String := "ATM-001"
  version : Version := ⟨1, 0⟩
  /-- The reserve to start from when none is saved. -/
  reserve : Reserve := Reserve.empty
  /-- The accounts to provide. -/
  accounts : List Account := []
  dispenser : Dispenser := Dispenser.greedy

namespace Machine

variable {σ : Type}

/-- Asks the stores. -/
def ask {α : Type} (stores : Stores σ) (question : Reads → Except StoreError α) : Work σ α :=
  fun s => (ofStore (question (stores.reads s)), s)

/-- Gives the stores something to keep. -/
def keep (stores : Stores σ) (w : Write) : Work σ Unit :=
  fun s => (ofStore (stores.write w s).1, (stores.write w s).2)

theorem ask_of_ok {α : Type} (stores : Stores σ) {question : Reads → Except StoreError α} {s : σ}
    {a : α} (h : question (stores.reads s) = .ok a) : ask stores question s = (.ok a, s) := by
  rw [ask, h]
  rfl

/-- The saved reserve, or else the configured one, which is then saved. -/
def openReserve (stores : Stores σ) (c : Configuration) : Work σ Reserve := do
  match ← ask stores Reads.reserve with
  | some saved => pure saved
  | none => do
    keep stores (.reserve c.reserve)
    pure c.reserve

/-- The newer of the saved and the configured version. -/
def openVersion (stores : Stores σ) (c : Configuration) : Work σ Version := do
  match ← ask stores Reads.version with
  | some saved => pure (saved.newer c.version)
  | none => pure c.version

/-- Provides one account: the stored one, or else the given one, which is then stored. -/
def provide (stores : Stores σ) (l : Ledger) (a : Account) : Work σ Ledger := do
  match ← ask stores fun reads => reads.account a.id with
  | some stored => do
    let (l, _) ← l.openAccount stored
    pure l
  | none => do
    let (l, _) ← l.openAccount a
    keep stores (.account a)
    pure l

def setup (stores : Stores σ) (c : Configuration) : Work σ Machine := do
  let reserve ← openReserve stores c
  let version ← openVersion stores c
  let ledger ← c.accounts.foldlM (provide stores) Ledger.empty
  pure ⟨c.machineId, c.dispenser, ledger, reserve, version⟩

/-- The machine that is set up over the stores, or why there is none, and the stores
afterwards. -/
def build (stores : Stores σ) (c : Configuration) (s : σ) : Except Error Machine × σ :=
  setup stores c s

theorem openReserve_saved (stores : Stores σ) (c : Configuration) (s : σ) {r : Reserve}
    (h : (stores.reads s).reserve = .ok (some r)) : openReserve stores c s = (.ok r, s) := by
  have ha : ask stores Reads.reserve s = (.ok (some r), s) := ask_of_ok stores h
  rw [openReserve, Work.bind_of_ok ha]
  rfl

theorem openVersion_eq_newer (stores : Stores σ) (c : Configuration) (s : σ) {v : Version}
    (h : (stores.reads s).version = .ok (some v)) :
    openVersion stores c s = (.ok (v.newer c.version), s) := by
  have ha : ask stores Reads.version s = (.ok (some v), s) := ask_of_ok stores h
  rw [openVersion, Work.bind_of_ok ha]
  rfl

end Machine

end CashMachine
