/-
Settings: what a machine is to be set up with, as it is written down.

Everything has a default; the default machine holds a few notes, a little ink
and paper, and no accounts.  Notes are given by texts of face values, in the
order of these texts.  A version that cannot be read ends the setup before any store
is touched.
-/
import CashMachine.Machine.Build

namespace CashMachine

/-- What a machine is to be set up with. -/
structure Settings where
  machineId : String := "ATM-001"
  softwareVersion : String := "1.0"
  logLevel : String := "info"
  /-- Counts by texts of face values, in the order of the texts. -/
  notes : List (String × Nat32) :=
    [("10", ⟨5, by decide⟩), ("100", 1), ("20", ⟨5, by decide⟩), ("50", 2)]
  inkLevel : Int := 5
  paperLevel : Int := 6
  accounts : List Account := []
deriving DecidableEq, Repr, Inhabited

/-- Why no machine can be set up. -/
inductive SetupError where
  | version (e : MalformedVersion)
  | denomination (e : UnsupportedDenomination)
  | machine (e : Error)
deriving DecidableEq, Repr

/-- What is said about a machine that cannot be set up. -/
def SetupError.message : SetupError → String
  | version e => e.message
  | denomination e => e.message
  | machine e => e.message

namespace Settings

def version (s : Settings) : Except MalformedVersion Version :=
  Version.ofText s.softwareVersion

/-- The note that a text of a face value names, with its count. -/
def noteEntry (e : String × Nat32) : Except UnsupportedDenomination (Denomination × Nat32) := do
  let d ← Denomination.read e.1.toList
  pure (d, e.2)

/-- The reserve to start from. -/
def reserve (s : Settings) : Except UnsupportedDenomination Reserve := do
  let entries ← s.notes.mapM noteEntry
  pure (Reserve.ofLevels (Notes.ofList entries) s.inkLevel s.paperLevel)

/-- The configuration of the machine: first the version is read, then the notes. -/
def configuration (s : Settings) : Except SetupError Configuration := do
  let version ← s.version.mapError .version
  let reserve ← s.reserve.mapError .denomination
  pure { machineId := s.machineId, version, reserve, accounts := s.accounts }

/-- The machine that is set up over the stores, or why there is none, and the stores
afterwards. -/
def build {σ : Type} (stores : Stores σ) (s : Settings) (store : σ) :
    Except SetupError Machine × σ :=
  match s.configuration with
  | .error e => (.error e, store)
  | .ok c =>
    let (machine, store) := Machine.build stores c store
    (machine.mapError .machine, store)

end Settings

end CashMachine
