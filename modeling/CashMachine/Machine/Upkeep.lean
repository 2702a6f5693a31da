/-
Receipts and maintenance: everything that uses or refills ink and paper, brings
notes, or installs software.

A receipt is paid for before it is printed.  Maintenance is for technicians, and
only while the installed software allows it.

* `Machine.payReceipt` — what a receipt costs;
* `Machine.authorize` — what comes before all maintenance.
-/
import CashMachine.Machine.Money

namespace CashMachine.Machine

/-! ### Receipts -/

/-- Pays for a receipt, if there is ink and paper for it. -/
def payReceipt : Work Progress Unit := do
  match (← Work.current).machine.reserve.shortage? with
  | some what => throw (.unavailable what)
  | none => do
    Progress.changeReserve Reserve.consume
    Progress.saveReserve

def printReceipt (m : Machine) (t : Transaction) : Step Unit :=
  .of m do
    payReceipt
    Progress.emit (.print (.transaction t))

/-- Prints a slip with the balance of an account, and answers the balance. -/
def printBalance (m : Machine) (reads : Reads) (id : AccountId) : Step Decimal :=
  .of m do
    let a ← Progress.account reads id
    payReceipt
    Progress.emit (.print (.balance id a.balance))
    pure a.balance

/-! ### Maintenance -/

/-- Goes on for somebody who may change the machine. -/
def authorize (role : Role) : Work Progress Unit := do
  let m := (← Work.current).machine
  m.policy.authorize role m.version

/-- Puts notes into the machine; the reserve with them. -/
def replenish (m : Machine) (role : Role) (notes : Notes) : Step Reserve :=
  .of m do
    authorize role
    Work.check (!notes.isEmpty) .invalidAmount
    Progress.changeReserve (·.addAll notes)
    Progress.saveReserve
    pure (← Work.current).machine.reserve

/-- Puts a full cartridge into the machine; the level of ink. -/
def refillInk (m : Machine) (role : Role) : Step Nat :=
  .of m do
    authorize role
    Progress.changeReserve Reserve.refillInk
    Progress.saveReserve
    pure (← Work.current).machine.reserve.ink

/-- Puts sheets into the machine; the number of sheets. -/
def restockPaper (m : Machine) (role : Role) (sheets : Nat32) : Step Nat32 :=
  .of m do
    authorize role
    Work.check (sheets.val ≠ 0) .invalidAmount
    Progress.changeReserve (·.restockPaper sheets)
    Progress.saveReserve
    pure (← Work.current).machine.reserve.paper

/-- Installs newer software; the policy that holds from then on. -/
def updateSoftware (m : Machine) (role : Role) (version : Version) : Step Policy :=
  .of m do
    authorize role
    let running := (← Work.current).machine.version
    Work.check (¬ version ≤ running) (.notNewer version running)
    Progress.change ({ · with version })
    Progress.emit (.write (.version version))
    pure (Policy.ofVersion version)

def status (m : Machine) : Status :=
  ⟨m.id, m.version, m.reserve⟩

end CashMachine.Machine
