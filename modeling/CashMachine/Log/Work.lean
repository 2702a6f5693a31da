/-
What is logged about the work of the machine and of the command.

A request is told by its reply: what was committed or changed, or why the machine
refused it.  A request that is refused before the machine looks at its money leaves the
telling to the command.  Questions are not logged.

* `Log.ofRequest` — the entries of a request;
* `Log.ofMachine` — the entry of a machine that has been set up.
-/
import CashMachine.Log.Entry
import CashMachine.Machine.Session

namespace CashMachine.Log

/-! ### The machine -/

/-- The entry of a machine that has been set up. -/
def ofMachine (m : Machine) : Entry :=
  ⟨.info, .machine, "engine ready",
    [("machine", m.id), ("version", m.version.text), ("cash", m.reserve.cash.text),
      ("accounts", Text.ofNat m.accounts.length)]⟩

/-- What is logged about money that is not paid out. -/
def ofRefusedWithdrawal (m : Machine) (account : AccountId) (amount : Decimal) :
    Error → List Entry
  | .insufficientFunds =>
    [⟨.warn, .machine, "withdrawal rejected: insufficient funds",
      [("account", account), ("amount", amount.text),
        ("balance", (m.ledger.find? account).elim "" fun a => a.balance.text)]⟩]
  | .unavailable .cash =>
    [⟨.warn, .machine, "withdrawal rejected: machine out of cash",
      [("account", account), ("amount", amount.text), ("available", m.reserve.cash.text)]⟩]
  | .unavailable .exactSplit =>
    [⟨.warn, .machine, "withdrawal rejected: no exact note split",
      [("account", account), ("amount", amount.text)]⟩]
  | _ => []

/-- What is logged about the notes that a withdrawal is paid with. -/
def ofPlan (m : Machine) (account : AccountId) (amount : Decimal) : List Entry :=
  (m.plan? amount).toList.map fun plan =>
    ⟨.debug, .machine, "dispensing plan",
      [("account", account), ("amount", amount.text),
        ("plan", " ".intercalate (plan.entries.map fun e =>
          e.1.text ++ ":" ++ Text.ofNat e.2.val))]⟩

/-- What is logged about the part of a deposit that is taken as no note. -/
def ofUntracked (account : AccountId) (amount : Decimal) : List Entry :=
  ((Dispenser.untracked? amount).toList.filter fun rest => !rest.isZero).map fun rest =>
    ⟨.debug, .machine, "deposit remainder not tracked in reserve",
      [("account", account), ("untracked", rest.text)]⟩

/-- The machine got as far as moving the amount: it may be moved, and the accounts are
there. -/
def isMoving (m : Machine) (amount : Decimal) (accounts : List AccountId) : Bool :=
  (Machine.checkAmount amount).toOption.isSome && accounts.all fun id => (m.ledger.find? id).isSome

/-- What is logged about a shortage that stops a receipt. -/
def ofShortage : Error → List Entry
  | .unavailable what => [⟨.warn, .machine, "receipt not printed: " ++ what.message, []⟩]
  | _ => []

def roleName : Role → String
  | .customer => "Customer"
  | .technician => "Technician"

/-- What is logged about maintenance that is refused. -/
def ofRefusedUpkeep (role : Role) : Error → List Entry
  | .unauthorized why =>
    [⟨.warn, .machine, "maintenance rejected: " ++ (Error.unauthorized why).message,
      [("role", roleName role)]⟩]
  | _ => []

/-- What is logged about a request that is refused. -/
def ofRefusal (m : Machine) (e : Error) : Request → List Entry
  | .withdraw account amount => ofRefusedWithdrawal m account amount e
  | .deposit account amount =>
    if isMoving m amount [account] then
      [⟨.warn, .machine, "deposit rejected: " ++ e.message,
        [("account", account), ("amount", amount.text)]⟩]
    else []
  | .transfer source destination amount =>
    if isMoving m amount [source, destination] && source != destination then
      [⟨.warn, .machine, "transfer rejected: " ++ e.message,
        [("from", source), ("to", destination), ("amount", amount.text)]⟩]
    else []
  | .printReceipt _ | .printBalance _ => ofShortage e
  | .replenish role _ | .refillInk role | .restockPaper role _ => ofRefusedUpkeep role e
  | .openAccount _ | .balance _ | .history _ | .transaction _ | .updateSoftware _ _ => []

/-- What is logged about a transaction that is committed for a request. -/
def ofCommitted (before : Machine) (t : Transaction) : Request → List Entry
  | .withdraw account amount =>
    ofPlan before account amount ++
      [⟨.info, .machine, "withdrawal committed",
        [("account", account), ("amount", amount.text), ("tx", t.id)]⟩]
  | .deposit account amount =>
    ofUntracked account amount ++
      [⟨.info, .machine, "deposit committed",
        [("account", account), ("amount", amount.text), ("tx", t.id)]⟩]
  | .transfer source destination amount =>
    [⟨.info, .machine, "transfer committed",
      [("from", source), ("to", destination), ("amount", amount.text), ("tx", t.id)]⟩]
  | _ => []

/-- What is logged about a request that is granted. -/
def ofReply (before : Machine) (r : Request) : Reply → List Entry
  | .opened true =>
    match r with
    | .openAccount a =>
      [⟨.info, .machine, "account opened", [("account", a.id), ("kind", a.kind.text)]⟩]
    | _ => []
  | .committed t => ofCommitted before t r
  | .reserve reserve =>
    match r with
    | .replenish _ notes =>
      [⟨.info, .machine, "cash replenished",
        [("added", notes.total.text), ("total", reserve.cash.text)]⟩]
    | _ => []
  | .ink level => [⟨.info, .machine, "ink refilled", [("ink", Text.ofNat level)]⟩]
  | .paper sheets =>
    match r with
    | .restockPaper _ added =>
      [⟨.info, .machine, "paper restocked",
        [("sheets", Text.ofNat added.val), ("paper", Text.ofNat sheets.val)]⟩]
    | _ => []
  | .policy _ =>
    match r with
    | .updateSoftware _ version =>
      [⟨.info, .machine, "software updated",
        [("from", before.version.text), ("to", version.text)]⟩]
    | _ => []
  | .opened false | .balance _ | .history _ | .found _ | .printed => []

/-- What is logged about a request, between the machine before it and the one after it. -/
def ofRequest (before after : Machine) (r : Request) : Except Error Reply → List Entry
  | .ok reply => ofReply before r reply
  | .error e => ofRefusal after e r

/-! ### The command -/

def rowField (row : Nat) : String × String :=
  ("row", Text.ofNat row)

/-- The entry of a record that is no row. -/
def ofMalformedRow (row : Nat) : Entry :=
  ⟨.warn, .command, "skipping malformed row", [rowField row]⟩

/-- The entry of a row that asks for nothing. -/
def ofEmptyRow (row : Nat) : Entry :=
  ⟨.warn, .command, "skipping invalid operation", [rowField row]⟩

/-- The entry of a row that is about to be done. -/
def ofRow (row : Nat) (word : String) : Entry :=
  ⟨.debug, .command, "applying", [rowField row, ("operation", Text.quoted word)]⟩

/-- The entry of a row that is refused. -/
def ofRefusedRow (row : Nat) (e : Error) : Entry :=
  ⟨.warn, .command, "operation rejected: " ++ e.message, [rowField row]⟩

/-- The entry of a transaction without a receipt. -/
def ofMissingReceipt (t : Transaction) (e : Error) : Entry :=
  ⟨.warn, .command, "no receipt: " ++ e.message, [("tx", t.id)]⟩

end CashMachine.Log
