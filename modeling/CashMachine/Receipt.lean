/-
What is printed: receipts of transactions, balance slips and the status report.

Each is a title between two rules, lines of a label and a value, and a rule.
Amounts are printed with two fraction digits.

* `Receipt.ofTransaction`, `Receipt.ofBalance` — the receipts;
* `Status.text` — the report.
-/
import CashMachine.Policy
import CashMachine.Reserve
import CashMachine.Transaction

namespace CashMachine

namespace Receipt

/-- The rule between the parts of a printed text. -/
def rule : String := "================================"

/-- Lines of text, each with a line end. -/
def lines (ls : List String) : String :=
  String.join (ls.map (· ++ "\n"))

/-- A title between two rules, the lines under it, and a rule. -/
def block (title : String) (body : List String) : String :=
  lines ([rule, title, rule] ++ body ++ [rule])

def money (a : Decimal) : String :=
  "€" ++ a.moneyText

/-- The account as it is printed, where there is one. -/
def accountText : Option AccountId → String
  | some id => id
  | none => "N/A"

def ofTransaction (t : Transaction) : String :=
  block "       TRANSACTION RECEIPT       "
    ["Transaction ID: " ++ t.id,
      "Type: " ++ t.kind.text,
      "Amount: " ++ money t.amount,
      "From Account: " ++ accountText t.source,
      "To Account: " ++ accountText t.destination,
      "Timestamp: " ++ t.time.plainText]

/-- The slip that shows the balance of an account. -/
def ofBalance (account : AccountId) (balance : Decimal) : String :=
  block "       BALANCE RECEIPT          "
    ["Account: " ++ account, "Balance: " ++ money balance]

end Receipt

/-- The state of the machine as it is reported. -/
structure Status where
  machineId : String
  version : Version
  reserve : Reserve
deriving DecidableEq, Repr

namespace Status

def policy (s : Status) : Policy :=
  Policy.ofVersion s.version

def denominationLine (notes : Notes) (d : Denomination) : String :=
  "  €" ++ d.text ++ " notes: " ++ (notes.get d).text

def text (s : Status) : String :=
  Receipt.block "       ATM STATUS REPORT        "
    (["ATM ID: " ++ s.machineId,
        "Software Version: " ++ s.version.text,
        "Total Cash: " ++ Receipt.money s.reserve.cash,
        "Cash by Denomination:"] ++
      Denomination.descending.map (denominationLine s.reserve.notes) ++
      ["Ink Level: " ++ Text.ofNat s.reserve.ink ++ "%",
        "Paper Level: " ++ s.reserve.paper.text ++ " sheets"])

end Status

end CashMachine
