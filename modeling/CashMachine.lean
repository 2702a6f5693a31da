import CashMachine.Main
import CashMachine.Store.Faulty
import CashMachine.Store.Separate
import CashMachine.Proofs.Machine.Atomicity
import CashMachine.Proofs.Machine.Withdrawal
import CashMachine.Proofs.Machine.Transfers
import CashMachine.Proofs.Reconciliation
import CashMachine.Proofs.Restart
import CashMachine.Proofs.Independence
import CashMachine.Proofs.Machine.Maintenance
import CashMachine.Proofs.Cash
import CashMachine.Proofs.Cents
import CashMachine.Proofs.LazyLoading
import CashMachine.Proofs.Allocation
import CashMachine.Proofs.Rescaling
import CashMachine.Proofs.Receipts
import CashMachine.Proofs.BadRows
import CashMachine.Proofs.Feasibility
import CashMachine.Proofs.Remainder
import CashMachine.Proofs.Machine.Reversal
import CashMachine.Proofs.Moves
import CashMachine.Proofs.Supplies
import CashMachine.Proofs.Opening
import CashMachine.Proofs.Machine.Unchecked
import CashMachine.Proofs.Acceptance
import CashMachine.Proofs.Saving
import CashMachine.Proofs.Stock
import CashMachine.Proofs.Listing
import CashMachine.Proofs.Canonical
import CashMachine.Proofs.Totals
import CashMachine.Proofs.Versions
import CashMachine.Proofs.Shown
import CashMachine.Proofs.Tables
