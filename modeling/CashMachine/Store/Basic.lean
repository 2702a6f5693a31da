/-
Stores: where accounts, transactions and the state of the machine are kept from
one run to the next.

A store is seen through what it answers (`Reads`) and changed by what it is
given to keep (`Write`).  Nothing is assumed of it: it may refuse to answer,
refuse to keep, or answer with something else than it was given.
-/
import CashMachine.Reserve
import CashMachine.Account
import CashMachine.Transaction

namespace CashMachine

/-- Something that a store is given to keep. -/
inductive Write where
  /-- The account as it is now, in place of what is kept of it. -/
  | account (a : Account)
  /-- The reserve as it is now. -/
  | reserve (r : Reserve)
  /-- The installed version. -/
  | version (v : Version)
  /-- One more transaction. -/
  | transaction (t : Transaction)
deriving DecidableEq, Repr

/-- The answers of a store at one moment. -/
structure Reads where
  account : AccountId → Except StoreError (Option Account)
  /-- The transactions that name an account, the oldest first. -/
  history : AccountId → Except StoreError (List Transaction)
  transaction : TransactionId → Except StoreError (Option Transaction)
  reserve : Except StoreError (Option Reserve)
  version : Except StoreError (Option Version)

/-- A store with states `σ`: what it answers, and what a write does to it. -/
structure Stores (σ : Type) where
  reads : σ → Reads
  write : Write → σ → Except StoreError Unit × σ

namespace Stores

variable {σ : Type}

/-- The state after writes whose failures nobody waits for. -/
def writeAll (stores : Stores σ) (ws : List Write) (s : σ) : σ :=
  ws.foldl (fun s w => (stores.write w s).2) s

theorem writeAll_append (stores : Stores σ) (ws vs : List Write) (s : σ) :
    stores.writeAll (ws ++ vs) s = stores.writeAll vs (stores.writeAll ws s) := by
  simp [writeAll]

end Stores

end CashMachine
