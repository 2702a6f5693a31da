/-
Stores that fail on demand, and answer under other names.

A store is wrapped with a table of the calls that fail, each with its reason;
such a call neither answers nor keeps anything.  A look-up of an account may be
led to another name.

Main statements: `write_of_fault`, `write_of_no_fault` — a write that fails keeps
nothing, and any other is the one of the store inside.
-/
import CashMachine.Store.Basic

namespace CashMachine

/-- The calls of a store. -/
inductive StoreCall where
  | findAccount
  | updateAccount
  | loadReserve
  | saveReserve
  | loadVersion
  | saveVersion
  | appendTransaction
  | findHistory
  | findTransaction
deriving DecidableEq, Repr

/-- The call that a write is. -/
def Write.call : Write → StoreCall
  | .account _ => .updateAccount
  | .reserve _ => .saveReserve
  | .version _ => .saveVersion
  | .transaction _ => .appendTransaction

/-- A store with the calls that fail, and the names that look-ups are led to. -/
structure Faulty (σ : Type) where
  inner : σ
  faults : List (StoreCall × String)
  aliases : List (AccountId × AccountId)

namespace Faulty

variable {σ β : Type}

/-- The same failures and names around a part of the store. -/
def map (part : σ → β) (f : Faulty σ) : Faulty β :=
  ⟨part f.inner, f.faults, f.aliases⟩

/-- The reason for which a call fails. -/
def fault? (f : Faulty σ) (c : StoreCall) : Option StoreError :=
  (f.faults.lookup c).map .backend

/-- An answer, unless the call fails. -/
def guarded {α : Type} (f : Faulty σ) (c : StoreCall) (answer : Except StoreError α) :
    Except StoreError α :=
  match f.fault? c with
  | some e => .error e
  | none => answer

/-- The name that a look-up is led to. -/
def target (f : Faulty σ) (id : AccountId) : AccountId :=
  (f.aliases.lookup id).getD id

/-- What the store answers, given what the one inside does. -/
def reads (stores : Stores σ) (f : Faulty σ) : Reads where
  account id := f.guarded .findAccount ((stores.reads f.inner).account (f.target id))
  history id := f.guarded .findHistory ((stores.reads f.inner).history id)
  transaction id := f.guarded .findTransaction ((stores.reads f.inner).transaction id)
  reserve := f.guarded .loadReserve (stores.reads f.inner).reserve
  version := f.guarded .loadVersion (stores.reads f.inner).version

/-- What the store keeps of a write. -/
def write (stores : Stores σ) (w : Write) (f : Faulty σ) : Except StoreError Unit × Faulty σ :=
  match f.fault? w.call with
  | some e => (.error e, f)
  | none =>
    let (answer, inner) := stores.write w f.inner
    (answer, { f with inner })

/-- The store around another one. -/
def stores (inner : Stores σ) : Stores (Faulty σ) := ⟨reads inner, write inner⟩

theorem write_of_fault (stores : Stores σ) {w : Write} {f : Faulty σ} {e : StoreError}
    (h : f.fault? w.call = some e) : write stores w f = (.error e, f) := by
  simp [write, h]

theorem write_of_no_fault (stores : Stores σ) {w : Write} {f : Faulty σ}
    (h : f.fault? w.call = none) :
    write stores w f =
      ((stores.write w f.inner).1, { f with inner := (stores.write w f.inner).2 }) := by
  simp [write, h]

end Faulty

end CashMachine
