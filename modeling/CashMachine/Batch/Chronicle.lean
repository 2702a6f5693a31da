/-
The chronicle of a replay: what leaves the machine while a table is replayed.

Slips are printed and entries are logged; the chronicle has both in the order in which
they come.

* `Batch.chronicle` — the chronicle of a table.

Main statements: `session_chronicle`, `prints_chronicle` — without its log, the chronicle is
the replay.
-/
import CashMachine.Batch.Replay
import CashMachine.Log.Work

namespace CashMachine.Batch

variable {σ : Type}

/-- Something that leaves the machine. -/
inductive Utterance where
  | printed (p : Printed)
  | logged (e : Log.Entry)
deriving DecidableEq, Repr

namespace Utterance

def printed? : Utterance → Option Printed
  | printed p => some p
  | logged _ => none

/-- What is printed, in order. -/
def prints (said : List Utterance) : List Printed :=
  said.filterMap printed?

@[simp] theorem prints_append (said more : List Utterance) :
    prints (said ++ more) = prints said ++ prints more := by
  simp [prints]

@[simp] theorem prints_map_printed (ps : List Printed) : prints (ps.map printed) = ps := by
  induction ps with
  | nil => rfl
  | cons p ps ih => exact congrArg (p :: ·) ih

@[simp] theorem prints_map_logged (es : List Log.Entry) : prints (es.map logged) = [] := by
  induction es with
  | nil => rfl
  | cons e es ih => exact ih

@[simp] theorem prints_cons_logged (e : Log.Entry) (said : List Utterance) :
    prints (logged e :: said) = prints said := rfl

@[simp] theorem prints_nil : prints [] = [] := rfl

end Utterance

/-- A part of a replay: where it leads to, and what is said in it. -/
structure Episode (σ : Type) where
  session : Session σ
  said : List Utterance

/-- What is said about a request. -/
def saidOf (s : Session σ) (request : Request) (r : Session.Result σ) : List Utterance :=
  (Log.ofRequest s.machine r.session.machine request r.answer).map .logged ++
    r.printed.map .printed

@[simp] theorem prints_saidOf (s : Session σ) (request : Request) (r : Session.Result σ) :
    Utterance.prints (saidOf s request r) = r.printed := by
  simp [saidOf]

/-- Prints the receipt of a reply that is a committed transaction. -/
def tellReceipt (stores : Stores σ) (s : Session σ) (stamp : Stamp) : Reply → Episode σ
  | .committed t =>
    let r := s.perform stores stamp (.printReceipt t)
    ⟨r.session, saidOf s (.printReceipt t) r ++
      match r.answer with
      | .ok _ => []
      | .error e => [.logged (Log.ofMissingReceipt t e)]⟩
  | _ => ⟨s, []⟩

def tellOperation (stores : Stores σ) (receipts : Bool) (s : Session σ) (stamp : Stamp)
    (row : Nat) (op : Operation) : Episode σ :=
  let request := op.request receipts
  let r := s.perform stores stamp request
  match r.answer with
  | .error e => ⟨r.session, saidOf s request r ++ [.logged (Log.ofRefusedRow row e)]⟩
  | .ok reply =>
    if receipts then
      let slip := tellReceipt stores r.session stamp reply
      ⟨slip.session, saidOf s request r ++ slip.said⟩
    else ⟨r.session, saidOf s request r⟩

def tellRow (stores : Stores σ) (receipts : Bool) (s : Session σ) (stamp : Stamp) (number : Nat) :
    Option Row → Episode σ
  | none => ⟨s, [.logged (Log.ofMalformedRow number)]⟩
  | some row =>
    match Operation.ofRow? row with
    | none => ⟨s, [.logged (Log.ofEmptyRow number)]⟩
    | some op =>
      let e := tellOperation stores receipts s stamp number op
      { e with said := .logged (Log.ofRow number row.op) :: e.said }

theorem tellReceipt_eq (stores : Stores σ) (s : Session σ) (stamp : Stamp) (reply : Reply) :
    printReceipt stores s stamp reply =
      (Utterance.prints (tellReceipt stores s stamp reply).said,
        (tellReceipt stores s stamp reply).session) := by
  cases reply with
  | committed t =>
    simp only [printReceipt, tellReceipt, Utterance.prints_append, prints_saidOf]
    split <;> simp
  | _ => rfl

theorem tellOperation_eq (stores : Stores σ) (receipts : Bool) (s : Session σ) (stamp : Stamp)
    (row : Nat) (op : Operation) :
    (tellOperation stores receipts s stamp row op).session =
        (apply stores receipts s stamp op).session ∧
      Utterance.prints (tellOperation stores receipts s stamp row op).said =
        (apply stores receipts s stamp op).printed := by
  simp only [tellOperation, apply]
  generalize s.perform stores stamp (op.request receipts) = r
  obtain ⟨answer, printed, session⟩ := r
  cases answer with
  | error e => simp
  | ok reply => cases receipts <;> simp [tellReceipt_eq]

theorem tellRow_eq (stores : Stores σ) (receipts : Bool) (s : Session σ) (stamp : Stamp)
    (number : Nat) (row : Option Row) :
    (tellRow stores receipts s stamp number row).session =
        (applyRow stores receipts s stamp row).session ∧
      Utterance.prints (tellRow stores receipts s stamp number row).said =
        (applyRow stores receipts s stamp row).printed := by
  cases row with
  | none => exact ⟨rfl, rfl⟩
  | some row =>
    simp only [tellRow, applyRow]
    cases Operation.ofRow? row with
    | none => exact ⟨rfl, rfl⟩
    | some op => simpa using tellOperation_eq stores receipts s stamp number op

/-- A replay with everything that was said in it, the last first. -/
structure Chronicle (σ : Type) where
  session : Session σ
  /-- The number of rows. -/
  rows : Nat
  saidBack : List Utterance

namespace Chronicle

/-- What was said, in order. -/
def said (c : Chronicle σ) : List Utterance :=
  c.saidBack.reverse

def next (stores : Stores σ) (receipts : Bool) (c : Chronicle σ) (row : Stamp × Option Row) :
    Chronicle σ :=
  let e := tellRow stores receipts c.session row.1 c.rows row.2
  ⟨e.session, c.rows + 1, e.said.reverse ++ c.saidBack⟩

end Chronicle

/-- The chronicle of rows, each with its stamp. -/
def chronicle (stores : Stores σ) (receipts : Bool) (s : Session σ)
    (rows : List (Stamp × Option Row)) : Chronicle σ :=
  rows.foldl (Chronicle.next stores receipts) ⟨s, 0, []⟩

theorem foldl_chronicle (stores : Stores σ) (receipts : Bool) (c : Chronicle σ)
    (rows : List (Stamp × Option Row)) :
    (rows.foldl (Chronicle.next stores receipts) c).session =
        (replay stores receipts c.session rows).session ∧
      Utterance.prints (rows.foldl (Chronicle.next stores receipts) c).said =
        Utterance.prints c.said ++ (replay stores receipts c.session rows).printed := by
  induction rows generalizing c with
  | nil => simp [replay]
  | cons row rows ih =>
    obtain ⟨hs, hp⟩ := tellRow_eq stores receipts c.session row.1 c.rows row.2
    obtain ⟨ihs, ihp⟩ := ih (c.next stores receipts row)
    have hc : (c.next stores receipts row).said = c.said ++
        (tellRow stores receipts c.session row.1 c.rows row.2).said := by
      simp [Chronicle.said, Chronicle.next]
    have hn : (c.next stores receipts row).session =
        (applyRow stores receipts c.session row.1 row.2).session := hs
    rw [List.foldl_cons, ihs, ihp, hc, hn, Utterance.prints_append, hp]
    simp only [replay, List.foldl_cons]
    rw [foldl_next stores receipts (Outcome.next stores receipts ⟨c.session, [], []⟩ row)]
    simp [Outcome.next, replay, List.append_assoc]

theorem session_chronicle (stores : Stores σ) (receipts : Bool) (s : Session σ)
    (rows : List (Stamp × Option Row)) :
    (chronicle stores receipts s rows).session = (replay stores receipts s rows).session :=
  (foldl_chronicle stores receipts ⟨s, 0, []⟩ rows).1

theorem prints_chronicle (stores : Stores σ) (receipts : Bool) (s : Session σ)
    (rows : List (Stamp × Option Row)) :
    Utterance.prints (chronicle stores receipts s rows).said =
      (replay stores receipts s rows).printed :=
  (foldl_chronicle stores receipts ⟨s, 0, []⟩ rows).2

end CashMachine.Batch
