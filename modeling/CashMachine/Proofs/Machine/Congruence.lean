/-
Operations keep two machines in step.

Two machines with the same reserve, version and dispenser are asked for the same.  Their ledgers
may differ, but must be related in such a way that look-ups succeed or fail in both of them, and
that accounts which have been looked up are the same in both and can be given the same new balances
(`Ledger.Congruence`).  Then every operation answers alike, writes alike and prints alike, up to the
names and times that transactions are given, and leaves the machines related in this way.

* `Likeness.restamped` — the likeness that leaves names free and nothing else;
* `Transaction.like_restamped` and the like — being alike up to it is being the same up to stamps;
* `Progress.Along` — two machines on the way;
* `inStep_perform` — all operations, but for opening accounts and for questions about transactions;
* `along_perform` — such questions too, where only the machines are compared.
-/
import CashMachine.Proofs.Machine.SideBySide

namespace CashMachine

/-! ### Without stamps -/

/-- The transaction without the name and the time that it was given. -/
def Transaction.unstamped (t : Transaction) : Transaction :=
  { t with id := "", time := Instant.epoch }

def Printed.unstamped : Printed → Printed
  | .transaction t => .transaction t.unstamped
  | p => p

def Write.unstamped : Write → Write
  | .transaction t => .transaction t.unstamped
  | w => w

def Effect.unstamped : Effect → Effect
  | .write w => .write w.unstamped
  | .print p => .print p.unstamped

def Reply.unstamped : Reply → Reply
  | .committed t => .committed t.unstamped
  | a => a

/-- The transactions are the same up to their stamps. -/
abbrev Transaction.Restamped (t u : Transaction) : Prop :=
  u.unstamped = t.unstamped

/-- The requests are the same up to the stamps of transactions that they name. -/
inductive Request.Restamped : Request → Request → Prop
  | same (r : Request) : Restamped r r
  | printReceipt {t u : Transaction} (h : t.Restamped u) :
    Restamped (.printReceipt t) (.printReceipt u)
  | transaction (id id' : TransactionId) : Restamped (.transaction id) (.transaction id')

/-- Picking things out of a row commutes with a change that each of them goes along with. -/
theorem filterMap_map_of_forall {α β : Type} {f : α → Option β} {u : α → α} {v : β → β}
    (h : ∀ a, f (u a) = (f a).map v) (as : List α) :
    (as.map u).filterMap f = (as.filterMap f).map v := by
  rw [List.filterMap_map, List.map_filterMap]
  exact List.filterMap_congr fun a _ => h a

theorem Effect.prints_unstamped (effects : List Effect) :
    prints (effects.map unstamped) = (prints effects).map Printed.unstamped :=
  filterMap_map_of_forall (fun e => by cases e <;> rfl) effects

theorem Effect.writes_unstamped (effects : List Effect) :
    writes (effects.map unstamped) = (writes effects).map Write.unstamped :=
  filterMap_map_of_forall (fun e => by cases e <;> rfl) effects

/-! ### The likeness that leaves names free -/

/-- Transactions may have any names, and nothing else may differ. -/
def Likeness.restamped : Likeness where
  name _ _ := True
  amount x y := y = x
  reserve r s := s = r
  dispenser d e := e = d
  rescaled h := congrArg Decimal.value h
  add? h h' := by
    rw [h, h']
    exact rel_self (R := fun x y => y = x) (fun _ => rfl) _
  sub? h h' := by
    rw [h, h']
    exact rel_self (R := fun x y => y = x) (fun _ => rfl) _
  notes_eq h := congrArg Reserve.notes h
  withNotes h _ := by rw [h]
  consume h := by rw [h]
  refillInk h := by rw [h]
  restockPaper h _ := by rw [h]
  plan_eq h h' _ _ := by rw [h, h']

theorem Likeness.sameLevels_restamped : restamped.SameLevels :=
  fun h => h

theorem Likeness.sameAmounts_restamped : restamped.SameAmounts :=
  Iff.rfl

open Likeness (restamped sameAmounts_restamped)

theorem Transaction.like_restamped_iff {t u : Transaction} :
    t.Like restamped u ↔ t.Restamped u := by
  constructor
  · rintro ⟨_, hkind, hamount, hsource, hdestination⟩
    have hamount : u.amount = t.amount := hamount
    rw [Restamped, unstamped, unstamped, hkind, hamount, hsource, hdestination]
  · intro h
    exact ⟨trivial, (congrArg kind h :), (congrArg amount h :), (congrArg source h :),
      (congrArg destination h :)⟩

theorem Write.unstamped_eq_of_like {w v : Write} (h : w.Like restamped v) :
    v.unstamped = w.unstamped := by
  cases h with
  | account h => rw [(Account.like_iff sameAmounts_restamped).mp h]
  | reserve h => rw [h]
  | version v => rfl
  | transaction h => exact congrArg transaction (Transaction.like_restamped_iff.mp h)

theorem Printed.unstamped_eq_of_like {p q : Printed} (h : p.Like restamped q) :
    q.unstamped = p.unstamped := by
  cases h with
  | transaction h => exact congrArg transaction (Transaction.like_restamped_iff.mp h)
  | balance id h => rw [h]

theorem Effect.unstamped_eq_of_like {e f : Effect} (h : e.Like restamped f) :
    f.unstamped = e.unstamped := by
  cases h with
  | write h => exact congrArg write (Write.unstamped_eq_of_like h)
  | print h => exact congrArg print (Printed.unstamped_eq_of_like h)

theorem Effect.map_unstamped_eq {es fs : List Effect}
    (h : List.Forall₂ (Like restamped) es fs) : fs.map unstamped = es.map unstamped := by
  induction h with
  | nil => rfl
  | cons h _ ih => rw [List.map_cons, List.map_cons, unstamped_eq_of_like h, ih]

/-- Only histories have more to be compared than `Reply.unstamped` leaves out. -/
theorem Reply.unstamped_eq_of_like {a b : Reply} (h : a.Like restamped b)
    (hhistory : ∀ ts, a ≠ .history ts) (hfound : ∀ t, a ≠ .found t) :
    b.unstamped = a.unstamped := by
  cases h with
  | committed h => exact congrArg committed (Transaction.like_restamped_iff.mp h)
  | history => exact absurd rfl (hhistory _)
  | found => exact absurd rfl (hfound _)
  | balance h | reserve h | ink h | paper h => rw [h]
  | _ => rfl

theorem Request.Restamped.like {r q : Request} (h : r.Restamped q)
    (hr : ∀ id, r ≠ .transaction id) : r.Like restamped q := by
  cases h with
  | printReceipt h => exact .printReceipt (Transaction.like_restamped_iff.mpr h)
  | transaction id => exact absurd rfl (hr id)
  | same =>
    cases r with
    | openAccount a => exact .openAccount ((Account.like_iff sameAmounts_restamped).mpr rfl)
    | withdraw id x => exact .withdraw id rfl
    | deposit id x => exact .deposit id rfl
    | transfer source destination x => exact .transfer source destination rfl
    | balance id => exact .balance id
    | history id => exact .history id
    | transaction id => exact .transaction trivial
    | printReceipt t => exact .printReceipt (Transaction.like_restamped_iff.mpr rfl)
    | printBalance id => exact .printBalance id
    | replenish role notes => exact .replenish role notes
    | refillInk role => exact .refillInk role
    | restockPaper role sheets => exact .restockPaper role sheets
    | updateSoftware role version => exact .updateSoftware role version

/-- The answer to a request that does not ask for transactions is not made of them. -/
theorem Machine.Outcome.asksTransactions {reads : Reads} {stamp : Stamp} {m : Machine}
    {r : Request} {s : Step Reply} (h : Outcome reads stamp m r s) {a : Reply}
    (ha : s.answer = .ok a) (hr : r.asksTransactions = false) :
    (∀ ts, a ≠ .history ts) ∧ ∀ t, a ≠ .found t := by
  cases h with
  | history | found => cases hr
  | refused => cases ha
  | _ =>
    cases ha
    simp

/-! ### Two machines in step -/

/-- A way in which two ledgers can be related once some accounts have been looked up in both.  It
lasts when more of these accounts are looked up, or get the same new balances in both. -/
structure Ledger.Congruence (reads reads' : Reads)
    (L : List AccountId → Ledger → Ledger → Prop) : Prop where
  weaken : ∀ {id ids l k}, L (id :: ids) l k → L ids l k
  find? : ∀ {id ids l k}, L ids l k → id ∈ ids → k.find? id = l.find? id
  setBalance : ∀ {id ids l k} (b : Decimal), L ids l k → id ∈ ids →
    L ids (l.setBalance id b) (k.setBalance id b)
  load : ∀ ids id, Work.InStepTo (fun m n : Machine => L ids m.ledger n.ledger)
    (fun m n => L (id :: ids) m.ledger n.ledger) Eq (·.load reads id) (·.load reads' id)

/-- Two machines on the way have related ledgers and nothing else that differs, and have written
and printed the same up to stamps. -/
structure Progress.Along (L : Ledger → Ledger → Prop) (p q : Progress) : Prop where
  ledger : L p.machine.ledger q.machine.ledger
  reserve : q.machine.reserve = p.machine.reserve
  version : q.machine.version = p.machine.version
  dispenser : q.machine.dispenser = p.machine.dispenser
  effects : q.effects.map Effect.unstamped = p.effects.map Effect.unstamped

namespace Progress

variable {L L' : Ledger → Ledger → Prop} {p q : Progress}

theorem Along.prints (h : Along L p q) : (Effect.prints q.effects).map Printed.unstamped =
    (Effect.prints p.effects).map Printed.unstamped := by
  rw [← Effect.prints_unstamped, h.effects, Effect.prints_unstamped]

theorem Along.writes (h : Along L p q) : (Effect.writes q.effects).map Write.unstamped =
    (Effect.writes p.effects).map Write.unstamped := by
  rw [← Effect.writes_unstamped, h.effects, Effect.writes_unstamped]

theorem Like.along (h : Like restamped L p q) : Along L p q :=
  ⟨h.machine.ledger, h.machine.reserve, h.machine.version, h.machine.dispenser,
    Effect.map_unstamped_eq h.effects⟩

/-- At its start a machine has written and printed nothing. -/
theorem Along.like {m n : Machine} (h : Along L ⟨m, []⟩ ⟨n, []⟩) :
    Like restamped L ⟨m, []⟩ ⟨n, []⟩ :=
  ⟨⟨h.ledger, h.reserve, h.version, h.dispenser⟩, .nil⟩

end Progress

namespace Ledger.Congruence

variable {reads reads' : Reads} {L : List AccountId → Ledger → Ledger → Prop} {m n : Machine}
  {stamp stamp' : Stamp}

/-- What keeps the same balances in step does so under every likeness with the same amounts. -/
theorem simulation {K : Likeness} (h : Congruence reads reads' L) (hK : K.SameAmounts) :
    Simulation K reads reads' L where
  weaken := h.weaken
  find? hlk hid := by
    rw [h.find? hlk hid]
    exact rel_self (fun _ => (Account.like_iff hK).mpr rfl) _
  setBalance hbc hlk hid := by
    rw [hK.mp hbc]
    exact h.setBalance _ hlk hid
  load ids id m n hlk := by
    have hmet := h.load ids id m n hlk
    exact hmet.imp fun _ _ hab => (Account.like_iff hK).mpr hab.symm

variable (h : Congruence reads reads' L) (hmn : Progress.Along (L []) ⟨m, []⟩ ⟨n, []⟩)

include h hmn

/-- The same requests, up to stamps, are answered alike and leave the machines in step. -/
theorem inStep_perform {r q : Request} (hrq : r.Restamped q) (hopen : ∀ a, r ≠ .openAccount a)
    (hr : r.asksTransactions = false) :
    Step.InStep (Progress.Along (L [])) (fun a b => b.unstamped = a.unstamped)
      (m.perform reads stamp r) (n.perform reads' stamp' q) := by
  have hnot : ∀ id, r ≠ .transaction id := by
    rintro id rfl
    cases hr
  have hstep : Step.InStep (Progress.Like restamped (L [])) (Reply.Like restamped)
      (m.perform reads stamp r) (n.perform reads' stamp' q) :=
    (h.simulation sameAmounts_restamped).inStep_perform hmn.like trivial (hrq.like hnot) hopen
      hr fun _ => Likeness.sameLevels_restamped
  refine ⟨?_, hstep.progress.along⟩
  have hno := fun a => (Machine.outcome_perform m reads stamp r).asksTransactions (a := a)
  have hanswer := hstep.answer
  generalize (m.perform reads stamp r).answer = x at hanswer hno ⊢
  generalize (n.perform reads' stamp' q).answer = y at hanswer ⊢
  cases hanswer with
  | error e => exact .error e
  | ok hab => exact .ok (Reply.unstamped_eq_of_like hab (hno _ rfl hr).1 (hno _ rfl hr).2)

/-- Where the stores answer alike when they are asked for a history, so do the machines. -/
theorem inStep_history (id : AccountId) {V : List Transaction → List Transaction → Prop}
    (hV : Agree V (Machine.ofStore (reads.history id)) (Machine.ofStore (reads'.history id))) :
    Step.InStep (Progress.Along (L [])) V (m.history reads id) (n.history reads' id) := by
  have hstep := (h.simulation sameAmounts_restamped).inStep_history hmn.like id hV
  exact hstep.imp (fun _ _ => Progress.Like.along) fun _ _ h => h

/-- Questions about transactions may be answered in any way, but leave the machines in step. -/
theorem along_perform {r q : Request} (hrq : r.Restamped q) (hopen : ∀ a, r ≠ .openAccount a) :
    Progress.Along (L []) (m.perform reads stamp r).progress
      (n.perform reads' stamp' q).progress := by
  by_cases hr : ∃ id, r = .transaction id
  · obtain ⟨id, rfl⟩ := hr
    have hquestion : ∃ id', q = .transaction id' := by
      cases hrq with
      | same => exact ⟨id, rfl⟩
      | transaction _ id' => exact ⟨id', rfl⟩
    obtain ⟨id', rfl⟩ := hquestion
    rw [Machine.perform, Machine.perform, Machine.transaction_eq, Machine.transaction_eq n]
    exact hmn
  · have hsimulation := h.simulation sameAmounts_restamped
    refine (hsimulation.like_perform hmn.like trivial (hrq.like ?_) hopen ?_).along
    · exact fun id hid => hr ⟨id, hid⟩
    · exact fun _ => Likeness.sameLevels_restamped

end Ledger.Congruence

end CashMachine
