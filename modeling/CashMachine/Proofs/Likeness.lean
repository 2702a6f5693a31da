/-
In what two machines may differ.

Two machines are run side by side.  They may name their transactions otherwise, write their amounts
with more or fewer fraction digits, hold more or less ink and paper, and each has its own dispenser:
a likeness says how far these may be apart (`Likeness`).  Whatever it is, amounts that are alike are
the same number, reserves that are alike have the same notes, and dispensers that are alike have the
same plans.  The times of transactions may always differ.

* `Account.Like`, `Transaction.Like`, `Write.Like`, `Printed.Like`, `Effect.Like` — what is kept,
  written and printed;
* `Request.Like`, `Reply.Like` — what is asked and answered;
* `agree_checkAmount`, `Account.agree_debit`, `Account.agree_credit` — the same amounts can be
  moved;
* `absorbed_eq` — and the same notes are taken in for them.
-/
import CashMachine.Proofs.Decimal.Scale
import CashMachine.Proofs.InStep
import CashMachine.Proofs.Machine.Outcome

namespace CashMachine

/-- How names, amounts, reserves and dispensers of two machines are related. -/
structure Likeness where
  name : TransactionId → TransactionId → Prop
  amount : Decimal → Decimal → Prop
  reserve : Reserve → Reserve → Prop
  dispenser : Dispenser → Dispenser → Prop
  rescaled : ∀ {x y}, amount x y → x.Rescaled y
  add? : ∀ {a b x y}, amount a b → amount x y → Option.Rel amount (a.add? x) (b.add? y)
  sub? : ∀ {a b x y}, amount a b → amount x y → Option.Rel amount (a.sub? x) (b.sub? y)
  notes_eq : ∀ {r s}, reserve r s → s.notes = r.notes
  withNotes : ∀ {r s}, reserve r s → ∀ notes, reserve { r with notes } { s with notes }
  consume : ∀ {r s}, reserve r s → reserve r.consume s.consume
  refillInk : ∀ {r s}, reserve r s → reserve r.refillInk s.refillInk
  restockPaper : ∀ {r s}, reserve r s → ∀ n, reserve (r.restockPaper n) (s.restockPaper n)
  /-- Of an amount that can be moved, the dispensers make the same plan. -/
  plan_eq : ∀ {d e x y}, dispenser d e → amount x y → 0 < x.value → ∀ notes, e y notes = d x notes

variable (K : Likeness)

/-- Reserves that are alike are the same, ink and paper included. -/
def Likeness.SameLevels : Prop :=
  ∀ {r s}, K.reserve r s → s = r

/-- Amounts that are alike are the same, digits and sign included. -/
def Likeness.SameAmounts : Prop :=
  ∀ {x y}, K.amount x y ↔ y = x

/-! ### What is kept, written and printed -/

structure Account.Like (a b : Account) : Prop where
  id : b.id = a.id
  owner : b.owner = a.owner
  kind : b.kind = a.kind
  balance : K.amount a.balance b.balance

structure Transaction.Like (t u : Transaction) : Prop where
  name : K.name t.id u.id
  kind : u.kind = t.kind
  amount : K.amount t.amount u.amount
  source : u.source = t.source
  destination : u.destination = t.destination

inductive Write.Like : Write → Write → Prop
  | account {a b : Account} (h : a.Like K b) : Like (.account a) (.account b)
  | reserve {r s : Reserve} (h : K.reserve r s) : Like (.reserve r) (.reserve s)
  | version (v : Version) : Like (.version v) (.version v)
  | transaction {t u : Transaction} (h : t.Like K u) : Like (.transaction t) (.transaction u)

inductive Printed.Like : Printed → Printed → Prop
  | transaction {t u : Transaction} (h : t.Like K u) : Like (.transaction t) (.transaction u)
  | balance (id : AccountId) {x y : Decimal} (h : K.amount x y) :
    Like (.balance id x) (.balance id y)

inductive Effect.Like : Effect → Effect → Prop
  | write {w v : Write} (h : w.Like K v) : Like (.write w) (.write v)
  | print {p q : Printed} (h : p.Like K q) : Like (.print p) (.print q)

/-! ### What is asked and answered -/

inductive Request.Like : Request → Request → Prop
  | openAccount {a b : Account} (h : a.Like K b) : Like (.openAccount a) (.openAccount b)
  | withdraw (id : AccountId) {x y : Decimal} (h : K.amount x y) :
    Like (.withdraw id x) (.withdraw id y)
  | deposit (id : AccountId) {x y : Decimal} (h : K.amount x y) :
    Like (.deposit id x) (.deposit id y)
  | transfer (source destination : AccountId) {x y : Decimal} (h : K.amount x y) :
    Like (.transfer source destination x) (.transfer source destination y)
  | balance (id : AccountId) : Like (.balance id) (.balance id)
  | history (id : AccountId) : Like (.history id) (.history id)
  | transaction {id : TransactionId} (h : K.name id id) : Like (.transaction id) (.transaction id)
  | printReceipt {t u : Transaction} (h : t.Like K u) : Like (.printReceipt t) (.printReceipt u)
  | printBalance (id : AccountId) : Like (.printBalance id) (.printBalance id)
  | replenish (role : Role) (notes : Notes) : Like (.replenish role notes) (.replenish role notes)
  | refillInk (role : Role) : Like (.refillInk role) (.refillInk role)
  | restockPaper (role : Role) (sheets : Nat32) :
    Like (.restockPaper role sheets) (.restockPaper role sheets)
  | updateSoftware (role : Role) (version : Version) :
    Like (.updateSoftware role version) (.updateSoftware role version)

/-- The request asks what transactions there are. -/
def Request.asksTransactions : Request → Bool
  | .history _ | .transaction _ => true
  | _ => false

/-- The request asks for something to be printed. -/
def Request.asksForSlip : Request → Bool
  | .printReceipt _ | .printBalance _ => true
  | _ => false

inductive Reply.Like : Reply → Reply → Prop
  | opened (isNew : Bool) : Like (.opened isNew) (.opened isNew)
  | committed {t u : Transaction} (h : t.Like K u) : Like (.committed t) (.committed u)
  | balance {x y : Decimal} (h : K.amount x y) : Like (.balance x) (.balance y)
  | history {ts us : List Transaction} (h : List.Forall₂ (Transaction.Like K) ts us) :
    Like (.history ts) (.history us)
  | found {t u : Transaction} (h : t.Like K u) : Like (.found t) (.found u)
  | printed : Like .printed .printed
  | reserve {r s : Reserve} (h : K.reserve r s) : Like (.reserve r) (.reserve s)
  | ink {r s : Reserve} (h : K.reserve r s) : Like (.ink r.ink) (.ink s.ink)
  | paper {r s : Reserve} (h : K.reserve r s) : Like (.paper r.paper) (.paper s.paper)
  | policy (p : Policy) : Like (.policy p) (.policy p)

variable {K} {x y : Decimal} {a b : Account} {r s : Reserve}

theorem Effect.forall₂_writes {es fs : List Effect} (h : List.Forall₂ (Like K) es fs) :
    List.Forall₂ (Write.Like K) (writes es) (writes fs) := by
  refine List.rel_filterMap ?_ h
  rintro _ _ (⟨h⟩ | ⟨h⟩)
  · exact .some h
  · exact .none

theorem Effect.forall₂_prints {es fs : List Effect} (h : List.Forall₂ (Like K) es fs) :
    List.Forall₂ (Printed.Like K) (prints es) (prints fs) := by
  refine List.rel_filterMap ?_ h
  rintro _ _ (⟨h⟩ | ⟨h⟩)
  · exact .none
  · exact .some h

/-! ### Amounts -/

theorem isPositive_eq (h : x.Rescaled y) : y.isPositive = x.isPositive := by
  rw [Bool.eq_iff_iff, Decimal.isPositive_iff, Decimal.isPositive_iff, h]

theorem checkAmount_eq (h : x.Rescaled y) : Machine.checkAmount y = Machine.checkAmount x := by
  have hcents : (y.round Account.places).equals y = (x.round Account.places).equals x := by
    rw [Bool.eq_iff_iff]
    refine Decimal.equals_round_iff.trans (Iff.trans ?_ Decimal.equals_round_iff.symm)
    rw [Decimal.IsCents, Decimal.IsCents, h]
  rw [Machine.checkAmount, Machine.checkAmount, isPositive_eq h, hcents]

/-- An amount passes the check as its number does, and is then positive. -/
theorem agree_checkAmount (h : x.Rescaled y) :
    Agree (fun _ _ => 0 < x.value) (Machine.checkAmount x) (Machine.checkAmount y) := by
  rw [checkAmount_eq h]
  cases hx : Machine.checkAmount x with
  | ok u => exact .ok (Machine.checkAmount_eq_ok_iff.mp hx).1
  | error e => exact .error e

/-- The notes that a deposit is taken as depend on its number alone. -/
theorem absorbed_eq (h : x.Rescaled y) (hx : 0 < x.value) :
    Dispenser.absorbed y = Dispenser.absorbed x := by
  have hunits : y.truncate.wholeUnits? = x.truncate.wholeUnits? :=
    (h.truncate hx).wholeUnits?_eq (h.negative_eq hx)
  rw [Dispenser.absorbed, Dispenser.absorbed, hunits]

namespace Account

theorem like_iff (hK : K.SameAmounts) : a.Like K b ↔ b = a := by
  constructor
  · rintro ⟨hid, howner, hkind, hbalance⟩
    rw [hK] at hbalance
    cases a; cases b; cases hid; cases howner; cases hkind; cases hbalance; rfl
  · rintro rfl
    exact ⟨rfl, rfl, rfl, hK.mpr rfl⟩

variable (hab : a.Like K b)

include hab

theorem Like.lt_iff (hxy : x.Rescaled y) : b.balance < y ↔ a.balance < x := by
  rw [Decimal.lt_iff_value_lt, Decimal.lt_iff_value_lt, hxy, K.rescaled hab.balance]

theorem Like.isNegative_eq : b.balance.isNegative = a.balance.isNegative := by
  rw [Bool.eq_iff_iff, Decimal.isNegative_iff, Decimal.isNegative_iff, K.rescaled hab.balance]

theorem Like.withBalance (hxy : K.amount x y) :
    Like K { a with balance := x } { b with balance := y } :=
  { hab with balance := hxy }

theorem agree_debited (hxy : K.amount x y) : Agree K.amount (a.debited x) (b.debited y) := by
  have hrefused : (!y.isPositive || b.balance < y) = (!x.isPositive || a.balance < x) := by
    rw [isPositive_eq (K.rescaled hxy), decide_eq_decide.mpr (hab.lt_iff (K.rescaled hxy))]
  rw [debited, debited, hrefused]
  split
  · exact .error _
  · have h := K.sub? hab.balance hxy
    generalize a.balance.sub? x = c at h ⊢
    generalize b.balance.sub? y = d at h ⊢
    cases h with
    | none => exact .error _
    | some h => exact .ok h

theorem agree_credited (hxy : K.amount x y) : Agree K.amount (a.credited x) (b.credited y) := by
  rw [credited, credited, isPositive_eq (K.rescaled hxy)]
  split
  · exact .error _
  · have h := K.add? hab.balance hxy
    generalize a.balance.add? x = c at h ⊢
    generalize b.balance.add? y = d at h ⊢
    cases h with
    | none => exact .error _
    | some h => exact .ok h

theorem Like.agree_withBalance {p q : Except Error Decimal} (h : Agree K.amount p q) :
    Agree (Like K) (do pure { a with balance := ← p }) (do pure { b with balance := ← q }) := by
  cases h with
  | ok h => exact .ok (hab.withBalance h)
  | error e => exact .error e

theorem agree_debit (hxy : K.amount x y) : Agree (Like K) (a.debit x) (b.debit y) :=
  hab.agree_withBalance (agree_debited hab hxy)

theorem agree_credit (hxy : K.amount x y) : Agree (Like K) (a.credit x) (b.credit y) :=
  hab.agree_withBalance (agree_credited hab hxy)

end Account

/-! ### Reserves -/

/-- Whether notes can be taken out depends on the notes alone. -/
theorem Reserve.agree_remove (h : K.reserve r s) (d : Denomination) (count : Nat32) :
    Agree K.reserve (r.remove d count) (s.remove d count) := by
  rw [remove, remove, K.notes_eq h]
  split
  · exact .error _
  · exact .ok (K.withNotes h _)

theorem Likeness.addAll (h : K.reserve r s) (notes : Notes) :
    K.reserve (r.addAll notes) (s.addAll notes) := by
  rw [Reserve.addAll, Reserve.addAll, K.notes_eq h]
  exact K.withNotes h _

theorem Likeness.covers_eq (hrs : K.reserve r s) (hxy : x.Rescaled y) :
    s.covers y = r.covers x := by
  rw [Reserve.covers, Reserve.covers, Reserve.cash, Reserve.cash, K.notes_eq hrs, decide_eq_decide,
    Decimal.le_iff_value_le, Decimal.le_iff_value_le, hxy]

end CashMachine
