/-
Two machines side by side.

Two machines are asked for the same, up to a likeness, and are alike up to it (`Machine.Like`).
Their ledgers are related in such a way that look-ups succeed or fail in both of them, and that
accounts which have been looked up are alike and can be given new balances that are alike
(`Ledger.Simulation`).  Then every operation answers alike, writes alike and prints alike, and
leaves the machines alike.

* `Progress.Like`, `Step.InStep` — two machines on the way, and what two operations come to;
* `inStep_account`, `inStep_move` and the like — the steps of which operations consist;
* `inStep_withdraw` and the like — one operation after the other, in the order of its steps;
* `inStep_perform` — all of them, but for opening accounts, which is up to how the ledgers are
  related, and for questions about transactions, which are up to the stores;
* `like_perform` — such questions too, where only the machines are compared.

Printing asks for ink and paper, so it is in step only where the likeness leaves them no freedom
(`Likeness.SameLevels`).
-/
import CashMachine.Proofs.Likeness
import CashMachine.Proofs.Machine.Perform

namespace CashMachine

/-! ### Two machines -/

/-- A way in which two ledgers can be related once some accounts have been looked up in both.  It
lasts when more of these accounts are looked up, or get new balances that are alike. -/
structure Ledger.Simulation (K : Likeness) (reads reads' : Reads)
    (L : List AccountId → Ledger → Ledger → Prop) : Prop where
  weaken : ∀ {id ids l k}, L (id :: ids) l k → L ids l k
  find? : ∀ {id ids l k}, L ids l k → id ∈ ids →
    Option.Rel (Account.Like K) (l.find? id) (k.find? id)
  setBalance : ∀ {id ids l k b c}, K.amount b c → L ids l k → id ∈ ids →
    L ids (l.setBalance id b) (k.setBalance id c)
  load : ∀ ids id, Work.InStepTo (fun m n : Machine => L ids m.ledger n.ledger)
    (fun m n => L (id :: ids) m.ledger n.ledger) (Account.Like K) (·.load reads id)
    (·.load reads' id)

/-- The machines differ in their ledgers as these may, and in everything else as the likeness
allows. -/
structure Machine.Like (K : Likeness) (L : Ledger → Ledger → Prop) (m n : Machine) : Prop where
  ledger : L m.ledger n.ledger
  reserve : K.reserve m.reserve n.reserve
  version : n.version = m.version
  dispenser : K.dispenser m.dispenser n.dispenser

/-- Two machines on the way have written and printed alike. -/
structure Progress.Like (K : Likeness) (L : Ledger → Ledger → Prop) (p q : Progress) : Prop where
  machine : p.machine.Like K L q.machine
  effects : List.Forall₂ (Effect.Like K) p.effects q.effects

variable {K : Likeness} {L L' : Ledger → Ledger → Prop}

namespace Machine.Like

variable {m n m₁ n₁ : Machine}

theorem imp (h : Like K L m n) (hL : ∀ l k, L l k → L' l k) : Like K L' m n :=
  { h with ledger := hL _ _ h.ledger }

/-- Look-ups change nothing but the ledgers. -/
theorem grown {reads reads' : Reads} {names names' : List AccountId} (h : Like K L m n)
    (hm : Grown reads names m m₁) (hn : Grown reads' names' n n₁)
    (hL : L' m₁.ledger n₁.ledger) : Like K L' m₁ n₁ where
  ledger := hL
  reserve := by
    rw [hm.reserve, hn.reserve]
    exact h.reserve
  version := hn.version.trans (h.version.trans hm.version.symm)
  dispenser := by
    rw [hm.dispenser, hn.dispenser]
    exact h.dispenser

theorem policy_eq (h : Like K L m n) : n.policy = m.policy := by
  rw [policy, policy, h.version]

/-- A positive amount has the same plan in both machines. -/
theorem plan?_eq (h : Like K L m n) {x y : Decimal} (hxy : K.amount x y) (hx : 0 < x.value) :
    n.plan? y = m.plan? x := by
  have hequals : ∀ plan : Notes, plan.total.equals y = plan.total.equals x := by
    intro plan
    rw [Bool.eq_iff_iff, Decimal.equals_iff_value_eq, Decimal.equals_iff_value_eq, K.rescaled hxy]
  rw [plan?, plan?, K.plan_eq h.dispenser hxy hx, K.notes_eq h.reserve]
  simp only [hequals]

end Machine.Like

theorem Progress.Like.imp {p q : Progress} (h : Like K L p q) (hL : ∀ l k, L l k → L' l k) :
    Like K L' p q :=
  { h with machine := h.machine.imp hL }

/-! ### Steps -/

/-- What is left of a step besides its answer. -/
def Step.progress {α : Type} (s : Step α) : Progress :=
  ⟨s.machine, s.effects⟩

variable {α β γ δ : Type} {V : α → β → Prop} {U : γ → δ → Prop} {m n : Machine}

/-- Two steps with related answers that leave things related. -/
structure Step.InStep (S : Progress → Progress → Prop) (V : α → β → Prop) (s : Step α)
    (s' : Step β) : Prop where
  answer : Agree V s.answer s'.answer
  progress : S s.progress s'.progress

namespace Step.InStep

variable {S S' : Progress → Progress → Prop}

theorem of {w : Work Progress α} {v : Work Progress β} (h : Work.InStep S V w v)
    (hmn : S ⟨m, []⟩ ⟨n, []⟩) : InStep S V (Step.of m w) (Step.of n v) :=
  ⟨(h _ _ hmn).1, (h _ _ hmn).2⟩

theorem map {s : Step α} {s' : Step β} {f : α → γ} {g : β → δ} (h : InStep S V s s')
    (hfg : ∀ a b, V a b → U (f a) (g b)) : InStep S U (s.map f) (s'.map g) :=
  ⟨h.answer.map hfg, h.progress⟩

theorem imp {V' : α → β → Prop} {s : Step α} {s' : Step β} (h : InStep S V s s')
    (hS : ∀ p q, S p q → S' p q) (hV : ∀ a b, V a b → V' a b) : InStep S' V' s s' :=
  ⟨h.answer.imp hV, hS _ _ h.progress⟩

end Step.InStep

/-- What maintenance of the reserve does once it is allowed: the reserve is changed and written,
and something of it is answered. -/
def Machine.maintain (f : Reserve → Reserve) (answer : Reserve → α) : Work Progress α := do
  Progress.changeReserve f
  Progress.saveReserve
  pure (answer (← Work.current).machine.reserve)

open Machine

/-! ### Steps that look up no account -/

section Steps

variable {f g : Reserve → Reserve}

theorem Progress.inStep_changeReserve (h : ∀ r s, K.reserve r s → K.reserve (f r) (g s)) :
    Work.InStep (Like K L) Eq (changeReserve f) (changeReserve g) :=
  .change fun _ _ hpq =>
    { hpq with machine := { hpq.machine with reserve := h _ _ hpq.machine.reserve } }

theorem Progress.inStep_emit {x y : Effect} (h : x.Like K y) :
    Work.InStep (Like K L) Eq (emit x) (emit y) :=
  .change fun _ _ hpq =>
    { hpq with effects := List.rel_append hpq.effects (.cons h .nil) }

theorem Progress.inStep_saveReserve : Work.InStep (Like K L) Eq saveReserve saveReserve := by
  refine .bind .current fun p q hpq => ?_
  exact inStep_emit (.write (.reserve hpq.machine.reserve))

theorem Machine.inStep_takeOut (e : Denomination × Nat32) :
    Work.InStep (Progress.Like K L) Eq (takeOut e) (takeOut e) := by
  refine .bind .current fun p q hpq => ?_
  refine .bind (.answer (Reserve.agree_remove hpq.machine.reserve e.1 e.2)) fun r s hrs => ?_
  exact Progress.inStep_changeReserve fun _ _ _ => hrs

theorem Machine.inStep_takeIn (notes : Notes) :
    Work.InStep (Progress.Like K L) Eq (takeIn notes) (takeIn notes) := by
  unfold takeIn
  split
  · exact .pure rfl
  · refine .bind (Progress.inStep_changeReserve fun r s hrs => ?_) fun _ _ _ => ?_
    · exact Likeness.addAll hrs notes
    · exact Progress.inStep_saveReserve

theorem Machine.inStep_payReceipt (hK : K.SameLevels) :
    Work.InStep (Progress.Like K L) Eq payReceipt payReceipt := by
  refine .bind .current fun p q hpq => ?_
  rw [hK hpq.machine.reserve]
  cases p.machine.reserve.shortage? with
  | some what => exact .throw _
  | none =>
    refine .bind (Progress.inStep_changeReserve fun r s => K.consume) fun _ _ _ => ?_
    exact Progress.inStep_saveReserve

theorem Machine.inStep_authorize (role : Role) :
    Work.InStep (Progress.Like K L) Eq (authorize role) (authorize role) := by
  refine .bind .current fun p q hpq => ?_
  exact .lift (by rw [hpq.machine.policy_eq, hpq.machine.version])

theorem Machine.inStep_maintain (f : Reserve → Reserve) {R : α → α → Prop} (answer : Reserve → α)
    (hf : ∀ r s, K.reserve r s → K.reserve (f r) (f s))
    (hR : ∀ r s, K.reserve r s → R (answer r) (answer s)) :
    Work.InStep (Progress.Like K L) R (maintain f answer) (maintain f answer) := by
  refine .bind (Progress.inStep_changeReserve hf) fun _ _ _ => ?_
  refine .bind Progress.inStep_saveReserve fun _ _ _ => ?_
  refine .bind .current fun p q hpq => ?_
  exact .pure (hR _ _ hpq.machine.reserve)

end Steps

/-! ### Receipts without accounts, and maintenance -/

section Upkeep

variable (hmn : Progress.Like K L ⟨m, []⟩ ⟨n, []⟩)

include hmn

theorem Machine.inStep_printReceipt (hK : K.SameLevels) {t u : Transaction} (h : t.Like K u) :
    Step.InStep (Progress.Like K L) Eq (m.printReceipt t) (n.printReceipt u) := by
  refine .of ?_ hmn
  refine .bind (inStep_payReceipt hK) fun _ _ _ => ?_
  exact Progress.inStep_emit (.print (.transaction h))

theorem Machine.inStep_replenish (role : Role) (notes : Notes) :
    Step.InStep (Progress.Like K L) K.reserve (m.replenish role notes)
      (n.replenish role notes) := by
  refine .of ?_ hmn
  refine .bind (inStep_authorize role) fun _ _ _ => ?_
  refine .bind (.check rfl _) fun _ _ _ => ?_
  refine inStep_maintain (·.addAll notes) (fun r => r) ?_ fun r s hrs => hrs
  exact fun r s hrs => Likeness.addAll hrs notes

theorem Machine.inStep_refillInk (role : Role) :
    Step.InStep (Progress.Like K L) (fun i j => (Reply.ink i).Like K (.ink j))
      (m.refillInk role) (n.refillInk role) := by
  refine .of ?_ hmn
  refine .bind (inStep_authorize role) fun _ _ _ => ?_
  exact inStep_maintain Reserve.refillInk Reserve.ink (fun r s => K.refillInk) fun r s => .ink

theorem Machine.inStep_restockPaper (role : Role) (sheets : Nat32) :
    Step.InStep (Progress.Like K L) (fun i j => (Reply.paper i).Like K (.paper j))
      (m.restockPaper role sheets) (n.restockPaper role sheets) := by
  refine .of ?_ hmn
  refine .bind (inStep_authorize role) fun _ _ _ => ?_
  refine .bind (.check rfl _) fun _ _ _ => ?_
  refine inStep_maintain (·.restockPaper sheets) Reserve.paper ?_ fun r s => .paper
  exact fun r s hrs => K.restockPaper hrs sheets

theorem Machine.inStep_updateSoftware (role : Role) (version : Version) :
    Step.InStep (Progress.Like K L) Eq (m.updateSoftware role version)
      (n.updateSoftware role version) := by
  refine .of ?_ hmn
  refine .bind (inStep_authorize role) fun _ _ _ => ?_
  refine .bind .current fun p q hpq => ?_
  rw [hpq.machine.version]
  refine .bind (.check rfl _) fun _ _ _ => ?_
  refine .bind (.change fun _ _ h => { h with machine := { h.machine with version := rfl } })
    fun _ _ _ => ?_
  refine .bind (Progress.inStep_emit (.write (.version version))) fun _ _ _ => ?_
  exact .pure rfl

end Upkeep

/-! ### Steps on accounts -/

theorem Ledger.agree_get {l k : Ledger} {id : AccountId}
    (h : Option.Rel (Account.Like K) (l.find? id) (k.find? id)) :
    Agree (Account.Like K) (l.get id) (k.get id) := by
  rw [Ledger.get, Ledger.get]
  generalize l.find? id = a at h ⊢
  generalize k.find? id = b at h ⊢
  cases h with
  | none => exact .error _
  | some hab => exact .ok hab

namespace Ledger.Simulation

variable {reads reads' : Reads} {L : List AccountId → Ledger → Ledger → Prop}
  {ids : List AccountId} (h : Simulation K reads reads' L)

include h

/-- An account that is looked up in both machines belongs to those that are alike. -/
theorem inStep_account (id : AccountId) :
    Work.InStepTo (Progress.Like K (L ids)) (Progress.Like K (L (id :: ids))) (Account.Like K)
      (Progress.account reads id) (Progress.account reads' id) := by
  intro p q hpq
  have hmet : Work.Met _ _ (Account.Like K) (p.machine.load reads id)
      (q.machine.load reads' id) := h.load ids id p.machine q.machine hpq.machine.ledger
  have hp := grown_load p.machine reads id
  have hq := grown_load q.machine reads' id
  rw [Progress.run_account, Progress.run_account]
  generalize p.machine.load reads id = x at hmet hp ⊢
  generalize q.machine.load reads' id = y at hmet hq ⊢
  cases hmet with
  | ok hab hL => exact .ok hab ⟨hpq.machine.grown hp hq hL, hpq.effects⟩
  | error e hL => exact .error e ⟨hpq.machine.grown hp hq hL, hpq.effects⟩

/-- What follows a look-up may rely on the account's being alike in both machines. -/
theorem bind_account (id : AccountId) {f : Account → Work Progress α}
    {g : Account → Work Progress β}
    (hfg : ∀ a b, a.Like K b → Work.InStep (Progress.Like K (L (id :: ids))) V (f a) (g b)) :
    Work.InStep (Progress.Like K (L ids)) V (Progress.account reads id >>= f)
      (Progress.account reads' id >>= g) :=
  .bind_to (h.inStep_account id) (fun _ _ hpq => hpq.imp fun _ _ => h.weaken) hfg

theorem inStep_putBalance {id : AccountId} (hid : id ∈ ids) {x y : Decimal} (hxy : K.amount x y) :
    Work.InStep (Progress.Like K (L ids)) Eq (putBalance id x) (putBalance id y) :=
  .change fun _ _ hpq =>
    { hpq with
      machine := { hpq.machine with ledger := h.setBalance hxy hpq.machine.ledger hid } }

theorem inStep_move {source destination : AccountId} (hs : source ∈ ids) (hd : destination ∈ ids)
    {x y : Decimal} (hxy : K.amount x y) :
    Work.InStep (Progress.Like K (L ids)) (fun p q => p.1.Like K q.1 ∧ p.2.Like K q.2)
      (Progress.onLedger (Ledger.move source destination x))
      (Progress.onLedger (Ledger.move source destination y)) := by
  refine .focus (fun p q hpq => hpq.machine.ledger)
    (fun p q l k hpq hlk => { hpq with machine := { hpq.machine with ledger := hlk } }) ?_
  refine .bind (.check (by rw [isPositive_eq (K.rescaled hxy)]) _) fun _ _ _ => ?_
  refine .bind .current fun l k hlk => ?_
  refine .bind (.answer (Ledger.agree_get (h.find? hlk hs))) fun a b hab => ?_
  refine .bind .current fun l k hlk => ?_
  refine .bind (.answer (Ledger.agree_get (h.find? hlk hd))) fun c d hcd => ?_
  -- both pairs of accounts are alike, and all that follows depends on nothing else
  refine .bind (.answer (Account.agree_debited hab hxy)) fun _ _ _ => ?_
  refine .bind (.answer (Account.agree_credited hcd hxy)) fun _ _ _ => ?_
  refine .bind (.answer (Account.agree_debit hab hxy)) fun a' b' hab' => ?_
  refine .bind (.change fun l k hlk => h.setBalance hab'.balance hlk hs) fun _ _ _ => ?_
  refine .bind (.answer (Account.agree_credit hcd hxy)) fun c' d' hcd' => ?_
  refine .bind (.change fun l k hlk => h.setBalance hcd'.balance hlk hd) fun _ _ _ => ?_
  exact .pure ⟨hab', hcd'⟩

/-! ### Operations on accounts -/

section Operations

variable {stamp stamp' : Stamp} {x y : Decimal} (hmn : Progress.Like K (L []) ⟨m, []⟩ ⟨n, []⟩)

include hmn

theorem inStep_withdraw (hstamp : K.name stamp.id stamp'.id) (id : AccountId)
    (hxy : K.amount x y) :
    Step.InStep (Progress.Like K (L [])) (Transaction.Like K)
      (m.withdraw reads stamp id x) (n.withdraw reads' stamp' id y) := by
  refine .of ?_ hmn
  refine .bind (.answer (agree_checkAmount (K.rescaled hxy))) fun _ _ hx => ?_
  refine h.bind_account id fun a b hab => ?_
  refine .bind .current fun p q hpq => ?_
  refine .bind (.check (by simp only [hab.lt_iff (K.rescaled hxy)]) _) fun _ _ _ => ?_
  refine .bind (.check (Likeness.covers_eq hpq.machine.reserve (K.rescaled hxy)) _)
    fun _ _ _ => ?_
  refine .bind (.require (hpq.machine.plan?_eq hxy hx) _) ?_
  rintro plan _ rfl
  -- the accounts are alike, and both machines have the same plan
  refine .bind (.answer (Account.agree_debit hab hxy)) fun a' b' hab' => ?_
  refine .bind (h.inStep_putBalance List.mem_cons_self hab'.balance) fun _ _ _ => ?_
  refine .bind (.forM inStep_takeOut plan.entries) fun _ _ _ => ?_
  refine .bind (Progress.inStep_emit (.write (.account hab'))) fun _ _ _ => ?_
  refine .bind Progress.inStep_saveReserve fun _ _ _ => ?_
  have ht : (Transaction.withdrawal stamp id x).Like K (.withdrawal stamp' id y) :=
    ⟨hstamp, rfl, hxy, rfl, rfl⟩
  refine .bind (Progress.inStep_emit (.write (.transaction ht))) fun _ _ _ => ?_
  exact .pure ht

theorem inStep_deposit (hstamp : K.name stamp.id stamp'.id) (id : AccountId)
    (hxy : K.amount x y) :
    Step.InStep (Progress.Like K (L [])) (Transaction.Like K)
      (m.deposit reads stamp id x) (n.deposit reads' stamp' id y) := by
  refine .of ?_ hmn
  refine .bind (.answer (agree_checkAmount (K.rescaled hxy))) fun _ _ hx => ?_
  refine h.bind_account id fun a b hab => ?_
  refine .bind (.answer (Account.agree_credit hab hxy)) fun a' b' hab' => ?_
  refine .bind (h.inStep_putBalance List.mem_cons_self hab'.balance) fun _ _ _ => ?_
  refine .bind (Progress.inStep_emit (.write (.account hab'))) fun _ _ _ => ?_
  rw [absorbed_eq (K.rescaled hxy) hx]
  refine .bind (inStep_takeIn _) fun _ _ _ => ?_
  have ht : (Transaction.deposit stamp id x).Like K (.deposit stamp' id y) :=
    ⟨hstamp, rfl, hxy, rfl, rfl⟩
  refine .bind (Progress.inStep_emit (.write (.transaction ht))) fun _ _ _ => ?_
  exact .pure ht

theorem inStep_transfer (hstamp : K.name stamp.id stamp'.id) (source destination : AccountId)
    (hxy : K.amount x y) :
    Step.InStep (Progress.Like K (L [])) (Transaction.Like K)
      (m.transfer reads stamp source destination x)
      (n.transfer reads' stamp' source destination y) := by
  refine .of ?_ hmn
  refine .bind (.answer (agree_checkAmount (K.rescaled hxy))) fun _ _ _ => ?_
  refine .bind (.check rfl _) fun _ _ _ => ?_
  refine h.bind_account source fun _ _ _ => ?_
  refine h.bind_account destination fun _ _ _ => ?_
  have hsource : source ∈ [destination, source] := List.mem_cons_of_mem _ List.mem_cons_self
  refine .bind (h.inStep_move hsource List.mem_cons_self hxy) ?_
  rintro ⟨a, c⟩ ⟨b, d⟩ ⟨hab, hcd⟩
  refine .bind (Progress.inStep_emit (.write (.account hab))) fun _ _ _ => ?_
  refine .bind (Progress.inStep_emit (.write (.account hcd))) fun _ _ _ => ?_
  have ht : (Transaction.transfer stamp source destination x).Like K
      (.transfer stamp' source destination y) := ⟨hstamp, rfl, hxy, rfl, rfl⟩
  refine .bind (Progress.inStep_emit (.write (.transaction ht))) fun _ _ _ => ?_
  exact .pure ht

theorem inStep_balance (id : AccountId) :
    Step.InStep (Progress.Like K (L [])) K.amount (m.balance reads id) (n.balance reads' id) := by
  refine .of ?_ hmn
  refine h.bind_account id fun a b hab => ?_
  exact .pure hab.balance

theorem inStep_printBalance (hK : K.SameLevels) (id : AccountId) :
    Step.InStep (Progress.Like K (L [])) K.amount (m.printBalance reads id)
      (n.printBalance reads' id) := by
  refine .of ?_ hmn
  refine h.bind_account id fun a b hab => ?_
  refine .bind (inStep_payReceipt hK) fun _ _ _ => ?_
  refine .bind (Progress.inStep_emit (.print (.balance id hab.balance))) fun _ _ _ => ?_
  exact .pure hab.balance

/-- Where the stores answer alike when they are asked for a history, so do the machines. -/
theorem inStep_history (id : AccountId) {V : List Transaction → List Transaction → Prop}
    (hV : Agree V (ofStore (reads.history id)) (ofStore (reads'.history id))) :
    Step.InStep (Progress.Like K (L [])) V (m.history reads id) (n.history reads' id) := by
  refine .of ?_ hmn
  refine h.bind_account id fun _ _ _ => ?_
  exact .answer hV

/-- However the stores answer, the machines are left alike: a history is asked for after the same
look-up as a balance. -/
theorem like_history (id : AccountId) :
    Progress.Like K (L []) (m.history reads id).progress (n.history reads' id).progress := by
  have hbalance := (h.inStep_balance hmn id).progress
  rw [balance_eq, balance_eq] at hbalance
  rw [history_eq, history_eq]
  exact hbalance

omit h in
/-- Where the stores answer alike when they are asked for a transaction, so do the machines. -/
theorem inStep_transaction (id : TransactionId)
    (hV : Agree (Option.Rel (Transaction.Like K)) (ofStore (reads.transaction id))
      (ofStore (reads'.transaction id))) :
    Step.InStep (Progress.Like K (L [])) (Transaction.Like K) (m.transaction reads id)
      (n.transaction reads' id) := by
  refine .of ?_ hmn
  refine .bind (.answer hV) fun t u htu => ?_
  exact .require_of_rel htu _

/-! ### All operations -/

/-- The same requests, up to a likeness, are answered alike and leave the machines alike. -/
theorem inStep_perform {r q : Request} (hstamp : K.name stamp.id stamp'.id) (hrq : r.Like K q)
    (hopen : ∀ a, r ≠ .openAccount a) (hasks : r.asksTransactions = false)
    (hslip : r.asksForSlip = true → K.SameLevels) :
    Step.InStep (Progress.Like K (L [])) (Reply.Like K)
      (m.perform reads stamp r) (n.perform reads' stamp' q) := by
  cases hrq with
  | @openAccount a => exact absurd rfl (hopen a)
  | withdraw id hxy => exact (h.inStep_withdraw hmn hstamp id hxy).map fun _ _ => .committed
  | deposit id hxy => exact (h.inStep_deposit hmn hstamp id hxy).map fun _ _ => .committed
  | transfer source destination hxy =>
    exact (h.inStep_transfer hmn hstamp source destination hxy).map fun _ _ => .committed
  | balance id => exact (h.inStep_balance hmn id).map fun _ _ => .balance
  | history id => cases hasks
  | transaction => cases hasks
  | printReceipt ht => exact (inStep_printReceipt hmn (hslip rfl) ht).map fun _ _ _ => .printed
  | printBalance id => exact (h.inStep_printBalance hmn (hslip rfl) id).map fun _ _ => .balance
  | replenish role notes => exact (inStep_replenish hmn role notes).map fun _ _ => .reserve
  | refillInk role => exact (inStep_refillInk hmn role).map fun _ _ hij => hij
  | restockPaper role sheets => exact (inStep_restockPaper hmn role sheets).map fun _ _ hij => hij
  | updateSoftware role version =>
    refine (inStep_updateSoftware hmn role version).map ?_
    rintro p _ rfl
    exact .policy p

/-- Questions about transactions are answered alike where the stores answer them alike. -/
theorem inStep_ask {r q : Request} (hrq : r.Like K q) (hasks : r.asksTransactions = true)
    (hhistory : ∀ id, Agree (List.Forall₂ (Transaction.Like K)) (ofStore (reads.history id))
      (ofStore (reads'.history id)))
    (htransaction : ∀ id, K.name id id → Agree (Option.Rel (Transaction.Like K))
      (ofStore (reads.transaction id)) (ofStore (reads'.transaction id))) :
    Step.InStep (Progress.Like K (L [])) (Reply.Like K)
      (m.perform reads stamp r) (n.perform reads' stamp' q) := by
  cases hrq with
  | history id => exact (h.inStep_history hmn id (hhistory id)).map fun _ _ => .history
  | @transaction id hid =>
    exact (inStep_transaction hmn id (htransaction id hid)).map fun _ _ => .found
  | _ => cases hasks

/-- Questions about transactions may be answered in any way, but leave the machines alike. -/
theorem like_perform {r q : Request} (hstamp : K.name stamp.id stamp'.id) (hrq : r.Like K q)
    (hopen : ∀ a, r ≠ .openAccount a) (hslip : r.asksForSlip = true → K.SameLevels) :
    Progress.Like K (L []) (m.perform reads stamp r).progress
      (n.perform reads' stamp' q).progress := by
  cases hasks : r.asksTransactions with
  | false => exact (h.inStep_perform hmn hstamp hrq hopen hasks hslip).progress
  | true =>
    cases hrq with
    | history id => exact h.like_history hmn id
    | @transaction id =>
      rw [perform, perform, transaction_eq, transaction_eq n]
      exact hmn
    | _ => cases hasks

end Operations

end Ledger.Simulation

end CashMachine
