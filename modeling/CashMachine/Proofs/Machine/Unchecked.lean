/-
Nothing that the machine does breaks off.

Every operation is written here once more with all its unchecked steps (`Machine.perform?`): the
totals that are counted, the plan that is compared with the amount, debits and credits, the notes
that are taken out, what is asserted of the ink and of a transaction.  Operations without such steps
are as they were.

* `nonneg_of_account` — an account that is looked up is not negative;
* `withdraw?_eq`, `deposit?_eq`, `transfer?_eq` and so on — one operation, `perform?_eq` — all of
  them, from a sound ledger;
* `run?_eq` — a run of them, `build?_eq` — setting up;
* `built_never_breaks_off` — every state of every machine that can be set up.
-/
import CashMachine.Proofs.Machine.Soundness
import CashMachine.Proofs.Unchecked

namespace CashMachine

/-- What the work of a machine comes to, from its start, unless it breaks off. -/
def Step.of? {α : Type} (m : Machine) (w : Unchecked Progress α) : Option (Step α) := do
  let (answer, p) ← w ⟨m, []⟩
  pure ⟨answer, p.machine, p.effects⟩

theorem Step.of?_eq {α : Type} {m : Machine} {w' : Unchecked Progress α} {w : Work Progress α}
    (h : w'.Safe w ⟨m, []⟩) : Step.of? m w' = some (Step.of m w) := by
  rw [Step.of?, h]
  rfl

/-- Work on the ledger of the machine. -/
def Progress.onLedger? {α : Type} (w : Unchecked Ledger α) : Unchecked Progress α :=
  Unchecked.focus (fun p => p.machine.ledger)
    (fun p ledger => { p with machine := { p.machine with ledger } }) w

/-- A new transaction; that its amount is positive is asserted. -/
def Transaction.asserted? (t : Transaction) : Option Transaction :=
  if t.amount.isPositive then some t else none

theorem Transaction.asserted?_eq {t : Transaction} (h : 0 < t.amount.value) :
    t.asserted? = some t :=
  if_pos (Decimal.isPositive_iff.mpr h)

/-- A move from one account to another one. -/
def Ledger.move? (source destination : AccountId) (amount : Decimal) :
    Unchecked Ledger (Account × Account) := do
  Unchecked.check (source ≠ destination && amount.isPositive) .invalidAmount
  let a ← (← Unchecked.current).get source
  let b ← (← Unchecked.current).get destination
  let _ ← a.debited? amount
  let _ ← b.credited amount
  let a ← a.debit? amount
  Unchecked.change (·.setBalance source a.balance)
  let b ← b.credit? amount
  Unchecked.change (·.setBalance destination b.balance)
  pure (a, b)

namespace Machine

/-! ### Operations with their unchecked steps -/

/-- The dispenser's plan for an amount, if it sums to the amount and is held. -/
def fitting? (m : Machine) (amount : Decimal) : Option (Option Notes) :=
  match m.dispenser amount m.reserve.notes with
  | none => pure none
  | some plan => do
    let total ← plan.total?
    pure (if total.equals amount && plan.within m.reserve.notes then some plan else none)

def takeOut? (e : Denomination × Nat32) : Unchecked Progress Unit := do
  let reserve ← (← Unchecked.current).machine.reserve.remove? e.1 e.2
  Progress.changeReserve fun _ => reserve

def withdraw? (m : Machine) (reads : Reads) (stamp : Stamp) (id : AccountId) (amount : Decimal) :
    Option (Step Transaction) :=
  Step.of? m do
    checkAmount amount
    let a ← Progress.account reads id
    let m := (← Unchecked.current).machine
    Unchecked.check (¬ a.balance < amount) .insufficientFunds
    let cash ← m.reserve.notes.total?
    Unchecked.check (amount ≤ cash) (.unavailable .cash)
    let fitting ← m.fitting? amount
    let plan ← Unchecked.require fitting (.unavailable .exactSplit)
    let a ← a.debit? amount
    putBalance id a.balance
    plan.entries.forM takeOut?
    Progress.emit (.write (.account a))
    Progress.saveReserve
    let t ← (Transaction.withdrawal stamp id amount).asserted?
    Progress.emit (.write (.transaction t))
    pure t

def deposit? (m : Machine) (reads : Reads) (stamp : Stamp) (id : AccountId) (amount : Decimal) :
    Option (Step Transaction) :=
  Step.of? m do
    checkAmount amount
    let a ← Progress.account reads id
    let a ← a.credit? amount
    putBalance id a.balance
    Progress.emit (.write (.account a))
    let (notes, _) ← Dispenser.decompose? amount
    takeIn notes
    let t ← (Transaction.deposit stamp id amount).asserted?
    Progress.emit (.write (.transaction t))
    pure t

def transfer? (m : Machine) (reads : Reads) (stamp : Stamp) (source destination : AccountId)
    (amount : Decimal) : Option (Step Transaction) :=
  Step.of? m do
    checkAmount amount
    Unchecked.check (source ≠ destination) .invalidAmount
    let _ ← Progress.account reads source
    let _ ← Progress.account reads destination
    let (a, b) ← Progress.onLedger? (Ledger.move? source destination amount)
    Progress.emit (.write (.account a))
    Progress.emit (.write (.account b))
    let t ← (Transaction.transfer stamp source destination amount).asserted?
    Progress.emit (.write (.transaction t))
    pure t

def payReceipt? : Unchecked Progress Unit := do
  let reserve := (← Unchecked.current).machine.reserve
  match reserve.shortage? with
  | some what => throw (.unavailable what)
  | none => do
    let reserve ← reserve.consume?
    Progress.changeReserve fun _ => reserve
    Progress.saveReserve

def printReceipt? (m : Machine) (t : Transaction) : Option (Step Unit) :=
  Step.of? m do
    payReceipt?
    Progress.emit (.print (.transaction t))

def printBalance? (m : Machine) (reads : Reads) (id : AccountId) : Option (Step Decimal) :=
  Step.of? m do
    let a ← Progress.account reads id
    payReceipt?
    Progress.emit (.print (.balance id a.balance))
    pure a.balance

/-- Putting notes in; what was added and what there is then is counted. -/
def replenish? (m : Machine) (role : Role) (notes : Notes) : Option (Step Reserve) :=
  Step.of? m do
    authorize role
    Unchecked.check (!notes.isEmpty) .invalidAmount
    Progress.changeReserve (·.addAll notes)
    Progress.saveReserve
    let reserve := (← Unchecked.current).machine.reserve
    let _ ← notes.total?
    let _ ← reserve.notes.total?
    pure reserve

def refillInk? (m : Machine) (role : Role) : Option (Step Nat) :=
  Step.of? m do
    authorize role
    let reserve ← (← Unchecked.current).machine.reserve.setInk? Reserve.fullInk
    Progress.changeReserve fun _ => reserve
    Progress.saveReserve
    pure (← Unchecked.current).machine.reserve.ink

/-- The operation that a request asks for, unless it breaks off. -/
def perform? (m : Machine) (reads : Reads) (stamp : Stamp) : Request → Option (Step Reply)
  | .withdraw id amount => (m.withdraw? reads stamp id amount).map (·.map .committed)
  | .deposit id amount => (m.deposit? reads stamp id amount).map (·.map .committed)
  | .transfer source destination amount =>
    (m.transfer? reads stamp source destination amount).map (·.map .committed)
  | .printReceipt t => (m.printReceipt? t).map (·.map fun _ => .printed)
  | .printBalance id => (m.printBalance? reads id).map (·.map .balance)
  | .replenish role notes => (m.replenish? role notes).map (·.map .reserve)
  | .refillInk role => (m.refillInk? role).map (·.map .ink)
  | r => some (m.perform reads stamp r)

/-! ### None of them breaks off -/

variable {m : Machine}

theorem fitting?_eq (m : Machine) (amount : Decimal) :
    m.fitting? amount = some (m.plan? amount) := by
  rw [fitting?, plan?]
  cases m.dispenser amount m.reserve.notes with
  | none => rfl
  | some plan =>
    simp only [plan.total?_eq, Option.filter_some]
    rfl

theorem safe_takeOut? (e : Denomination × Nat32) (p : Progress) :
    (takeOut? e).Safe (takeOut e) p := by
  refine Unchecked.Safe.current ?_
  exact (p.machine.reserve.safe_remove? e.1 e.2 p).bind fun _ _ _ => rfl

theorem withdraw?_eq (m : Machine) (reads : Reads) (stamp : Stamp) (id : AccountId)
    (amount : Decimal) :
    m.withdraw? reads stamp id amount = some (m.withdraw reads stamp id amount) := by
  refine Step.of?_eq ?_
  refine Unchecked.Safe.lift fun _ hc => ?_
  have hpos := (checkAmount_eq_ok_iff.mp hc).1
  refine .after fun a p _ => ?_
  refine .current ?_
  refine .check fun _ => ?_
  refine .step p.machine.reserve.notes.total?_eq ?_
  refine .check fun _ => ?_
  -- whatever the dispenser plans, its total is in range
  refine .step (p.machine.fitting?_eq amount) ?_
  refine .require fun plan _ => ?_
  refine (a.safe_debit? amount p).bind fun _ _ _ => ?_
  refine .after fun _ q _ => ?_
  refine (Unchecked.Safe.forM safe_takeOut? plan.entries q).bind fun _ _ _ => ?_
  refine .after fun _ _ _ => ?_
  refine .after fun _ _ _ => ?_
  exact .step (Transaction.asserted?_eq hpos) rfl

/-- An account that is looked up is not negative, where no account of the ledger is. -/
theorem nonneg_of_account {reads : Reads} {id : AccountId} {p q : Progress} {a : Account}
    (hp : p.machine.ledger.Sound) (h : Progress.account reads id p = (.ok a, q)) :
    q.machine.ledger.Sound ∧ 0 ≤ a.balance.value := by
  rw [Progress.run_account, Prod.mk.injEq] at h
  obtain ⟨hload, rfl⟩ := h
  have hsound : (p.machine.load reads id).2.ledger.Sound := by
    obtain ⟨gained, hentries, hgained⟩ := (grown_load p.machine reads id).entries
    exact hp.append hentries fun e he => ⟨(hgained e he).1, (hgained e he).2.1⟩
  have hfind := (load_eq_ok (Prod.ext hload rfl)).1
  exact ⟨hsound, (hsound id a hfind).2⟩

theorem deposit?_eq (hm : m.ledger.Sound) (reads : Reads) (stamp : Stamp) (id : AccountId)
    (amount : Decimal) :
    m.deposit? reads stamp id amount = some (m.deposit reads stamp id amount) := by
  refine Step.of?_eq ?_
  refine Unchecked.Safe.lift fun _ hc => ?_
  have hpos := (checkAmount_eq_ok_iff.mp hc).1
  refine .after fun a p ha => ?_
  have hnonneg := (nonneg_of_account hm ha).2
  refine (a.safe_credit? amount p hnonneg).bind fun _ _ _ => ?_
  refine .after fun _ _ _ => ?_
  refine .after fun _ _ _ => ?_
  obtain ⟨rest, hrest, _⟩ := Dispenser.exists_decompose? amount
  refine .step hrest ?_
  refine .after fun _ _ _ => ?_
  exact .step (Transaction.asserted?_eq hpos) rfl

/-- A move is safe where no account is negative.  The credit is made to the account as it was found,
before the debit. -/
theorem safe_move? {l : Ledger} (hl : l.Sound) (source destination : AccountId)
    (amount : Decimal) :
    (Ledger.move? source destination amount).Safe (Ledger.move source destination amount) l := by
  refine Unchecked.Safe.check fun _ => ?_
  refine .current ?_
  refine .lift fun a _ => ?_
  refine .current ?_
  refine .lift fun b hb => ?_
  have hnonneg := (hl destination b (Ledger.get_eq_ok_iff.mp hb)).2
  refine (a.safe_debited? amount l).bind fun _ l₁ _ => ?_
  refine .lift fun _ _ => ?_
  refine (a.safe_debit? amount l₁).bind fun _ _ _ => ?_
  refine .after fun _ l₂ _ => ?_
  exact (b.safe_credit? amount l₂ hnonneg).bind fun _ _ _ => rfl

theorem transfer?_eq (hm : m.ledger.Sound) (reads : Reads) (stamp : Stamp)
    (source destination : AccountId) (amount : Decimal) :
    m.transfer? reads stamp source destination amount =
      some (m.transfer reads stamp source destination amount) := by
  refine Step.of?_eq ?_
  refine Unchecked.Safe.lift fun _ hc => ?_
  have hpos := (checkAmount_eq_ok_iff.mp hc).1
  refine .check fun _ => ?_
  refine .after fun _ p hsource => ?_
  refine .after fun _ q hdestination => ?_
  -- what the two look-ups have brought in is not negative either
  have hq := (nonneg_of_account (nonneg_of_account hm hsource).1 hdestination).1
  have hmove : (Progress.onLedger? (Ledger.move? source destination amount)).Safe
      (Progress.onLedger (Ledger.move source destination amount)) q := by
    refine Unchecked.Safe.focus ?_
    exact safe_move? hq source destination amount
  refine hmove.bind fun _ _ _ => ?_
  refine .after fun _ _ _ => ?_
  refine .after fun _ _ _ => ?_
  exact .step (Transaction.asserted?_eq hpos) rfl

theorem safe_payReceipt? (p : Progress) : payReceipt?.Safe payReceipt p := by
  refine Unchecked.Safe.current ?_
  cases hshort : p.machine.reserve.shortage? with
  | some what =>
    simp only [hshort]
    rfl
  | none =>
    simp only [hshort]
    exact .step p.machine.reserve.consume?_eq rfl

theorem printReceipt?_eq (m : Machine) (t : Transaction) :
    m.printReceipt? t = some (m.printReceipt t) :=
  Step.of?_eq ((safe_payReceipt? _).bind fun _ _ _ => rfl)

theorem printBalance?_eq (m : Machine) (reads : Reads) (id : AccountId) :
    m.printBalance? reads id = some (m.printBalance reads id) := by
  refine Step.of?_eq ?_
  refine Unchecked.Safe.after fun _ p _ => ?_
  exact (safe_payReceipt? p).bind fun _ _ _ => rfl

theorem replenish?_eq (m : Machine) (role : Role) (notes : Notes) :
    m.replenish? role notes = some (m.replenish role notes) := by
  refine Step.of?_eq ?_
  refine Unchecked.Safe.after fun _ _ _ => ?_
  refine .check fun _ => ?_
  refine .after fun _ _ _ => ?_
  refine .after fun _ p _ => ?_
  refine .current ?_
  refine .step notes.total?_eq ?_
  exact .step p.machine.reserve.notes.total?_eq rfl

theorem refillInk?_eq (m : Machine) (role : Role) :
    m.refillInk? role = some (m.refillInk role) := by
  refine Step.of?_eq ?_
  refine Unchecked.Safe.after fun _ p _ => ?_
  refine .look (.step (p.machine.reserve.setInk?_eq Reserve.fullInk) ?_)
  rfl

/-- Where no account of the ledger is negative, no operation breaks off, whatever it is asked for
and whatever the stores answer. -/
theorem perform?_eq (hm : m.ledger.Sound) (reads : Reads) (stamp : Stamp) (r : Request) :
    m.perform? reads stamp r = some (m.perform reads stamp r) := by
  cases r with
  | withdraw id amount => rw [perform?, m.withdraw?_eq]; rfl
  | deposit id amount => rw [perform?, deposit?_eq hm]; rfl
  | transfer source destination amount => rw [perform?, transfer?_eq hm]; rfl
  | printReceipt t => rw [perform?, m.printReceipt?_eq]; rfl
  | printBalance id => rw [perform?, m.printBalance?_eq]; rfl
  | replenish role notes => rw [perform?, m.replenish?_eq]; rfl
  | refillInk role => rw [perform?, m.refillInk?_eq]; rfl
  | _ => rfl

/-! ### Setting up, and runs -/

variable {σ : Type} {stores : Stores σ}

/-- Setting up; the cash that there is then is counted. -/
def build? (stores : Stores σ) (c : Configuration) : Unchecked σ Machine := do
  let m ← setup stores c
  let _ ← m.reserve.notes.total?
  pure m

theorem build?_eq (stores : Stores σ) (c : Configuration) (s : σ) :
    build? stores c s = some (build stores c s) := by
  have hbuild : setup stores c = setup stores c >>= pure := (bind_pure _).symm
  rw [build, hbuild]
  refine Unchecked.Safe.after fun m _ _ => ?_
  exact .step m.reserve.notes.total?_eq rfl

/-- The machine after operations in turn, unless one of them breaks off. -/
def run? (m : Machine) (visits : List Visit) : Option Machine :=
  visits.foldlM (fun m v => (m.perform? v.reads v.stamp v.request).map Step.machine) m

theorem run?_eq (hm : m.ledger.Sound) (visits : List Visit) :
    m.run? visits = some (m.run visits) := by
  induction visits generalizing m with
  | nil => rfl
  | cons v visits ih =>
    rw [run?, List.foldlM_cons, perform?_eq hm]
    exact ih (sound_visit hm v)

/-- Nothing breaks off, in any state that a machine can come to, whatever its dispenser plans,
whatever the stores answer and whatever it is asked for: not the setting up, no run of operations,
and no operation after it.  The total of notes, the walk that the greedy dispenser makes for its
plan, and the one that a deposit is taken in by, do not break off for any amount and any counts at
all.  All of them come to what they come to without their unchecked steps. -/
theorem built_never_breaks_off {c : Configuration} {s s' : σ}
    (h : build stores c s = (.ok m, s')) (visits : List Visit) :
    build? stores c s = some (.ok m, s') ∧
      m.run? visits = some (m.run visits) ∧
      (∀ v : Visit, (m.run visits).perform? v.reads v.stamp v.request =
        some ((m.run visits).perform v.reads v.stamp v.request)) ∧
      (∀ notes : Notes, notes.total? = some notes.total) ∧
      (∀ amount available,
        Dispenser.allocate? amount available = some (Dispenser.allocate amount available)) ∧
      ∀ amount, ∃ rest, Dispenser.decompose? amount = some (Dispenser.absorbed amount, rest) ∧
        Dispenser.untracked? amount = some rest := by
  have hsound := sound_build h
  refine ⟨?_, run?_eq hsound visits, fun v => ?_, Notes.total?_eq, Dispenser.allocate?_eq,
    Dispenser.exists_decompose?⟩
  · rw [build?_eq, h]
  · exact perform?_eq (sound_run hsound visits) v.reads v.stamp v.request

/-- All that is held is paid out, to the last note and the last cent, and a receipt is printed with
the last of the ink; what is asked for then is refused. -/
theorem built_never_breaks_off_emptied :
    let a : Account := ⟨"A", "Ada", .checking, .ofNat 60 (by decide)⟩
    let c : Configuration :=
      { reserve := ⟨⟨1, 0, 1, 0⟩, 1, 1, by decide⟩, accounts := [a] }
    let visit : Request → Visit := fun r => ⟨Memory.reads Memory.empty, ⟨"T", Instant.epoch⟩, r⟩
    let visits := [visit (.withdraw "A" (.ofNat 60 (by decide))), visit (.printBalance "A")]
    ∃ m s' step, build Memory.stores c Memory.empty = (.ok m, s') ∧
      m.run? visits = some (m.run visits) ∧ (m.run visits).reserve = Reserve.empty ∧
      (m.run visits).perform? (Memory.reads Memory.empty) ⟨"T", Instant.epoch⟩
        (.printBalance "A") = some step ∧
      step.answer = .error (.unavailable .ink) := by
  intro a c visit visits
  have hbuild : ∃ m s', build Memory.stores c Memory.empty = (.ok m, s') ∧
      (m.run visits).reserve = Reserve.empty ∧
      ((m.run visits).perform (Memory.reads Memory.empty) ⟨"T", Instant.epoch⟩
        (.printBalance "A")).answer = .error (.unavailable .ink) :=
    ⟨_, _, rfl, by decide +kernel, by decide +kernel⟩
  obtain ⟨m, s', hbuild, hempty, hanswer⟩ := hbuild
  obtain ⟨_, hrun, hperform, _⟩ := built_never_breaks_off hbuild visits
  exact ⟨m, s', _, hbuild, hrun, hempty, hperform (visit (.printBalance "A")), hanswer⟩

end Machine

end CashMachine
