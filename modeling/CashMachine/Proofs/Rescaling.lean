/-
Only the numbers of amounts matter.

Two machines with the greedy dispenser are run side by side.  They have the same accounts, but the
balances may be written with more or fewer fraction digits, and they are asked for the same, with
amounts that are the same numbers.  Then they do the same: sums are rounded, or fail, at the same
numbers (`Decimal.Rescaled.add?`), whatever scales the operands have come to.

The stores of the two are related in some way that writes keep, and answer alike where they are
related (`Stores.Like`); memory does so, as long as two transactions have the same name in one run
exactly when they have in the other one.

* `Likeness.numeric` — names as in some relation, amounts of the same number, and the same reserve;
* `Ledger.Like` — the two ledgers, `simulation_like` and `agree_openAccount` — how they stay alike;
* `Memory.like` — memories that are alike;
* `like_perform`, `like_run` — one request, and a run of them;
* `scales_never_matter` — what both machines then have and answer.
-/
import Mathlib.Logic.Relator
import CashMachine.Proofs.Machine.Congruence
import CashMachine.Proofs.Trail

namespace CashMachine

/-- Amounts are the same numbers, names are related as they may be, and nothing else differs. -/
def Likeness.numeric (names : TransactionId → TransactionId → Prop) : Likeness :=
  { restamped with
    name := names
    amount := Decimal.Rescaled
    dispenser := fun d e => d = Dispenser.greedy ∧ e = Dispenser.greedy
    rescaled := fun h => h
    add? := fun h h' => h.add? h'
    sub? := fun h h' => h.sub? h'
    plan_eq := by
      rintro d e x y ⟨rfl, rfl⟩ hxy hx notes
      have hunits : y.wholeUnits? = x.wholeUnits? := hxy.wholeUnits?_eq (hxy.negative_eq hx)
      rw [Dispenser.greedy, Dispenser.allocate, Dispenser.allocate, hunits] }

variable {K : Likeness}

/-! ### Ledgers -/

/-- The same accounts in the same order, with balances that are alike. -/
def Ledger.Like (K : Likeness) (l k : Ledger) : Prop :=
  List.Forall₂ (fun e f => f.1 = e.1 ∧ e.2.Like K f.2) l.entries k.entries

namespace Ledger.Like

variable {l k : Ledger}

theorem find? (h : Like K l k) (id : AccountId) :
    Option.Rel (Account.Like K) (l.find? id) (k.find? id) := by
  rw [Like] at h
  rw [Ledger.find?, Ledger.find?]
  generalize l.entries = es at h ⊢
  generalize k.entries = fs at h ⊢
  induction h with
  | nil => exact .none
  | @cons e f es fs hef _ ih =>
    rw [List.lookup_cons, List.lookup_cons, hef.1]
    cases id == e.1 with
    | true => exact .some hef.2
    | false => exact ih

theorem setBalance (h : Like K l k) (id : AccountId) {x y : Decimal} (hxy : K.amount x y) :
    Like K (l.setBalance id x) (k.setBalance id y) := by
  refine List.forall₂_map_left_iff.mpr (List.forall₂_map_right_iff.mpr (h.imp ?_))
  rintro ⟨_, a⟩ ⟨_, b⟩ ⟨rfl, hab⟩
  rw [rebalance, rebalance]
  split
  · exact ⟨rfl, hab.withBalance hxy⟩
  · exact ⟨rfl, hab⟩

/-- Accounts that are alike are both refused, both known, or both opened. -/
theorem agree_openAccount (h : Like K l k) {a b : Account} (hab : a.Like K b) :
    Agree (fun p q => Like K p.1 q.1 ∧ q.2 = p.2) (l.openAccount a) (k.openAccount b) := by
  have hnone := eq_none_iff_of_rel (h.find? a.id)
  rw [Ledger.openAccount, Ledger.openAccount, hab.isNegative_eq]
  split
  · exact .error _
  rename_i hn
  by_cases hf : l.find? a.id = none
  · rw [dif_pos hf, dif_pos (hab.id ▸ hnone.mpr hf)]
    refine .ok ⟨List.rel_append h (.cons ?_ .nil), rfl⟩
    have hb := hab.isNegative_eq.trans (Bool.eq_false_of_not_eq_true hn)
    rw [Account.opened_of_not_negative (Bool.eq_false_of_not_eq_true hn),
      Account.opened_of_not_negative hb]
    exact ⟨hab.id, hab⟩
  · rw [dif_neg hf, dif_neg fun hg => hf (hnone.mp (hab.id ▸ hg))]
    exact .ok ⟨h, rfl⟩

/-- What two stores answered with is refused by both ledgers, or comes into both. -/
theorem agree_enroll (h : Like K l k) (id : AccountId)
    {x y : Except StoreError (Option Account)}
    (hxy : Agree (Option.Rel (Account.Like K)) (Machine.ofStore x) (Machine.ofStore y)) :
    Agree (Like K) (Machine.enroll l id x) (Machine.enroll k id y) := by
  rcases x with e | a <;> rcases y with f | b
  · cases hxy
    exact .error _
  · cases hxy
  · cases hxy
  · cases hxy with
    | ok hab =>
      cases hab with
      | none => exact .error _
      | some hab => exact (h.agree_openAccount hab).map fun _ _ hlk => hlk.1

end Ledger.Like

/-- Over stores that answer alike, an account is found in both ledgers, or comes into both. -/
theorem Ledger.simulation_like {reads reads' : Reads}
    (hreads : ∀ id, Agree (Option.Rel (Account.Like K)) (Machine.ofStore (reads.account id))
      (Machine.ofStore (reads'.account id))) :
    Simulation K reads reads' fun _ => Like K where
  weaken h := h
  find? h _ := h.find? _
  setBalance hbc h _ := h.setBalance _ hbc
  load ids id m n h := by
    have h : m.ledger.Like K n.ledger := h
    show Work.Met _ _ (Account.Like K) (m.load reads id) (n.load reads' id)
    have hfind := h.find? id
    have henroll := h.agree_enroll id (hreads id)
    rw [Machine.load, Machine.load]
    generalize m.ledger.find? id = a at hfind ⊢
    generalize n.ledger.find? id = b at hfind ⊢
    cases hfind with
    | some hab => exact .ok hab h
    | none =>
      generalize Machine.enroll m.ledger id (reads.account id) = x at henroll ⊢
      generalize Machine.enroll n.ledger id (reads'.account id) = y at henroll ⊢
      cases henroll with
      | error e => exact .error e h
      | ok hlk => exact .of_agree (agree_get (hlk.find? id)) hlk hlk

theorem Machine.inStep_openAccount {m n : Machine}
    (hmn : Progress.Like K (Ledger.Like K) ⟨m, []⟩ ⟨n, []⟩) {a b : Account} (hab : a.Like K b) :
    Step.InStep (Progress.Like K (Ledger.Like K)) Eq (m.openAccount a) (n.openAccount b) := by
  refine .of ?_ hmn
  refine .bind .current fun p q hpq => ?_
  refine .bind (.answer (hpq.machine.ledger.agree_openAccount hab)) ?_
  rintro ⟨l, _⟩ ⟨k, isNew⟩ ⟨hlk, rfl⟩
  refine .bind (.change fun _ _ h => { h with machine := { h.machine with ledger := hlk } })
    fun _ _ _ => ?_
  cases isNew with
  | false => exact .pure rfl
  | true =>
    refine .bind .current fun p q hpq => ?_
    rw [hab.id]
    refine .bind (.answer (Ledger.agree_get (hpq.machine.ledger.find? a.id))) fun _ _ hopened => ?_
    refine .bind (Progress.inStep_emit (.write (.account hopened))) fun _ _ _ => ?_
    exact .pure rfl

/-! ### Stores -/

/-- Stores that are related stay so when both are given writes that are alike, and answer alike. -/
structure Stores.Like {σ τ : Type} (K : Likeness) (stores : Stores σ) (others : Stores τ)
    (R : σ → τ → Prop) : Prop where
  write : ∀ {s t w v}, R s t → w.Like K v → R (stores.write w s).2 (others.write v t).2
  account : ∀ {s t}, R s t → ∀ id, Agree (Option.Rel (Account.Like K))
    (Machine.ofStore ((stores.reads s).account id)) (Machine.ofStore ((others.reads t).account id))
  history : ∀ {s t}, R s t → ∀ id, Agree (List.Forall₂ (Transaction.Like K))
    (Machine.ofStore ((stores.reads s).history id)) (Machine.ofStore ((others.reads t).history id))
  transaction : ∀ {s t}, R s t → ∀ id, K.name id id → Agree (Option.Rel (Transaction.Like K))
    (Machine.ofStore ((stores.reads s).transaction id))
    (Machine.ofStore ((others.reads t).transaction id))

theorem Stores.Like.writeAll {σ τ : Type} {stores : Stores σ} {others : Stores τ}
    {R : σ → τ → Prop} (h : stores.Like K others R) {ws vs : List Write}
    (hws : List.Forall₂ (Write.Like K) ws vs) {s : σ} {t : τ} (hst : R s t) :
    R (stores.writeAll ws s) (others.writeAll vs t) := by
  induction hws generalizing s t with
  | nil => exact hst
  | cons hwv _ ih => exact ih (h.write hst hwv)

/-! ### Memory -/

theorem forall₂_find? {α β : Type} {V : α → β → Prop} {p : α → Bool} {q : β → Bool} {as : List α}
    {bs : List β} (h : List.Forall₂ V as bs) (hpq : ∀ a b, V a b → q b = p a) :
    Option.Rel V (as.find? p) (bs.find? q) := by
  induction h with
  | nil => exact .none
  | @cons a b _ _ hab _ ih =>
    rw [List.find?_cons, List.find?_cons, hpq a b hab]
    cases p a with
    | true => exact .some hab
    | false => exact ih

/-- Memories with the same accounts and transactions, in the same order, up to a likeness. -/
structure Memory.Like (K : Likeness) (s t : Memory) : Prop where
  accounts : List.Forall₂ (Account.Like K) s.accounts t.accounts
  log : List.Forall₂ (Transaction.Like K) s.trail.log t.trail.log

namespace Memory

theorem forall₂_put {as bs : List Account} {a b : Account}
    (h : List.Forall₂ (Account.Like K) as bs) (hab : a.Like K b) :
    List.Forall₂ (Account.Like K) (put as a) (put bs b) := by
  induction h with
  | nil => exact .cons hab .nil
  | cons hcd hrest ih =>
    rw [put, put, hcd.id, hab.id]
    split
    · exact .cons hab hrest
    · exact .cons hcd ih

/-- Where names are the same in one trail exactly when they are in the other one, a name is new to
both trails or to neither. -/
theorem rel_get (hK : Relator.BiUnique K.name) {s t : Memory} (h : s.Like K t)
    {id id' : TransactionId} (hid : K.name id id') :
    Option.Rel (Transaction.Like K) (s.trail.get id) (t.trail.get id') := by
  rw [AuditTrail.get_eq_find?, AuditTrail.get_eq_find?]
  refine forall₂_find? h.log fun x y hxy => ?_
  rw [decide_eq_decide]
  constructor
  · rintro rfl
    exact hK.1 hxy.name hid
  · rintro rfl
    exact hK.2 hxy.name hid

theorem like_append (hK : Relator.BiUnique K.name) {s t : Memory} (h : s.Like K t)
    {x y : Transaction} (hxy : x.Like K y) :
    (write (.transaction x) s).2.Like K (write (.transaction y) t).2 := by
  have hget := eq_none_iff_of_rel (rel_get hK h hxy.name)
  rw [write, write]
  by_cases hx : s.trail.get x.id = none
  · obtain ⟨_, hs, hslog⟩ := AuditTrail.push_of_new hx
    obtain ⟨_, ht, htlog⟩ := AuditTrail.push_of_new (hget.mpr hx)
    rw [hs, ht]
    refine { h with log := ?_ }
    rw [hslog, htlog]
    exact List.rel_append h.log (.cons hxy .nil)
  · rw [AuditTrail.push_eq_error_iff.mpr ⟨hx, rfl⟩,
      AuditTrail.push_eq_error_iff.mpr ⟨mt hget.mp hx, rfl⟩]
    exact h

/-- Memories that are alike stay so, and answer alike. -/
theorem like (hK : Relator.BiUnique K.name) : stores.Like K stores (Memory.Like K) where
  write := by
    rintro s t _ _ h (hab | hrs | v | hxy)
    · exact { h with accounts := forall₂_put h.accounts hab }
    · exact { h with }
    · exact { h with }
    · exact like_append hK h hxy
  account h id := .ok (forall₂_find? h.accounts fun a b hab => by rw [hab.id])
  history h id := by
    refine .ok (List.rel_filter ?_ h.log)
    intro x y hxy
    show x.involves id = true ↔ y.involves id = true
    rw [Transaction.involves_iff, Transaction.involves_iff, hxy.source, hxy.destination]
  transaction h id hid := .ok (rel_get hK h hid)

end Memory

/-! ### Requests and runs -/

namespace Session

variable {σ τ : Type} {stores : Stores σ} {others : Stores τ} {R : σ → τ → Prop} {s : Session σ}
  {t : Session τ}

/-- The machines are alike, and the stores are related. -/
structure Like (K : Likeness) (R : σ → τ → Prop) (s : Session σ) (t : Session τ) : Prop where
  machine : s.machine.Like K (Ledger.Like K) t.machine
  store : R s.store t.store

/-- The same answer and the same slips, up to a likeness, and sessions that are alike. -/
structure Result.Like (K : Likeness) (R : σ → τ → Prop) (x : Result σ) (y : Result τ) : Prop where
  answer : Agree (Reply.Like K) x.answer y.answer
  printed : List.Forall₂ (Printed.Like K) x.printed y.printed
  session : x.session.Like K R y.session

theorem like_perform (hstores : stores.Like K others R) (hK : K.SameLevels) (h : s.Like K R t)
    {stamp stamp' : Stamp} (hstamp : K.name stamp.id stamp'.id) {r q : Request}
    (hrq : r.Like K q) : (s.perform stores stamp r).Like K R (t.perform others stamp' q) := by
  have hmn : Progress.Like K (Ledger.Like K) ⟨s.machine, []⟩ ⟨t.machine, []⟩ := ⟨h.machine, .nil⟩
  have hledger := Ledger.simulation_like (hstores.account h.store)
  have hstep : Step.InStep (Progress.Like K (Ledger.Like K)) (Reply.Like K)
      (s.machine.perform (stores.reads s.store) stamp r)
      (t.machine.perform (others.reads t.store) stamp' q) := by
    by_cases hopen : ∃ a, r = .openAccount a
    · obtain ⟨a, rfl⟩ := hopen
      cases hrq with
      | openAccount hab =>
        refine (Machine.inStep_openAccount hmn hab).map ?_
        rintro isNew _ rfl
        exact .opened isNew
    · cases hasks : r.asksTransactions with
      | false =>
        exact hledger.inStep_perform hmn hstamp hrq (fun a ha => hopen ⟨a, ha⟩) hasks fun _ => hK
      | true =>
        exact hledger.inStep_ask hmn hrq hasks (hstores.history h.store)
          (hstores.transaction h.store)
  have hwrites := Effect.forall₂_writes hstep.progress.effects
  exact ⟨hstep.answer, Effect.forall₂_prints hstep.progress.effects, hstep.progress.machine,
    hstores.writeAll hwrites h.store⟩

theorem like_run (hstores : stores.Like K others R) (hK : K.SameLevels) (h : s.Like K R t)
    {rs qs : List (Stamp × Request)}
    (hrs : List.Forall₂ (fun r q => K.name r.1.id q.1.id ∧ r.2.Like K q.2) rs qs) :
    (s.run stores rs).Like K R (t.run others qs) := by
  induction hrs generalizing s t with
  | nil => exact h
  | cons hrq _ ih => exact ih (like_perform hstores hK h hrq.1 hrq.2).session

end Session

/-- Two machines with the greedy dispenser differ in how the balances of their accounts are written
and in nothing else, and so may their stores.  After any two runs of requests which differ in how
their amounts are written, they have the same reserve and version, and balances that are the same
numbers.  Every further request has the same reply in both, up to such differences, or fails with
the same error in both, and afterwards reserves and balances are as much alike as before. -/
theorem scales_never_matter {σ τ : Type} {stores : Stores σ} {others : Stores τ}
    {names : TransactionId → TransactionId → Prop} {R : σ → τ → Prop}
    (hstores : stores.Like (.numeric names) others R) {m n : Machine} {s₀ : σ} {t₀ : τ}
    (hstart : R s₀ t₀) (hledger : m.ledger.Like (.numeric names) n.ledger)
    (hreserve : n.reserve = m.reserve) (hversion : n.version = m.version)
    (hm : m.dispenser = Dispenser.greedy) (hn : n.dispenser = Dispenser.greedy)
    {rs qs : List (Stamp × Request)}
    (hrs : List.Forall₂ (fun r q => names r.1.id q.1.id ∧ r.2.Like (.numeric names) q.2) rs qs)
    {s : Session σ} {t : Session τ} (hs : Session.run stores ⟨m, s₀⟩ rs = s)
    (ht : Session.run others ⟨n, t₀⟩ qs = t) :
    t.machine.reserve = s.machine.reserve ∧ t.machine.version = s.machine.version ∧
      s.machine.ledger.Like (.numeric names) t.machine.ledger ∧
      ∀ (stamp stamp' : Stamp) (r q : Request), names stamp.id stamp'.id →
        r.Like (.numeric names) q →
          Agree (Reply.Like (.numeric names)) (s.perform stores stamp r).answer
              (t.perform others stamp' q).answer ∧
            List.Forall₂ (Printed.Like (.numeric names)) (s.perform stores stamp r).printed
              (t.perform others stamp' q).printed ∧
            (t.perform others stamp' q).session.machine.reserve =
              (s.perform stores stamp r).session.machine.reserve ∧
            (s.perform stores stamp r).session.machine.ledger.Like (.numeric names)
              (t.perform others stamp' q).session.machine.ledger := by
  have hK : (Likeness.numeric names).SameLevels := fun h => h
  have h₀ : Session.Like (.numeric names) R ⟨m, s₀⟩ ⟨n, t₀⟩ :=
    ⟨⟨hledger, hreserve, hversion, hm, hn⟩, hstart⟩
  have h : s.Like (.numeric names) R t := by
    rw [← hs, ← ht]
    exact Session.like_run hstores hK h₀ hrs
  refine ⟨h.machine.reserve, h.machine.version, h.machine.ledger, ?_⟩
  intro stamp stamp' r q hstamp hrq
  have hstep := Session.like_perform hstores hK h hstamp hrq
  exact ⟨hstep.answer, hstep.printed, hstep.session.machine.reserve, hstep.session.machine.ledger⟩

/-- Twenty out of a hundred, and five cents into an account that cannot keep them, each written with
more digits in the second run: the balances are the same numbers, the second one rounded in both
runs, and a deposit beyond the largest amount is refused in both. -/
theorem scales_never_matter_rounded :
    let whole (x : Decimal) : Account := ⟨"A", "Ada", .checking, x⟩
    let full : Account :=
      ⟨"B", "Bo", .savings, ⟨false, 79228162514264337593543950335, 1, by decide, by decide⟩⟩
    let notes : Notes := ⟨0, 2, 0, 0⟩
    let m : Machine :=
      ⟨"M", .greedy, { entries := [("A", whole (.ofNat 100 (by decide))), ("B", full)] },
        { Reserve.empty with notes }, ⟨1, 0⟩⟩
    let n : Machine :=
      { m with
        ledger :=
          { entries := [("A", whole ⟨false, 10000, 2, by decide, by decide⟩), ("B", full)] } }
    let stamp : Stamp := ⟨"T", Instant.epoch⟩
    let rs : List (Stamp × Request) := [(stamp, .withdraw "A" (.ofNat 20 (by decide))),
      (stamp, .deposit "B" ⟨false, 5, 2, by decide, by decide⟩)]
    let qs : List (Stamp × Request) :=
      [(stamp, .withdraw "A" ⟨false, 20000, 3, by decide, by decide⟩),
        (stamp, .deposit "B" ⟨false, 50, 3, by decide, by decide⟩)]
    let much : Request := .deposit "B" (.ofNat 79228162514264337593543950335 (by decide))
    ∃ s t, Session.run Memory.stores ⟨m, Memory.empty⟩ rs = s ∧
      Session.run Memory.stores ⟨n, Memory.empty⟩ qs = t ∧
      s.machine.ledger.find? "A" = some (whole (.ofNat 80 (by decide))) ∧
      t.machine.ledger.find? "A" = some (whole ⟨false, 80000, 3, by decide, by decide⟩) ∧
      s.machine.ledger.find? "B" =
        some { full with balance := .ofNat 7922816251426433759354395034 (by decide) } ∧
      t.machine.reserve.notes = ⟨0, 1, 0, 0⟩ ∧
      (∃ b, t.machine.ledger.find? "B" = some b ∧
        b.balance.value = 7922816251426433759354395034) ∧
      (t.perform Memory.stores stamp much).answer = .error .invalidAmount := by
  intro whole full notes m n stamp rs qs much
  have hnames : Relator.BiUnique (Likeness.numeric Eq).name :=
    ⟨fun _ _ _ h h' => h.trans h'.symm, fun _ _ _ h h' => h.symm.trans h'⟩
  have hnumber : ∀ {x y : Decimal}, y.equals x = true → x.Rescaled y :=
    Decimal.equals_iff_value_eq.mp
  have hledger : m.ledger.Like (.numeric Eq) n.ledger :=
    .cons ⟨rfl, rfl, rfl, rfl, hnumber (by decide)⟩ (.cons ⟨rfl, rfl, rfl, rfl, rfl⟩ .nil)
  have hrs : List.Forall₂ (fun r q : Stamp × Request => r.1.id = q.1.id ∧
      r.2.Like (.numeric Eq) q.2) rs qs :=
    .cons ⟨rfl, .withdraw "A" (hnumber (by decide))⟩
      (.cons ⟨rfl, .deposit "B" (hnumber (by decide))⟩ .nil)
  obtain ⟨s, hs, hsA, hsB, hsnotes, hsmuch⟩ :
      ∃ s, Session.run Memory.stores ⟨m, Memory.empty⟩ rs = s ∧
        s.machine.ledger.find? "A" = some (whole (.ofNat 80 (by decide))) ∧
        s.machine.ledger.find? "B" =
          some { full with balance := .ofNat 7922816251426433759354395034 (by decide) } ∧
        s.machine.reserve.notes = ⟨0, 1, 0, 0⟩ ∧
        (s.perform Memory.stores stamp much).answer = .error .invalidAmount :=
    ⟨_, rfl, by decide +kernel, by decide +kernel, by decide +kernel, by decide +kernel⟩
  obtain ⟨t, ht, htA⟩ : ∃ t, Session.run Memory.stores ⟨n, Memory.empty⟩ qs = t ∧
      t.machine.ledger.find? "A" = some (whole ⟨false, 80000, 3, by decide, by decide⟩) :=
    ⟨_, rfl, by decide +kernel⟩
  obtain ⟨hreserve, _, hbalances, hnext⟩ := scales_never_matter (Memory.like hnames)
    ⟨.nil, .nil⟩ hledger rfl rfl rfl rfl hrs hs ht
  obtain ⟨hanswer, _⟩ := hnext stamp stamp much much rfl (.deposit "B" rfl)
  have hB := hbalances.find? "B"
  rw [hsB] at hB
  rw [hsmuch] at hanswer
  refine ⟨s, t, hs, ht, hsA, htA, hsB, hreserve ▸ hsnotes, ?_, ?_⟩
  · generalize t.machine.ledger.find? "B" = found at hB ⊢
    cases hB with
    | some hab =>
      refine ⟨_, rfl, hab.balance.trans ?_⟩
      norm_num [Decimal.value, Decimal.ofNat, Decimal.coefficient, tenTo]
  · generalize (t.perform Memory.stores stamp much).answer = answer at hanswer ⊢
    cases hanswer
    rfl

end CashMachine
