/-
Accounts that are loaded only when they are asked for.

Two machines are run side by side over stores with the same accounts.  The second one has all of
these accounts in its ledger from the start, the first one only some of them, and looks up the
others when they are named.  It always finds what the second one has: an account that it has not
loaded yet has never been written since, so what is stored is still as the second one has it.

* `Ledger.LoadedFrom`, `congruence_loadedFrom` — the two ledgers on the way;
* `full_perform` — a ledger with all stored accounts, and how it stays so;
* `Session.Behind` — the two machines between requests, and their stores;
* `behind_perform`, `behind_run` — one request, and a run of them;
* `committed_perform`, `committed_run` — what the two commit;
* `Behind.answered` — what they answer;
* `lazy_loading_transparent` — what both machines then have and answer.
-/
import CashMachine.Proofs.Machine.Congruence
import CashMachine.Proofs.Memory
import CashMachine.Proofs.Reconciliation

namespace CashMachine

/-! ### Requests, replies and writes -/

/-- The request opens no account and asks for no transaction by its name. -/
def Request.isOrdinary : Request → Bool
  | .openAccount _ | .transaction _ => false
  | _ => true

theorem Request.ne_openAccount_of_isOrdinary {r : Request} (h : r.isOrdinary = true)
    (a : Account) : r ≠ .openAccount a := by
  rintro rfl
  cases h

theorem Request.Restamped.isOrdinary {r q : Request} (h : r.Restamped q) :
    q.isOrdinary = r.isOrdinary := by
  cases h <;> rfl

/-- The reply without the stamps of all transactions in it. -/
def Reply.bare : Reply → Reply
  | .history ts => .history (ts.map Transaction.unstamped)
  | a => a.unstamped

theorem Reply.bare_congr {a b : Reply} (h : b.unstamped = a.unstamped) : b.bare = a.bare := by
  have hbare : ∀ c : Reply, c.unstamped.bare = c.bare := by
    intro c
    cases c <;> rfl
  rw [← hbare b, h, hbare a]

theorem Write.transactions_unstamped (ws : List Write) :
    transactions (ws.map unstamped) = (transactions ws).map Transaction.unstamped :=
  filterMap_map_of_forall (fun w => by cases w <;> rfl) ws

theorem Write.unstamped_eq_account_iff {w : Write} {a : Account} :
    w.unstamped = .account a ↔ w = .account a := by
  cases w <;> simp [unstamped]

/-- The history of an account does not depend on stamps. -/
theorem AuditTrail.forAccount_unstamped {a b : AuditTrail}
    (h : b.log.map Transaction.unstamped = a.log.map Transaction.unstamped) (id : AccountId) :
    (b.forAccount id).map Transaction.unstamped = (a.forAccount id).map Transaction.unstamped := by
  have hfilter : ∀ ts : List Transaction,
      (ts.filter (·.involves id)).map Transaction.unstamped =
        (ts.map Transaction.unstamped).filter (·.involves id) := by
    intro ts
    rw [List.filter_map]
    rfl
  rw [forAccount, forAccount, hfilter, hfilter, h]

/-- Writes that are the same up to stamps change accounts in the same way. -/
theorem Stores.Shelved.writeAll_congr {σ : Type} {stores : Stores σ}
    {kept : σ → AccountId → Option Account} (h : stores.Shelved kept) {ws vs : List Write}
    (hws : vs.map Write.unstamped = ws.map Write.unstamped) {s t : σ} (hst : kept t = kept s) :
    kept (stores.writeAll vs t) = kept (stores.writeAll ws s) := by
  induction ws generalizing vs s t with
  | nil =>
    obtain rfl := List.map_eq_nil_iff.mp hws
    exact hst
  | cons w ws ih =>
    obtain ⟨v, vs, rfl, hv, hvs⟩ := List.map_eq_cons_iff.mp hws
    refine ih hvs ?_
    by_cases hw : ∃ a, w = .account a
    · obtain ⟨a, rfl⟩ := hw
      obtain rfl := Write.unstamped_eq_account_iff.mp hv
      funext id
      rw [h.put, h.put, hst]
    · have hw' : ∀ a, w ≠ .account a := fun a ha => hw ⟨a, ha⟩
      have hv' : ∀ a, v ≠ .account a := by
        rintro a rfl
        exact hw' a (Write.unstamped_eq_account_iff.mp hv.symm)
      rw [h.other s w hw', h.other t v hv', hst]

/-! ### Ledgers that are loaded from stores -/

/-- The second ledger has the accounts of the first one and otherwise those that are kept in the
stores, and the accounts of the row are in both. -/
structure Ledger.LoadedFrom (kept : AccountId → Option Account) (ids : List AccountId)
    (l k : Ledger) : Prop where
  find?_eq : ∀ id, k.find? id = (l.find? id).or (kept id)
  loaded : ∀ id ∈ ids, l.find? id ≠ none

namespace Ledger.LoadedFrom

variable {kept : AccountId → Option Account} {ids : List AccountId} {l k : Ledger}

theorem find?_of_some (h : LoadedFrom kept ids l k) {id : AccountId} {a : Account}
    (ha : l.find? id = some a) : k.find? id = some a := by
  rw [h.find?_eq, ha, Option.some_or]

theorem within (h : LoadedFrom kept ids l k) : l.Within k :=
  fun _ _ ha => h.find?_of_some ha

theorem cons (h : LoadedFrom kept ids l k) {id : AccountId} (hid : l.find? id ≠ none) :
    LoadedFrom kept (id :: ids) l k :=
  ⟨h.find?_eq, List.forall_mem_cons.mpr ⟨hid, h.loaded⟩⟩

/-- A stored account comes into the first ledger; the second one has it already. -/
theorem append (h : LoadedFrom kept ids l k) {l' : Ledger} {id : AccountId} {a : Account}
    (hl' : l'.entries = l.entries ++ [(id, a)]) (hl : l.find? id = none)
    (hk : k.find? id = some a) : LoadedFrom kept (id :: ids) l' k := by
  refine cons ⟨?_, ?_⟩ ?_
  · intro other
    rw [find?_append_one hl']
    by_cases hid : other = id
    · rw [if_pos hid, hid, hl, hk, Option.none_or, Option.some_or]
    · rw [if_neg hid, Option.or_none, h.find?_eq]
  · intro other hother
    obtain ⟨b, hb⟩ := Option.ne_none_iff_exists'.mp (h.loaded other hother)
    rw [find?_of_append hl' hb]
    exact Option.some_ne_none b
  · rw [find?_append_one hl', hl, if_pos rfl, Option.none_or]
    exact Option.some_ne_none a

/-- Had the first ledger not loaded the account, the new balance would be in one ledger only. -/
theorem setBalance (h : LoadedFrom kept ids l k) {id : AccountId} (hid : id ∈ ids)
    (b : Decimal) : LoadedFrom kept ids (l.setBalance id b) (k.setBalance id b) := by
  obtain ⟨a, ha⟩ := Option.ne_none_iff_exists'.mp (h.loaded id hid)
  refine ⟨?_, ?_⟩
  · intro other
    by_cases ho : other = id
    · rw [ho, find?_setBalance_self, find?_setBalance_self, h.find?_of_some ha, ha,
        Option.map_some, Option.some_or]
    · rw [find?_setBalance_of_ne _ b ho, find?_setBalance_of_ne _ b ho, h.find?_eq]
  · intro other hother
    rw [find?_setBalance, Ne, Option.map_eq_none_iff]
    exact h.loaded other hother

end Ledger.LoadedFrom

/-- Over stores that answer with kept accounts, a look-up finds the account in the ledger that has
all of them, and brings it into the other one if it is not there yet. -/
theorem Ledger.congruence_loadedFrom {kept : AccountId → Option Account} {reads reads' : Reads}
    (hreads : ∀ id, reads.account id = .ok (kept id))
    (hreads' : ∀ id, reads'.account id = .ok (kept id))
    (hkept : ∀ id a, kept id = some a → a.id = id ∧ 0 ≤ a.balance.value) :
    Congruence reads reads' (LoadedFrom kept) where
  weaken h := ⟨h.find?_eq, fun id hid => h.loaded id (List.mem_cons_of_mem _ hid)⟩
  find? h hid := by
    obtain ⟨a, ha⟩ := Option.ne_none_iff_exists'.mp (h.loaded _ hid)
    rw [h.find?_of_some ha, ha]
  setBalance b h hid := h.setBalance hid b
  load ids id m n h := by
    show Work.Met _ _ Eq (m.load reads id) (n.load reads' id)
    cases hf : m.ledger.find? id with
    | some a =>
      rw [Machine.load_of_find? hf, Machine.load_of_find? (h.find?_of_some hf)]
      exact .ok rfl (h.cons (hf ▸ Option.some_ne_none a))
    | none =>
      have hk := h.find?_eq id
      rw [hf, Option.none_or] at hk
      cases hstored : kept id with
      | none =>
        -- nobody has such an account
        rw [hstored] at hk
        rw [Machine.load_of_unknown hf (hstored ▸ hreads id),
          Machine.load_of_unknown hk (hstored ▸ hreads' id)]
        exact .error _ h
      | some a =>
        rw [hstored] at hk
        obtain ⟨rfl, hn⟩ := hkept id a hstored
        obtain ⟨l', hl', hload⟩ := Machine.load_of_stored hf (hstored ▸ hreads a.id)
          (Decimal.isNegative_eq_false_iff.mpr hn)
        rw [hload, Machine.load_of_find? hk]
        exact .ok rfl (h.append hl' hf hk)

/-! ### Ledgers with all stored accounts -/

/-- Where all stored accounts are in the ledger, look-ups bring in nothing. -/
theorem Machine.gather_of_full {m : Machine} {reads : Reads}
    (h : ∀ id, reads.account id = .ok (m.ledger.find? id)) (ids : List AccountId) :
    m.gather reads ids = m := by
  induction ids with
  | nil => rfl
  | cons id ids ih =>
    rw [gather]
    cases hf : m.ledger.find? id with
    | some a =>
      rw [load_of_find? hf]
      exact ih
    | none => rw [load_of_unknown hf (hf ▸ h id)]

namespace Session

variable {σ : Type} {stores : Stores σ} {kept : σ → AccountId → Option Account}
  {trail : σ → AuditTrail} {s t : Session σ}

/-- A ledger that is as the stores are stays so: what is changed in it is written. -/
theorem full_perform (hstores : stores.Shelved kept) (hnamed : s.machine.ledger.Named)
    (h : ∀ id, s.machine.ledger.find? id = kept s.store id) (stamp : Stamp) {r : Request}
    (hopen : ∀ a, r ≠ .openAccount a) (id : AccountId) :
    (s.perform stores stamp r).session.machine.ledger.find? id =
      kept (s.perform stores stamp r).session.store id := by
  have hreads : ∀ id, (stores.reads s.store).account id = .ok (s.machine.ledger.find? id) := by
    intro id
    rw [hstores.account, h]
  have hm : s.machine.admitted (stores.reads s.store) r = s.machine := by
    rw [Machine.admitted_eq_gather hopen, Machine.gather_of_full hreads]
  have houtcome := Machine.outcome_perform s.machine (stores.reads s.store) stamp r
  rw [hm] at houtcome
  refine ((houtcome.covers hnamed).find?_writeAll hstores ?_).symm
  intro hsame
  exact (h id).symm.trans hsame.symm

/-! ### Two machines over the same accounts -/

/-- The stores of both keep the same accounts.  The second machine has all of them, the first one
some of them, and nothing else of the machines differs. -/
structure Behind (kept : σ → AccountId → Option Account) (s t : Session σ) : Prop where
  kept_eq : kept t.store = kept s.store
  full : ∀ id, t.machine.ledger.find? id = kept t.store id
  sound : t.machine.ledger.Sound
  within : s.machine.ledger.Within t.machine.ledger
  reserve : t.machine.reserve = s.machine.reserve
  version : t.machine.version = s.machine.version
  dispenser : t.machine.dispenser = s.machine.dispenser

/-- What the two look up on the way of an operation keeps them in step. -/
theorem Behind.congruence (hstores : stores.Shelved kept) (h : Behind kept s t) :
    Ledger.Congruence (stores.reads s.store) (stores.reads t.store)
      (Ledger.LoadedFrom (kept s.store)) := by
  refine Ledger.congruence_loadedFrom (hstores.account s.store) ?_ ?_
  · intro id
    rw [hstores.account, h.kept_eq]
  · intro id a ha
    rw [← h.kept_eq, ← h.full] at ha
    exact h.sound id a ha

theorem Behind.along (h : Behind kept s t) :
    Progress.Along (Ledger.LoadedFrom (kept s.store) []) ⟨s.machine, []⟩ ⟨t.machine, []⟩ := by
  refine ⟨⟨?_, ?_⟩, h.reserve, h.version, h.dispenser, rfl⟩
  · intro id
    cases hf : s.machine.ledger.find? id with
    | some a => exact h.within id a hf
    | none => exact (h.full id).trans (congrFun h.kept_eq id)
  · intro id hid
    exact absurd hid List.not_mem_nil

variable {r q : Request}

theorem Behind.along_perform (hstores : stores.Shelved kept) (h : Behind kept s t)
    (stamp stamp' : Stamp) (hrq : r.Restamped q) (hr : r.isOrdinary = true) :
    Progress.Along (Ledger.LoadedFrom (kept s.store) [])
      (s.machine.perform (stores.reads s.store) stamp r).progress
      (t.machine.perform (stores.reads t.store) stamp' q).progress :=
  (h.congruence hstores).along_perform h.along hrq (Request.ne_openAccount_of_isOrdinary hr)

theorem behind_perform (hstores : stores.Shelved kept) (h : Behind kept s t)
    (stamp stamp' : Stamp) (hrq : r.Restamped q) (hr : r.isOrdinary = true) :
    Behind kept (s.perform stores stamp r).session (t.perform stores stamp' q).session := by
  have halong := h.along_perform hstores stamp stamp' hrq hr
  refine ⟨?_, ?_, ?_, halong.ledger.within, halong.reserve, halong.version, halong.dispenser⟩
  · exact hstores.writeAll_congr halong.writes h.kept_eq
  · have hq := Request.ne_openAccount_of_isOrdinary (hrq.isOrdinary.trans hr)
    exact full_perform hstores h.sound.named h.full stamp' hq
  · exact Machine.sound_visit h.sound ⟨stores.reads t.store, stamp', q⟩

theorem behind_run (hstores : stores.Shelved kept) (h : Behind kept s t)
    {rs qs : List (Stamp × Request)} (hrs : List.Forall₂ (fun r q => r.2.Restamped q.2) rs qs)
    (hordinary : ∀ r ∈ rs, r.2.isOrdinary = true) :
    Behind kept (s.run stores rs) (t.run stores qs) := by
  induction hrs generalizing s t with
  | nil => exact h
  | cons hrq _ ih =>
    rw [List.forall_mem_cons] at hordinary
    exact ih (behind_perform hstores h _ _ hrq hordinary.1) hordinary.2

/-! ### What they commit -/

theorem committed_perform (hstores : stores.Shelved kept) (h : Behind kept s t)
    {r q : Stamp × Request} (hrq : r.2.Restamped q.2) (hr : r.2.isOrdinary = true) :
    (t.committed stores q).map Transaction.unstamped =
      (s.committed stores r).map Transaction.unstamped := by
  have hwrites := (h.along_perform hstores r.1 q.1 hrq hr).writes
  have hs : s.committed stores r = Write.transactions _ :=
    (Machine.outcome_perform s.machine (stores.reads s.store) r.1 r.2).transactions.symm
  have ht : t.committed stores q = Write.transactions _ :=
    (Machine.outcome_perform t.machine (stores.reads t.store) q.1 q.2).transactions.symm
  rw [hs, ht, ← Write.transactions_unstamped, ← Write.transactions_unstamped]
  exact congrArg Write.transactions hwrites

theorem committed_run (hstores : stores.Shelved kept) (h : Behind kept s t)
    {rs qs : List (Stamp × Request)} (hrs : List.Forall₂ (fun r q => r.2.Restamped q.2) rs qs)
    (hordinary : ∀ r ∈ rs, r.2.isOrdinary = true) :
    (t.along stores (committed stores) qs).map Transaction.unstamped =
      (s.along stores (committed stores) rs).map Transaction.unstamped := by
  induction hrs generalizing s t with
  | nil => rfl
  | cons hrq _ ih =>
    rw [List.forall_mem_cons] at hordinary
    rw [along, along, List.map_append, List.map_append,
      committed_perform hstores h hrq hordinary.1,
      ih (behind_perform hstores h _ _ hrq hordinary.1) hordinary.2]

/-! ### What they answer -/

/-- The next request is answered alike and prints alike, where the trails are alike. -/
theorem Behind.answered (hstores : stores.Shelved kept) (haudited : stores.Audited trail)
    (h : Behind kept s t) (hlog : (trail t.store).log.map Transaction.unstamped =
      (trail s.store).log.map Transaction.unstamped) (stamp stamp' : Stamp)
    (hrq : r.Restamped q) (hr : r.isOrdinary = true) :
    Agree (fun a b : Reply => b.bare = a.bare) (s.perform stores stamp r).answer
      (t.perform stores stamp' q).answer := by
  cases hasks : r.asksTransactions with
  | false =>
    refine Agree.imp ?_ fun _ _ => Reply.bare_congr
    exact ((h.congruence hstores).inStep_perform h.along hrq
      (Request.ne_openAccount_of_isOrdinary hr) hasks).answer
  | true =>
    -- of the questions about transactions, only that for a history is an ordinary one
    cases r with
    | history id =>
      cases hrq
      have hhistory : Agree
          (fun ts us => us.map Transaction.unstamped = ts.map Transaction.unstamped)
          (Machine.ofStore ((stores.reads s.store).history id))
          (Machine.ofStore ((stores.reads t.store).history id)) := by
        rw [haudited.history, haudited.history]
        exact .ok (AuditTrail.forAccount_unstamped hlog id)
      have hstep := (h.congruence hstores).inStep_history h.along id hhistory
      exact hstep.answer.map fun _ _ hab => congrArg Reply.history hab
    | transaction id => cases hr
    | _ => cases hasks

end Session

/-- One machine has some accounts of the stores in its ledger, another one has all of them, and they
differ in nothing else.  After any two runs of the same ordinary requests, up to stamps and with
new names for all transactions, they have the same reserve and the same version, the stores have
the same accounts, every account of the first ledger is in the second one, and every further
ordinary request is answered alike and prints alike. -/
theorem lazy_loading_transparent {σ : Type} {stores : Stores σ}
    {kept : σ → AccountId → Option Account} {trail : σ → AuditTrail}
    (hstores : stores.Shelved kept) (haudited : stores.Audited trail) {m n : Machine} {s₀ : σ}
    (hkept : ∀ id a, kept s₀ id = some a → a.id = id ∧ 0 ≤ a.balance.value)
    (hm : ∀ id a, m.ledger.find? id = some a → kept s₀ id = some a)
    (hn : ∀ id, n.ledger.find? id = kept s₀ id) (hmn : n = { m with ledger := n.ledger })
    {rs qs : List (Stamp × Request)} (hrs : List.Forall₂ (fun r q => r.2.Restamped q.2) rs qs)
    (hordinary : ∀ r ∈ rs, r.2.isOrdinary = true)
    (hnew : (((trail s₀).log ++ Session.along stores (Session.committed stores) ⟨m, s₀⟩ rs).map
      Transaction.id).Nodup)
    (hnew' : (((trail s₀).log ++ Session.along stores (Session.committed stores) ⟨n, s₀⟩ qs).map
      Transaction.id).Nodup)
    {s t : Session σ} (hs : Session.run stores ⟨m, s₀⟩ rs = s)
    (ht : Session.run stores ⟨n, s₀⟩ qs = t) :
    t.machine.reserve = s.machine.reserve ∧ t.machine.version = s.machine.version ∧
      kept t.store = kept s.store ∧
      (∀ id a, s.machine.ledger.find? id = some a → t.machine.ledger.find? id = some a) ∧
      ∀ (stamp stamp' : Stamp) (r q : Request), r.Restamped q → r.isOrdinary = true →
        (t.perform stores stamp' q).answer.map Reply.bare =
            (s.perform stores stamp r).answer.map Reply.bare ∧
          (t.perform stores stamp' q).printed.map Printed.unstamped =
            (s.perform stores stamp r).printed.map Printed.unstamped := by
  have h₀ : Session.Behind kept ⟨m, s₀⟩ ⟨n, s₀⟩ := by
    refine ⟨rfl, hn, ?_, ?_, by rw [hmn], by rw [hmn], by rw [hmn]⟩
    · intro id a ha
      exact hkept id a ((hn id).symm.trans ha)
    · intro id a ha
      exact (hn id).trans (hm id a ha)
  have h : Session.Behind kept s t := by
    rw [← hs, ← ht]
    exact Session.behind_run hstores h₀ hrs hordinary
  have hlog : (trail t.store).log.map Transaction.unstamped =
      (trail s.store).log.map Transaction.unstamped := by
    rw [← hs, ← ht, Session.log_run haudited _ _ hnew', Session.log_run haudited _ _ hnew,
      List.map_append, List.map_append, Session.committed_run hstores h₀ hrs hordinary]
  refine ⟨h.reserve, h.version, h.kept_eq, h.within, ?_⟩
  intro stamp stamp' r q hrq hr
  exact ⟨(h.answered hstores haudited hlog stamp stamp' hrq hr).map_eq,
    (h.along_perform hstores stamp stamp' hrq hr).prints⟩

/-- A transfer by a machine that has loaded no account and by one that has loaded all three:
afterwards the first one has not loaded the third account yet, and both give the same history. -/
theorem lazy_loading_transparent_three :
    let a : Account := ⟨"A", "Ada", .checking, .ofNat 50 (by decide)⟩
    let b : Account := ⟨"B", "Bo", .savings, .ofNat 7 (by decide)⟩
    let c : Account := ⟨"C", "Cy", .savings, .ofNat 9 (by decide)⟩
    let memory : Memory := { Memory.empty with accounts := [a, b, c] }
    let m : Machine := ⟨"M", Dispenser.greedy, Ledger.empty, Reserve.empty, ⟨1, 0⟩⟩
    let n : Machine := { m with ledger := { entries := [("A", a), ("B", b), ("C", c)] } }
    let moved : Request := .transfer "A" "B" (.ofNat 5 (by decide))
    let stamp : Stamp := ⟨"T1", Instant.epoch⟩
    let stamp' : Stamp := ⟨"T2", Instant.epoch⟩
    ∃ s t, Session.run Memory.stores ⟨m, memory⟩ [(stamp, moved)] = s ∧
      Session.run Memory.stores ⟨n, memory⟩ [(stamp', moved)] = t ∧
      s.machine.ledger.find? "C" = none ∧ t.machine.ledger.find? "C" = some c ∧
      Memory.find? t.store.accounts = Memory.find? s.store.accounts ∧
      (s.perform Memory.stores stamp (.history "B")).answer =
        .ok (.history [.transfer stamp "A" "B" (.ofNat 5 (by decide))]) ∧
      (t.perform Memory.stores stamp' (.history "B")).answer.map Reply.bare =
        .ok (.history [.transfer ⟨"", Instant.epoch⟩ "A" "B" (.ofNat 5 (by decide))]) := by
  intro a b c memory m n moved stamp stamp'
  have hkept : ∀ id x, Memory.find? memory.accounts id = some x →
      x.id = id ∧ 0 ≤ x.balance.value := by
    intro id x hx
    refine ⟨Memory.id_of_find? hx, Decimal.isNegative_eq_false_iff.mp ?_⟩
    have hall : ∀ y ∈ memory.accounts, y.balance.isNegative = false := by decide
    exact hall x (List.mem_of_find?_eq_some hx)
  have hm : ∀ id x, m.ledger.find? id = some x → Memory.find? memory.accounts id = some x := by
    intro id x hx
    cases hx
  have hrs : List.Forall₂ (fun r q : Stamp × Request => r.2.Restamped q.2) [(stamp, moved)]
      [(stamp', moved)] := .cons (.same moved) .nil
  obtain ⟨_, _, hstores, _, hanswers⟩ := lazy_loading_transparent Memory.shelved Memory.audited
    hkept hm (Memory.lookup_map_id memory.accounts) (n := n) rfl hrs (by decide)
    (by decide +kernel) (by decide +kernel) rfl rfl
  obtain ⟨hhistory, _⟩ := hanswers stamp stamp' (.history "B") (.history "B") (.same _) rfl
  have hfirst : (Session.run Memory.stores ⟨m, memory⟩ [(stamp, moved)]).machine.ledger.find? "C" =
      none := by decide +kernel
  have hsecond : (Session.run Memory.stores ⟨n, memory⟩ [(stamp', moved)]).machine.ledger.find?
      "C" = some c := by decide +kernel
  have hanswer : ((Session.run Memory.stores ⟨m, memory⟩ [(stamp, moved)]).perform Memory.stores
      stamp (.history "B")).answer =
        .ok (.history [.transfer stamp "A" "B" (.ofNat 5 (by decide))]) := by decide +kernel
  rw [hanswer] at hhistory
  exact ⟨_, _, rfl, rfl, hfirst, hsecond, hstores, hanswer, hhistory⟩

end CashMachine
