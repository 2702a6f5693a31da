/-
The accounts of a machine, over all its runs.

Accounts come into the ledger on four ways: from the configuration or a store when the machine
is set up, from a store when they are looked up, and when they are opened.  None of them lets an
account in under another name than its own, or with a negative balance, whatever the stores
answer (`Ledger.Sound`).  Afterwards an account stays, with its owner and its kind, and only the
operations that name it change its balance.

* `sound_build` — the machine that is set up;
* `Outcome.sound`, `Outcome.find?` — one operation;
* `sound_run`, `find?_run` — a run of them, each over stores of any state;
* `built_run_sound` — all of it, for every machine that can be reached.
-/
import CashMachine.Machine.Build
import CashMachine.Proofs.Machine.Perform
import CashMachine.Store.Memory

namespace CashMachine

/-- The accounts whose balances an operation is asked to change. -/
def Request.named : Request → List AccountId
  | .withdraw id _ | .deposit id _ => [id]
  | .transfer source destination _ => [source, destination]
  | _ => []

/-! ### Sound ledgers -/

/-- Every account is under its own name and has a balance that is not negative. -/
def Ledger.Sound (l : Ledger) : Prop :=
  ∀ id a, l.find? id = some a → a.id = id ∧ 0 ≤ a.balance.value

namespace Ledger.Sound

variable {l k : Ledger}

theorem empty : Ledger.empty.Sound := by
  intro id a h
  cases h

theorem append {gained : List (AccountId × Account)} (h : l.Sound)
    (hk : k.entries = l.entries ++ gained)
    (hg : ∀ e ∈ gained, e.1 = e.2.id ∧ e.2.balance.isNegative = false) : k.Sound := by
  intro id a ha
  rw [find?_append hk, Option.or_eq_some_iff] at ha
  rcases ha with ha | ⟨_, ha⟩
  · exact h id a ha
  · obtain ⟨hid, hn⟩ := hg _ (mem_of_lookup ha)
    exact ⟨hid.symm, Decimal.isNegative_eq_false_iff.mp hn⟩

theorem openAccount {a : Account} {isNew : Bool} (h : l.Sound)
    (hk : l.openAccount a = .ok (k, isNew)) : k.Sound := by
  obtain ⟨rfl, _⟩ | ⟨hk, hn, _⟩ := openAccount_eq_ok hk
  · exact h
  · refine h.append hk ?_
    intro e he
    rw [List.mem_singleton] at he
    subst he
    exact ⟨rfl, hn⟩

theorem setBalance {id : AccountId} {b : Decimal} (h : l.Sound) (hb : 0 ≤ b.value) :
    (l.setBalance id b).Sound := by
  intro other a ha
  rw [find?_setBalance, Option.map_eq_some_iff] at ha
  obtain ⟨a₀, ha₀, rfl⟩ := ha
  obtain ⟨hid, hn⟩ := h other a₀ ha₀
  by_cases ho : other = id
  · rw [if_pos ho]
    exact ⟨hid, hb⟩
  · rw [if_neg ho]
    exact ⟨hid, hn⟩

end Ledger.Sound

namespace Machine

variable {σ : Type} {stores : Stores σ} {m : Machine} {reads : Reads} {stamp : Stamp}
  {r : Request}

/-! ### Setting up -/

theorem ofStore_eq_ok_iff {α : Type} {x : Except StoreError α} {a : α} :
    ofStore x = .ok a ↔ x = .ok a := by
  cases x with
  | error e => simp [ofStore]
  | ok b => simp [ofStore]

theorem ofStore_eq_error_iff {α : Type} {x : Except StoreError α} {e : Error} :
    ofStore x = .error e ↔ ∃ e', x = .error e' ∧ e = .storage e' := by
  cases x with
  | error e' => simp [ofStore, eq_comm]
  | ok a => simp [ofStore]

/-- The reserve is the one that is saved, or else the configured one, which is written. -/
theorem openReserve_eq_ok {c : Configuration} {r : Reserve} {s t : σ}
    (h : openReserve stores c s = (.ok r, t)) :
    (stores.reads s).reserve = .ok (some r) ∧ t = s ∨
      (stores.reads s).reserve = .ok none ∧ r = c.reserve ∧
        stores.write (.reserve c.reserve) s = (.ok (), t) := by
  obtain ⟨found, s', hask, h⟩ := Work.exists_of_bind_eq_ok h
  rw [ask, Prod.mk.injEq, ofStore_eq_ok_iff] at hask
  obtain ⟨hread, rfl⟩ := hask
  rcases found with _ | saved
  · obtain ⟨_, s', hkeep, h⟩ := Work.exists_of_bind_eq_ok h
    rw [keep, Prod.mk.injEq, ofStore_eq_ok_iff] at hkeep
    cases h
    exact .inr ⟨hread, rfl, Prod.ext hkeep.1 hkeep.2⟩
  · cases h
    exact .inl ⟨hread, rfl⟩

/-- Looking for a version changes nothing, however it ends. -/
theorem openVersion_snd (stores : Stores σ) (c : Configuration) (s : σ) :
    (openVersion stores c s).2 = s := by
  rcases hv : (stores.reads s).version with e | _ | v
  all_goals simp [openVersion, ask, hv, ofStore]

/-- An account that is stored comes in as the store answered with it, whatever that is; one that
is not stored is opened and written. -/
theorem provide_eq_ok {l k : Ledger} {a : Account} {s t : σ}
    (h : provide stores l a s = (.ok k, t)) :
    (∃ stored isNew, (stores.reads s).account a.id = .ok (some stored) ∧
        l.openAccount stored = .ok (k, isNew) ∧ t = s) ∨
      ∃ isNew, (stores.reads s).account a.id = .ok none ∧ l.openAccount a = .ok (k, isNew) ∧
        stores.write (.account a) s = (.ok (), t) := by
  obtain ⟨found, s', hask, h⟩ := Work.exists_of_bind_eq_ok h
  rw [ask, Prod.mk.injEq, ofStore_eq_ok_iff] at hask
  obtain ⟨hread, rfl⟩ := hask
  rcases found with _ | stored
  · obtain ⟨⟨l', isNew⟩, s', ho, h⟩ := Work.exists_of_bind_eq_ok h
    rw [Work.run_lift, Prod.mk.injEq] at ho
    obtain ⟨ho, rfl⟩ := ho
    obtain ⟨_, s', hkeep, h⟩ := Work.exists_of_bind_eq_ok h
    rw [keep, Prod.mk.injEq, ofStore_eq_ok_iff] at hkeep
    cases h
    exact .inr ⟨isNew, hread, ho, Prod.ext hkeep.1 hkeep.2⟩
  · obtain ⟨⟨l', isNew⟩, s', ho, h⟩ := Work.exists_of_bind_eq_ok h
    rw [Work.run_lift, Prod.mk.injEq] at ho
    obtain ⟨ho, rfl⟩ := ho
    cases h
    exact .inl ⟨stored, isNew, hread, ho, rfl⟩

/-- What providing one account keeps, of the ledger and the stores, providing all of them keeps. -/
theorem foldlM_provide_keeps {P : Ledger → σ → Prop}
    (hstep : ∀ {l k a s t}, P l s → provide stores l a s = (.ok k, t) → P k t)
    {accounts : List Account} {l k : Ledger} {s t : σ} (hl : P l s)
    (h : accounts.foldlM (provide stores) l s = (.ok k, t)) : P k t := by
  induction accounts generalizing l s with
  | nil =>
    cases h
    exact hl
  | cons a accounts ih =>
    rw [List.foldlM_cons] at h
    obtain ⟨l', s', hp, h⟩ := Work.exists_of_bind_eq_ok h
    exact ih (hstep hl hp) h

theorem sound_provide {l k : Ledger} {a : Account} {s s' : σ} (hl : l.Sound)
    (h : provide stores l a s = (.ok k, s')) : k.Sound := by
  obtain ⟨stored, isNew, _, ho, _⟩ | ⟨isNew, _, ho, _⟩ := provide_eq_ok h
  · exact hl.openAccount ho
  · exact hl.openAccount ho

theorem sound_build {c : Configuration} {s s' : σ} (h : build stores c s = (.ok m, s')) :
    m.ledger.Sound := by
  obtain ⟨reserve, t, _, h⟩ := Work.exists_of_bind_eq_ok h
  obtain ⟨version, t', _, h⟩ := Work.exists_of_bind_eq_ok h
  obtain ⟨ledger, t'', hf, h⟩ := Work.exists_of_bind_eq_ok h
  cases h
  exact foldlM_provide_keeps (P := fun l _ => l.Sound) sound_provide .empty hf

/-! ### One operation -/

theorem sound_admitted (h : m.ledger.Sound) (reads : Reads) (r : Request) :
    (m.admitted reads r).ledger.Sound := by
  obtain ⟨gained, hentries, hgained⟩ := exists_entries_admitted m reads r
  exact h.append hentries hgained

theorem find?_admitted {id : AccountId} {a : Account} (h : m.ledger.find? id = some a)
    (reads : Reads) (r : Request) : (m.admitted reads r).ledger.find? id = some a := by
  obtain ⟨gained, hentries, _⟩ := exists_entries_admitted m reads r
  exact Ledger.find?_of_append hentries h

theorem Outcome.names (h : Outcome reads stamp m r s) :
    s.machine.ledger.entries.map Prod.fst = m.ledger.entries.map Prod.fst := by
  cases h with
  | withdrawn => exact m.ledger.names_setBalance _ _
  | deposited => exact m.ledger.names_setBalance _ _
  | transferred =>
    exact (Ledger.names_setBalance _ _ _).trans (m.ledger.names_setBalance _ _)
  | _ => rfl

/-- What is left after a debit is not negative, and a credit leaves more than there was; both
after rounding. -/
theorem Outcome.sound {s : Step Reply} (h : Outcome reads stamp m r s) (hm : m.ledger.Sound) :
    s.machine.ledger.Sound := by
  cases h with
  | withdrawn hc ha hle hp hb =>
    exact hm.setBalance ((Decimal.isRounding_sub? hb).nonneg (sub_nonneg.mpr hle))
  | deposited hc ha hb =>
    have hpos := (checkAmount_eq_ok_iff.mp hc).1
    exact hm.setBalance ((Decimal.isRounding_add? hb).nonneg
      (add_nonneg (hm _ _ ha).2 hpos.le))
  | transferred hc hne ha hb hle hx hy =>
    have hpos := (checkAmount_eq_ok_iff.mp hc).1
    have hx0 := (Decimal.isRounding_sub? hx).nonneg (sub_nonneg.mpr hle)
    have hy0 := (Decimal.isRounding_add? hy).nonneg (add_nonneg (hm _ _ hb).2 hpos.le)
    exact (hm.setBalance hx0).setBalance hy0
  | _ => exact hm

/-- An account stays, and only its balance can be another one: that of an account which the
operation names. -/
theorem Outcome.find? {s : Step Reply} (h : Outcome reads stamp m r s) {id : AccountId}
    {a : Account} (ha : m.ledger.find? id = some a) :
    ∃ b, s.machine.ledger.find? id = some { a with balance := b } ∧
      (id ∉ r.named → b = a.balance) := by
  cases h with
  | @withdrawn other _ b _ _ hc ho hle hp hb =>
    obtain ⟨c, hfind, hother⟩ := m.ledger.exists_find?_setBalance ha other b
    exact ⟨c, hfind, fun hn => hother (List.ne_of_not_mem_cons hn)⟩
  | @deposited other _ b _ hc ho hb =>
    obtain ⟨c, hfind, hother⟩ := m.ledger.exists_find?_setBalance ha other b
    exact ⟨c, hfind, fun hn => hother (List.ne_of_not_mem_cons hn)⟩
  | @transferred source destination _ x y _ _ hc hne hs hd hle hx hy =>
    obtain ⟨c, hfind, hsource⟩ := m.ledger.exists_find?_setBalance ha source x
    -- the destination is looked up in the ledger that has the new balance of the source
    obtain ⟨d, hfind', hdestination⟩ := Ledger.exists_find?_setBalance _ hfind destination y
    refine ⟨d, hfind', fun hn => ?_⟩
    have hn' := List.not_mem_of_not_mem_cons hn
    rw [hdestination (List.ne_of_not_mem_cons hn')]
    exact hsource (List.ne_of_not_mem_cons hn)
  | _ => exact ⟨a.balance, ha, fun _ => rfl⟩

/-- An account that is there after an operation was there before it, but for its balance. -/
theorem Outcome.exists_find?_before {s : Step Reply} (h : Outcome reads stamp m r s)
    {id : AccountId} {a : Account} (ha : s.machine.ledger.find? id = some a) :
    ∃ a₀ b, m.ledger.find? id = some a₀ ∧ a = { a₀ with balance := b } := by
  have hne : m.ledger.find? id ≠ none := by
    rw [Ne, ← Ledger.find?_eq_none_congr h.names, ha]
    exact Option.some_ne_none a
  obtain ⟨a₀, ha₀⟩ := Option.ne_none_iff_exists'.mp hne
  obtain ⟨b, hb, _⟩ := h.find? ha₀
  exact ⟨a₀, b, ha₀, Option.some_inj.mp (ha.symm.trans hb)⟩

/-! ### Runs -/

/-- An operation that is asked for, and what the stores answer at that moment. -/
structure Visit where
  reads : Reads
  stamp : Stamp
  request : Request

/-- The machine after an operation. -/
def visit (m : Machine) (v : Visit) : Machine :=
  (m.perform v.reads v.stamp v.request).machine

/-- The machine after operations in turn, each over stores in any state. -/
def run (m : Machine) (visits : List Visit) : Machine :=
  visits.foldl visit m

theorem sound_visit (h : m.ledger.Sound) (v : Visit) : (m.visit v).ledger.Sound :=
  (outcome_perform m v.reads v.stamp v.request).sound (sound_admitted h v.reads v.request)

theorem find?_visit {id : AccountId} {a : Account} (h : m.ledger.find? id = some a) (v : Visit) :
    ∃ b, (m.visit v).ledger.find? id = some { a with balance := b } ∧
      (id ∉ v.request.named → b = a.balance) :=
  (outcome_perform m v.reads v.stamp v.request).find? (find?_admitted h v.reads v.request)

theorem sound_run (h : m.ledger.Sound) (visits : List Visit) : (m.run visits).ledger.Sound := by
  induction visits generalizing m with
  | nil => exact h
  | cons v visits ih => exact ih (sound_visit h v)

theorem find?_run {id : AccountId} {a : Account} (h : m.ledger.find? id = some a)
    (visits : List Visit) :
    ∃ b, (m.run visits).ledger.find? id = some { a with balance := b } := by
  induction visits generalizing m a with
  | nil => exact ⟨a.balance, h⟩
  | cons v visits ih =>
    obtain ⟨b, hb, _⟩ := find?_visit h v
    obtain ⟨c, hc⟩ := ih hb
    exact ⟨c, hc⟩

/-- In every state that a machine can come to, over stores that may answer anything: every
account is under its own name with a balance that is not negative; it stays from then on, with
its owner and its kind; and the next operation changes it only where it names it. -/
theorem built_run_sound {c : Configuration} {s s' : σ} (h : build stores c s = (.ok m, s'))
    (visits : List Visit) :
    (∀ id a, (m.run visits).ledger.find? id = some a → a.id = id ∧ 0 ≤ a.balance.value) ∧
      (∀ later id a, (m.run visits).ledger.find? id = some a →
        ∃ b, (m.run (visits ++ later)).ledger.find? id = some b ∧
          b.owner = a.owner ∧ b.kind = a.kind) ∧
      ∀ (v : Visit) id a, (m.run visits).ledger.find? id = some a → id ∉ v.request.named →
        (m.run (visits ++ [v])).ledger.find? id = some a := by
  refine ⟨sound_run (sound_build h) visits, ?_, ?_⟩
  · -- the later operations are a run of their own, from where the first ones have led
    intro later id a ha
    obtain ⟨b, hb⟩ := find?_run ha later
    rw [run, List.foldl_append]
    exact ⟨_, hb, rfl, rfl⟩
  · intro v id a ha hn
    obtain ⟨b, hb, heq⟩ := find?_visit ha v
    rw [heq hn] at hb
    rw [run, List.foldl_append]
    exact hb

/-- A machine with one account, over a store that answers every look-up with another one: asking
for `C` brings `B` into the ledger, under its own name. -/
theorem built_run_sound_misled :
    let a : Account := ⟨"A", "Ada", .checking, .ofNat 5 (by decide)⟩
    let b : Account := ⟨"B", "Bo", .savings, .ofNat 7 (by decide)⟩
    let misled : Reads := { Memory.reads Memory.empty with account := fun _ => .ok (some b) }
    let visits : List Visit := [⟨misled, ⟨"T", Instant.epoch⟩, .balance "C"⟩]
    ∃ m s, build Memory.stores { accounts := [a] } Memory.empty = (.ok m, s) ∧
      (m.run visits).ledger.accounts = [a, b] ∧
      ∀ id x, (m.run visits).ledger.find? id = some x → x.id = id ∧ 0 ≤ x.balance.value := by
  intro a b misled visits
  have h : ∃ m s, build Memory.stores { accounts := [a] } Memory.empty = (.ok m, s) ∧
      (m.run visits).ledger.accounts = [a, b] := ⟨_, _, rfl, by decide +kernel⟩
  obtain ⟨m, s, hbuild, haccounts⟩ := h
  exact ⟨m, s, hbuild, haccounts, (built_run_sound hbuild visits).1⟩

end Machine

end CashMachine
