/-
Who changes a machine, over all its runs.

Maintenance is answered for technicians only, and only while the software that is installed at
that moment allows it.  The software is itself changed by maintenance, so a machine that was set
up with software that does not allow it stays with that software: nothing but use then changes
its ink and its paper, and nothing but deposits brings notes in.

* `Outcome.permitted`, `Outcome.version_cases` — maintenance that is answered, and the version
  after any operation;
* `Reserve.Worn`, `Outcome.worn` — what is left for the reserve without maintenance;
* `maintenance_gated` — every run, and what any further request can do.
-/
import CashMachine.Proofs.Machine.Perform
import CashMachine.Store.Memory

namespace CashMachine

/-- The role in which a request asks for maintenance, where it does. -/
def Request.maintainer? : Request → Option Role
  | .replenish role _ | .refillInk role | .restockPaper role _ | .updateSoftware role _ =>
    some role
  | _ => none

/-- A reserve after a request, from the one before it: ink and paper have only been used, and of
no note there are more, unless the request is a deposit. -/
structure Reserve.Worn (r : Request) (before after : Reserve) : Prop where
  ink : after.ink ≤ before.ink
  paper : after.paper.val ≤ before.paper.val
  notes : ∀ d, (before.notes.get d).val < (after.notes.get d).val →
    ∃ id amount, r = .deposit id amount

namespace Reserve

theorem Worn.refl (r : Request) (before : Reserve) : Worn r before before :=
  ⟨Nat.le_refl _, Nat.le_refl _, fun _ h => absurd h (Nat.lt_irrefl _)⟩

theorem worn_consume (r : Request) (before : Reserve) : Worn r before before.consume := by
  unfold consume
  split
  · exact ⟨Nat.sub_le _ _, Nat.sub_le _ _, fun _ h => absurd h (Nat.lt_irrefl _)⟩
  · exact .refl r before

end Reserve

namespace Machine

variable {reads : Reads} {stamp : Stamp} {m : Machine} {r : Request} {s : Step Reply}

/-! ### One operation -/

/-- Maintenance that is answered was asked for by a technician, on software that allows it. -/
theorem Outcome.permitted (h : Outcome reads stamp m r s) {role : Role}
    (hr : r.maintainer? = some role) {reply : Reply} (hs : s.answer = .ok reply) :
    role = .technician ∧ m.policy = .full := by
  cases h with
  | refused e => cases hs
  | replenished h _ | inkRefilled h | restocked h _ | updated h _ =>
    cases hr
    exact Policy.authorize_eq_ok_iff.mp h
  | _ => cases hr

/-- The version stays, or a technician has installed a later one. -/
theorem Outcome.version_cases (h : Outcome reads stamp m r s) :
    s.machine.version = m.version ∨
      ∃ v, r = .updateSoftware .technician v ∧ s.answer = .ok (.policy (Policy.ofVersion v)) ∧
        Policy.fullSince ≤ m.version ∧ m.version < v ∧ s.machine.version = v := by
  cases h with
  | @updated role v h hv =>
    obtain ⟨rfl, hp⟩ := Policy.authorize_eq_ok_iff.mp h
    exact .inr ⟨v, rfl, rfl, Policy.ofVersion_eq_full_iff_le.mp hp, Version.not_le_iff.mp hv, rfl⟩
  | _ => exact .inl rfl

/-- Without maintenance the reserve is only used, and filled by deposits. -/
theorem Outcome.worn (h : Outcome reads stamp m r s) (hp : m.policy ≠ .full) :
    Reserve.Worn r m.reserve s.machine.reserve := by
  cases h with
  | @withdrawn _ _ _ _ plan hc ha hle hplan hb =>
    refine ⟨Nat.le_refl _, Nat.le_refl _, fun d hd => ?_⟩
    -- a withdrawal takes notes away
    have hless : ((m.reserve.notes.less plan).get d).val ≤ (m.reserve.notes.get d).val := by
      rw [Notes.get_less, Nat32.val_sub]
      exact Nat.sub_le _ _
    exact absurd hd (Nat.not_lt.mpr hless)
  | deposited => exact ⟨Nat.le_refl _, Nat.le_refl _, fun _ _ => ⟨_, _, rfl⟩⟩
  | printed | printedBalance => exact Reserve.worn_consume _ _
  | replenished h _ | inkRefilled h | restocked h _ =>
    exact absurd (Policy.authorize_eq_ok_iff.mp h).2 hp
  | _ => exact .refl _ _

end Machine

/-! ### Requests and runs -/

namespace Session

variable {σ : Type} {stores : Stores σ} {s : Session σ}

theorem permitted_perform (stores : Stores σ) (s : Session σ) (stamp : Stamp) {r : Request}
    {role : Role} (hr : r.maintainer? = some role) :
    (∃ e, (s.perform stores stamp r).answer = .error e) ∨
      role = .technician ∧ Policy.fullSince ≤ s.machine.version := by
  have ho := Machine.outcome_perform s.machine (stores.reads s.store) stamp r
  cases hanswer : (s.perform stores stamp r).answer with
  | error e => exact .inl ⟨e, rfl⟩
  | ok reply =>
    obtain ⟨hrole, hp⟩ := ho.permitted hr hanswer
    rw [Machine.policy, Machine.version_admitted] at hp
    exact .inr ⟨hrole, Policy.ofVersion_eq_full_iff_le.mp hp⟩

theorem version_perform (stores : Stores σ) (s : Session σ) (stamp : Stamp) (r : Request) :
    (s.perform stores stamp r).session.machine.version = s.machine.version ∨
      ∃ v, r = .updateSoftware .technician v ∧
        (s.perform stores stamp r).answer = .ok (.policy (Policy.ofVersion v)) ∧
        Policy.fullSince ≤ s.machine.version ∧ s.machine.version < v ∧
        (s.perform stores stamp r).session.machine.version = v := by
  have h := (Machine.outcome_perform s.machine (stores.reads s.store) stamp r).version_cases
  rw [Machine.version_admitted] at h
  exact h

theorem worn_perform (stores : Stores σ) (h : s.machine.version < Policy.fullSince) (stamp : Stamp)
    (r : Request) :
    Reserve.Worn r s.machine.reserve (s.perform stores stamp r).session.machine.reserve := by
  have ho := Machine.outcome_perform s.machine (stores.reads s.store) stamp r
  have hp : (s.machine.admitted (stores.reads s.store) r).policy ≠ .full := by
    rw [Machine.policy, Machine.version_admitted, Ne, Policy.ofVersion_eq_full_iff_le]
    exact Version.not_le_iff.mpr h
  have hworn := ho.worn hp
  rw [Machine.reserve_admitted] at hworn
  exact hworn

theorem version_le_run (stores : Stores σ) (s : Session σ) (rs : List (Stamp × Request)) :
    s.machine.version ≤ (s.run stores rs).machine.version := by
  refine run_keeps stores (P := fun t => s.machine.version ≤ t.machine.version) ?_
    (Version.le_refl _) rs
  intro t r ht
  obtain hsame | ⟨v, _, _, _, hlt, hv⟩ := version_perform stores t r.1 r.2
  · rw [hsame]
    exact ht
  · rw [hv]
    exact Version.le_trans ht (Version.le_of_lt hlt)

/-- The session is still with the software of another one, and has no more ink and paper. -/
structure Aged (s t : Session σ) : Prop where
  version : t.machine.version = s.machine.version
  ink : t.machine.reserve.ink ≤ s.machine.reserve.ink
  paper : t.machine.reserve.paper.val ≤ s.machine.reserve.paper.val

theorem aged_run (stores : Stores σ) (h : s.machine.version < Policy.fullSince)
    (rs : List (Stamp × Request)) :
    Aged s (s.run stores rs) := by
  refine run_keeps stores ?_ ⟨rfl, Nat.le_refl _, Nat.le_refl _⟩ rs
  intro t r ht
  have hold : t.machine.version < Policy.fullSince := ht.version.symm ▸ h
  have hworn := worn_perform stores hold r.1 r.2
  refine ⟨?_, Nat.le_trans hworn.ink ht.ink, Nat.le_trans hworn.paper ht.paper⟩
  -- an update would need later software than is running
  obtain hsame | ⟨v, _, _, hfull, _⟩ := version_perform stores t r.1 r.2
  · exact hsame.trans ht.version
  · exact absurd hfull (Version.not_le_iff.mpr hold)

end Session

/-- After any run, over any stores: the version is not older than at the start, and a further
request changes it only if a technician installs a later one while the running one is at least
`2.0`; a customer who asks for maintenance is refused.  If the version at the start, that of a
machine that was just set up, is older than `2.0`, it is still the same, there is no more ink or
paper than then, and of further requests all maintenance is refused, none adds ink or paper, and
none but deposits adds a note. -/
theorem maintenance_gated {σ : Type} {stores : Stores σ} {s₀ s : Session σ}
    {rs : List (Stamp × Request)} (hs : s₀.run stores rs = s) :
    s₀.machine.version ≤ s.machine.version ∧
      (∀ stamp r, (s.perform stores stamp r).session.machine.version ≠ s.machine.version →
        ∃ v, r = .updateSoftware .technician v ∧
          (s.perform stores stamp r).answer = .ok (.policy (Policy.ofVersion v)) ∧
          Policy.fullSince ≤ s.machine.version ∧ s.machine.version < v ∧
          (s.perform stores stamp r).session.machine.version = v) ∧
      (∀ stamp r, r.maintainer? = some .customer →
        ∃ e, (s.perform stores stamp r).answer = .error e) ∧
      (s₀.machine.version < Policy.fullSince →
        s.machine.version = s₀.machine.version ∧
          s.machine.reserve.ink ≤ s₀.machine.reserve.ink ∧
          s.machine.reserve.paper.val ≤ s₀.machine.reserve.paper.val ∧
          ∀ stamp r, (r.maintainer? ≠ none → ∃ e, (s.perform stores stamp r).answer = .error e) ∧
            Reserve.Worn r s.machine.reserve
              (s.perform stores stamp r).session.machine.reserve) := by
  subst hs
  refine ⟨Session.version_le_run stores s₀ rs, ?_, ?_, ?_⟩
  · intro stamp r hne
    obtain hsame | hupdated := Session.version_perform stores (s₀.run stores rs) stamp r
    · exact absurd hsame hne
    · exact hupdated
  · intro stamp r hr
    obtain herror | ⟨hrole, _⟩ := Session.permitted_perform stores (s₀.run stores rs) stamp hr
    · exact herror
    · cases hrole
  · intro hold
    obtain ⟨hversion, hink, hpaper⟩ := Session.aged_run stores hold rs
    have hold' : (s₀.run stores rs).machine.version < Policy.fullSince := hversion.symm ▸ hold
    refine ⟨hversion, hink, hpaper, fun stamp r => ⟨?_, Session.worn_perform stores hold' _ _⟩⟩
    intro hr
    obtain ⟨role, hrole⟩ := Option.ne_none_iff_exists'.mp hr
    obtain herror | ⟨_, hfull⟩ := Session.permitted_perform stores (s₀.run stores rs) stamp hrole
    · exact herror
    · exact absurd hfull (Version.not_le_iff.mpr hold')

/-- Software `1.0` refuses a technician ink; a deposit of `50` is taken, and there is still neither
ink nor paper. -/
theorem maintenance_gated_old :
    let a : Account := ⟨"A", "Ada", .checking, .ofNat 7 (by decide)⟩
    let m : Machine := ⟨"M", Dispenser.greedy, ⟨[("A", a)], by decide⟩, Reserve.empty, ⟨1, 0⟩⟩
    let refill : Stamp × Request := (⟨"T1", Instant.epoch⟩, .refillInk .technician)
    let deposit : Stamp × Request :=
      (⟨"T2", Instant.epoch⟩, .deposit "A" (.ofNat 50 (by decide)))
    let s := Session.run Memory.stores ⟨m, Memory.empty⟩ [refill, deposit]
    m.version < Policy.fullSince ∧ s.machine.version = ⟨1, 0⟩ ∧ s.machine.reserve.ink ≤ 0 ∧
      s.machine.reserve.notes = ⟨0, 0, 1, 0⟩ ∧
      ∀ stamp r, r.maintainer? ≠ none →
        ∃ e, (s.perform Memory.stores stamp r).answer = .error e := by
  intro a m refill deposit s
  have hs : Session.run Memory.stores ⟨m, Memory.empty⟩ [refill, deposit] = s := rfl
  have hold : m.version < Policy.fullSince := by decide
  obtain ⟨_, _, _, hgated⟩ := maintenance_gated hs
  obtain ⟨hversion, hink, _, hrefused⟩ := hgated hold
  exact ⟨hold, hversion, hink, by decide +kernel, fun stamp r => (hrefused stamp r).1⟩

end CashMachine
