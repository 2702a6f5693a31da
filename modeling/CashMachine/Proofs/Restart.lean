/-
Setting a machine up again over the memory of a run.

What a running machine has, its memory has too: the accounts of the ledger as they are, the
reserve, and of the version as much as setting up needs to find it again (`Session.Saved`).  So a
machine that is set up from the same configuration over that memory answers as the running one
does, although its ledger may be smaller: what is missing in it is looked up when it is asked for.

* `saved_build`, `saved_perform`, `saved_run` — memory keeps up with the machine;
* `exists_build_of_saved` — what setting up finds there;
* `restart_equivalent` — the two machines.
-/
import CashMachine.Proofs.Machine.Provisioning
import CashMachine.Proofs.Memory

namespace CashMachine

namespace Session

open Machine

/-- Memory has all that the machine has, so that setting up from the configuration finds it. -/
structure Saved (c : Configuration) (s : Session Memory) : Prop where
  reserve : s.store.reserve = some s.machine.reserve
  version : c.versionOver s.store.version = s.machine.version
  kept : s.machine.ledger.Kept s.store.accounts
  sound : s.machine.ledger.Sound
  provided : ∀ a ∈ c.accounts, s.machine.ledger.find? a.id ≠ none

variable {c : Configuration} {s : Session Memory}

theorem provided_perform (h : Saved c s) (stamp : Stamp) (r : Request) :
    ∀ a ∈ c.accounts,
      (s.perform Memory.stores stamp r).session.machine.ledger.find? a.id ≠ none := by
  intro a ha
  obtain ⟨b, hb⟩ := Option.ne_none_iff_exists'.mp (h.provided a ha)
  obtain ⟨b', hb', _⟩ := find?_visit hb ⟨Memory.reads s.store, stamp, r⟩
  exact Option.ne_none_iff_exists'.mpr ⟨_, hb'⟩

theorem sound_perform (h : Saved c s) (stamp : Stamp) (r : Request) :
    (s.perform Memory.stores stamp r).session.machine.ledger.Sound :=
  sound_visit h.sound ⟨Memory.reads s.store, stamp, r⟩

/-- An account that is opened is not kept before, but is written. -/
theorem saved_openAccount (h : Saved c s) (stamp : Stamp) (a : Account) :
    Saved c (s.perform Memory.stores stamp (.openAccount a)).session := by
  have hsound := sound_perform h stamp (.openAccount a)
  have hprovided := provided_perform h stamp (.openAccount a)
  obtain ⟨x, hs, _⟩ | ⟨k, hs, hk, _, hf⟩ :=
    perform_openAccount_cases Memory.stores s stamp a
  · rw [hs]
    exact h
  · rw [hs] at hsound hprovided ⊢
    exact ⟨h.reserve, h.version, h.kept.put hk hf, hsound, hprovided⟩

/-- Look-ups bring in what memory keeps, and what is then changed is written. -/
theorem saved_perform (h : Saved c s) (stamp : Stamp) (r : Request) :
    Saved c (s.perform Memory.stores stamp r).session := by
  by_cases hr : ∃ a, r = .openAccount a
  · obtain ⟨a, rfl⟩ := hr
    exact saved_openAccount h stamp a
  let reads := Memory.reads s.store
  have hm : s.machine.admitted reads r = s.machine.gather reads r.lookups :=
    admitted_eq_gather fun a ha => hr ⟨a, ha⟩
  have hgrown := grown_gather s.machine reads r.lookups
  have hkept := kept_gather h.kept r.lookups
  rw [← hm] at hgrown hkept
  have hcovers := (outcome_perform s.machine reads stamp r).covers
    (named_admitted h.sound.named reads r)
  refine ⟨?_, ?_, hcovers.kept_writeAll hkept, sound_perform h stamp r,
    provided_perform h stamp r⟩
  · exact hcovers.reserve_writeAll (h.reserve.trans (congrArg some hgrown.reserve.symm))
  · exact hcovers.version_writeAll (h.version.trans hgrown.version.symm)

theorem saved_run (h : Saved c s) (rs : List (Stamp × Request)) :
    Saved c (s.run Memory.stores rs) := by
  induction rs generalizing s with
  | nil => exact h
  | cons r rs ih => exact ih (saved_perform h r.1 r.2)

end Session

namespace Machine

/-! ### Setting up -/

theorem openReserve_memory (c : Configuration) (s : Memory) :
    ∃ r t, openReserve Memory.stores c s = (.ok r, t) ∧ t.reserve = some r ∧
      t.version = s.version := by
  cases hr : s.reserve with
  | some r =>
    exact ⟨r, s, openReserve_saved Memory.stores c s (congrArg Except.ok hr), hr, rfl⟩
  | none =>
    have ha : ask Memory.stores Reads.reserve s = (.ok none, s) :=
      ask_of_ok Memory.stores (congrArg Except.ok hr)
    refine ⟨c.reserve, (Memory.write (.reserve c.reserve) s).2, ?_, rfl, rfl⟩
    rw [openReserve, Work.bind_of_ok ha]
    rfl

theorem openVersion_memory (c : Configuration) (s : Memory) :
    openVersion Memory.stores c s = (.ok (c.versionOver s.version), s) := by
  cases hv : s.version with
  | some v => exact openVersion_eq_newer Memory.stores c s (congrArg Except.ok hv)
  | none =>
    have ha : ask Memory.stores Reads.version s = (.ok none, s) :=
      ask_of_ok Memory.stores (congrArg Except.ok hv)
    rw [openVersion, Work.bind_of_ok ha]
    rfl

/-- What providing accounts comes to, over memory: they are in the ledger, next to those that were
there, and all of the ledger is kept. -/
structure Provided (accounts : List Account) (l : Ledger) (s : Memory) (k : Ledger) (t : Memory) :
    Prop where
  kept : k.Kept t.accounts
  reserve : t.reserve = s.reserve
  version : t.version = s.version
  stays : ∀ id, l.find? id ≠ none → k.find? id ≠ none
  provided : ∀ a ∈ accounts, k.find? a.id ≠ none

theorem provided_one {l k : Ledger} {a : Account} {s t : Memory} (hl : l.Kept s.accounts)
    (h : provide Memory.stores l a s = (.ok k, t)) : Provided [a] l s k t := by
  obtain ⟨stored, isNew, hread, ho, rfl⟩ | ⟨isNew, hread, ho, hwrite⟩ := provide_eq_ok h
  · -- memory answers with the account of the name that was asked for, and keeps it
    have hstored : Memory.find? t.accounts a.id = some stored := Except.ok.inj hread
    have hid := Memory.id_of_find? hstored
    obtain ⟨hthere, hstays⟩ := Ledger.find?_ne_none_of_openAccount ho
    refine ⟨hl.openAccount_of_stored (hid.symm ▸ hstored) ho, rfl, rfl, hstays, ?_⟩
    intro b hb
    obtain rfl := List.mem_singleton.mp hb
    exact hid ▸ hthere
  · obtain ⟨hthere, hstays⟩ := Ledger.find?_ne_none_of_openAccount ho
    cases hwrite
    refine ⟨hl.openAccount_of_new (Except.ok.inj hread) ho, rfl, rfl, hstays, ?_⟩
    intro b hb
    obtain rfl := List.mem_singleton.mp hb
    exact hthere

theorem provided_foldlM {accounts : List Account} {l k : Ledger} {s t : Memory}
    (hl : l.Kept s.accounts)
    (h : accounts.foldlM (provide Memory.stores) l s = (.ok k, t)) :
    Provided accounts l s k t := by
  induction accounts generalizing l s with
  | nil =>
    cases h
    exact ⟨hl, rfl, rfl, fun _ hid => hid, fun a ha => absurd ha List.not_mem_nil⟩
  | cons a accounts ih =>
    rw [List.foldlM_cons] at h
    obtain ⟨l', s', hp, h⟩ := Work.exists_of_bind_eq_ok h
    have hfirst := provided_one hl hp
    have hrest := ih hfirst.kept h
    refine ⟨hrest.kept, hrest.reserve.trans hfirst.reserve, hrest.version.trans hfirst.version,
      fun id hid => hrest.stays id (hfirst.stays id hid), ?_⟩
    intro b hb
    rcases List.mem_cons.mp hb with rfl | hb
    · exact hrest.stays _ (hfirst.provided _ List.mem_cons_self)
    · exact hrest.provided b hb

theorem saved_build {c : Configuration} {s₀ s₁ : Memory} {m : Machine}
    (h : build Memory.stores c s₀ = (.ok m, s₁)) : Session.Saved c ⟨m, s₁⟩ := by
  have hsound := sound_build h
  -- in the order of setting up: the reserve, the version, and then the accounts
  obtain ⟨reserve, s, hr, h⟩ := Work.exists_of_bind_eq_ok h
  obtain ⟨r, t, hr', hreserve, hversion⟩ := openReserve_memory c s₀
  rw [hr'] at hr
  cases hr
  obtain ⟨version, s', hv, h⟩ := Work.exists_of_bind_eq_ok h
  rw [openVersion_memory] at hv
  cases hv
  obtain ⟨ledger, s'', hf, h⟩ := Work.exists_of_bind_eq_ok h
  cases h
  have hp := provided_foldlM (.empty s.accounts) hf
  refine ⟨hp.reserve.trans hreserve, ?_, hp.kept, hsound, hp.provided⟩
  show c.versionOver s₁.version = c.versionOver s.version
  rw [hp.version]

/-! ### Setting up again -/

/-- Providing an account that a sound ledger has, and memory keeps, brings it in as it is there. -/
theorem provide_of_kept {l full : Ledger} {s : Memory} {a x : Account}
    (hk : full.Kept s.accounts) (hs : full.Sound) (hl : l.Within full)
    (hx : full.find? a.id = some x) :
    ∃ k, provide Memory.stores l a s = (.ok k, s) ∧ k.Within full := by
  obtain ⟨hid, hn⟩ := hs _ x hx
  rw [provide_of_stored Memory.stores l (congrArg Except.ok (hk _ x hx))]
  obtain ⟨_, hnegative⟩ | ⟨ho, _⟩ | ⟨k, ho, hk', _, _⟩ := l.openAccount_cases x
  · rw [Decimal.isNegative_eq_false_iff.mpr hn] at hnegative
    cases hnegative
  · exact ⟨l, by rw [ho]; rfl, hl⟩
  · -- what comes in is the very account that the full ledger has under this name
    refine ⟨k, by rw [ho]; rfl, ?_⟩
    intro id b hb
    rw [Ledger.find?_append_one hk', Option.or_eq_some_iff] at hb
    rcases hb with hb | ⟨_, hb⟩
    · exact hl id b hb
    · by_cases hname : id = x.id
      · rw [if_pos hname] at hb
        rw [hname, hid, hx]
        exact hb
      · rw [if_neg hname] at hb
        cases hb

theorem foldlM_provide_of_kept {full : Ledger} {s : Memory} (hk : full.Kept s.accounts)
    (hs : full.Sound) {accounts : List Account} (ha : ∀ a ∈ accounts, full.find? a.id ≠ none)
    {l : Ledger} (hl : l.Within full) :
    ∃ k, accounts.foldlM (provide Memory.stores) l s = (.ok k, s) ∧ k.Within full := by
  induction accounts generalizing l with
  | nil => exact ⟨l, rfl, hl⟩
  | cons a accounts ih =>
    obtain ⟨x, hx⟩ := Option.ne_none_iff_exists'.mp (ha a List.mem_cons_self)
    obtain ⟨l', hp, hl'⟩ := provide_of_kept hk hs hl hx
    obtain ⟨k, hf, hk'⟩ := ih (fun b hb => ha b (List.mem_cons_of_mem a hb)) hl'
    refine ⟨k, ?_, hk'⟩
    rw [List.foldlM_cons, Work.bind_of_ok hp, hf]

/-- Where memory has kept up with a machine, setting up again changes nothing in memory, and gives
the reserve and the version of the machine, and some of its accounts. -/
theorem exists_build_of_saved {c : Configuration} {s : Session Memory}
    (h : Session.Saved c s) :
    ∃ n, build Memory.stores c s.store = (.ok n, s.store) ∧
      n.reserve = s.machine.reserve ∧ n.version = s.machine.version ∧
      n.ledger.Within s.machine.ledger := by
  have hempty : Ledger.empty.Within s.machine.ledger := by
    intro id a ha
    cases ha
  obtain ⟨k, hf, hk⟩ := foldlM_provide_of_kept h.kept h.sound h.provided hempty
  refine ⟨⟨c.machineId, c.dispenser, k, s.machine.reserve, s.machine.version⟩, ?_, rfl, rfl, hk⟩
  have hr := openReserve_saved Memory.stores c s.store (congrArg Except.ok h.reserve)
  have hv := openVersion_memory c s.store
  rw [h.version] at hv
  rw [build, setup, Work.bind_of_ok hr, Work.bind_of_ok hv, Work.bind_of_ok hf]
  rfl

end Machine

/-- After any run over memory, setting up again from the same configuration succeeds and changes
nothing in memory.  It gives the reserve, the version and the policy of the running machine, and
about every account and every transaction the answers of the running machine. -/
theorem restart_equivalent {c : Configuration} {s₀ s₁ : Memory} {m : Machine}
    (hbuild : Machine.build Memory.stores c s₀ = (.ok m, s₁)) (rs : List (Stamp × Request))
    {s : Session Memory} (hs : Session.run Memory.stores ⟨m, s₁⟩ rs = s) :
    ∃ n, Machine.build Memory.stores c s.store = (.ok n, s.store) ∧
      n.reserve = s.machine.reserve ∧ n.version = s.machine.version ∧
      n.policy = s.machine.policy ∧
      (∀ id, (n.balance (Memory.reads s.store) id).answer =
        (s.machine.balance (Memory.reads s.store) id).answer) ∧
      (∀ id, (n.history (Memory.reads s.store) id).answer =
        (s.machine.history (Memory.reads s.store) id).answer) ∧
      ∀ id, (n.transaction (Memory.reads s.store) id).answer =
        (s.machine.transaction (Memory.reads s.store) id).answer := by
  subst hs
  have hsaved := Session.saved_run (Machine.saved_build hbuild) rs
  generalize Session.run Memory.stores ⟨m, s₁⟩ rs = s at hsaved
  obtain ⟨n, hn, hreserve, hversion, hledger⟩ := Machine.exists_build_of_saved hsaved
  -- the accounts of the second machine are kept as those of the first one are
  have hload : ∀ id, (n.load (Memory.reads s.store) id).1 =
      (s.machine.load (Memory.reads s.store) id).1 := by
    intro id
    have hkept : n.ledger.Kept s.store.accounts := fun id a ha =>
      hsaved.kept id a (hledger id a ha)
    rw [Machine.load_of_kept hkept (Machine.sound_build hn),
      Machine.load_of_kept hsaved.kept hsaved.sound]
  refine ⟨n, hn, hreserve, hversion, ?_, ?_, ?_, fun _ => rfl⟩
  · rw [Machine.policy, Machine.policy, hversion]
  · intro id
    rw [Machine.balance_eq, Machine.balance_eq, hload]
  · intro id
    rw [Machine.history_eq, Machine.history_eq, hload]

/-- A transfer to an account that only memory knew, and newer software, are there after a
restart. -/
theorem restart_equivalent_updated :
    let a : Account := ⟨"A", "Ada", .checking, .ofNat 50 (by decide)⟩
    let b : Account := ⟨"B", "Bo", .savings, .ofNat 7 (by decide)⟩
    let c : Configuration := { version := ⟨2, 0⟩, accounts := [a] }
    let moved : Stamp × Request :=
      (⟨"T1", Instant.epoch⟩, .transfer "A" "B" (.ofNat 5 (by decide)))
    let updated : Stamp × Request := (⟨"T2", Instant.epoch⟩, .updateSoftware .technician ⟨2, 1⟩)
    ∃ m s₁ s n, Machine.build Memory.stores c { Memory.empty with accounts := [b] } = (.ok m, s₁) ∧
      Session.run Memory.stores ⟨m, s₁⟩ [moved, updated] = s ∧
      (s.machine.balance (Memory.reads s.store) "B").answer = .ok (.ofNat 12 (by decide)) ∧
      s.machine.version = ⟨2, 1⟩ ∧ Machine.build Memory.stores c s.store = (.ok n, s.store) ∧
      n.version = ⟨2, 1⟩ ∧
      (n.balance (Memory.reads s.store) "B").answer = .ok (.ofNat 12 (by decide)) := by
  intro a b c moved updated
  obtain ⟨m, s₁, hbuild, hbalance, hversion⟩ :
      ∃ m s₁, Machine.build Memory.stores c { Memory.empty with accounts := [b] } = (.ok m, s₁) ∧
        ((Session.run Memory.stores ⟨m, s₁⟩ [moved, updated]).machine.balance (Memory.reads
          (Session.run Memory.stores ⟨m, s₁⟩ [moved, updated]).store) "B").answer =
            .ok (.ofNat 12 (by decide)) ∧
        (Session.run Memory.stores ⟨m, s₁⟩ [moved, updated]).machine.version = ⟨2, 1⟩ :=
    ⟨_, _, rfl, by decide +kernel, by decide +kernel⟩
  obtain ⟨n, hn, _, hnversion, _, hnbalance, _⟩ :=
    restart_equivalent hbuild [moved, updated] rfl
  exact ⟨m, s₁, _, n, hbuild, rfl, hbalance, hversion, hn, hnversion.trans hversion,
    (hnbalance "B").trans hbalance⟩

end CashMachine
