/-
Setting up, over stores that fail and over stores that do not.

Over stores that always answer and accept, nothing can go wrong but a negative balance, and of the
accounts of one name only one counts: the one that is held, or else the first one of the list.
A later one of the same name is not looked at, negative or not.

Over stores that may fail, setting up ends with the first error, and what it has brought in by
then stays: nothing is taken back.  It only ever brings in what was missing, so what was held
before is held afterwards.

* `foldlM_provide_cases` — a row of accounts over stores that do not fail;
* `build_takes_chosen` — setting up over them, `Memory.unfailing` — memory is such a store;
* `Begun`, `build_of_error` — what a failure leaves behind, and what setting up again finds there.
-/
import CashMachine.Proofs.Holdings

namespace CashMachine

/-- Stores that answer whatever they are asked, and accept every account and every reserve. -/
structure Stores.Unfailing {σ : Type} (stores : Stores σ) : Prop where
  account : ∀ s id, ∃ x, (stores.reads s).account id = .ok x
  reserve : ∀ s, ∃ x, (stores.reads s).reserve = .ok x
  version : ∀ s, ∃ x, (stores.reads s).version = .ok x
  put : ∀ s a, (stores.write (.account a) s).1 = .ok ()
  save : ∀ s r, (stores.write (.reserve r) s).1 = .ok ()

theorem Memory.unfailing : Memory.stores.Unfailing where
  account _ _ := ⟨_, rfl⟩
  reserve _ := ⟨_, rfl⟩
  version _ := ⟨_, rfl⟩
  put _ _ := rfl
  save _ _ := rfl

namespace Machine

variable {σ : Type} {stores : Stores σ} {held : σ → Holdings}

/-! ### Stores that do not fail -/

/-- An account comes in unless the one that is taken for its name is negative. -/
theorem provide_cases (hstores : stores.Holding held) (hfail : stores.Unfailing) (l : Ledger)
    (a : Account) (s : σ) :
    ∃ b, (held s).chosen [a] a.id = some b ∧
      (b.balance.isNegative = true ∧ provide stores l a s = (.error .invalidAmount, s) ∨
        b.balance.isNegative = false ∧ ∃ k t, provide stores l a s = (.ok k, t)) := by
  obtain ⟨found, hread⟩ := hfail.account s a.id
  have hheld := hstores.account hread
  have hask : ask stores (fun reads => reads.account a.id) s = (.ok found, s) :=
    ask_of_ok stores hread
  rw [Holdings.chosen_one, hheld, if_pos rfl, provide, Work.bind_of_ok hask]
  rcases found with _ | stored
  · refine ⟨a, rfl, ?_⟩
    cases hn : a.balance.isNegative with
    | true => exact .inl ⟨rfl, by simp [l.openAccount_of_negative hn]⟩
    | false =>
      obtain ⟨k, isNew, ho⟩ := l.exists_openAccount hn
      exact .inr ⟨rfl, k, (stores.write (.account a) s).2, by simp [ho, keep, hfail.put, ofStore]⟩
  · refine ⟨stored, rfl, ?_⟩
    cases hn : stored.balance.isNegative with
    | true => exact .inl ⟨rfl, by simp [l.openAccount_of_negative hn]⟩
    | false =>
      obtain ⟨k, isNew, ho⟩ := l.exists_openAccount hn
      exact .inr ⟨rfl, k, s, by simp [ho]⟩

/-- A row of accounts is gone through unless one that is taken for a name of it is negative. -/
theorem foldlM_provide_cases (hstores : stores.Holding held) (hfail : stores.Unfailing)
    (accounts : List Account) (l : Ledger) (s : σ) :
    ((∃ a ∈ accounts, ∃ b, (held s).chosen accounts a.id = some b ∧ b.balance.isNegative = true) ∧
        ∃ t, accounts.foldlM (provide stores) l s = (.error .invalidAmount, t)) ∨
      ((∀ a ∈ accounts, ∀ b, (held s).chosen accounts a.id = some b →
          b.balance.isNegative = false) ∧
        ∃ k t, accounts.foldlM (provide stores) l s = (.ok k, t)) := by
  induction accounts generalizing l s with
  | nil => exact .inr ⟨nofun, l, s, rfl⟩
  | cons a accounts ih =>
    obtain ⟨b, hb, hfirst⟩ := provide_cases hstores hfail l a s
    -- what is taken for the first name stays the same when the rest is looked at
    have hchosen : (held s).chosen (a :: accounts) a.id = some b := by
      rw [← Holdings.chosen_filled]
      exact Option.or_eq_some_iff.mpr (.inl hb)
    rw [List.foldlM_cons]
    obtain ⟨hn, hp⟩ | ⟨hn, l', s', hp⟩ := hfirst
    · exact .inl ⟨⟨a, List.mem_cons_self, b, hchosen, hn⟩, s, Work.bind_of_error hp _⟩
    · obtain ⟨_, _, _, _, hheld⟩ := held_provide hstores hp
      rw [Work.bind_of_ok hp]
      have hrest := ih l' s'
      rw [hheld, Holdings.chosen_filled] at hrest
      obtain ⟨⟨a', ha', hnegative⟩, t, hf⟩ | ⟨hall, k, t, hf⟩ := hrest
      · exact .inl ⟨⟨a', List.mem_cons_of_mem a ha', hnegative⟩, t, hf⟩
      · refine .inr ⟨fun a' ha' b' hb' => ?_, k, t, hf⟩
        rcases List.mem_cons.mp ha' with rfl | ha'
        · rw [hchosen, Option.some_inj] at hb'
          exact hb' ▸ hn
        · exact hall a' ha' b' hb'

theorem exists_openReserve (hfail : stores.Unfailing) (c : Configuration) (s : σ) :
    ∃ r t, openReserve stores c s = (.ok r, t) := by
  obtain ⟨found, hread⟩ := hfail.reserve s
  rw [openReserve, Work.bind_of_ok (ask_of_ok stores hread)]
  rcases found with _ | saved
  · exact ⟨c.reserve, (stores.write (.reserve c.reserve) s).2, by simp [keep, hfail.save, ofStore]⟩
  · exact ⟨saved, s, rfl⟩

theorem exists_openVersion (hfail : stores.Unfailing) (c : Configuration) (s : σ) :
    ∃ v, openVersion stores c s = (.ok v, s) := by
  obtain ⟨found, hread⟩ := hfail.version s
  rw [openVersion, Work.bind_of_ok (ask_of_ok stores hread)]
  rcases found with _ | saved
  · exact ⟨c.version, rfl⟩
  · exact ⟨saved.newer c.version, rfl⟩

/-- Over stores that do not fail, setting up is left to the row of accounts. -/
theorem build_of_unfailing (hstores : stores.Holding held) (hfail : stores.Unfailing)
    (c : Configuration) (s : σ) :
    ∃ r v s₁, held s₁ = (held s).opened c ∧
      build stores c s = (c.accounts.foldlM (provide stores) Ledger.empty >>= fun ledger =>
        pure ⟨c.machineId, c.dispenser, ledger, r, v⟩ : Work σ Machine) s₁ := by
  obtain ⟨r, s₁, hr⟩ := exists_openReserve hfail c s
  obtain ⟨v, hv⟩ := exists_openVersion hfail c s₁
  refine ⟨r, v, s₁, (openReserve_held hstores hr).2, ?_⟩
  rw [build, setup, Work.bind_of_ok hr, Work.bind_of_ok hv]

/-- Over stores that do not fail, one account is taken of each name of the list: the one that is
held under it, or else the first one of the list.  Setting up fails exactly where one of those is
negative; otherwise they are the ledger, under no other names, and the stores hold what they held
and those that they did not. -/
theorem build_takes_chosen (hstores : stores.Holding held) (hfail : stores.Unfailing)
    (c : Configuration) {s : σ} (hn : (held s).Named) :
    ((build stores c s).1 = .error .invalidAmount ↔
        ∃ a ∈ c.accounts, ∃ b, (held s).chosen c.accounts a.id = some b ∧
          b.balance.value < 0) ∧
      ((build stores c s).1 ≠ .error .invalidAmount →
        ∃ m t, build stores c s = (.ok m, t) ∧
          (∀ a ∈ c.accounts, ∃ b, (held s).chosen c.accounts a.id = some b ∧
            m.ledger.find? a.id = some b) ∧
          (∀ id, id ∉ c.accounts.map Account.id → m.ledger.find? id = none) ∧
          ∀ id, (held t).account id = (held s).chosen c.accounts id) := by
  simp only [← Decimal.isNegative_iff]
  obtain ⟨r, v, s₁, hopened, hbuild⟩ := build_of_unfailing hstores hfail c s
  have hcases := foldlM_provide_cases hstores hfail c.accounts Ledger.empty s₁
  rw [hopened] at hcases
  obtain ⟨hnegative, t, hf⟩ | ⟨hall, k, t, hf⟩ := hcases
  · rw [Work.bind_of_error hf] at hbuild
    rw [hbuild]
    exact ⟨iff_of_true rfl hnegative, fun h => absurd rfl h⟩
  · rw [Work.bind_of_ok hf, Work.run_pure] at hbuild
    obtain ⟨_, hheld, hledger⟩ := build_held hstores hbuild
    rw [hbuild]
    refine ⟨iff_of_false nofun ?_, fun _ => ⟨_, t, rfl, fun a ha => ?_, fun id hid => ?_,
      fun id => ?_⟩⟩
    · rintro ⟨a, ha, b, hb, hnegative⟩
      rw [hall a ha b hb] at hnegative
      cases hnegative
    · obtain ⟨b, hb⟩ := (held s).exists_chosen ha
      refine ⟨b, hb, ?_⟩
      rw [hledger hn, if_pos (List.mem_map_of_mem ha), hb]
    · rw [hledger hn, if_neg hid]
    · rw [hheld]
      rfl

/-- The stored account comes before the listed one, the first listed one before the second, and a
negative one that is not taken does no harm. -/
theorem build_takes_chosen_twice :
    let stored : Account := ⟨"A", "Ada", .checking, .ofNat 7 (by decide)⟩
    let listed : Account := ⟨"B", "Bo", .savings, .ofNat 5 (by decide)⟩
    let debt : Decimal := .ofCoefficient (-3) 0 (by decide) (by decide)
    let c : Configuration :=
      { accounts := [{ stored with balance := debt }, listed, { listed with balance := debt }] }
    ∃ m t, build Memory.stores c { Memory.empty with accounts := [stored] } = (.ok m, t) ∧
      m.ledger.find? "A" = some stored ∧ m.ledger.find? "B" = some listed ∧
      m.ledger.find? "C" = none ∧ t.holdings.account "A" = some stored ∧
      t.holdings.account "B" = some listed := by
  intro stored listed debt c
  let s : Memory := { Memory.empty with accounts := [stored] }
  obtain ⟨hnegative, hok⟩ := build_takes_chosen Memory.holding Memory.unfailing c s.named_holdings
  have hanswer : (build Memory.stores c s).1 ≠ .error .invalidAmount := by
    rw [Ne, hnegative]
    decide +kernel
  obtain ⟨m, t, hbuild, htaken, hother, hheld⟩ := hok hanswer
  obtain ⟨x, hx, hxledger⟩ := htaken _ List.mem_cons_self
  obtain ⟨y, hy, hyledger⟩ := htaken listed (by simp [c])
  obtain rfl : stored = x := Option.some_inj.mp hx
  obtain rfl : listed = y := Option.some_inj.mp hy
  refine ⟨m, t, hbuild, hxledger, hyledger, hother "C" (by decide +kernel), ?_, ?_⟩
  · rw [hheld]
    exact hx
  · rw [hheld]
    exact hy

/-! ### Failures -/

/-- What is held where setting up has failed: what was held, or besides it the configured reserve,
where none was saved, and the first accounts of the list, none of them negative, under names that
were not known. -/
inductive Begun (c : Configuration) (h : Holdings) : Holdings → Prop
  | unchanged : Begun c h h
  | partly (done rest : List Account) (split : c.accounts = done ++ rest)
      (unfinished : rest = [] → done = [])
      (nonneg : ∀ id a, h.account id = none → Memory.find? done id = some a →
        0 ≤ a.balance.value) :
      Begun c h ((h.opened c).filled done)

namespace Begun

variable {c : Configuration} {h h' : Holdings}

theorem version (hb : Begun c h h') : h'.version = h.version := by
  cases hb with
  | unchanged => rfl
  | partly => rfl

theorem reserve (hb : Begun c h h') {r : Reserve} (hr : h.reserve = some r) :
    h'.reserve = some r := by
  cases hb with
  | unchanged => exact hr
  | partly =>
    show some (h.reserve.getD c.reserve) = some r
    rw [hr, Option.getD_some]

theorem account (hb : Begun c h h') {id : AccountId} {a : Account} (ha : h.account id = some a) :
    h'.account id = some a := by
  cases hb with
  | unchanged => exact ha
  | partly => exact Option.or_eq_some_iff.mpr (.inl ha)

theorem named (hb : Begun c h h') (hn : h.Named) : h'.Named := by
  cases hb with
  | unchanged => exact hn
  | partly done => exact Holdings.Named.filled hn done

end Begun

theorem begun_of_error (hstores : stores.Holding held) {c : Configuration} {s t : σ} {e : Error}
    (h : build stores c s = (.error e, t)) : Begun c (held s) (held t) := by
  obtain hsame | ⟨done, rest, k, s₁, s₂, hsplit, hrest, hopened, hdone, hheld⟩ :=
    build_held_of_error hstores h
  · rw [hsame]
    exact .unchanged
  · rw [hheld]
    refine .partly done rest hsplit hrest fun id a hnone ha => ?_
    rw [← Decimal.isNegative_eq_false_iff]
    exact not_negative_of_foldlM hstores hdone (by rw [hopened]; exact hnone) ha

/-- What was held before a failure is held after it, and what has been brought in by then is not
taken back.  Setting up again takes what is held by then before what it is configured with. -/
theorem build_of_error (hstores : stores.Holding held) {c : Configuration} {s t : σ} {e : Error}
    (hn : (held s).Named) (h : build stores c s = (.error e, t)) :
    (held t).version = (held s).version ∧
      (∀ r, (held s).reserve = some r → (held t).reserve = some r) ∧
      (∀ id a, (held s).account id = some a → (held t).account id = some a) ∧
      Begun c (held s) (held t) ∧
      ∀ c' m u, build stores c' t = (.ok m, u) →
        m.reserve = (held t).reserve.getD c'.reserve ∧
          ∀ a ∈ c'.accounts, m.ledger.find? a.id = (held t).chosen c'.accounts a.id := by
  have hbegun := begun_of_error hstores h
  refine ⟨hbegun.version, fun r => hbegun.reserve, fun id a => hbegun.account, hbegun, ?_⟩
  intro c' m u hbuild
  obtain ⟨htaken, _, hledger⟩ := build_held hstores hbuild
  refine ⟨htaken, fun a ha => ?_⟩
  rw [hledger (hbegun.named hn), if_pos (List.mem_map_of_mem ha)]

/-- After the second account was refused, the first one and the reserve stay: a corrected
configuration comes too late for them. -/
theorem build_of_error_corrected :
    let a : Account := ⟨"A", "Ada", .checking, .ofNat 10 (by decide)⟩
    let b : Account := ⟨"B", "Bo", .savings, .ofCoefficient (-5) 0 (by decide) (by decide)⟩
    let a' : Account := { a with balance := .ofNat 20 (by decide) }
    let b' : Account := { b with balance := .ofNat 5 (by decide) }
    let c : Configuration := { accounts := [a, b] }
    let c' : Configuration := { accounts := [a', b'], reserve := Reserve.empty.refillInk }
    ∃ t m u, build Memory.stores c Memory.empty = (.error .invalidAmount, t) ∧
      build Memory.stores c' t = (.ok m, u) ∧ m.reserve = c.reserve ∧
      m.ledger.find? "A" = some a ∧ m.ledger.find? "B" = some b' := by
  intro a b a' b' c c'
  have hfailed : build Memory.stores c Memory.empty =
    (.error .invalidAmount, ⟨[a], some c.reserve, none, AuditTrail.empty, 1⟩) := rfl
  obtain ⟨m, u, hbuild⟩ : ∃ m u, build Memory.stores c'
    ⟨[a], some c.reserve, none, AuditTrail.empty, 1⟩ = (.ok m, u) := ⟨_, _, rfl⟩
  obtain ⟨_, _, _, _, hagain⟩ :=
    build_of_error Memory.holding Memory.empty.named_holdings hfailed
  obtain ⟨hreserve, hledger⟩ := hagain c' m u hbuild
  refine ⟨_, m, u, hfailed, hbuild, hreserve, ?_, ?_⟩
  · exact (hledger a' List.mem_cons_self).trans (by decide +kernel)
  · exact (hledger b' (List.mem_cons_of_mem a' List.mem_cons_self)).trans (by decide +kernel)

/-- A failure does not leave memory as it was. -/
theorem not_forall_unchanged_of_error :
    ¬ ∀ (c : Configuration) (s t : Memory) (e : Error),
      build Memory.stores c s = (.error e, t) →
        t.accounts = s.accounts ∧ t.reserve = s.reserve ∧ t.version = s.version := by
  let a : Account := ⟨"A", "Ada", .checking, .ofNat 10 (by decide)⟩
  let b : Account := ⟨"B", "Bo", .savings, .ofCoefficient (-5) 0 (by decide) (by decide)⟩
  intro h
  have hsame := h { accounts := [a, b] } Memory.empty _ _ rfl
  exact absurd hsame.1 (List.cons_ne_nil a [])

end Machine

end CashMachine
