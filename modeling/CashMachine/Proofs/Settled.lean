/-
Machines that have all the accounts of their stores.

A machine that is set up over stores without accounts has in its ledger exactly the accounts that
the stores keep from then on, and this stays so, since an account that is changed is also written
(`Session.Settled`).  Then there is nothing to be loaded any more, and a request that fails leaves
the session exactly as it was.

* `build_keeps` — how something is shown of machines that are set up;
* `observe_build` — what setting up leaves alone in the stores;
* `full_provide`, `settled_build` — the ledger when the machine has been set up;
* `settled_perform` — one request;
* `Settled.session_of_error` — a request that fails.
-/
import CashMachine.Proofs.LazyLoading
import CashMachine.Proofs.Machine.Atomicity

namespace CashMachine

/-- All accounts that the stores keep are in the ledger as they are kept, each under its own name,
and no other ones. -/
structure Session.Settled {σ : Type} (kept : σ → AccountId → Option Account) (s : Session σ) :
    Prop where
  full : ∀ id, s.machine.ledger.find? id = kept s.store id
  named : s.machine.ledger.Named

namespace Machine

variable {σ : Type} {stores : Stores σ} {kept : σ → AccountId → Option Account} {c : Configuration}

/-! ### Setting up -/

/-- What holds of an empty ledger, before and after a reserve is written, and is kept when accounts
are provided, holds of the machine that is set up. -/
theorem build_keeps {P : Ledger → σ → Prop} {s₀ s₁ : σ} {m : Machine}
    (hstart : P Ledger.empty s₀)
    (hreserve : ∀ r, P Ledger.empty (stores.write (.reserve r) s₀).2)
    (hprovide : ∀ {l k a s t}, P l s → provide stores l a s = (.ok k, t) → P k t)
    (h : build stores c s₀ = (.ok m, s₁)) : P m.ledger s₁ := by
  obtain ⟨reserve, s, hr, h⟩ := Work.exists_of_bind_eq_ok h
  obtain ⟨version, s', hv, h⟩ := Work.exists_of_bind_eq_ok h
  obtain ⟨ledger, t, hf, h⟩ := Work.exists_of_bind_eq_ok h
  cases h
  obtain rfl : s' = s := by rw [← openVersion_snd stores c s, hv]
  refine foldlM_provide_keeps hprovide ?_ hf
  obtain ⟨_, rfl⟩ | ⟨_, _, hwrite⟩ := openReserve_eq_ok hr
  · exact hstart
  · have hwritten := hreserve c.reserve
    rw [hwrite] at hwritten
    exact hwritten

/-- Setting up writes a reserve and accounts, and touches nothing else that is kept. -/
theorem observe_build {β : Type} {observe : σ → β}
    (haccount : ∀ s a, observe (stores.write (.account a) s).2 = observe s)
    (hreserve : ∀ s r, observe (stores.write (.reserve r) s).2 = observe s) {s₀ s₁ : σ}
    {m : Machine} (h : build stores c s₀ = (.ok m, s₁)) : observe s₁ = observe s₀ := by
  refine build_keeps (P := fun _ t => observe t = observe s₀) rfl (hreserve s₀) ?_ h
  intro l k a s t hs hp
  obtain ⟨_, _, _, _, rfl⟩ | ⟨_, _, _, hwrite⟩ := provide_eq_ok hp
  · exact hs
  · rw [← hs, ← haccount s a, hwrite]

/-- An account that is kept is in the ledger already, and any other one is opened and written. -/
theorem full_provide (hstores : stores.Shelved kept) {l k : Ledger} {a : Account} {s t : σ}
    (hl : l.Sound) (hfull : ∀ id, l.find? id = kept s id)
    (h : provide stores l a s = (.ok k, t)) (id : AccountId) : k.find? id = kept t id := by
  obtain ⟨stored, isNew, hread, ho, rfl⟩ | ⟨isNew, hread, ho, hwrite⟩ := provide_eq_ok h
  · rw [hstores.account] at hread
    have hfind : l.find? a.id = some stored := (hfull a.id).trans (Except.ok.inj hread)
    obtain ⟨rfl, _⟩ | ⟨_, _, hnone⟩ := Ledger.openAccount_eq_ok ho
    · exact hfull id
    · rw [(hl a.id stored hfind).1, hfind] at hnone
      cases hnone
  · rw [hstores.account] at hread
    have hnone : l.find? a.id = none := (hfull a.id).trans (Except.ok.inj hread)
    obtain ⟨_, hknown⟩ | ⟨hk, _, _⟩ := Ledger.openAccount_eq_ok ho
    · exact absurd hnone hknown
    · have hput := hstores.put s a id
      rw [hwrite] at hput
      rw [hput, Ledger.find?_append_one hk, ← hfull]
      by_cases hid : a.id = id
      · subst hid
        rw [if_pos rfl, if_pos rfl, hnone, Option.none_or]
      · rw [if_neg hid, if_neg (Ne.symm hid), Option.or_none]

/-- Over stores without accounts, the machine that is set up has all accounts that are then kept. -/
theorem settled_build (hstores : stores.Shelved kept) {s₀ s₁ : σ} {m : Machine}
    (hempty : ∀ id, kept s₀ id = none) (h : build stores c s₀ = (.ok m, s₁)) :
    Session.Settled kept ⟨m, s₁⟩ := by
  have hstart : ∀ s, kept s = kept s₀ → ∀ id, Ledger.empty.find? id = kept s id := by
    intro s hs id
    rw [hs, hempty]
    rfl
  have hreserve : ∀ r, kept (stores.write (.reserve r) s₀).2 = kept s₀ :=
    fun r => hstores.other s₀ _ nofun
  have hfull : m.ledger.Sound ∧ ∀ id, m.ledger.find? id = kept s₁ id := by
    refine build_keeps (P := fun l s => l.Sound ∧ ∀ id, l.find? id = kept s id)
      ⟨.empty, hstart s₀ rfl⟩ (fun r => ⟨.empty, hstart _ (hreserve r)⟩) ?_ h
    rintro l k a s t ⟨hl, hfull⟩ hp
    exact ⟨sound_provide hl hp, full_provide hstores hl hfull hp⟩
  exact ⟨hfull.2, hfull.1.named⟩

end Machine

namespace Session

variable {σ : Type} {stores : Stores σ} {kept : σ → AccountId → Option Account} {s : Session σ}
  {r : Request}

/-! ### Requests -/

theorem Settled.admitted_eq (hstores : stores.Shelved kept) (h : Settled kept s)
    (hopen : ∀ a, r ≠ .openAccount a) :
    s.machine.admitted (stores.reads s.store) r = s.machine := by
  rw [Machine.admitted_eq_gather hopen, Machine.gather_of_full]
  intro id
  rw [hstores.account, h.full]

theorem settled_perform (hstores : stores.Shelved kept) (h : Settled kept s) (stamp : Stamp)
    (hopen : ∀ a, r ≠ .openAccount a) :
    Settled kept (s.perform stores stamp r).session :=
  ⟨full_perform hstores h.named h.full stamp hopen, Machine.named_perform h.named _ stamp r⟩

/-- A request that fails changes nothing at all: no account is left that it could have loaded. -/
theorem Settled.session_of_error (hstores : stores.Shelved kept) (h : Settled kept s)
    {stamp : Stamp} (hopen : ∀ a, r ≠ .openAccount a) {e : Error}
    (he : (s.perform stores stamp r).answer = .error e) :
    (s.perform stores stamp r).session = s := by
  have hstep := (Machine.outcome_perform s.machine (stores.reads s.store) stamp r).of_error he
  rw [h.admitted_eq hstores hopen] at hstep
  rw [perform, hstep]
  rfl

end Session

end CashMachine
