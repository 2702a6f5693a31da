/-
What operations write.

An operation writes what it has changed, and everything that it has changed: what is written of
an account, of the reserve or of the version is how it then is in the machine, and what is not
written is as it was (`Covers`).  In particular it writes only accounts that are in the ledger.

* `Ledger.Named` — every account is under its own name, so that its write finds its place;
* `named_perform` — operations keep it so;
* `Outcome.covers` — the writes of one operation.
-/
import CashMachine.Proofs.Machine.Soundness

namespace CashMachine

/-! ### Names -/

/-- Every account is under its own name. -/
def Ledger.Named (l : Ledger) : Prop :=
  ∀ id a, l.find? id = some a → a.id = id

theorem Ledger.Sound.named {l : Ledger} (h : l.Sound) : l.Named := by
  intro id a ha
  exact (h id a ha).1

namespace Machine

variable {m : Machine} {reads : Reads} {stamp : Stamp} {r : Request} {s : Step Reply}

theorem named_admitted (h : m.ledger.Named) (reads : Reads) (r : Request) :
    (m.admitted reads r).ledger.Named := by
  obtain ⟨gained, hentries, hgained⟩ := exists_entries_admitted m reads r
  intro id a ha
  rw [Ledger.find?_append hentries, Option.or_eq_some_iff] at ha
  rcases ha with ha | ⟨_, ha⟩
  · exact h id a ha
  · exact (hgained _ (Ledger.mem_of_lookup ha)).1.symm

theorem Outcome.named (h : Outcome reads stamp m r s) (hm : m.ledger.Named) :
    s.machine.ledger.Named := by
  intro id a ha
  obtain ⟨a₀, b, ha₀, rfl⟩ := h.exists_find?_before ha
  exact hm id a₀ ha₀

theorem named_perform (h : m.ledger.Named) (reads : Reads) (stamp : Stamp) (r : Request) :
    (m.perform reads stamp r).machine.ledger.Named :=
  (outcome_perform m reads stamp r).named (named_admitted h reads r)

/-! ### Writes -/

/-- Writes say how the second machine is, and all in which it is not as the first one.  A version
is only ever written in place of an older one. -/
structure Covers (ws : List Write) (m m₁ : Machine) : Prop where
  account : ∀ a, .account a ∈ ws → m₁.ledger.find? a.id = some a
  reserve : ∀ r, .reserve r ∈ ws → r = m₁.reserve
  version : ∀ v, .version v ∈ ws → v = m₁.version
  find?_or : ∀ id, m₁.ledger.find? id = m.ledger.find? id ∨ ∃ a, .account a ∈ ws ∧ a.id = id
  reserve_or : m₁.reserve = m.reserve ∨ .reserve m₁.reserve ∈ ws
  version_or : m₁.version = m.version ∨ .version m₁.version ∈ ws ∧ ¬ m₁.version ≤ m.version

namespace Covers

variable {m₁ : Machine} {ws : List Write}

theorem refl (m : Machine) : Covers [] m m where
  account _ h := absurd h List.not_mem_nil
  reserve _ h := absurd h List.not_mem_nil
  version _ h := absurd h List.not_mem_nil
  find?_or _ := .inl rfl
  reserve_or := .inl rfl
  version_or := .inl rfl

theorem of_reserve (m : Machine) (r : Reserve) :
    Covers [.reserve r] m { m with reserve := r } := by
  refine ⟨?_, ?_, ?_, fun _ => .inl rfl, .inr List.mem_cons_self, .inl rfl⟩
  · simp
  · simp
  · simp

theorem of_version {v : Version} (h : ¬ v ≤ m.version) :
    Covers [.version v] m { m with version := v } := by
  refine ⟨?_, ?_, ?_, fun _ => .inl rfl, .inl rfl, .inr ⟨List.mem_cons_self, h⟩⟩
  · simp
  · simp
  · simp

/-- An account with a new balance, and whatever reserve and transactions are written with it. -/
theorem of_balance {id : AccountId} {a : Account} {b : Decimal}
    (ha : m.ledger.find? id = some a) (hid : a.id = id)
    (hledger : m₁.ledger = m.ledger.setBalance id b) (hversion : m₁.version = m.version)
    (hws : ∀ w ∈ ws, w = .account { a with balance := b } ∨ w = .reserve m₁.reserve ∨
      ∃ t, w = .transaction t)
    (hmem : .account { a with balance := b } ∈ ws)
    (hreserve : m₁.reserve = m.reserve ∨ .reserve m₁.reserve ∈ ws) : Covers ws m m₁ := by
  subst hid
  refine ⟨?_, ?_, ?_, ?_, hreserve, .inl hversion⟩
  · intro a' h
    obtain heq | heq | ⟨t, heq⟩ := hws _ h <;> cases heq
    rw [hledger, Ledger.find?_setBalance_self, ha, Option.map_some]
  · intro r h
    obtain heq | heq | ⟨t, heq⟩ := hws _ h <;> cases heq
    rfl
  · intro v h
    obtain heq | heq | ⟨t, heq⟩ := hws _ h <;> cases heq
  · intro other
    by_cases ho : other = a.id
    · exact .inr ⟨_, hmem, ho.symm⟩
    · left
      rw [hledger, Ledger.find?_setBalance_of_ne _ b ho]

/-- Two accounts with new balances; the write of one does not stand for the other. -/
theorem of_balances {source destination : AccountId} {a b : Account} {x y : Decimal}
    (hne : source ≠ destination) (ha : m.ledger.find? source = some a)
    (hb : m.ledger.find? destination = some b) (hsource : a.id = source)
    (hdestination : b.id = destination) (t : Transaction) :
    Covers [.account { a with balance := x }, .account { b with balance := y }, .transaction t] m
      { m with ledger := (m.ledger.setBalance source x).setBalance destination y } := by
  subst hsource hdestination
  refine ⟨?_, ?_, ?_, ?_, .inl rfl, .inl rfl⟩
  · intro a' h
    simp only [List.mem_cons, Write.account.injEq, reduceCtorEq, List.not_mem_nil, or_false] at h
    rcases h with rfl | rfl
    · show Ledger.find? _ a.id = _
      rw [Ledger.find?_setBalance_of_ne _ y hne, Ledger.find?_setBalance_self, ha,
        Option.map_some]
    · show Ledger.find? _ b.id = _
      rw [Ledger.find?_setBalance_self, Ledger.find?_setBalance_of_ne _ x hne.symm, hb,
        Option.map_some]
  · simp
  · simp
  · intro other
    by_cases hs : other = a.id
    · exact .inr ⟨_, List.mem_cons_self, hs.symm⟩
    by_cases hd : other = b.id
    · exact .inr ⟨_, List.mem_cons_of_mem _ List.mem_cons_self, hd.symm⟩
    -- any third account has the balance that it had
    left
    show Ledger.find? _ other = _
    rw [Ledger.find?_setBalance_of_ne _ y hd, Ledger.find?_setBalance_of_ne _ x hs]

end Covers

/-- An operation writes all that it changes, as it is afterwards. -/
theorem Outcome.covers (h : Outcome reads stamp m r s) (hm : m.ledger.Named) :
    Covers (Effect.writes s.effects) m s.machine := by
  cases h with
  | refused | known | balance | history | found => exact .refl m
  | opened ha =>
    -- the account has come in before, so the write brings the stores up to it
    refine ⟨?_, ?_, ?_, fun _ => .inl rfl, .inl rfl, .inl rfl⟩
    · intro a' h
      obtain rfl := Write.account.inj (List.mem_singleton.mp h)
      exact ha
    · intro r h
      cases List.mem_singleton.mp h
    · intro v h
      cases List.mem_singleton.mp h
  | withdrawn hc ha hle hp hb =>
    refine .of_balance ha (hm _ _ ha) rfl rfl ?_ List.mem_cons_self (.inr ?_)
    · simp [Effect.writes]
    · simp [Effect.writes]
  | @deposited id amount b a hc ha hb =>
    -- where no notes are taken in, the reserve is not written and is as it was
    cases hn : (Dispenser.absorbed amount).isEmpty with
    | false =>
      refine .of_balance ha (hm _ _ ha) rfl rfl ?_ ?_ (.inr ?_)
      · simp [Effect.writes]
      · simp [Effect.writes]
      · simp [Effect.writes]
    | true =>
      refine .of_balance ha (hm _ _ ha) rfl rfl ?_ ?_ (.inl ?_)
      · simp [Effect.writes]
      · simp [Effect.writes]
      · exact Reserve.addAll_of_isEmpty _ hn
  | transferred hc hne ha hb hle hx hy =>
    exact .of_balances hne ha hb (hm _ _ ha) (hm _ _ hb) _
  | printed | printedBalance | replenished | inkRefilled | restocked => exact .of_reserve m _
  | updated hp hv => exact .of_version hv

end Machine

end CashMachine
