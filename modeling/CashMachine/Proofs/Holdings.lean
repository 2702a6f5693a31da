/-
What stores hold, and what setting a machine up brings into them.

Stores may fail at any moment, but where they answer, they answer with what they hold, and where
they accept a write, they hold it from then on (`Stores.Holding`).  Each account that is provided
comes into the ledger as it is held, or else as it is given, and is then held: so of every name the
account that is held, or else the first one of the list, is taken (`Holdings.chosen`), and this
choice stays the same while the list is gone through.

* `Memory.holding` — memory is such a store;
* `held_provide`, `held_provide_of_error` — one account, `held_foldlM`, `held_foldlM_of_error` — a
  row of them, as far as it is gone through;
* `find?_foldlM` — the ledger after a row of accounts;
* `openReserve_held` — the step before the accounts, `build_held`, `build_held_of_error` — all of
  it.
-/
import CashMachine.Proofs.Machine.Soundness
import CashMachine.Proofs.Memory

namespace CashMachine

/-- What stores hold: accounts under names, and the reserve and the version that were saved. -/
structure Holdings where
  account : AccountId → Option Account
  reserve : Option Reserve
  version : Option Version

namespace Holdings

/-- The holdings with what a write brings. -/
def written (h : Holdings) : Write → Holdings
  | .account a => { h with account := fun id => if a.id = id then some a else h.account id }
  | .reserve r => { h with reserve := some r }
  | .version v => { h with version := some v }
  | .transaction _ => h

/-- The account that is taken for a name: the one that is held, or else the first one of a list. -/
def chosen (h : Holdings) (accounts : List Account) (id : AccountId) : Option Account :=
  (h.account id).or (Memory.find? accounts id)

/-- The holdings with the accounts of a list whose names they did not have, the first one of
each. -/
def filled (h : Holdings) (accounts : List Account) : Holdings :=
  { h with account := h.chosen accounts }

/-- The holdings with a configured reserve where there was none. -/
def opened (h : Holdings) (c : Configuration) : Holdings :=
  { h with reserve := some (h.reserve.getD c.reserve) }

/-- Every account is held under its own name. -/
def Named (h : Holdings) : Prop :=
  ∀ id a, h.account id = some a → a.id = id

variable {h : Holdings} {accounts : List Account} {a b : Account} {id : AccountId}

theorem filled_nil (h : Holdings) : h.filled [] = h := by
  have hchosen : h.chosen [] = h.account := funext fun id => Option.or_none
  rw [filled, hchosen]

theorem filled_append (h : Holdings) (xs ys : List Account) :
    (h.filled xs).filled ys = h.filled (xs ++ ys) := by
  have hchosen : (h.filled xs).chosen ys = h.chosen (xs ++ ys) := by
    funext id
    show ((h.account id).or (Memory.find? xs id)).or (Memory.find? ys id) = _
    rw [Option.or_assoc, chosen, Memory.find?, Memory.find?, Memory.find?, List.find?_append]
  rw [filled, hchosen]
  rfl

/-- One account after another is taken by the same choice. -/
theorem chosen_filled (h : Holdings) (a : Account) (accounts : List Account) :
    (h.filled [a]).chosen accounts = h.chosen (a :: accounts) :=
  congrArg account (h.filled_append [a] accounts)

theorem chosen_one (h : Holdings) (a : Account) (id : AccountId) :
    h.chosen [a] id = (h.account id).or (if a.id = id then some a else none) := by
  by_cases hid : a.id = id <;> simp [chosen, Memory.find?, hid]

theorem filled_of_held (hb : h.account a.id = some b) : h.filled [a] = h := by
  have hchosen : h.chosen [a] = h.account := by
    funext id
    rw [chosen_one]
    by_cases hid : a.id = id
    · subst hid
      rw [hb, Option.some_or]
    · rw [if_neg hid, Option.or_none]
  rw [filled, hchosen]

theorem filled_of_new (hnone : h.account a.id = none) :
    h.filled [a] = h.written (.account a) := by
  have hchosen : h.chosen [a] = fun id => if a.id = id then some a else h.account id := by
    funext id
    rw [chosen_one]
    by_cases hid : a.id = id
    · subst hid
      rw [hnone, Option.none_or]
    · rw [if_neg hid, if_neg hid, Option.or_none]
  rw [filled, hchosen]
  rfl

/-- For a name of the list there is always an account to take. -/
theorem exists_chosen (h : Holdings) (ha : a ∈ accounts) :
    ∃ b, h.chosen accounts a.id = some b := by
  refine Option.ne_none_iff_exists'.mp fun hnone => ?_
  have hlisted := (Option.or_eq_none_iff.mp hnone).2
  exact absurd rfl (of_decide_eq_false ((Bool.not_eq_true _).mp
    (List.find?_eq_none.mp hlisted a ha)))

theorem Named.chosen (hn : h.Named) (hb : h.chosen accounts id = some b) : b.id = id := by
  rcases Option.or_eq_some_iff.mp hb with hb | ⟨_, hb⟩
  · exact hn id b hb
  · exact Memory.id_of_find? hb

theorem Named.filled (hn : h.Named) (accounts : List Account) : (h.filled accounts).Named :=
  fun _ _ hb => hn.chosen hb

end Holdings

/-- Stores that answer, where they do, with what they hold, and hold what they have accepted.  A
write that fails changes nothing. -/
structure Stores.Holding {σ : Type} (stores : Stores σ) (held : σ → Holdings) : Prop where
  account : ∀ {s id x}, (stores.reads s).account id = .ok x → (held s).account id = x
  reserve : ∀ {s x}, (stores.reads s).reserve = .ok x → (held s).reserve = x
  version : ∀ {s x}, (stores.reads s).version = .ok x → (held s).version = x
  accepted : ∀ {w s}, (stores.write w s).1 = .ok () →
    held (stores.write w s).2 = (held s).written w
  refused : ∀ {w s e}, (stores.write w s).1 = .error e → held (stores.write w s).2 = held s

/-- What memory holds. -/
def Memory.holdings (m : Memory) : Holdings :=
  ⟨find? m.accounts, m.reserve, m.version⟩

theorem Memory.named_holdings (m : Memory) : m.holdings.Named :=
  fun _ _ h => id_of_find? h

theorem Memory.holding : Memory.stores.Holding Memory.holdings where
  account h := Except.ok.inj h
  reserve h := Except.ok.inj h
  version h := Except.ok.inj h
  accepted {w m} h := by
    cases w with
    | account a =>
      have hfind : find? (put m.accounts a) = fun id => if a.id = id then some a
          else find? m.accounts id := funext (find?_put m.accounts a)
      show Holdings.mk (find? (put m.accounts a)) m.reserve m.version = _
      rw [hfind]
      rfl
    | transaction t =>
      obtain ⟨haccounts, hreserve, hversion⟩ := write_transaction t m
      show Holdings.mk (find? (write (.transaction t) m).2.accounts)
        (write (.transaction t) m).2.reserve (write (.transaction t) m).2.version = _
      rw [haccounts, hreserve, hversion]
      rfl
    | _ => rfl
  refused {w m e} h := by
    cases w with
    | transaction t =>
      obtain ⟨haccounts, hreserve, hversion⟩ := write_transaction t m
      show Holdings.mk (find? (write (.transaction t) m).2.accounts)
        (write (.transaction t) m).2.reserve (write (.transaction t) m).2.version = _
      rw [haccounts, hreserve, hversion]
      rfl
    | _ => cases h

/-- The accounts of the ledger are held as they are. -/
def Ledger.HeldIn (l : Ledger) (h : Holdings) : Prop :=
  ∀ id a, l.find? id = some a → h.account id = some a

namespace Machine

variable {σ : Type} {stores : Stores σ} {held : σ → Holdings} {c : Configuration}
  {l k : Ledger} {a : Account} {accounts : List Account} {s t : σ} {e : Error}

/-- What the stores do not accept, they do not hold. -/
theorem held_keep_of_error (hstores : stores.Holding held) {w : Write}
    (h : keep stores w s = (.error e, t)) : held t = held s := by
  rw [keep, Prod.mk.injEq, ofStore_eq_error_iff] at h
  obtain ⟨⟨e', hwrite, _⟩, rfl⟩ := h
  exact hstores.refused hwrite

/-! ### Accounts in the stores -/

/-- An account that is provided is the one that is held, or else it is held from then on. -/
theorem held_provide (hstores : stores.Holding held) (h : provide stores l a s = (.ok k, t)) :
    ∃ b isNew, (held s).chosen [a] a.id = some b ∧ l.openAccount b = .ok (k, isNew) ∧
      held t = (held s).filled [a] := by
  obtain ⟨stored, isNew, hread, ho, rfl⟩ | ⟨isNew, hread, ho, hwrite⟩ := provide_eq_ok h
  · have hheld := hstores.account hread
    refine ⟨stored, isNew, ?_, ho, (Holdings.filled_of_held hheld).symm⟩
    rw [Holdings.chosen_one, hheld, Option.some_or]
  · have hheld := hstores.account hread
    have haccepted := hstores.accepted (w := .account a) (s := s) (by rw [hwrite])
    rw [hwrite] at haccepted
    refine ⟨a, isNew, ?_, ho, haccepted.trans (Holdings.filled_of_new hheld).symm⟩
    rw [Holdings.chosen_one, hheld, if_pos rfl, Option.none_or]

/-- An account that cannot be provided leaves the stores as they were. -/
theorem held_provide_of_error (hstores : stores.Holding held)
    (h : provide stores l a s = (.error e, t)) : held t = held s := by
  -- the stores are asked, the account is opened, and only then it is written
  obtain hask | ⟨found, s', hask, h⟩ := Work.bind_eq_error h
  · rw [← (Prod.mk.inj hask).2]
  obtain rfl : s = s' := (Prod.mk.inj hask).2
  rcases found with _ | stored
  · obtain ho | ⟨_, s', ho, h⟩ := Work.bind_eq_error h
    · rw [Work.run_lift] at ho
      rw [← (Prod.mk.inj ho).2]
    rw [Work.run_lift] at ho
    obtain rfl : s = s' := (Prod.mk.inj ho).2
    obtain hkeep | ⟨_, _, _, h⟩ := Work.bind_eq_error h
    · exact held_keep_of_error hstores hkeep
    · cases h
  · obtain ho | ⟨_, s', _, h⟩ := Work.bind_eq_error h
    · rw [Work.run_lift] at ho
      rw [← (Prod.mk.inj ho).2]
    · cases h

/-- Accounts that are all provided are held from then on, where there were none of their names. -/
theorem held_foldlM (hstores : stores.Holding held)
    (h : accounts.foldlM (provide stores) l s = (.ok k, t)) :
    held t = (held s).filled accounts := by
  induction accounts generalizing l s with
  | nil =>
    cases h
    exact (held t).filled_nil.symm
  | cons a accounts ih =>
    rw [List.foldlM_cons] at h
    obtain ⟨l', s', hp, h⟩ := Work.exists_of_bind_eq_ok h
    obtain ⟨_, _, _, _, hfirst⟩ := held_provide hstores hp
    rw [ih h, hfirst, Holdings.filled_append]
    rfl

/-- A row of accounts that is not gone through to its end leaves what came before the account that
could not be provided. -/
theorem held_foldlM_of_error (hstores : stores.Holding held)
    (h : accounts.foldlM (provide stores) l s = (.error e, t)) :
    ∃ done a rest k s', accounts = done ++ a :: rest ∧
      done.foldlM (provide stores) l s = (.ok k, s') ∧ held t = (held s).filled done := by
  induction accounts generalizing l s with
  | nil => cases h
  | cons a accounts ih =>
    rw [List.foldlM_cons] at h
    obtain hp | ⟨l', s', hp, h⟩ := Work.bind_eq_error h
    · refine ⟨[], a, accounts, l, s, rfl, rfl, ?_⟩
      rw [Holdings.filled_nil, held_provide_of_error hstores hp]
    · obtain ⟨done, b, rest, k, s'', hsplit, hdone, hheld⟩ := ih h
      obtain ⟨_, _, _, _, hfirst⟩ := held_provide hstores hp
      refine ⟨a :: done, b, rest, k, s'', by rw [hsplit]; rfl, ?_, ?_⟩
      · rw [List.foldlM_cons, Work.bind_of_ok hp, hdone]
      · rw [hheld, hfirst, Holdings.filled_append]
        rfl

/-- Accounts that are new to the stores are not negative, where they have all been provided. -/
theorem not_negative_of_foldlM (hstores : stores.Holding held)
    (h : accounts.foldlM (provide stores) l s = (.ok k, t)) {id : AccountId} {b : Account}
    (hnone : (held s).account id = none) (hb : Memory.find? accounts id = some b) :
    b.balance.isNegative = false := by
  induction accounts generalizing l s with
  | nil => cases hb
  | cons a accounts ih =>
    rw [List.foldlM_cons] at h
    obtain ⟨l', s', hp, h⟩ := Work.exists_of_bind_eq_ok h
    obtain ⟨b', isNew, hchosen, ho, hheld⟩ := held_provide hstores hp
    by_cases hid : a.id = id
    · subst hid
      rw [Holdings.chosen_one, hnone, Option.none_or, if_pos rfl] at hchosen
      obtain rfl : a = b' := Option.some_inj.mp hchosen
      obtain rfl : a = b := by simpa [Memory.find?] using hb
      exact Ledger.not_negative_of_openAccount ho
    · refine ih h ?_ ?_
      · rw [hheld]
        show (held s).chosen [a] id = none
        rw [Holdings.chosen_one, hnone, if_neg hid, Option.none_or]
      · simpa [Memory.find?, hid] using hb

/-! ### Accounts in the ledger -/

/-- The account that is taken comes in under its own name, unless there is one. -/
theorem find?_provide (hstores : stores.Holding held) (hn : (held s).Named)
    (hl : l.HeldIn (held s)) (h : provide stores l a s = (.ok k, t)) (id : AccountId) :
    k.find? id = (l.find? id).or (if id = a.id then (held s).chosen [a] id else none) := by
  obtain ⟨b, isNew, hb, ho, _⟩ := held_provide hstores h
  have hid := hn.chosen hb
  obtain ⟨rfl, hknown⟩ | ⟨hk, _, _⟩ := Ledger.openAccount_eq_ok ho
  · -- what the ledger has is held, so it is the account that is taken
    by_cases hname : id = a.id
    · subst hname
      obtain ⟨b', hb'⟩ := Option.ne_none_iff_exists'.mp (hid ▸ hknown)
      rw [hb', Option.some_or]
    · rw [if_neg hname, Option.or_none]
  · rw [Ledger.find?_append_one hk, hid]
    by_cases hname : id = a.id
    · rw [if_pos hname, if_pos hname, hname, hb]
    · rw [if_neg hname, if_neg hname]

theorem heldIn_provide (hstores : stores.Holding held) (hn : (held s).Named)
    (hl : l.HeldIn (held s)) (h : provide stores l a s = (.ok k, t)) : k.HeldIn (held t) := by
  obtain ⟨_, _, _, _, hheld⟩ := held_provide hstores h
  intro id b hb
  rw [find?_provide hstores hn hl h, Option.or_eq_some_iff] at hb
  rw [hheld]
  rcases hb with hb | ⟨_, hb⟩
  · exact Option.or_eq_some_iff.mpr (.inl (hl id b hb))
  · by_cases hname : id = a.id
    · rw [if_pos hname] at hb
      exact hb
    · rw [if_neg hname] at hb
      cases hb

/-- The ledger with a row of accounts: those that it had, and for every name of the row the account
that is taken for it. -/
theorem find?_foldlM (hstores : stores.Holding held) (hn : (held s).Named)
    (hl : l.HeldIn (held s)) (h : accounts.foldlM (provide stores) l s = (.ok k, t))
    (id : AccountId) :
    k.find? id = (l.find? id).or
      (if id ∈ accounts.map Account.id then (held s).chosen accounts id else none) := by
  induction accounts generalizing l s with
  | nil =>
    cases h
    exact Option.or_none.symm
  | cons a accounts ih =>
    rw [List.foldlM_cons] at h
    obtain ⟨l', s', hp, h⟩ := Work.exists_of_bind_eq_ok h
    obtain ⟨b, _, hb, _, hheld⟩ := held_provide hstores hp
    have hrest := ih (hheld ▸ hn.filled [a]) (heldIn_provide hstores hn hl hp) h
    rw [hheld, Holdings.chosen_filled] at hrest
    rw [hrest, find?_provide hstores hn hl hp, Option.or_assoc]
    congr 1
    by_cases hname : id = a.id
    · subst hname
      -- the first account of a name settles what is taken for it
      have hchosen : (held s).chosen (a :: accounts) a.id = some b := by
        rw [← Holdings.chosen_filled]
        exact Option.or_eq_some_iff.mpr (.inl hb)
      rw [if_pos rfl, hb, Option.some_or, if_pos (by simp), hchosen]
    · rw [if_neg hname, Option.none_or]
      simp [hname]

/-! ### Setting up -/

/-- A reserve that is held is taken, and any other one is held from then on. -/
theorem openReserve_held (hstores : stores.Holding held) {r : Reserve}
    (h : openReserve stores c s = (.ok r, t)) :
    r = (held s).reserve.getD c.reserve ∧ held t = (held s).opened c := by
  rw [Holdings.opened]
  obtain ⟨hread, rfl⟩ | ⟨hread, rfl, hwrite⟩ := openReserve_eq_ok h
  · have hheld := hstores.reserve hread
    rw [hheld, Option.getD_some, ← hheld]
    exact ⟨rfl, rfl⟩
  · have haccepted := hstores.accepted (w := .reserve c.reserve) (s := s) (by rw [hwrite])
    rw [hwrite] at haccepted
    rw [hstores.reserve hread, Option.getD_none]
    exact ⟨rfl, haccepted⟩

theorem openReserve_held_of_error (hstores : stores.Holding held)
    (h : openReserve stores c s = (.error e, t)) : held t = held s := by
  obtain hask | ⟨found, s', hask, h⟩ := Work.bind_eq_error h
  · rw [← (Prod.mk.inj hask).2]
  obtain rfl : s = s' := (Prod.mk.inj hask).2
  rcases found with _ | saved
  · obtain hkeep | ⟨_, _, _, h⟩ := Work.bind_eq_error h
    · exact held_keep_of_error hstores hkeep
    · cases h
  · cases h

/-- What setting up brings in: the reserve and the accounts, as they are held from then on. -/
theorem build_held (hstores : stores.Holding held) {m : Machine}
    (h : build stores c s = (.ok m, t)) :
    m.reserve = (held s).reserve.getD c.reserve ∧
      held t = ((held s).opened c).filled c.accounts ∧
      ((held s).Named → ∀ id, m.ledger.find? id =
        if id ∈ c.accounts.map Account.id then (held s).chosen c.accounts id else none) := by
  obtain ⟨r, s₁, hr, h⟩ := Work.exists_of_bind_eq_ok h
  obtain ⟨v, s₂, hv, h⟩ := Work.exists_of_bind_eq_ok h
  obtain ⟨k, s₃, hk, h⟩ := Work.exists_of_bind_eq_ok h
  cases h
  obtain rfl : s₂ = s₁ := by rw [← openVersion_snd stores c s₁, hv]
  obtain ⟨hreserve, hopened⟩ := openReserve_held hstores hr
  refine ⟨hreserve, ?_, ?_⟩
  · rw [held_foldlM hstores hk, hopened]
  · -- the accounts that are held are those from before, whatever was done about the reserve
    intro hn id
    have hn' : (held s₂).Named := by
      rw [hopened]
      exact hn
    have hempty : Ledger.empty.HeldIn (held s₂) := fun _ _ ha => nomatch ha
    rw [find?_foldlM hstores hn' hempty hk, hopened]
    exact Option.none_or

/-- What is held where setting up fails: what was held, or what it had brought in by then. -/
theorem build_held_of_error (hstores : stores.Holding held)
    (h : build stores c s = (.error e, t)) :
    held t = held s ∨ ∃ done rest k s₁ s₂, c.accounts = done ++ rest ∧ (rest = [] → done = []) ∧
      held s₁ = (held s).opened c ∧
      done.foldlM (provide stores) Ledger.empty s₁ = (.ok k, s₂) ∧
      held t = ((held s).opened c).filled done := by
  obtain hr | ⟨r, s₁, hr, hversion⟩ := Work.bind_eq_error h
  · exact .inl (openReserve_held_of_error hstores hr)
  have hopened := (openReserve_held hstores hr).2
  right
  obtain hv | ⟨v, s₂, hv, haccounts⟩ := Work.bind_eq_error hversion
  · obtain rfl : t = s₁ := by rw [← openVersion_snd stores c s₁, hv]
    exact ⟨[], c.accounts, Ledger.empty, t, t, rfl, fun _ => rfl, hopened, rfl,
      hopened.trans (Holdings.filled_nil _).symm⟩
  obtain rfl : s₂ = s₁ := by rw [← openVersion_snd stores c s₁, hv]
  obtain hk | ⟨k, s₃, _, hlast⟩ := Work.bind_eq_error haccounts
  · obtain ⟨done, a, rest, k, s₄, hsplit, hdone, hheld⟩ := held_foldlM_of_error hstores hk
    refine ⟨done, a :: rest, k, s₂, s₄, hsplit, nofun, hopened, hdone, ?_⟩
    rw [hheld, hopened]
  · cases hlast

end Machine

end CashMachine
