/-
Memory keeps up with a machine.

The stores that are kept in memory keep everything that they are given.  So when a machine writes
all that it changes (`Machine.Covers`), its memory has what it has.

* `Stores.observe_writeAll` — what a row of writes comes to;
* `Stores.Shelved` — what stores do that keep the accounts that they are given;
* `Ledger.Kept` — the accounts of a ledger are kept as they are;
* `load_of_kept` — a machine whose accounts are kept answers as its memory would;
* `Covers.find?_writeAll` — such stores after the writes of an operation;
* `Covers.kept_writeAll`, `Covers.reserve_writeAll`, `Covers.version_writeAll` — memory after
  them.
-/
import CashMachine.Machine.Build
import CashMachine.Proofs.Machine.Writes

namespace CashMachine

/-- After writes, each of which makes an observation true of the stores or does not touch it, the
observation is true if it was before or one of them makes it so. -/
theorem Stores.observe_writeAll {σ β : Type} (stores : Stores σ) (observe : σ → β) {b : β}
    {ws : List Write} {s : σ}
    (hws : ∀ w ∈ ws, (∀ s, observe (stores.write w s).2 = b) ∨
      ∀ s, observe (stores.write w s).2 = observe s)
    (hs : observe s = b ∨ ∃ w ∈ ws, ∀ s, observe (stores.write w s).2 = b) :
    observe (stores.writeAll ws s) = b := by
  induction ws generalizing s with
  | nil =>
    rcases hs with hs | ⟨w, hw, _⟩
    · exact hs
    · exact absurd hw List.not_mem_nil
  | cons w ws ih =>
    refine ih (fun v hv => hws v (List.mem_cons_of_mem w hv)) ?_
    rcases hws w List.mem_cons_self with hset | hleft
    · exact .inl (hset s)
    · -- this write does not touch it, so it was true before, or a later write makes it so
      rw [hleft]
      rcases hs with hs | ⟨v, hv, hset⟩
      · exact .inl hs
      · rcases List.mem_cons.mp hv with rfl | hv
        · exact .inl ((hleft s).symm.trans (hset s))
        · exact .inr ⟨v, hv, hset⟩

/-- Stores that answer every look-up of an account, with what is kept under the name.  An account
that is written is kept from then on under its own name; other writes leave accounts alone. -/
structure Stores.Shelved {σ : Type} (stores : Stores σ) (kept : σ → AccountId → Option Account) :
    Prop where
  account : ∀ s id, (stores.reads s).account id = .ok (kept s id)
  put : ∀ s a id, kept (stores.write (.account a) s).2 id = if a.id = id then some a else kept s id
  other : ∀ s w, (∀ a, w ≠ .account a) → kept (stores.write w s).2 = kept s

theorem Memory.shelved : Memory.stores.Shelved fun s => find? s.accounts where
  account _ _ := rfl
  put s a id := find?_put s.accounts a id
  other s w h := by
    cases w with
    | account a => exact absurd rfl (h a)
    | transaction t => exact congrArg find? (write_transaction t s).1
    | _ => rfl

/-! ### Ledgers that are kept -/

/-- Every account of the ledger is kept as it is, under its name. -/
def Ledger.Kept (l : Ledger) (accounts : List Account) : Prop :=
  ∀ id a, l.find? id = some a → Memory.find? accounts id = some a

theorem Memory.id_of_find? {accounts : List Account} {id : AccountId} {a : Account}
    (h : Memory.find? accounts id = some a) : a.id = id := by
  simpa using List.find?_some h

/-- Finding an account in a row, and in the entries that a ledger of this row has. -/
theorem Memory.lookup_map_id (accounts : List Account) (id : AccountId) :
    (accounts.map fun a => (a.id, a)).lookup id = find? accounts id := by
  induction accounts with
  | nil => rfl
  | cons a accounts ih =>
    rw [List.map_cons, List.lookup_cons, ih]
    by_cases hid : a.id = id
    · simp [find?, hid]
    · simp [find?, hid, beq_false_of_ne (Ne.symm hid)]

namespace Ledger.Kept

variable {l k : Ledger} {accounts : List Account} {a : Account}

theorem empty (accounts : List Account) : Ledger.empty.Kept accounts := by
  intro id a h
  cases h

/-- Kept accounts come in. -/
theorem append {gained : List (AccountId × Account)} (h : l.Kept accounts)
    (hk : k.entries = l.entries ++ gained)
    (hg : ∀ e ∈ gained, Memory.find? accounts e.1 = some e.2) : k.Kept accounts := by
  intro id a ha
  rw [find?_append hk, Option.or_eq_some_iff] at ha
  rcases ha with ha | ⟨_, ha⟩
  · exact h id a ha
  · exact hg _ (mem_of_lookup ha)

/-- A new account comes in and is written. -/
theorem put (h : l.Kept accounts) (hk : k.entries = l.entries ++ [(a.id, a)])
    (hf : l.find? a.id = none) : k.Kept (Memory.put accounts a) := by
  intro id b hb
  rw [Memory.find?_put]
  by_cases hid : a.id = id
  · rw [if_pos hid]
    rw [← hid, find?_new hk hf] at hb
    exact hb
  · rw [if_neg hid]
    rw [find?_append_one hk, if_neg (Ne.symm hid), Option.or_none] at hb
    exact h id b hb

theorem openAccount_of_stored {isNew : Bool} (h : l.Kept accounts)
    (ha : Memory.find? accounts a.id = some a) (ho : l.openAccount a = .ok (k, isNew)) :
    k.Kept accounts := by
  obtain ⟨rfl, _⟩ | ⟨hk, _, _⟩ := openAccount_eq_ok ho
  · exact h
  · refine h.append hk ?_
    intro e he
    obtain rfl := List.mem_singleton.mp he
    exact ha

theorem openAccount_of_new {isNew : Bool} (h : l.Kept accounts)
    (ha : Memory.find? accounts a.id = none) (ho : l.openAccount a = .ok (k, isNew)) :
    k.Kept (Memory.put accounts a) := by
  obtain ⟨_, hf⟩ | ⟨hk, _, hf⟩ := openAccount_eq_ok ho
  · -- an account of the ledger would be kept
    obtain ⟨b, hb⟩ := Option.ne_none_iff_exists'.mp hf
    rw [h _ b hb] at ha
    cases ha
  · exact h.put hk hf

end Ledger.Kept

/-- What look-ups bring into the ledger is kept: memory answers with accounts that it keeps, each
under its own name. -/
theorem Machine.kept_gather {m : Machine} {s : Memory} (h : m.ledger.Kept s.accounts)
    (names : List AccountId) :
    (m.gather (Memory.reads s) names).ledger.Kept s.accounts := by
  obtain ⟨_, gained, hentries, hgained⟩ := grown_gather m (Memory.reads s) names
  refine h.append hentries ?_
  intro e he
  obtain ⟨hid, _, name, _, _, hread⟩ := hgained e he
  have hstored : Memory.find? s.accounts name = some e.2 := Except.ok.inj hread
  rw [hid, Memory.id_of_find? hstored]
  exact hstored

/-- What is answered about the balance of an account that memory keeps. -/
def Memory.account (s : Memory) (id : AccountId) : Except Error Account :=
  match find? s.accounts id with
  | none => .error (.accountNotFound id)
  | some a => if a.balance.isNegative then .error .invalidAmount else .ok a

/-- A machine whose accounts are all kept answers from its ledger as it would from memory. -/
theorem Machine.load_of_kept {m : Machine} {s : Memory} (hk : m.ledger.Kept s.accounts)
    (hs : m.ledger.Sound) (id : AccountId) :
    (m.load (Memory.reads s) id).1 = s.account id := by
  cases hf : m.ledger.find? id with
  | some a =>
    have hn := Decimal.isNegative_eq_false_iff.mpr (hs id a hf).2
    rw [load_of_find? hf, Memory.account, hk id a hf]
    simp [hn]
  | none =>
    rw [load, hf, Memory.account]
    have hr : (Memory.reads s).account id = .ok (Memory.find? s.accounts id) := rfl
    rw [hr]
    cases hstored : Memory.find? s.accounts id with
    | none => rfl
    | some stored =>
      -- memory answers with the account that was asked for, so it comes in unless it is refused
      have hid := Memory.id_of_find? hstored
      subst hid
      obtain ⟨ho, hn⟩ | ⟨_, hknown⟩ | ⟨k, ho, hk', hn, _⟩ := m.ledger.openAccount_cases stored
      · simp [enroll, ho, Except.map, hn]
      · exact absurd hf hknown
      · simp [enroll, ho, Except.map, hn, Ledger.get_eq_ok_iff.mpr (Ledger.find?_new hk' hf)]

/-! ### Memory that keeps up -/

/-- The version that a machine is set up with, given the saved one. -/
def Configuration.versionOver (c : Configuration) (saved : Option Version) : Version :=
  saved.elim c.version (·.newer c.version)

theorem Configuration.not_versionOver_lt (c : Configuration) (saved : Option Version) :
    ¬ c.versionOver saved < c.version := by
  cases saved with
  | none =>
    rw [versionOver, Option.elim_none, Version.lt_iff]
    omega
  | some v => exact Version.not_newer_lt_right v c.version

namespace Machine.Covers

variable {ws : List Write} {m m₁ : Machine} {s : Memory}

/-- What is kept under a name is what the machine then has: its account is written, or it is as it
was and was kept. -/
theorem find?_writeAll {σ : Type} {stores : Stores σ} {kept : σ → AccountId → Option Account}
    {s : σ} {id : AccountId} (hstores : stores.Shelved kept) (h : Covers ws m m₁)
    (hid : m₁.ledger.find? id = m.ledger.find? id → kept s id = m₁.ledger.find? id) :
    kept (stores.writeAll ws s) id = m₁.ledger.find? id := by
  -- a write of an account of this name is one of the account as the ledger then has it
  have hset : ∀ b, .account b ∈ ws → b.id = id →
      ∀ s, kept (stores.write (.account b) s).2 id = m₁.ledger.find? id := by
    intro b hb hname s
    rw [hstores.put, if_pos hname, ← hname, h.account b hb]
  refine stores.observe_writeAll (fun s => kept s id) ?_ ?_
  · intro w hw
    by_cases hw' : ∃ b, w = .account b
    · obtain ⟨b, rfl⟩ := hw'
      by_cases hname : b.id = id
      · exact .inl (hset b hw hname)
      · right
        intro s
        show kept (stores.write (.account b) s).2 id = kept s id
        rw [hstores.put, if_neg hname]
    · exact .inr fun s => congrArg (· id) (hstores.other s w fun b hb => hw' ⟨b, hb⟩)
  · obtain hsame | ⟨b, hb, hname⟩ := h.find?_or id
    · exact .inl (hid hsame)
    · exact .inr ⟨_, hb, hset b hb hname⟩

theorem kept_writeAll (h : Covers ws m m₁) (hk : m.ledger.Kept s.accounts) :
    m₁.ledger.Kept (Memory.stores.writeAll ws s).accounts := by
  intro id a ha
  refine (h.find?_writeAll Memory.shelved ?_).trans ha
  intro hsame
  rw [ha]
  exact hk id a (hsame.symm.trans ha)

theorem reserve_writeAll (h : Covers ws m m₁) (hr : s.reserve = some m.reserve) :
    (Memory.stores.writeAll ws s).reserve = some m₁.reserve := by
  refine Memory.stores.observe_writeAll Memory.reserve ?_ ?_
  · intro w hw
    cases w with
    | reserve r =>
      obtain rfl := h.reserve r hw
      exact .inl fun _ => rfl
    | transaction t => exact .inr fun s => (Memory.write_transaction t s).2.1
    | _ => exact .inr fun _ => rfl
  · obtain hsame | hmem := h.reserve_or
    · exact .inl (hr.trans (congrArg some hsame.symm))
    · exact .inr ⟨_, hmem, fun _ => rfl⟩

/-- A version that is written is newer than the one before, and so than the configured one. -/
theorem version_writeAll {c : Configuration} (h : Covers ws m m₁)
    (hv : c.versionOver s.version = m.version) :
    c.versionOver (Memory.stores.writeAll ws s).version = m₁.version := by
  have hold : ¬ m.version < c.version := hv ▸ c.not_versionOver_lt s.version
  have hnew : c.versionOver (some m₁.version) = m₁.version := by
    refine Version.newer_eq_left ?_
    obtain hsame | ⟨_, hlater⟩ := h.version_or
    · rw [hsame]
      exact hold
    · exact Version.not_lt_of_not_le_of_not_lt hlater hold
  refine Memory.stores.observe_writeAll (fun s => c.versionOver s.version) ?_ ?_
  · intro w hw
    cases w with
    | version v =>
      obtain rfl := h.version v hw
      exact .inl fun _ => hnew
    | transaction t => exact .inr fun s => congrArg c.versionOver (Memory.write_transaction t s).2.2
    | _ => exact .inr fun _ => rfl
  · obtain hsame | ⟨hmem, _⟩ := h.version_or
    · exact .inl (hv.trans hsame.symm)
    · exact .inr ⟨_, hmem, fun _ => hnew⟩

end Machine.Covers

end CashMachine
