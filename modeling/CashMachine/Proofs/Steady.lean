/-
Look-ups that reserves and stamps leave alone.

When slips are printed, more reserves are written than without them, and other ones; and
transactions that are committed twice have other stamps.  Stores are steady when that has no effect
on how they answer later on: after two rows of writes that are the same otherwise, an account that
has not been written is looked up alike (`Stores.Steady`).  Nothing more is asked of them.  They may
refuse to answer after so many writes, mix up accounts, or keep nothing.

* `Stores.Parted` — two states that such rows have led to; `Parted.writeAll`, `Parted.left` —
  further rows on both sides, or on one; `Parted.account_eq` — what steady stores answer in both;
* `Apart.steady` — stores in which writes leave other accounts alone are steady;
* `Filed.steady` — so are stores that look accounts up in a part of their own;
* `Memory.filed`, `Faulty.filed`, `Separate.filed` — memory, a store that fails on demand around
  such a store, and three stores that know nothing of each other.
-/
import CashMachine.Proofs.Independence
import CashMachine.Store.Faulty
import CashMachine.Store.Separate

namespace CashMachine

namespace Write

/-- What is left of a write without reserves and stamps. -/
def lasting : Write → Option Write
  | .reserve _ => none
  | w => some w.unstamped

/-- The account that is written. -/
def account? : Write → Option Account
  | .account a => some a
  | _ => none

theorem account?_eq_some_iff {w : Write} {a : Account} : w.account? = some a ↔ w = .account a := by
  cases w <;> simp [account?]

theorem mem_filterMap_account? {ws : List Write} {a : Account} :
    a ∈ ws.filterMap account? ↔ .account a ∈ ws := by
  simp only [List.mem_filterMap, account?_eq_some_iff]
  constructor
  · rintro ⟨w, hw, rfl⟩
    exact hw
  · intro h
    exact ⟨_, h, rfl⟩

/-- Accounts are neither reserves nor stamped. -/
theorem filterMap_account?_eq {ws vs : List Write}
    (h : vs.filterMap lasting = ws.filterMap lasting) :
    vs.filterMap account? = ws.filterMap account? := by
  have hlasting (us : List Write) :
      (us.filterMap lasting).filterMap account? = us.filterMap account? := by
    rw [List.filterMap_filterMap]
    exact List.filterMap_congr fun w _ => by cases w <;> rfl
  rw [← hlasting, h, hlasting]

end Write

namespace Stores

variable {σ : Type} {stores : Stores σ}

/-- From the state on, reserves and stamps leave look-ups alone: after rows of writes that are the
same but for these, accounts that have not been written are looked up alike. -/
def Steady (stores : Stores σ) (s : σ) : Prop :=
  ∀ ws vs : List Write, vs.filterMap Write.lasting = ws.filterMap Write.lasting →
    ∀ id, (∀ a, .account a ∈ ws → a.id ≠ id) →
      (stores.reads (stores.writeAll vs s)).account id =
        (stores.reads (stores.writeAll ws s)).account id

/-- Where writes leave other accounts alone, one that has not been written is looked up as at
first. -/
theorem Apart.steady (h : stores.Apart) (s : σ) : stores.Steady s := by
  intro ws vs hlasting id hid
  have hid' : ∀ a, .account a ∈ vs → a.id ≠ id := by
    intro a ha
    rw [← Write.mem_filterMap_account?, Write.filterMap_account?_eq hlasting] at ha
    exact hid a (Write.mem_filterMap_account?.mp ha)
  rw [h.writeAll hid' s, h.writeAll hid s]

/-! ### Two states -/

/-- Two states that writes have led to from one: the same writes but for reserves and stamps, and
of accounts only those that are known. -/
inductive Parted (stores : Stores σ) (s₀ : σ) (known : AccountId → Prop) : σ → σ → Prop
  | intro {ws vs : List Write} (hlasting : vs.filterMap Write.lasting = ws.filterMap Write.lasting)
    (hknown : ∀ a, .account a ∈ ws → known a.id) :
    Parted stores s₀ known (stores.writeAll ws s₀) (stores.writeAll vs s₀)

namespace Parted

variable {s₀ s t : σ} {known known' : AccountId → Prop}

theorem refl (stores : Stores σ) (s : σ) (known : AccountId → Prop) :
    Parted stores s known s s :=
  (.intro rfl nofun : Parted stores s known (stores.writeAll [] s) (stores.writeAll [] s))

/-- More writes, of accounts that are known by now. -/
theorem writeAll (h : Parted stores s₀ known s t) (hmore : ∀ id, known id → known' id)
    {ws vs : List Write} (hlasting : vs.filterMap Write.lasting = ws.filterMap Write.lasting)
    (hknown : ∀ a, .account a ∈ ws → known' a.id) :
    Parted stores s₀ known' (stores.writeAll ws s) (stores.writeAll vs t) := by
  cases h with
  | intro hlasting₀ hknown₀ =>
    rw [← writeAll_append, ← writeAll_append]
    refine .intro ?_ fun a ha => ?_
    · rw [List.filterMap_append, List.filterMap_append, hlasting₀, hlasting]
    · rcases List.mem_append.mp ha with ha | ha
      · exact hmore _ (hknown₀ a ha)
      · exact hknown a ha

/-- Reserves on one side, and nothing on the other. -/
theorem left (h : Parted stores s₀ known s t) {ws : List Write}
    (hws : ws.filterMap Write.lasting = []) :
    Parted stores s₀ known (stores.writeAll ws s) t := by
  have hnone : ∀ a, .account a ∉ ws := by
    intro a ha
    have hlasting : .account a ∈ ws.filterMap Write.lasting :=
      List.mem_filterMap.mpr ⟨_, ha, rfl⟩
    rw [hws] at hlasting
    cases hlasting
  have hboth : ([] : List Write).filterMap Write.lasting = ws.filterMap Write.lasting := hws.symm
  exact h.writeAll (fun _ hid => hid) hboth fun a ha => absurd ha (hnone a)

/-- What is not known has not been written, and is looked up alike. -/
theorem account_eq (h : Parted stores s₀ known s t) (hsteady : stores.Steady s₀) {id : AccountId}
    (hid : ¬ known id) : (stores.reads t).account id = (stores.reads s).account id := by
  cases h with
  | intro hlasting hknown =>
    refine hsteady _ _ hlasting id fun a ha heq => ?_
    exact hid (heq ▸ hknown a ha)

end Parted

/-! ### Accounts in a part of their own -/

/-- Accounts are looked up in a part of the state, which changes with the accounts that are written
and with nothing else. -/
structure Filed {β : Type} (stores : Stores σ) (part : σ → β)
    (find : β → AccountId → Except StoreError (Option Account)) (file : Account → β → β) :
    Prop where
  found : ∀ s id, (stores.reads s).account id = find (part s) id
  written : ∀ a s, part (stores.write (.account a) s).2 = file a (part s)
  other : ∀ w s, w.account? = none → part (stores.write w s).2 = part s

namespace Filed

variable {β : Type} {part : σ → β} {find : β → AccountId → Except StoreError (Option Account)}
  {file : Account → β → β}

theorem writeAll (h : Filed stores part find file) (ws : List Write) (s : σ) :
    part (stores.writeAll ws s) =
      (ws.filterMap Write.account?).foldl (fun b a => file a b) (part s) := by
  induction ws generalizing s with
  | nil => rfl
  | cons w ws ih =>
    have hrest : part (stores.writeAll (w :: ws) s) =
        (ws.filterMap Write.account?).foldl (fun b a => file a b) (part (stores.write w s).2) :=
      ih _
    rw [hrest]
    cases hw : w.account? with
    | none => rw [h.other w s hw, List.filterMap_cons_none hw]
    | some a =>
      obtain rfl := Write.account?_eq_some_iff.mp hw
      rw [h.written, List.filterMap_cons_some hw, List.foldl_cons]

/-- What becomes of reserves and transactions has no effect on accounts. -/
theorem steady (h : Filed stores part find file) (s : σ) : stores.Steady s := by
  intro ws vs hlasting id _
  rw [h.found, h.found, h.writeAll, h.writeAll, Write.filterMap_account?_eq hlasting]

end Filed

end Stores

theorem Memory.filed : stores.Filed Memory.accounts (fun kept id => .ok (find? kept id))
    (fun a kept => put kept a) where
  found _ _ := rfl
  written _ _ := rfl
  other w m h := by
    cases w with
    | account a => cases h
    | transaction t => exact (write_transaction t m).1
    | _ => rfl

/-- Calls that fail and names that are led astray are a part of what accounts are looked up in. -/
theorem Faulty.filed {σ β : Type} {inner : Stores σ} {part : σ → β}
    {find : β → AccountId → Except StoreError (Option Account)} {file : Account → β → β}
    (h : inner.Filed part find file) :
    (stores inner).Filed (map part)
      (fun g id => g.guarded .findAccount (find g.inner (g.target id)))
      (fun a g => if g.fault? .updateAccount = none then g.map (file a) else g) where
  found f id := by
    show f.guarded .findAccount ((inner.reads f.inner).account (f.target id)) = _
    rw [h.found]
    rfl
  written a f := by
    show (write inner (.account a) f).2.map part =
      if f.fault? .updateAccount = none then (f.map part).map (file a) else f.map part
    cases hfault : f.fault? .updateAccount with
    | some e => rw [write_of_fault inner hfault, if_neg nofun]
    | none =>
      rw [write_of_no_fault inner hfault, if_pos rfl, map, h.written]
      rfl
  other w f hw := by
    show (write inner w f).2.map part = f.map part
    cases hfault : f.fault? w.call with
    | some e => rw [write_of_fault inner hfault]
    | none => rw [write_of_no_fault inner hfault, map, h.other _ _ hw, map]

theorem Separate.filed {α τ μ : Type} (accounts : AccountStore α)
    (transactions : TransactionStore τ) (machine : MachineStore μ) :
    (stores accounts transactions machine).Filed Separate.accounts accounts.find
      (fun a kept => (accounts.update a kept).2) where
  found _ _ := rfl
  written _ _ := rfl
  other w s h := by
    cases w with
    | account a => cases h
    | _ => rfl

end CashMachine
