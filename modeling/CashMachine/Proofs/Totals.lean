/-
The sum of all balances.

Accounts are kept in no particular order, so their balances may be added up in any.  A sum of
amounts is rounded where it has too many digits, and different orders could round differently.
Whole cents do not: balances are never negative, so each sum on the way is at most the last one,
and where that is in the range of cents all of them are exact, whatever the scales of the balances.

* `Ledger.sound_change`, `Ledger.sound_changed` — a balance is not negative after any change, and
  after any row of changes, by induction;
* `Ledger.exists_total` — the accounts of a sound ledger, in any order;
* `Ledger.total_exact` — the ledgers that can be reached.
-/
import CashMachine.Proofs.Decimal.Scale
import CashMachine.Proofs.Machine.Soundness
import CashMachine.Proofs.Moves

namespace CashMachine

namespace Account

variable {a : Account} {amount b : Decimal}

theorem nonneg_of_debited (h : a.debited amount = .ok b) : 0 ≤ b.value := by
  obtain ⟨_, hle, hb⟩ := debited_eq_ok_iff.mp h
  rw [Decimal.lt_iff_value_lt, not_lt] at hle
  exact (Decimal.isRounding_sub? hb).nonneg (sub_nonneg.mpr hle)

theorem nonneg_of_credited (ha : 0 ≤ a.balance.value) (h : a.credited amount = .ok b) :
    0 ≤ b.value := by
  obtain ⟨hpos, hb⟩ := credited_eq_ok_iff.mp h
  exact (Decimal.isRounding_add? hb).nonneg (add_nonneg ha (Decimal.isPositive_iff.mp hpos).le)

end Account

namespace Ledger

/-- The changes of a ledger: an account is opened, debited or credited, or an amount is moved from
one to another. -/
inductive Change where
  | enter (a : Account)
  | debit (id : AccountId) (amount : Decimal)
  | credit (id : AccountId) (amount : Decimal)
  | move (source destination : AccountId) (amount : Decimal)

/-- The ledger after a change.  One that is refused leaves it as it is. -/
def change (l : Ledger) : Change → Ledger
  | .enter a => ((l.openAccount a).map Prod.fst).toOption.getD l
  | .debit id amount => ((l.debit id amount).map Prod.fst).toOption.getD l
  | .credit id amount => ((l.credit id amount).map Prod.fst).toOption.getD l
  | .move source destination amount => (move source destination amount l).2

/-- The ledger after a row of changes. -/
def changed (l : Ledger) (cs : List Change) : Ledger :=
  cs.foldl change l

variable {l : Ledger}

theorem sound_change (h : l.Sound) (c : Change) : (l.change c).Sound := by
  cases c with
  | enter a =>
    rw [change]
    cases ho : l.openAccount a with
    | error e => exact h
    | ok r => exact h.openAccount ho
  | debit id amount =>
    rw [change]
    cases hd : l.debit id amount with
    | error e => exact h
    | ok r =>
      obtain ⟨a, _, hb, hk⟩ := debit_eq_ok_iff.mp hd
      show r.1.Sound
      exact hk ▸ h.setBalance (Account.nonneg_of_debited hb)
  | credit id amount =>
    rw [change]
    cases hc : l.credit id amount with
    | error e => exact h
    | ok r =>
      obtain ⟨a, ha, hb, hk⟩ := credit_eq_ok_iff.mp hc
      show r.1.Sound
      exact hk ▸ h.setBalance (Account.nonneg_of_credited (h id a ha).2 hb)
  | move source destination amount =>
    rw [change]
    obtain ⟨e, hm⟩ | ⟨a, b, x, y, _, _, hb, hx, hy, hm⟩ := l.move_cases source destination amount
    · rw [hm]
      exact h
    · rw [hm]
      exact (h.setBalance (Account.nonneg_of_debited hx)).setBalance
        (Account.nonneg_of_credited (h destination b hb).2 hy)

theorem sound_changed (h : l.Sound) (cs : List Change) : (l.changed cs).Sound := by
  induction cs generalizing l with
  | nil => exact h
  | cons c cs ih => exact ih (sound_change h c)

theorem Sound.nonneg (h : l.Sound) {a : Account} (ha : a ∈ l.accounts) : 0 ≤ a.balance.value := by
  obtain ⟨e, he, rfl⟩ := List.mem_map.mp ha
  exact (h e.1 e.2 (find?_of_mem_entries he)).2

/-- The exact sum of all balances. -/
def worth (l : Ledger) : ℚ :=
  (l.accounts.map fun a => a.balance.value).sum

/-- In whatever order they are gone through, the accounts of a sound ledger add up to its worth. -/
theorem exists_total (h : l.Sound) (hcents : ∀ a ∈ l.accounts, a.balance.IsCents)
    (hrange : l.worth ≤ Decimal.maxCents) {order : List Account}
    (horder : order.Perm l.accounts) :
    ∃ total, Decimal.sum? (order.map Account.balance) = some total ∧ total.value = l.worth := by
  have hworth : ((order.map Account.balance).map Decimal.value).sum = l.worth := by
    rw [List.map_map]
    exact (horder.map _).sum_eq
  have hall : ∀ b ∈ order.map Account.balance, b.IsCents ∧ 0 ≤ b.value := by
    intro b hb
    obtain ⟨a, ha, rfl⟩ := List.mem_map.mp hb
    have ha := horder.mem_iff.mp ha
    exact ⟨hcents a ha, h.nonneg ha⟩
  have hzero : (0 : Decimal).value = 0 := Decimal.isZero_iff.mp rfl
  have hsum := Decimal.exists_foldlM_add?_of_cents (Decimal.isCents_of_scale_le (Nat.zero_le 2))
    hzero.ge hall (by rw [hzero, zero_add, hworth]; exact hrange)
  rw [hzero, zero_add, hworth] at hsum
  exact hsum

/-- Where the balances of a ledger are whole cents and their exact sum is in the range of cents, the
total is that sum; and so it is in whatever order the accounts are gone through. -/
theorem total_exact {cs : List Change} (hl : empty.changed cs = l)
    (hcents : ∀ a ∈ l.accounts, a.balance.IsCents) (hrange : l.worth ≤ Decimal.maxCents) :
    (∃ total, l.total? = some total ∧ total.value = l.worth) ∧
      ∀ order : List Account, order.Perm l.accounts →
        ∃ total, Decimal.sum? (order.map Account.balance) = some total ∧
          total.value = l.worth := by
  have hsound : l.Sound := hl ▸ sound_changed Sound.empty cs
  exact ⟨exists_total hsound hcents hrange (List.Perm.refl _),
    fun order horder => exists_total hsound hcents hrange horder⟩

/-- A balance with all the fraction digits that an amount can have, and one that fills the range of
cents up: at the scale of the first one their sum would have too many digits. -/
theorem total_exact_mixed :
    let fine : Decimal := ⟨false, 50000000000000000000000000000, 28, by decide, by decide⟩
    let coarse : Decimal := ⟨false, 79228162514264337593543949835, 2, by decide, by decide⟩
    let a : Account := ⟨"A", "Ada", .checking, fine⟩
    let b : Account := ⟨"B", "Bo", .savings, coarse⟩
    let l := empty.changed [.enter a, .enter b, .debit "A" coarse]
    (∀ c ∈ l.accounts, c.balance.IsCents) ∧ l.worth = Decimal.maxCents ∧
      (∃ total, l.total? = some total ∧ total.value = l.worth) ∧
      [b, a].Perm l.accounts ∧
      ∃ total, Decimal.sum? ([b, a].map Account.balance) = some total ∧ total.value = l.worth := by
  intro fine coarse a b l
  have haccounts : l.accounts = [a, b] := by decide +kernel
  have hcents : ∀ c ∈ l.accounts, c.balance.IsCents := by
    rw [haccounts]
    decide
  have hworth : l.worth = Decimal.maxCents := by
    rw [worth, haccounts]
    norm_num [a, b, fine, coarse, Decimal.value, Decimal.coefficient, Decimal.maxCents,
      Decimal.maxCoefficient, tenTo]
  have hperm : [b, a].Perm l.accounts := haccounts ▸ List.Perm.swap a b []
  have hl : empty.changed [.enter a, .enter b, .debit "A" coarse] = l := rfl
  obtain ⟨htotal, horder⟩ := total_exact hl hcents hworth.le
  exact ⟨hcents, hworth, htotal, hperm, horder _ hperm⟩

end Ledger

end CashMachine
