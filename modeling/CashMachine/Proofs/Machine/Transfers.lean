/-
Transfers, in exact numbers.

A transfer takes an amount from one balance and adds it to another one, and each of the two new
balances is rounded on its own where it has too many digits.  Both are looked at by the checks
before anything is changed, but only a balance out of range is refused, so money can be lost
between the two.

* `Ledger.Conserves` — both balances change by exactly the amount, and their sum not at all;
* `conserves_iff` — that is so exactly when both new balances, unrounded, are representable;
* `abs_total_sub_le` — otherwise the sum changes by at most one;
* `transfer_conserves_iff` — what that says about every transfer of a ledger or a machine;
* `conserves_of_cents` — whole cents in the range of cents are safe.
-/
import CashMachine.Proofs.Decimal.Exact
import CashMachine.Proofs.Machine.Perform
import CashMachine.Store.Memory

namespace CashMachine

namespace Ledger

variable {l : Ledger} {source destination : AccountId} {amount : Decimal}

/-- The balances `x` and `y` are `a` and `b` with an amount moved from the first to the second,
as exact numbers. -/
structure Conserves (amount a b x y : Decimal) : Prop where
  source : x.value = a.value - amount.value
  destination : y.value = b.value + amount.value
  total : x.value + y.value = a.value + b.value

section Balances

variable {a b x y : Decimal}

/-- Both legs of a transfer are exact exactly when neither has to be rounded. -/
theorem conserves_iff (hx : a.sub? amount = some x) (hy : b.add? amount = some y) :
    Conserves amount a b x y ↔
      Decimal.Representable (a.value - amount.value) ∧
        Decimal.Representable (b.value + amount.value) := by
  rw [← (Decimal.isRounding_sub? hx).value_eq_iff, ← (Decimal.isRounding_add? hy).value_eq_iff]
  constructor
  · intro h
    exact ⟨h.source, h.destination⟩
  · rintro ⟨hsource, hdestination⟩
    refine ⟨hsource, hdestination, ?_⟩
    rw [hsource, hdestination]
    ring

/-- Each leg is off by at most one half. -/
theorem abs_total_sub_le (hx : a.sub? amount = some x) (hy : b.add? amount = some y) :
    |x.value + y.value - (a.value + b.value)| ≤ 1 := by
  have h₁ := (Decimal.isRounding_sub? hx).dist_le_half
  have h₂ := (Decimal.isRounding_add? hy).dist_le_half
  calc |x.value + y.value - (a.value + b.value)|
      = |(x.value - (a.value - amount.value)) + (y.value - (b.value + amount.value))| := by
        congr 1
        ring
    _ ≤ |x.value - (a.value - amount.value)| + |y.value - (b.value + amount.value)| :=
        abs_add_le _ _
    _ ≤ 1 := by linarith

/-- Whole cents are moved exactly, where both new balances are in the range of cents. -/
theorem conserves_of_cents (hx : a.sub? amount = some x) (hy : b.add? amount = some y)
    (ha : a.IsCents) (hb : b.IsCents) (hamount : amount.IsCents)
    (hsource : |a.value - amount.value| ≤ Decimal.maxCents)
    (hdestination : |b.value + amount.value| ≤ Decimal.maxCents) : Conserves amount a b x y := by
  obtain ⟨n, hn⟩ := ha
  obtain ⟨k, hk⟩ := hb
  obtain ⟨c, hc⟩ := hamount
  have hsub : (a.value - amount.value) * 100 = ((n - c : ℤ) : ℚ) := by
    rw [sub_mul, hn, hc, Int.cast_sub]
  have hadd : (b.value + amount.value) * 100 = ((k + c : ℤ) : ℚ) := by
    rw [add_mul, hk, hc, Int.cast_add]
  rw [conserves_iff hx hy]
  exact ⟨Decimal.representable_of_cents hsub hsource,
    Decimal.representable_of_cents hadd hdestination⟩

end Balances

/-- The ledger `k` is `l` after an amount was moved between two accounts: only their balances are
other ones, exact where that is possible, and never off by more than one in sum. -/
def Transferred (l : Ledger) (source destination : AccountId) (amount : Decimal) (k : Ledger) :
    Prop :=
  ∃ a b x y, l.find? source = some a ∧ l.find? destination = some b ∧
    k.find? source = some { a with balance := x } ∧
    k.find? destination = some { b with balance := y } ∧
    (∀ other, other ≠ source → other ≠ destination → k.find? other = l.find? other) ∧
    (Conserves amount a.balance b.balance x y ↔
      Decimal.Representable (a.balance.value - amount.value) ∧
        Decimal.Representable (b.balance.value + amount.value)) ∧
    |x.value + y.value - (a.balance.value + b.balance.value)| ≤ 1

theorem transferred_setBalance {a b : Account} {x y : Decimal} (hne : source ≠ destination)
    (ha : l.find? source = some a) (hb : l.find? destination = some b)
    (hx : a.balance.sub? amount = some x) (hy : b.balance.add? amount = some y) :
    Transferred l source destination amount
      ((l.setBalance source x).setBalance destination y) := by
  refine ⟨a, b, x, y, ha, hb, ?_, ?_, ?_, conserves_iff hx hy, abs_total_sub_le hx hy⟩
  · rw [find?_setBalance_of_ne _ y hne, find?_setBalance_self, ha, Option.map_some]
  · rw [find?_setBalance_self, find?_setBalance_of_ne _ x hne.symm, hb, Option.map_some]
  · intro other hs hd
    rw [find?_setBalance_of_ne _ y hd, find?_setBalance_of_ne _ x hs]

theorem transferred_of_transfer {t : Transfer} (h : l.transfer source destination amount = .ok t) :
    Transferred l source destination amount t.ledger := by
  rw [transfer] at h
  obtain ⟨e, hm⟩ | ⟨a, b, x, y, hne, ha, hb, hx, hy, hm⟩ :=
    l.move_cases source destination amount
  · rw [hm] at h
    cases h
  · rw [hm] at h
    cases h
    exact transferred_setBalance hne ha hb (Account.debited_eq_ok_iff.mp hx).2.2
      (Account.credited_eq_ok_iff.mp hy).2

/-- A transfer of one cent to an account with the largest balance is not refused, and the cent
is lost. -/
theorem not_forall_transfer_conserves :
    ¬ ∀ (l : Ledger) (source destination : AccountId) (amount : Decimal) (t : Transfer)
        (a b : Account), l.transfer source destination amount = .ok t →
      l.find? source = some a → l.find? destination = some b →
        Conserves amount a.balance b.balance t.source.balance t.destination.balance := by
  intro h
  let a : Account := ⟨"A", "Ada", .checking, .ofNat 20 (by decide)⟩
  let b : Account := ⟨"B", "Bo", .checking, .ofNat Decimal.maxCoefficient (by decide)⟩
  let l : Ledger := ⟨[("A", a), ("B", b)], by decide⟩
  let cent : Decimal := ⟨false, 1, 2, by decide, by decide⟩
  have hmap : (l.transfer "A" "B" cent).map (fun t => t.destination.balance) =
      .ok b.balance := by decide +kernel
  obtain ⟨t, ht, hkept⟩ := exists_of_map_eq_ok hmap
  have hrise := (h l "A" "B" cent t a b ht rfl rfl).destination
  rw [hkept, left_eq_add] at hrise
  have hpositive : cent.isPositive = true := by decide
  rw [Decimal.isPositive_iff, hrise] at hpositive
  exact lt_irrefl 0 hpositive

end Ledger

namespace Machine

variable {m : Machine} {reads : Reads} {stamp : Stamp} {source destination : AccountId}
  {amount : Decimal} {t : Transaction}

/-- A machine makes a transfer in its ledger, once that has both accounts. -/
theorem transferred_of_ok (h : (m.transfer reads stamp source destination amount).answer = .ok t) :
    (m.gather reads [source, destination]).ledger.Transferred source destination amount
      (m.transfer reads stamp source destination amount).machine.ledger := by
  have ho := outcome_transfer reads stamp m source destination amount
  generalize hs : (m.transfer reads stamp source destination amount).map Reply.committed = s at ho
  have hmachine : (m.transfer reads stamp source destination amount).machine = s.machine := by
    rw [← hs, Step.machine_map]
  have hanswer : s.answer = .ok (.committed t) := by
    rw [← hs, Step.map, h]
    rfl
  cases ho with
  | refused e => cases hanswer
  | transferred hc hne ha hb hle hx hy =>
    have hm : m.admitted reads (.transfer source destination amount) =
        m.gather reads [source, destination] := by
      simp [admitted, Request.lookups, hc, hne]
    rw [hmachine, ← hm]
    exact Ledger.transferred_setBalance hne ha hb hx hy

end Machine

/-- Every transfer that is answered, of a ledger or of a machine whose ledger has been given both
accounts, changes the two balances only.  It is exact and conserves their sum exactly when both
new balances are representable, and changes the sum by at most one in any case. -/
theorem transfer_conserves_iff (l : Ledger) (m : Machine) (reads : Reads) (stamp : Stamp)
    (source destination : AccountId) (amount : Decimal) :
    (∀ t, l.transfer source destination amount = .ok t →
        l.Transferred source destination amount t.ledger) ∧
      ∀ t, (m.transfer reads stamp source destination amount).answer = .ok t →
        (m.gather reads [source, destination]).ledger.Transferred source destination amount
          (m.transfer reads stamp source destination amount).machine.ledger :=
  ⟨fun _ h => Ledger.transferred_of_transfer h, fun _ h => Machine.transferred_of_ok h⟩

/-- A cent out of a balance of `20` that goes to the largest balance, and one out of a stored
account of `12.34` that goes to another one. -/
theorem transfer_conserves_iff_cent :
    let cent : Decimal := ⟨false, 1, 2, by decide, by decide⟩
    let a : Account := ⟨"A", "Ada", .checking, .ofNat 20 (by decide)⟩
    let b : Account := ⟨"B", "Bo", .checking, .ofNat Decimal.maxCoefficient (by decide)⟩
    let l : Ledger := ⟨[("A", a), ("B", b)], by decide⟩
    let c : Account := ⟨"C", "Cy", .savings, ⟨false, 1234, 2, by decide, by decide⟩⟩
    let m : Machine := ⟨"M", Dispenser.greedy, Ledger.empty, Reserve.empty, ⟨1, 0⟩⟩
    let reads := Memory.reads { Memory.empty with accounts := [a, c] }
    let stamp : Stamp := ⟨"T", Instant.epoch⟩
    (∃ t, l.transfer "A" "B" cent = .ok t ∧ t.destination.balance = b.balance ∧
        l.Transferred "A" "B" cent t.ledger) ∧
      (m.transfer reads stamp "C" "A" cent).answer = .ok (.transfer stamp "C" "A" cent) ∧
      (m.gather reads ["C", "A"]).ledger.Transferred "C" "A" cent
        (m.transfer reads stamp "C" "A" cent).machine.ledger := by
  intro cent a b l c m reads stamp
  obtain ⟨hledger, _⟩ := transfer_conserves_iff l m reads stamp "A" "B" cent
  obtain ⟨_, hmachine⟩ := transfer_conserves_iff l m reads stamp "C" "A" cent
  have hmap : (l.transfer "A" "B" cent).map (fun t => t.destination.balance) =
      .ok b.balance := by decide +kernel
  obtain ⟨t, ht, hkept⟩ := exists_of_map_eq_ok hmap
  have h : (m.transfer reads stamp "C" "A" cent).answer = .ok (.transfer stamp "C" "A" cent) := by
    decide +kernel
  exact ⟨⟨t, ht, hkept, hledger t ht⟩, h, hmachine _ h⟩

end CashMachine
