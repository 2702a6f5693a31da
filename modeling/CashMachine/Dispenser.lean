/-
Splitting amounts into notes.

A dispenser is any function from an amount and the notes available to a plan,
the notes to hand out.  The greedy one (`allocate`) walks the notes from the
largest to the smallest and takes as many of each as fit in what is left; it
has a plan exactly when nothing is left.  A deposit is taken in the same way,
with no limit on the notes (`absorbed`).

Main statements: `allocate_eq_none_of_wholeUnits` — an amount that is no
natural number below 2⁶⁴ has no plan; `value_take_add_rest` — taking notes moves
value from what is left to the plan, and neither creates nor loses any.
-/
import CashMachine.Notes.Basic
import CashMachine.Decimal.Sum

namespace CashMachine

/-- A strategy for handing out notes: the plan for an amount out of the notes
available, if there is one. -/
abbrev Dispenser := Decimal → Notes → Option Notes

namespace Dispenser

/-- The notes taken out of the available ones, in the order of the list, as many
of each as fit in what is left; and what is left in the end. -/
def takeGreedy (available : Notes) : List Denomination → Nat → Notes × Nat
  | [], left => (Notes.empty, left)
  | d :: ds, left =>
    let count := (available.get d).atMost (left / d.value)
    let (plan, rest) := takeGreedy available ds (left - count.val * d.value)
    (plan.set d count, rest)

/-- The greedy plan for an amount: a natural number of smallest notes, all of it
handed out. -/
def allocate (amount : Decimal) (available : Notes) : Option Notes :=
  match amount.wholeUnits? with
  | none => none
  | some units =>
    if units % Denomination.smallest.value ≠ 0 then none
    else
      let (plan, left) := takeGreedy available Denomination.descending units
      if left = 0 then some plan else none

/-- The dispenser that hands out the largest notes first. -/
def greedy : Dispenser := allocate

theorem allocate_eq_none_of_wholeUnits {amount : Decimal} (available : Notes)
    (h : amount.wholeUnits? = none) : allocate amount available = none := by
  simp [allocate, h]

/-- The notes of a number of units with no limit on any of them, in the order of
the list. -/
def absorb : List Denomination → Nat → Notes → Notes
  | [], _, notes => notes
  | d :: ds, left, notes =>
    absorb ds (left % d.value) (notes.add d (Nat32.capped (left / d.value)))

/-- The notes that the whole part of a deposited amount is taken as. -/
def absorbed (amount : Decimal) : Notes :=
  match amount.truncate.wholeUnits? with
  | none => Notes.empty
  | some units => absorb Denomination.descending units Notes.empty

/-- The part of a deposited amount that is taken as no note: all of it, where its whole
part is no natural number below 2⁶⁴. -/
def untracked? (amount : Decimal) : Option Decimal :=
  match amount.truncate.wholeUnits? with
  | none => some amount
  | some _ => amount.sub? (absorbed amount).total

/-- One step of `takeGreedy` keeps the sum of the value taken and the value left. -/
theorem value_take_add_rest (available : Notes) (d : Denomination) (left : Nat) :
    ((available.get d).atMost (left / d.value)).val * d.value +
      (left - ((available.get d).atMost (left / d.value)).val * d.value) = left := by
  have h : ((available.get d).atMost (left / d.value)).val * d.value ≤ left := by
    refine Nat.le_trans (Nat.mul_le_mul_right _ (Nat.min_le_right _ _)) ?_
    exact Nat.div_mul_le_self left d.value
  omega

end Dispenser

end CashMachine
