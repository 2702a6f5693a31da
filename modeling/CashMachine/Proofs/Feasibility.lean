/-
When the greedy dispenser has a plan.

The walk down the denominations takes no note back, so it can miss a selection that is there:
sixty out of a fifty and three twenties.  What it needs then is one ten, or no fifty in the way:
with either of them it misses nothing, and all that is held can always be handed out at once.

* `allocate_eq_some_iff` — the plans are the greedy selections that are worth the amount;
* `Walked.left_eq_zero` — of units that some selection is worth, the walk leaves nothing;
* `allocate_complete` — where there is a selection, there is a plan;
* `not_forall_exists_allocate` — but none for a zero with a minus sign.
-/
import CashMachine.Proofs.Allocation

namespace CashMachine

namespace Notes

theorem value_lt (n : Notes) : n.value < 18446744073709551616 := by
  have h1 := n.tens.val_le
  have h2 := n.twenties.val_le
  have h3 := n.fifties.val_le
  have h4 := n.hundreds.val_le
  rw [value_eq]
  omega

theorem value_mod_smallest (n : Notes) : n.value % Denomination.smallest.value = 0 := by
  have hten : Denomination.smallest.value = 10 := rfl
  rw [value_eq, hten]
  omega

/-- A whole holding is a greedy selection from itself. -/
theorem isGreedy_self (n : Notes) : n.IsGreedy n :=
  ⟨fun _ => le_rfl, fun _ => .inl rfl⟩

end Notes

namespace Dispenser

variable {ds : List Denomination} {plan available other : Notes} {amount : Decimal}

/-! ### Greedy selections -/

/-- Of a number of units that a greedy selection is worth, the walk takes that selection. -/
theorem takeGreedy_worth (hn : ds.Nodup)
    (hheld : ∀ d, (plan.get d).val ≤ (available.get d).val)
    (hlargest : ∀ {d smaller}, d :: smaller <:+ ds →
      (plan.get d).val = (available.get d).val ∨ plan.worth smaller < d.value) :
    (takeGreedy available ds (plan.worth ds)).2 = 0 ∧
      ∀ d ∈ ds, (takeGreedy available ds (plan.worth ds)).1.get d = plan.get d := by
  induction ds with
  | nil => exact ⟨rfl, fun d hd => absurd hd List.not_mem_nil⟩
  | cons d ds ih =>
    rw [List.nodup_cons] at hn
    obtain ⟨hleft, htaken⟩ := ih hn.2 fun hs => hlargest (hs.trans (List.suffix_cons d ds))
    have hpos := d.value_pos
    -- the count is that of the selection: it has all of these notes, or the next one is too much
    have hcount : (available.get d).atMost (plan.worth (d :: ds) / d.value) = plan.get d := by
      apply Nat32.ext
      rw [Nat32.val_atMost, Notes.worth_cons, Nat.mul_add_div hpos]
      rcases hlargest List.suffix_rfl with hall | hsmall
      · rw [hall]
        exact Nat.min_eq_left (Nat.le_add_right _ _)
      · have hd := hheld d
        rw [Nat.div_eq_of_lt hsmall]
        omega
    have hrest : plan.worth (d :: ds) - (plan.get d).val * d.value = plan.worth ds := by
      rw [Notes.worth_cons, Nat.mul_comm, Nat.add_sub_cancel_left]
    rw [takeGreedy, hcount, hrest]
    refine ⟨hleft, fun e he => ?_⟩
    by_cases hed : e = d
    · subst hed
      exact Notes.get_set_self _ _ _
    · show (Notes.set _ d _).get e = _
      rw [Notes.get_set_of_ne _ _ hed]
      exact htaken e (List.mem_of_ne_of_mem hed he)

/-- The plans of the greedy dispenser: an amount has one only if it has no minus sign, not even
that of a zero, and the plan is the greedy selection that is worth it. -/
theorem allocate_eq_some_iff :
    allocate amount available = some plan ↔
      amount.negative = false ∧ amount.value = plan.value ∧ plan.IsGreedy available := by
  constructor
  · intro h
    obtain ⟨hgreedy, hvalue⟩ := isGreedy_of_allocate h
    refine ⟨?_, hvalue, hgreedy⟩
    cases hunits : amount.wholeUnits? with
    | none =>
      rw [allocate_eq_none_of_wholeUnits available hunits] at h
      cases h
    | some units => exact (Decimal.wholeUnits?_eq_some_iff.mp hunits).1
  · rintro ⟨hsign, hvalue, hgreedy⟩
    have hunits := Decimal.wholeUnits?_eq_some_iff.mpr ⟨hsign, hvalue, plan.value_lt⟩
    obtain ⟨hleft, htaken⟩ := takeGreedy_worth (by decide) hgreedy.held hgreedy.largest
    rw [Notes.worth_descending] at hleft htaken
    have hplan : (takeGreedy available Denomination.descending plan.value).1 = plan :=
      Notes.ext fun d => htaken d (Denomination.mem_descending d)
    simp only [allocate, hunits, plan.value_mod_smallest, ne_eq, not_true_eq_false, if_false, hleft,
      if_true, hplan]

/-! ### What the walk leaves -/

/-- What is taken of a number of units, and what is left of them: of each denomination all the
notes that are held are taken, or what is left to the smaller ones is less than one more. -/
structure Walked (available : Notes) (units : Nat) (taken : Notes) (left : Nat) : Prop where
  sum : taken.value + left = units
  held : ∀ d, (taken.get d).val ≤ (available.get d).val
  hundreds : taken.hundreds.val = available.hundreds.val ∨
    10 * taken.tens.val + 20 * taken.twenties.val + 50 * taken.fifties.val + left < 100
  fifties : taken.fifties.val = available.fifties.val ∨
    10 * taken.tens.val + 20 * taken.twenties.val + left < 50
  twenties : taken.twenties.val = available.twenties.val ∨ 10 * taken.tens.val + left < 20
  tens : taken.tens.val = available.tens.val ∨ left < 10

theorem walked_takeGreedy (available : Notes) (units : Nat) :
    Walked available units (takeGreedy available Denomination.descending units).1
      (takeGreedy available Denomination.descending units).2 := by
  have hdistinct : Denomination.descending.Nodup := by decide
  have hsum := worth_takeGreedy_add_rest available hdistinct units
  have hheld := takeGreedy_held available Denomination.descending units
  have hlargest := fun d smaller (hs : d :: smaller <:+ Denomination.descending) =>
    takeGreedy_largest available hdistinct hs units
  rw [Notes.worth_descending] at hsum
  generalize (takeGreedy available Denomination.descending units).1 = taken at hsum hheld hlargest ⊢
  generalize (takeGreedy available Denomination.descending units).2 = left at hsum hlargest ⊢
  have hhundred := hlargest .hundred [.fifty, .twenty, .ten] (by decide)
  have hfifty := hlargest .fifty [.twenty, .ten] (by decide)
  have htwenty := hlargest .twenty [.ten] (by decide)
  have hten := hlargest .ten [] (by decide)
  simp only [Notes.worth, List.map_cons, List.map_nil, List.sum_cons, List.sum_nil, Notes.get,
    Denomination.value] at hhundred hfifty htwenty hten
  refine ⟨hsum, hheld, ?_, ?_, ?_, ?_⟩ <;> omega

/-- Nothing is left of a number of units that some selection is worth, with a ten at hand or no
fifty in the way.  If something were, all tens would be gone, and the twenties too, or every note
left to choose would be a multiple of the smaller ones; so no selection is worth more. -/
theorem Walked.left_eq_zero {taken : Notes} {left : Nat}
    (h : Walked available other.value taken left)
    (hnotes : available.tens.val ≠ 0 ∨ available.fifties.val = 0)
    (ho : other.within available = true) : left = 0 := by
  rw [Notes.within_iff] at ho
  have htens : other.tens.val ≤ available.tens.val := ho .ten
  have htwenties : other.twenties.val ≤ available.twenties.val := ho .twenty
  have hfifties : other.fifties.val ≤ available.fifties.val := ho .fifty
  have hhundreds : other.hundreds.val ≤ available.hundreds.val := ho .hundred
  obtain ⟨hsum, hheld, hhundred, hfifty, htwenty, hten⟩ := h
  rw [Notes.value_eq, Notes.value_eq] at hsum
  by_contra hleft
  have htensGone : taken.tens.val = available.tens.val := by omega
  rcases hnotes with hone | hnone
  · have htwentiesGone : taken.twenties.val = available.twenties.val := by omega
    -- counted in fifties, the other selection has no more large notes
    have hlarge : other.fifties.val + 2 * other.hundreds.val ≤
        taken.fifties.val + 2 * taken.hundreds.val := by omega
    omega
  · have hno : taken.fifties.val ≤ available.fifties.val := hheld .fifty
    -- counted in twenties, the other selection has no more large notes
    have hlarge : other.twenties.val + 5 * other.hundreds.val ≤
        taken.twenties.val + 5 * taken.hundreds.val := by omega
    omega

/-! ### Finding a plan -/

/-- With a ten at hand or no fifty in the way, an amount has a plan exactly when it has no minus
sign and some selection of the notes that are held is worth it. -/
theorem exists_allocate_iff (hnotes : available.tens.val ≠ 0 ∨ available.fifties.val = 0) :
    (∃ plan, allocate amount available = some plan) ↔
      amount.negative = false ∧
        ∃ other : Notes, other.within available = true ∧ other.total.value = amount.value := by
  constructor
  · rintro ⟨plan, h⟩
    obtain ⟨hsign, hvalue, hgreedy⟩ := allocate_eq_some_iff.mp h
    refine ⟨hsign, plan, Notes.within_iff.mpr hgreedy.held, ?_⟩
    rw [Notes.value_total, hvalue]
  · rintro ⟨hsign, other, hother, hvalue⟩
    rw [Notes.value_total] at hvalue
    have hunits := Decimal.wholeUnits?_eq_some_iff.mpr ⟨hsign, hvalue.symm, other.value_lt⟩
    have hleft := (walked_takeGreedy available other.value).left_eq_zero hnotes hother
    refine ⟨(takeGreedy available Denomination.descending other.value).1, ?_⟩
    simp only [allocate, hunits, other.value_mod_smallest, ne_eq, not_true_eq_false, if_false,
      hleft, if_true]

/-- All that is held can be handed out at once. -/
theorem allocate_total (available : Notes) : allocate available.total available = some available :=
  allocate_eq_some_iff.mpr ⟨rfl, Notes.value_total available, available.isGreedy_self⟩

/-- Zero with a minus sign is not negative and is the sum of no notes, and still it has no plan. -/
theorem not_forall_exists_allocate :
    ¬ ∀ (amount : Decimal) (available : Notes), 0 ≤ amount.value →
      available.tens.val ≠ 0 ∨ available.fifties.val = 0 →
        ((∃ plan, allocate amount available = some plan) ↔
          ∃ other : Notes, other.within available = true ∧ other.total.value = amount.value) := by
  intro h
  let zero : Decimal := ⟨true, 0, 28, by decide, by decide⟩
  let held : Notes := ⟨1, 0, 0, 0⟩
  have hzero : zero.value = 0 := Decimal.isZero_iff.mp rfl
  have hsum : Notes.empty.total.value = zero.value := by rw [hzero, Decimal.isZero_iff.mp rfl]
  obtain ⟨plan, hplan⟩ := (h zero held hzero.ge (by decide)).mpr ⟨Notes.empty, by decide, hsum⟩
  cases hplan

/-- Where there is a ten or no fifty, the greedy dispenser has a plan for an amount without a minus
sign exactly when some selection of the notes that are held is worth it; and whatever is held can
be handed out all at once. -/
theorem allocate_complete (available : Notes) :
    (available.tens.val ≠ 0 ∨ available.fifties.val = 0 → ∀ amount : Decimal,
      ((∃ plan, allocate amount available = some plan) ↔
        amount.negative = false ∧
          ∃ other : Notes, other.within available = true ∧ other.total.value = amount.value)) ∧
      allocate available.total available = some available :=
  ⟨fun hnotes _ => exists_allocate_iff hnotes, allocate_total available⟩

/-- Sixty out of a fifty, three twenties and a ten, where the twenties alone show that it can be
done. -/
theorem allocate_complete_sixty :
    let amount : Decimal := ⟨false, 6000, 2, by decide, by decide⟩
    let available : Notes := ⟨1, ⟨3, by decide⟩, 1, 0⟩
    let twenties : Notes := ⟨0, ⟨3, by decide⟩, 0, 0⟩
    available.tens.val ≠ 0 ∧ twenties.within available = true ∧
      twenties.total.value = amount.value ∧ (∃ plan, allocate amount available = some plan) ∧
      allocate available.total available = some available := by
  intro amount available twenties
  have hten : available.tens.val ≠ 0 := by decide
  have hheld : twenties.within available = true := by decide
  have hsum : twenties.total.value = amount.value := Decimal.equals_iff_value_eq.mp (by decide)
  obtain ⟨hiff, htotal⟩ := allocate_complete available
  exact ⟨hten, hheld, hsum, (hiff (.inl hten) amount).mpr ⟨rfl, twenties, hheld, hsum⟩, htotal⟩

end Dispenser

end CashMachine
