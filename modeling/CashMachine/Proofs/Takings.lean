/-
Taking notes in: a holding added to another one, and the notes of a deposit.

Counts that are added up stop at the largest one, and notes are lost there.  Where no count does
(`Notes.Fits`), what is added is worth all that it was.  The whole part of a deposit is taken as
the largest notes first, and what is left of it in the end is its remainder by ten.

* `Notes.value_addAll` — adding a holding that fits adds its value;
* `Dispenser.value_absorb_add_leftover` — one note after the other, nothing is created or lost;
* `Dispenser.value_absorb_capped` — what is taken when there are too many of the largest note;
* `Dispenser.value_absorbed` — a deposit below the range of the largest note is taken down to the
  multiple of ten below it.
-/
import CashMachine.Proofs.Decimal.Whole
import CashMachine.Proofs.Collected

namespace CashMachine

namespace Notes

/-- No count goes beyond the largest one when the notes of another holding are added. -/
def Fits (n m : Notes) : Prop :=
  ∀ d, (n.get d).val + (m.get d).val ≤ Nat32.max.val

instance (n m : Notes) : Decidable (n.Fits m) :=
  decidable_of_iff
    (∀ d ∈ Denomination.ascending, (n.get d).val + (m.get d).val ≤ Nat32.max.val)
    ⟨fun h d => h d (Denomination.mem_ascending d), fun h d _ => h d⟩

theorem value_addAll {n m : Notes} (h : n.Fits m) : (n.addAll m).value = n.value + m.value := by
  have h1 := h .ten
  have h2 := h .twenty
  have h3 := h .fifty
  have h4 := h .hundred
  simp only [Nat32.max] at h1 h2 h3 h4
  simp only [value, Denomination.ascending, List.foldr_cons, List.foldr_nil, Denomination.value,
    get_addAll, Nat32.val_add]
  omega

theorem value_add (n : Notes) (d : Denomination) (count : Nat32)
    (h : (n.get d).val + count.val ≤ Nat32.max.val) :
    (n.add d count).value = n.value + d.value * count.val := by
  simp only [Nat32.max] at h
  cases d <;>
    simp only [get] at h <;>
    simp only [value, Denomination.ascending, List.foldr_cons, List.foldr_nil, Denomination.value,
      add, set, get, Nat32.val_add] <;>
    omega

end Notes

namespace Dispenser

/-- What is left of a number of units when every note of the list has been taken out. -/
def leftover (ds : List Denomination) (left : Nat) : Nat :=
  ds.foldl (fun left d => left % d.value) left

theorem leftover_descending (left : Nat) : leftover Denomination.descending left = left % 10 := by
  simp only [leftover, Denomination.descending, List.foldl_cons, List.foldl_nil,
    Denomination.value]
  omega

/-- Going down the list, what is taken and what is left are worth the units there were: a count
never stops short of what it is to be. -/
theorem value_absorb_add_leftover {ds : List Denomination} (hn : ds.Nodup) {left : Nat}
    {notes : Notes} (hfit : ∀ d ∈ ds, (notes.get d).val + left / d.value ≤ Nat32.max.val) :
    (absorb ds left notes).value + leftover ds left = notes.value + left := by
  induction ds generalizing left notes with
  | nil => rfl
  | cons d ds ih =>
    rw [List.nodup_cons] at hn
    have hd := hfit d List.mem_cons_self
    have hcapped : (Nat32.capped (left / d.value)).val = left / d.value :=
      Nat32.val_capped_of_le (Nat.le_trans (Nat.le_add_left _ _) hd)
    have hvalue := Notes.value_add notes d (Nat32.capped (left / d.value))
      (by rw [hcapped]; exact hd)
    -- the other counts are as they were, and less is left for them
    have hrest : ∀ e ∈ ds, ((notes.add d (Nat32.capped (left / d.value))).get e).val +
        left % d.value / e.value ≤ Nat32.max.val := by
      intro e he
      have hne : e ≠ d := fun heq => hn.1 (heq ▸ he)
      rw [Notes.get_add_of_ne notes _ hne]
      have hle : left % d.value / e.value ≤ left / e.value :=
        Nat.div_le_div_right (Nat.mod_le _ _)
      have := hfit e (List.mem_cons_of_mem d he)
      omega
    have hstep := ih hn.2 hrest
    have hdiv := Nat.div_add_mod left d.value
    rw [hcapped] at hvalue
    rw [absorb]
    show _ + leftover ds (left % d.value) = _
    omega

/-- Only of the largest note there can be too many: the count stops, and nothing smaller is taken
for the rest of its worth. -/
theorem value_absorb_capped (left : Nat) :
    (absorb Denomination.descending left Notes.empty).value =
      100 * min (left / 100) Nat32.max.val + 10 * (left % 100 / 10) := by
  have hfirst := Notes.value_add Notes.empty .hundred (Nat32.capped (left / 100))
    (by simp [Nat32.max])
  have hrest : ∀ d ∈ [Denomination.fifty, .twenty, .ten],
      ((Notes.empty.add .hundred (Nat32.capped (left / 100))).get d).val + left % 100 / d.value ≤
        Nat32.max.val := by
    intro d hd
    have hne : d ≠ .hundred := by
      rintro rfl
      revert hd
      decide
    have hle := Nat.div_le_self (left % 100) d.value
    rw [Notes.get_add_of_ne _ _ hne, Notes.get_empty, Nat32.val_zero]
    simp only [Nat32.max]
    omega
  have hsum := value_absorb_add_leftover (by decide) hrest
  have hleft : leftover [.fifty, .twenty, .ten] (left % 100) = left % 10 :=
    leftover_descending left
  have hempty : Notes.empty.value = 0 := rfl
  rw [Nat32.val_capped, hempty] at hfirst
  show (absorb [.fifty, .twenty, .ten] (left % 100) _).value = _
  simp only [Denomination.value, Nat32.max] at hfirst hsum ⊢
  omega

theorem value_absorb_descending {left : Nat} (h : left < 100 * 2 ^ 32) :
    (absorb Denomination.descending left Notes.empty).value = 10 * (left / 10) := by
  rw [value_absorb_capped]
  simp only [Nat32.max]
  omega

/-- A deposit in the range of the largest note is taken as the multiple of ten below it. -/
theorem value_absorbed {a : Decimal} (ha : 0 < a.value) (h : a.value < 100 * 2 ^ 32) :
    (absorbed a).value = 10 * ⌊a.value / 10⌋₊ := by
  have hbound : ⌊a.value⌋₊ < 100 * 2 ^ 32 := by
    rw [Nat.floor_lt ha.le]
    exact_mod_cast h
  have hrange : a.value < 18446744073709551616 := h.trans (by norm_num)
  rw [absorbed, Decimal.wholeUnits?_truncate ha hrange, Nat.floor_div_ofNat]
  exact value_absorb_descending hbound

end Dispenser

end CashMachine
