/-
What a row of counts adds up to.

The counts of a row are added one after the other, and each sum stops at the largest count.  All the
same a denomination is held as often as the row lists it in sum, up to the largest count, so neither
the order of the row nor where it is divided matters.

* `Notes.listed_entries`, `Notes.sum_entries` — what the entries of a holding list, and their worth;
* `Notes.get_ofList` — the counts of a holding that is collected from a row;
* `Notes.get_ofList_append` — a row in two parts;
* `Notes.ofList_of_perm` — the entries of a holding, in any order, are collected to the holding;
* `Notes.get_addAll` — a holding that is added to another one.
-/
import Mathlib.Algebra.BigOperators.Group.List.Basic
import CashMachine.Proofs.Payout

namespace CashMachine.Notes

variable {es fs : List (Denomination × Nat32)}

/-- The sum of the counts that a row lists for a denomination. -/
def listed (es : List (Denomination × Nat32)) (d : Denomination) : Nat :=
  ((es.filter fun e => e.1 = d).map fun e => e.2.val).sum

theorem listed_cons (e : Denomination × Nat32) (es : List (Denomination × Nat32))
    (d : Denomination) : listed (e :: es) d = (if e.1 = d then e.2.val else 0) + listed es d := by
  by_cases h : e.1 = d <;> simp [listed, h]

theorem listed_eq (es : List (Denomination × Nat32)) (d : Denomination) :
    listed es d = (es.map fun e => if e.1 = d then e.2.val else 0).sum := by
  induction es with
  | nil => rfl
  | cons e es ih => rw [listed_cons, List.map_cons, List.sum_cons, ih]

theorem listed_append (es fs : List (Denomination × Nat32)) (d : Denomination) :
    listed (es ++ fs) d = listed es d + listed fs d := by
  simp [listed]

theorem listed_perm (h : es.Perm fs) (d : Denomination) : listed es d = listed fs d :=
  ((h.filter _).map _).sum_eq

/-- What is nothing for a count of zero is summed up over the entries of a holding as over all
denominations. -/
theorem sum_entries_map (n : Notes) {f : Denomination × Nat32 → Nat}
    (hf : ∀ e, e.2.val = 0 → f e = 0) :
    (n.entries.map f).sum = (Denomination.ascending.map fun d => f (d, n.get d)).sum := by
  have hskip : ∀ es : List (Denomination × Nat32),
      ((es.filter fun e => e.2.val ≠ 0).map f).sum = (es.map f).sum := by
    intro es
    induction es with
    | nil => rfl
    | cons e es ih =>
      rw [List.filter_cons, List.map_cons, List.sum_cons]
      split
      · rw [List.map_cons, List.sum_cons, ih]
      · rename_i hzero
        rw [hf e (by simpa using hzero), ih, Nat.zero_add]
  rw [entries, hskip, List.map_map]
  rfl

/-- A holding lists each denomination as often as it holds it: what has no entry is not held. -/
theorem listed_entries (n : Notes) (d : Denomination) : listed n.entries d = (n.get d).val := by
  rw [listed_eq, sum_entries_map n]
  · cases d <;> simp [Denomination.ascending]
  · intro e he
    rw [he, ite_self]

/-- A holding is worth the sum of face value times count over its entries. -/
theorem sum_entries (n : Notes) : (n.entries.map fun e => e.1.value * e.2.val).sum = n.value := by
  rw [sum_entries_map n fun e he => by rw [he, Nat.mul_zero]]
  simp [Denomination.ascending, value]

/-! ### Collecting -/

theorem get_foldl_add (es : List (Denomination × Nat32)) (n : Notes) (d : Denomination) :
    (es.foldl (fun n e => n.add e.1 e.2) n).get d =
      Nat32.capped ((n.get d).val + listed es d) := by
  induction es generalizing n with
  | nil => exact (Nat32.capped_val _).symm
  | cons e es ih =>
    rw [List.foldl_cons, ih, listed_cons]
    apply Nat32.ext
    by_cases h : e.1 = d
    · -- whatever the first sum loses, the last one would lose
      subst h
      rw [get_add_self, if_pos rfl]
      simp only [Nat32.val_capped, Nat32.val_add]
      omega
    · rw [get_add_of_ne n _ (Ne.symm h), if_neg h, Nat.zero_add]

theorem get_ofList (es : List (Denomination × Nat32)) (d : Denomination) :
    (ofList es).get d = Nat32.capped (listed es d) := by
  rw [ofList, get_foldl_add, get_empty, Nat32.val_zero, Nat.zero_add]

theorem get_ofList_append (es fs : List (Denomination × Nat32)) (d : Denomination) :
    (ofList (es ++ fs)).get d = ((ofList es).get d).add ((ofList fs).get d) := by
  apply Nat32.ext
  rw [get_ofList, get_ofList, get_ofList, listed_append]
  simp only [Nat32.val_capped, Nat32.val_add]
  omega

theorem ofList_of_perm {n : Notes} (h : es.Perm n.entries) : ofList es = n := by
  refine ext fun d => ?_
  rw [get_ofList, listed_perm h, listed_entries, Nat32.capped_val]

theorem get_addAll (n m : Notes) (d : Denomination) :
    (n.addAll m).get d = (n.get d).add (m.get d) := by
  rw [addAll, get_foldl_add, listed_entries]
  rfl

end CashMachine.Notes
