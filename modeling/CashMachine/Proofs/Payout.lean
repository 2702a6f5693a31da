/-
Paying out a plan: notes taken out of the machine, one denomination after the other.

A plan that is held can be taken out entirely, whatever its notes are: no removal on the
way is refused (`forM_takeOut`), and what is left is the holding without the plan, count by
count (`Notes.less`).

* `Notes.within_iff` — a plan is held when each of its counts is;
* `Notes.value_less_add` — what is left and the plan are worth as much as the holding was.
-/
import CashMachine.Machine.Money
import CashMachine.Proofs.Decimal.Value

namespace CashMachine

namespace Notes

/-- The holding without the notes of a plan. -/
def less (n plan : Notes) : Notes :=
  ⟨n.tens.sub plan.tens, n.twenties.sub plan.twenties, n.fifties.sub plan.fifties,
    n.hundreds.sub plan.hundreds⟩

@[simp] theorem get_less (n plan : Notes) (d : Denomination) :
    (n.less plan).get d = (n.get d).sub (plan.get d) := by
  cases d <;> rfl

theorem mem_entries_iff {n : Notes} {e : Denomination × Nat32} :
    e ∈ n.entries ↔ n.get e.1 = e.2 ∧ e.2.val ≠ 0 := by
  obtain ⟨d, c⟩ := e
  simp only [entries, List.mem_filter, List.mem_map, Prod.mk.injEq, decide_eq_true_eq]
  constructor
  · rintro ⟨⟨d', _, rfl, hc⟩, h⟩
    exact ⟨hc, h⟩
  · rintro ⟨hc, h⟩
    exact ⟨⟨d, Denomination.mem_ascending d, rfl, hc⟩, h⟩

theorem nodup_entries (n : Notes) : (n.entries.map Prod.fst).Nodup := by
  have h : ((Denomination.ascending.map fun d => (d, n.get d)).map Prod.fst).Nodup := by
    rw [List.map_map]
    exact (by decide : Denomination.ascending.Nodup)
  exact h.sublist (List.filter_sublist.map Prod.fst)

theorem within_iff {plan n : Notes} :
    plan.within n = true ↔ ∀ d, (plan.get d).val ≤ (n.get d).val := by
  simp only [within, List.all_eq_true, decide_eq_true_eq]
  constructor
  · intro h d
    -- a count of zero has no entry, and is always held
    by_cases hd : (plan.get d).val = 0
    · omega
    · exact h (d, plan.get d) (mem_entries_iff.mpr ⟨rfl, hd⟩)
  · intro h e he
    rw [← (mem_entries_iff.mp he).1]
    exact h e.1

theorem value_total (n : Notes) : n.total.value = n.value := by
  rw [Decimal.value, total_scale, tenTo_zero, Nat.cast_one, div_one]
  rfl

theorem value_less_add {plan n : Notes} (h : plan.within n = true) :
    (n.less plan).value + plan.value = n.value := by
  rw [within_iff] at h
  have h1 := h .ten
  have h2 := h .twenty
  have h3 := h .fifty
  have h4 := h .hundred
  simp only [value, Denomination.ascending, List.foldr_cons, List.foldr_nil, Denomination.value,
    get_less, Nat32.val_sub]
  omega

/-- The holding without the notes of one entry. -/
def out (n : Notes) (e : Denomination × Nat32) : Notes :=
  n.set e.1 ((n.get e.1).sub e.2)

theorem out_of_val_eq_zero (n : Notes) {e : Denomination × Nat32} (h : e.2.val = 0) :
    n.out e = n := by
  have hc : (n.get e.1).sub e.2 = n.get e.1 := by
    apply Nat32.ext
    rw [Nat32.val_sub, h, Nat.sub_zero]
  rw [out, hc]
  cases e.1 <;> rfl

/-- Entry by entry, all of a plan is taken out. -/
theorem foldl_out (n plan : Notes) : plan.entries.foldl out n = n.less plan := by
  -- the counts of zero that have no entry would change nothing, so all four can be gone through
  have hskip : (fun (m : Notes) (e : Denomination × Nat32) =>
      if decide (e.2.val ≠ 0) = true then m.out e else m) = out := by
    funext m e
    by_cases he : e.2.val = 0
    · rw [if_neg (by simp [he]), out_of_val_eq_zero m he]
    · rw [if_pos (by simp [he])]
  rw [entries, List.foldl_filter, hskip]
  rfl

end Notes

namespace Progress

/-- The same progress with another holding of notes. -/
def withNotes (p : Progress) (notes : Notes) : Progress :=
  { p with machine := { p.machine with reserve := { p.machine.reserve with notes } } }

end Progress

namespace Machine

theorem takeOut_of_le {p : Progress} {e : Denomination × Nat32}
    (h : e.2.val ≤ (p.machine.reserve.notes.get e.1).val) :
    takeOut e p = (.ok (), p.withNotes (p.machine.reserve.notes.out e)) := by
  simp only [takeOut, Work.run_bind, Work.run_current, Work.run_lift,
    Reserve.remove_eq_ok_iff.mpr ⟨h, rfl⟩]
  rfl

/-- Entries of different denominations that are held can be taken out one after the other:
taking one out leaves the counts of the others as they are. -/
theorem forM_takeOut {entries : List (Denomination × Nat32)}
    (hn : (entries.map Prod.fst).Nodup) (p : Progress)
    (h : ∀ e ∈ entries, e.2.val ≤ (p.machine.reserve.notes.get e.1).val) :
    forM entries takeOut p =
      (.ok (), p.withNotes (entries.foldl Notes.out p.machine.reserve.notes)) := by
  induction entries generalizing p with
  | nil => rfl
  | cons e rest ih =>
    rw [List.map_cons, List.nodup_cons] at hn
    have he := takeOut_of_le (h e List.mem_cons_self)
    rw [List.forM_cons, Work.bind_of_ok he, ih hn.2]
    · rfl
    · -- what comes later is of another denomination, and still held
      intro f hf
      have hne : f.1 ≠ e.1 := by
        intro heq
        exact hn.1 (heq ▸ List.mem_map_of_mem hf)
      have hrest := h f (List.mem_cons_of_mem e hf)
      rw [← Notes.get_set_of_ne p.machine.reserve.notes _ hne] at hrest
      exact hrest

/-- A plan that is held is taken out entirely. -/
theorem forM_takeOut_of_within {plan : Notes} (p : Progress)
    (h : plan.within p.machine.reserve.notes = true) :
    forM plan.entries takeOut p = (.ok (), p.withNotes (p.machine.reserve.notes.less plan)) := by
  rw [forM_takeOut plan.nodup_entries p, Notes.foldl_out]
  intro e he
  rw [← (Notes.mem_entries_iff.mp he).1]
  exact Notes.within_iff.mp h e.1

end Machine

end CashMachine
