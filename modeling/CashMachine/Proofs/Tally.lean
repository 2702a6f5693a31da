/-
Holdings of notes as they are kept: a row of the denominations that are held, with their counts.

The row is in the order of the face values and has no count of zero in it (`Tally.Kept`): what
would become zero is taken out of it, and what is added as zero is not put in.  Such a row is known
by its counts, so each change of a holding is, on the row of its entries, the change of the row.

* `Tally.kept_set`, `Tally.kept_add` — changes keep the form of the row;
* `Tally.Kept.ext` — rows of that form with the same counts are the same row;
* `Notes.entries_set`, `Notes.entries_add`, `Notes.entries_addAll`, `Notes.entries_ofList` — the
  entries of a holding follow its changes;
* `Notes.ofSaved?_saved` — a holding that is saved is read back.
-/
import CashMachine.Proofs.Collected

namespace CashMachine

/-- A row of denominations and counts. -/
abbrev Tally := List (Denomination × Nat32)

namespace Tally

/-- The count of a denomination, zero for one that is not in the row. -/
def get : Tally → Denomination → Nat32
  | [], _ => 0
  | e :: t, d => if e.1 = d then e.2 else get t d

/-- The row without a denomination. -/
def erase (t : Tally) (d : Denomination) : Tally :=
  t.filter fun e => e.1 ≠ d

/-- The row with a count at its place, instead of the one that may stand there. -/
def insert (d : Denomination) (count : Nat32) : Tally → Tally
  | [] => [(d, count)]
  | e :: t =>
    if d.value < e.1.value then (d, count) :: e :: t
    else if e.1 = d then (d, count) :: t
    else e :: insert d count t

/-- The row with another count; a count of zero is taken out. -/
def set (t : Tally) (d : Denomination) (count : Nat32) : Tally :=
  if count.val = 0 then erase t d else insert d count t

/-- The row with more of a denomination; adding none changes nothing. -/
def add (t : Tally) (d : Denomination) (count : Nat32) : Tally :=
  if count.val = 0 then t else insert d ((get t d).add count) t

/-- The row with every count of another one added. -/
def addAll (t u : Tally) : Tally :=
  u.foldl (fun t e => add t e.1 e.2) t

/-- The row that counts are collected into. -/
def collect (es : List (Denomination × Nat32)) : Tally :=
  addAll [] es

/-- The form in which rows are kept: each denomination once, the smallest first, and no count of
zero. -/
structure Kept (t : Tally) : Prop where
  ascending : t.Pairwise fun e f => e.1.value < f.1.value
  counted : ∀ e ∈ t, e.2.val ≠ 0

variable {t u : Tally} {d : Denomination} {count : Nat32}

/-! ### Counts -/

theorem get_erase (t : Tally) (d e : Denomination) :
    get (erase t d) e = if e = d then 0 else get t e := by
  induction t with
  | nil => simp [erase, get]
  | cons f t ih =>
    rw [erase] at ih ⊢
    by_cases hf : f.1 = d
    · rw [List.filter_cons_of_neg (by simpa using hf), ih, get]
      by_cases he : e = d
      · rw [if_pos he, if_pos he]
      · rw [if_neg he, if_neg he, if_neg fun h => he (h.symm.trans hf)]
    · rw [List.filter_cons_of_pos (by simpa using hf), get, get, ih]
      by_cases he : e = d
      · rw [if_pos he, if_pos he, if_neg fun h => hf (h.trans he)]
      · rw [if_neg he, if_neg he]

theorem get_insert (t : Tally) (d e : Denomination) (count : Nat32) :
    get (insert d count t) e = if e = d then count else get t e := by
  induction t with
  | nil => simp [insert, get, eq_comm]
  | cons f t ih =>
    rw [insert]
    split_ifs with hless hsame he he <;> grind [get]

theorem get_set (t : Tally) (d e : Denomination) (count : Nat32) :
    get (set t d count) e = if e = d then count else get t e := by
  rw [set]
  split
  · rename_i hzero
    rw [get_erase, show (0 : Nat32) = count from Nat32.ext hzero.symm]
  · exact get_insert t d e count

theorem get_add (t : Tally) (d e : Denomination) (count : Nat32) :
    get (add t d count) e = if e = d then (get t d).add count else get t e := by
  rw [add]
  split
  · rename_i hzero
    split
    · rename_i he
      subst he
      apply Nat32.ext
      rw [Nat32.val_add, hzero, Nat.add_zero, Nat.min_eq_left (get t e).val_le]
    · rfl
  · exact get_insert t d e _

theorem mem_insert {e : Denomination × Nat32} (h : e ∈ insert d count t) :
    e = (d, count) ∨ e ∈ t := by
  induction t with
  | nil => simpa [insert] using h
  | cons f t ih =>
    rw [insert] at h
    split_ifs at h with hless hsame <;> grind

/-! ### The form of a row -/

theorem kept_erase (h : Kept t) (d : Denomination) : Kept (erase t d) :=
  ⟨h.ascending.filter _, fun e he => h.counted e (List.mem_of_mem_filter he)⟩

theorem ascending_insert (h : t.Pairwise fun e f => e.1.value < f.1.value) :
    (insert d count t).Pairwise fun e f => e.1.value < f.1.value := by
  induction t with
  | nil => exact List.pairwise_singleton _ _
  | cons f t ih =>
    have hhead := (List.pairwise_cons.mp h).1
    have htail := (List.pairwise_cons.mp h).2
    rw [insert]
    split_ifs with hless hsame
    · refine List.pairwise_cons.mpr ⟨fun e he => ?_, h⟩
      rcases List.mem_cons.mp he with rfl | he
      · exact hless
      · exact Nat.lt_trans hless (hhead e he)
    · exact List.pairwise_cons.mpr ⟨fun e he => hsame ▸ hhead e he, htail⟩
    · refine List.pairwise_cons.mpr ⟨fun e he => ?_, ih htail⟩
      rcases mem_insert he with rfl | he
      · have hne : f.1.value ≠ d.value := fun heq => hsame (Denomination.value_injective heq)
        exact Nat.lt_of_le_of_ne (Nat.not_lt.mp hless) hne
      · exact hhead e he

theorem kept_insert (h : Kept t) (hcount : count.val ≠ 0) (d : Denomination) :
    Kept (insert d count t) := by
  refine ⟨ascending_insert h.ascending, fun e he => ?_⟩
  rcases mem_insert he with rfl | he
  · exact hcount
  · exact h.counted e he

theorem kept_set (h : Kept t) (d : Denomination) (count : Nat32) : Kept (set t d count) := by
  rw [set]
  split
  · exact kept_erase h d
  · exact kept_insert h ‹_› d

theorem kept_add (h : Kept t) (d : Denomination) (count : Nat32) : Kept (add t d count) := by
  rw [add]
  split
  · exact h
  · rename_i hcount
    refine kept_insert h ?_ d
    rw [Nat32.val_add]
    omega

theorem get_of_mem (h : t.Pairwise fun e f => e.1.value < f.1.value)
    {e : Denomination × Nat32} (he : e ∈ t) : get t e.1 = e.2 := by
  induction t with
  | nil => cases he
  | cons f t ih =>
    rw [get]
    rcases List.mem_cons.mp he with rfl | he
    · exact if_pos rfl
    · have hlt := (List.pairwise_cons.mp h).1 e he
      have hne : f.1 ≠ e.1 := fun heq => Nat.lt_irrefl _ (heq ▸ hlt)
      rw [if_neg hne, ih (List.pairwise_cons.mp h).2 he]

theorem mem_of_get (h : (get t d).val ≠ 0) : (d, get t d) ∈ t := by
  induction t with
  | nil => exact absurd rfl h
  | cons f t ih =>
    rw [get] at h ⊢
    split
    · rename_i heq
      subst heq
      exact List.mem_cons_self
    · rename_i hne
      rw [if_neg hne] at h
      exact List.mem_cons_of_mem f (ih h)

/-- What is in a kept row is known by its counts. -/
theorem Kept.mem_iff (h : Kept t) {e : Denomination × Nat32} :
    e ∈ t ↔ get t e.1 = e.2 ∧ e.2.val ≠ 0 := by
  constructor
  · intro he
    exact ⟨get_of_mem h.ascending he, h.counted e he⟩
  · rintro ⟨hget, hcount⟩
    rw [← hget] at hcount
    have hmem := mem_of_get hcount
    rwa [hget] at hmem

/-- Kept rows with the same counts are the same row. -/
theorem Kept.ext (ht : Kept t) (hu : Kept u) (h : ∀ d, get t d = get u d) : t = u := by
  have hnodup : ∀ v : Tally, Kept v → v.Nodup := by
    intro v hv
    refine hv.ascending.imp ?_
    rintro e f hlt rfl
    exact Nat.lt_irrefl _ hlt
  have hperm : t.Perm u := by
    rw [List.perm_ext_iff_of_nodup (hnodup t ht) (hnodup u hu)]
    intro e
    rw [ht.mem_iff, hu.mem_iff, h]
  refine hperm.eq_of_pairwise ?_ ht.ascending hu.ascending
  intro e f _ _ hlt hgt
  exact absurd hlt (Nat.lt_asymm hgt)

end Tally

namespace Notes

theorem kept_entries (n : Notes) : Tally.Kept n.entries := by
  refine ⟨?_, fun e he => (mem_entries_iff.mp he).2⟩
  refine List.Pairwise.filter _ ?_
  rw [List.pairwise_map]
  exact (by decide : Denomination.ascending.Pairwise fun d e => d.value < e.value)

theorem get_entries (n : Notes) (d : Denomination) : Tally.get n.entries d = n.get d := by
  by_cases hzero : (Tally.get n.entries d).val = 0
  · -- a count that is not zero would be in the row
    by_contra hne
    have hcount : (n.get d).val ≠ 0 := fun h => hne (Nat32.ext (hzero.trans h.symm))
    have hmem : (d, n.get d) ∈ n.entries := mem_entries_iff.mpr ⟨rfl, hcount⟩
    exact hne (Tally.get_of_mem n.kept_entries.ascending hmem)
  · exact (mem_entries_iff.mp (Tally.mem_of_get hzero)).1.symm

/-- A kept row with the counts of a holding is the row of its entries. -/
theorem eq_entries {t : Tally} {n : Notes} (ht : t.Kept) (h : ∀ d, t.get d = n.get d) :
    t = n.entries :=
  ht.ext n.kept_entries fun d => by rw [h, get_entries]

theorem entries_set (n : Notes) (d : Denomination) (count : Nat32) :
    Tally.set n.entries d count = (n.set d count).entries := by
  refine eq_entries (Tally.kept_set n.kept_entries d count) fun e => ?_
  rw [Tally.get_set, get_entries]
  split
  · rename_i he
    rw [he, get_set_self]
  · rename_i hne
    exact (get_set_of_ne n count hne).symm

theorem entries_add (n : Notes) (d : Denomination) (count : Nat32) :
    Tally.add n.entries d count = (n.add d count).entries := by
  refine eq_entries (Tally.kept_add n.kept_entries d count) fun e => ?_
  rw [Tally.get_add, get_entries, get_entries]
  split
  · rename_i he
    rw [he, get_add_self]
  · rename_i hne
    exact (get_add_of_ne n count hne).symm

theorem entries_foldl_add (n : Notes) (es : List (Denomination × Nat32)) :
    Tally.addAll n.entries es = (es.foldl (fun n e => n.add e.1 e.2) n).entries := by
  rw [Tally.addAll]
  induction es generalizing n with
  | nil => rfl
  | cons e es ih => rw [List.foldl_cons, List.foldl_cons, entries_add, ih]

theorem entries_addAll (n m : Notes) :
    Tally.addAll n.entries m.entries = (n.addAll m).entries :=
  entries_foldl_add n m.entries

theorem entries_ofList (es : List (Denomination × Nat32)) :
    Tally.collect es = (ofList es).entries :=
  entries_foldl_add empty es

end Notes

/-! ### Saved form -/

namespace Denomination

theorem text_injective {d e : Denomination} (h : d.text = e.text) : d = e := by
  have hdigits : Text.digits d.value = Text.digits e.value := by
    simpa only [text, Text.ofNat, String.toList_ofList] using congrArg String.toList h
  have hread := Text.natOfDigits?_digits d.value
  rw [hdigits, Text.natOfDigits?_digits, Option.some.injEq] at hread
  exact value_injective hread.symm

end Denomination

namespace Notes

theorem keyDenomination?_text (d : Denomination) : keyDenomination? d.text = some d := by
  have hsame : (fun e : Denomination => decide (e.text = d.text)) = fun e => decide (e = d) := by
    funext e
    exact decide_eq_decide.mpr ⟨Denomination.text_injective, fun h => h ▸ rfl⟩
  rw [keyDenomination?, hsame]
  cases d <;> rfl

theorem savedCount?_int (count : Nat32) : savedCount? (.int count.val) = some count := by
  rw [savedCount?, if_pos (Int.natCast_nonneg _), Int.toNat_natCast, Nat32.ofNat?_val]

end Notes

namespace Tally

/-- A row in saved form. -/
def saved (t : Tally) : Document :=
  .table (t.map fun e => (e.1.text, .int e.2.val))

/-- The counts that a saved form lists. -/
def listed? : Document → Option (List (Denomination × Nat32))
  | .table entries => entries.mapM fun e => do
    let d ← Notes.keyDenomination? e.1
    let c ← Notes.savedCount? e.2
    some (d, c)
  | _ => none

/-- The row that a saved form stands for. -/
def ofSaved? (saved : Document) : Option Tally :=
  (listed? saved).map collect

theorem listed?_saved (t : Tally) : listed? t.saved = some t := by
  rw [saved, listed?]
  induction t with
  | nil => rfl
  | cons e t ih =>
    rw [List.map_cons, List.mapM_cons, ih, Notes.keyDenomination?_text, Notes.savedCount?_int]
    rfl

end Tally

namespace Notes

theorem ofSaved?_eq (saved : Document) : ofSaved? saved = (Tally.listed? saved).map ofList := by
  cases saved with
  | table entries =>
    rw [ofSaved?, Tally.listed?, Option.map_eq_bind]
    rfl
  | _ => rfl

theorem entries_ofSaved? (saved : Document) :
    (ofSaved? saved).map entries = Tally.ofSaved? saved := by
  rw [ofSaved?_eq, Option.map_map, Tally.ofSaved?]
  exact Option.map_congr fun es _ => (entries_ofList es).symm

theorem ofSaved?_saved (n : Notes) : ofSaved? n.saved = some n := by
  have hlisted : Tally.listed? n.saved = some n.entries := Tally.listed?_saved n.entries
  rw [ofSaved?_eq, hlisted, Option.map_some, ofList_of_perm (List.Perm.refl _)]

end Notes

end CashMachine
