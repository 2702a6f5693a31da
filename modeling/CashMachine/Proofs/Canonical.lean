/-
A holding of notes is kept in one form, however it has come about.

Holdings are made empty, collected, read from texts and from saved forms, and then changed count by
count.  None of this leaves a count of zero in the row that is kept, so the row is known by its
counts, and the tests that look at the row agree: where it is empty, it has no denominations, no
notes and no worth.  Counts that are collected stop at the largest one after each step, and still it
does not matter in which order they come or where their list is divided.

* `Tally.Kept.isEmpty_iff`, `Tally.Kept.size_eq_zero_iff`, `Tally.Kept.noteCount_eq_zero_iff`,
  `Tally.Kept.worth_eq_zero_iff` — the tests of a kept row;
* `Notes.entries_change`, `Notes.entries_changed` — one change, and a row of changes by induction;
* `Notes.ofList_perm`, `Notes.foldl_add_ofList` — the order of a list, and where it is divided;
* `Notes.kept_in_one_form` — all of it, after any changes.
-/
import CashMachine.Proofs.Listing
import CashMachine.Proofs.Tally
import CashMachine.Proofs.Unchecked

namespace CashMachine

namespace Tally

/-! ### Tests of a row -/

/-- All counts of the row are zero. -/
def isEmpty (t : Tally) : Bool :=
  t.all fun e => e.2.val = 0

/-- The number of denominations with a count that is not zero. -/
def size (t : Tally) : Nat :=
  (t.filter fun e => 0 < e.2.val).length

def noteCount (t : Tally) : Nat :=
  (t.map fun e => e.2.val).sum

/-- The sum of face value times count. -/
def worth (t : Tally) : Nat :=
  (t.map fun e => e.1.value * e.2.val).sum

/-- The same sum as an amount, one product added after the other. -/
def total? (t : Tally) : Option Decimal :=
  t.foldlM Notes.addWorth? 0

namespace Kept

variable {t : Tally}

/-- Whatever is zero for the whole row and for none of its entries is zero for no row but the empty
one. -/
theorem sum_eq_zero_iff (h : Kept t) {f : Denomination × Nat32 → Nat}
    (hf : ∀ e, e.2.val ≠ 0 → f e ≠ 0) : (t.map f).sum = 0 ↔ t = [] := by
  constructor
  · intro hsum
    refine List.eq_nil_iff_forall_not_mem.mpr fun e he => ?_
    have hzero := List.sum_eq_zero_iff_forall_eq_nat.mp hsum
    exact hf e (h.counted e he) (hzero _ (List.mem_map_of_mem he))
  · rintro rfl
    rfl

theorem isEmpty_iff (h : Kept t) : t.isEmpty = true ↔ t = [] := by
  rw [isEmpty, List.all_eq_true]
  constructor
  · intro hzero
    refine List.eq_nil_iff_forall_not_mem.mpr fun e he => ?_
    exact h.counted e he (of_decide_eq_true (hzero e he))
  · rintro rfl e he
    cases he

/-- Every entry counts. -/
theorem size_eq_length (h : Kept t) : t.size = t.length := by
  have hall : ∀ e ∈ t, decide (0 < e.2.val) = true := fun e he =>
    decide_eq_true (Nat.pos_of_ne_zero (h.counted e he))
  rw [size, List.filter_eq_self.mpr hall]

theorem size_eq_zero_iff (h : Kept t) : t.size = 0 ↔ t = [] := by
  rw [h.size_eq_length, List.length_eq_zero_iff]

theorem noteCount_eq_zero_iff (h : Kept t) : t.noteCount = 0 ↔ t = [] :=
  h.sum_eq_zero_iff fun _ he => he

theorem worth_eq_zero_iff (h : Kept t) : t.worth = 0 ↔ t = [] :=
  h.sum_eq_zero_iff fun e he => Nat.mul_ne_zero e.1.value_pos.ne' he

end Kept

end Tally

namespace Notes

theorem isEmpty_entries (n : Notes) : Tally.isEmpty n.entries = n.isEmpty := by
  rw [Bool.eq_iff_iff, n.kept_entries.isEmpty_iff, isEmpty, List.isEmpty_iff]

theorem size_entries (n : Notes) : Tally.size n.entries = n.size :=
  n.kept_entries.size_eq_length

theorem noteCount_entries (n : Notes) : Tally.noteCount n.entries = n.noteCount := by
  rw [Tally.noteCount, sum_entries_map n fun e he => he]
  simp [Denomination.ascending, noteCount]

theorem total?_entries (n : Notes) : Tally.total? n.entries = some n.total :=
  n.total?_eq

theorem equals_total_zero_iff (n : Notes) :
    n.total.equals 0 = true ↔ Tally.worth n.entries = 0 := by
  rw [Decimal.equals_iff_value_eq, value_total, Tally.worth, sum_entries, Decimal.value,
    Decimal.coefficient_zero, Int.cast_zero, zero_div, Nat.cast_eq_zero]

/-! ### One change after the other -/

/-- The ways a holding comes about: it is made empty, collected, read from a text or from a saved
form, or changed in one count. -/
inductive Change where
  | make
  | set (d : Denomination) (count : Nat32)
  | add (d : Denomination) (count : Nat32)
  | collect (counts : List (Denomination × Nat32))
  | parse (text : String)
  | load (saved : Document)

/-- The holding after a change.  What cannot be read leaves it as it is. -/
def change (n : Notes) : Change → Notes
  | .make => empty
  | .set d count => n.set d count
  | .add d count => n.add d count
  | .collect counts => ofList counts
  | .parse text => (ofText text).toOption.getD n
  | .load saved => (ofSaved? saved).getD n

/-- The holding after a row of changes. -/
def changed (n : Notes) (cs : List Change) : Notes :=
  cs.foldl change n

end Notes

namespace Tally

/-- Reads a text of notes; counts of one denomination add up. -/
def ofText (s : String) : Except UnsupportedDenomination Tally :=
  (Notes.readEntries s.toList).map collect

/-- The change on the row that is kept. -/
def change (t : Tally) : Notes.Change → Tally
  | .make => []
  | .set d count => t.set d count
  | .add d count => t.add d count
  | .collect counts => collect counts
  | .parse text => (ofText text).toOption.getD t
  | .load saved => (ofSaved? saved).getD t

def changed (t : Tally) (cs : List Notes.Change) : Tally :=
  cs.foldl change t

end Tally

namespace Notes

theorem entries_ofText (s : String) : Tally.ofText s = (ofText s).map entries := by
  rw [ofText, read_eq_map, Tally.ofText]
  cases readEntries s.toList with
  | error e => rfl
  | ok es => exact congrArg Except.ok (entries_ofList es)

/-- A change of the holding is the change of the row of its entries. -/
theorem entries_change (n : Notes) (c : Change) :
    Tally.change n.entries c = (n.change c).entries := by
  cases c with
  | make => rfl
  | set d count => exact entries_set n d count
  | add d count => exact entries_add n d count
  | collect counts => exact entries_ofList counts
  | parse text =>
    rw [Tally.change, change, entries_ofText]
    cases ofText text <;> rfl
  | load saved =>
    rw [Tally.change, change, ← entries_ofSaved?]
    cases ofSaved? saved <;> rfl

theorem entries_changed (n : Notes) (cs : List Change) :
    Tally.changed n.entries cs = (n.changed cs).entries := by
  induction cs generalizing n with
  | nil => rfl
  | cons c cs ih =>
    rw [Tally.changed, List.foldl_cons, changed, List.foldl_cons, entries_change]
    exact ih (n.change c)

theorem entries_injective {m n : Notes} (h : m.entries = n.entries) : m = n :=
  ext fun d => by rw [← get_entries, h, get_entries]

/-! ### Collecting -/

theorem ofList_perm {es fs : List (Denomination × Nat32)} (h : es.Perm fs) :
    ofList es = ofList fs :=
  ext fun d => by rw [get_ofList, get_ofList, listed_perm h]

theorem foldl_add_ofList (es fs : List (Denomination × Nat32)) :
    fs.foldl (fun n e => n.add e.1 e.2) (ofList es) = ofList (es ++ fs) := by
  rw [ofList, ofList, List.foldl_append]

/-- However two holdings have come about, each is kept as a row without a count of zero, and they
are the same where they have the same counts.  To be empty, to have no denominations, to have no
notes and to be worth nothing is the same.  A list is collected to the sums of the counts that it
lists, each up to the largest count, in whatever order they come; and a list in two parts is
collected by adding the entries of either part to what the other one is collected to. -/
theorem kept_in_one_form (cs ds : List Change) :
    let n := empty.changed cs
    let m := empty.changed ds
    let t := Tally.changed [] cs
    let u := Tally.changed [] ds
    (t = n.entries ∧ t.Kept ∧ (∀ e ∈ t, e.2.val ≠ 0) ∧ ∀ d, t.get d = n.get d) ∧
    ((t = u ↔ ∀ d, t.get d = u.get d) ∧ (n = m ↔ t = u)) ∧
    ((t.isEmpty = true ↔ t.size = 0) ∧ (t.size = 0 ↔ t.noteCount = 0) ∧
      (t.noteCount = 0 ↔ ∃ total, t.total? = some total ∧ total.equals 0 = true)) ∧
    (t.isEmpty = n.isEmpty ∧ t.size = n.size ∧ t.noteCount = n.noteCount ∧
      t.total? = some n.total) ∧
    ∀ es fs : List (Denomination × Nat32),
      (Tally.collect es = (ofList es).entries ∧
        ∀ d, ((Tally.collect es).get d).val = min 4294967295 (listed es d)) ∧
      (es.Perm fs → Tally.collect es = Tally.collect fs) ∧
      Tally.collect (es ++ fs) = (Tally.collect es).addAll fs ∧
      Tally.collect (es ++ fs) = (Tally.collect fs).addAll es := by
  intro n m t u
  have ht : t = n.entries := entries_changed empty cs
  have hu : u = m.entries := entries_changed empty ds
  have hkept : t.Kept := ht ▸ n.kept_entries
  have htotal : t.total? = some n.total := ht ▸ n.total?_entries
  refine ⟨⟨ht, hkept, hkept.counted, fun d => by rw [ht, get_entries]⟩, ⟨⟨?_, ?_⟩, ⟨?_, ?_⟩⟩,
    ⟨?_, ?_, ?_⟩, ⟨?_, ?_, ?_, htotal⟩, fun es fs => ⟨⟨entries_ofList es, fun d => ?_⟩, ?_, ?_, ?_⟩⟩
  · intro heq d
    rw [heq]
  · exact hkept.ext (hu ▸ m.kept_entries)
  · intro heq
    rw [ht, hu, heq]
  · intro heq
    exact entries_injective (by rw [← ht, heq, hu])
  · rw [hkept.isEmpty_iff, hkept.size_eq_zero_iff]
  · rw [hkept.size_eq_zero_iff, hkept.noteCount_eq_zero_iff]
  · rw [hkept.noteCount_eq_zero_iff, htotal, ← hkept.worth_eq_zero_iff, ht,
      ← n.equals_total_zero_iff]
    simp
  · rw [ht, isEmpty_entries]
  · rw [ht, size_entries]
  · rw [ht, noteCount_entries]
  · rw [entries_ofList, get_entries, get_ofList, Nat32.val_capped, Nat.min_comm]
  · intro hperm
    rw [entries_ofList, entries_ofList, ofList_perm hperm]
  · rw [entries_ofList, entries_ofList, entries_foldl_add, foldl_add_ofList]
  · rw [entries_ofList, entries_ofList, entries_foldl_add, foldl_add_ofList,
      ofList_perm List.perm_append_comm]

/-- Hundreds that are set to none are as those that were never there, and so are fifties of which
none is saved.  Fifties stop at the largest count, in whatever order they are listed. -/
theorem kept_in_one_form_emptied :
    let spent : List Change := [.parse "100:1 10:2", .set .hundred 0, .add .fifty 0]
    let loaded : List Change := [.load (Tally.saved [(.ten, 2), (.fifty, 0)])]
    let es : List (Denomination × Nat32) := [(.fifty, Nat32.max), (.ten, 1), (.fifty, 2)]
    let fs : List (Denomination × Nat32) := [(.fifty, 2), (.fifty, Nat32.max), (.ten, 1)]
    Tally.changed [] spent = Tally.changed [] loaded ∧ es.Perm fs ∧
      Tally.collect es = Tally.collect fs ∧ ((Tally.collect es).get .fifty).val = 4294967295 := by
  intro spent loaded es fs
  obtain ⟨_, ⟨hsame, _⟩, _, _, hcollect⟩ := kept_in_one_form spent loaded
  have hloaded : Tally.changed [] loaded = [(.ten, 2)] := by
    show (Tally.ofSaved? (Tally.saved [(.ten, 2), (.fifty, 0)])).getD [] = _
    rw [Tally.ofSaved?, Tally.listed?_saved]
    rfl
  have hcounts : ∀ d, (Tally.changed [] spent).get d = (Tally.changed [] loaded).get d := by
    intro d
    rw [hloaded]
    cases d <;> rfl
  have hperm : es.Perm fs := by decide
  refine ⟨hsame.mpr hcounts, hperm, (hcollect es fs).2.1 hperm, ?_⟩
  rw [(hcollect es fs).1.2]
  rfl

end Notes

end CashMachine
