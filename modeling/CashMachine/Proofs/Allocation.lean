/-
Plans with the fewest notes.

A greedy plan takes as many of the largest notes as it can, then as many of the next ones
(`Notes.IsGreedy`).  Fifty is no multiple of twenty, so a plan that takes a fifty may need a ten
behind it that another one does without.  Still no other plan of the same value is shorter: what
it has fewer of the large notes, it has more of the small ones.

* `Notes.worth` — what some of the notes of a holding are worth;
* `worth_takeGreedy_add_rest`, `takeGreedy_largest` — what the walk down the denominations takes
  of each, and what it leaves;
* `isGreedy_of_allocate` — a plan of the greedy dispenser is greedy, and worth the amount;
* `IsGreedy.noteCount_le` — no other plan within the same notes is shorter;
* `allocate_fewest` — the plans of the greedy dispenser.
-/
import CashMachine.Proofs.Decimal.Whole
import CashMachine.Proofs.Payout

namespace CashMachine

namespace Notes

/-- What the notes of some denominations are worth in a holding. -/
def worth (n : Notes) (ds : List Denomination) : Nat :=
  (ds.map fun d => d.value * (n.get d).val).sum

theorem worth_descending (n : Notes) : n.worth Denomination.descending = n.value := by
  simp only [worth, value, Denomination.descending, Denomination.ascending, List.map_cons,
    List.map_nil, List.sum_cons, List.sum_nil, List.foldr_cons, List.foldr_nil]
  omega

theorem worth_cons (n : Notes) (d : Denomination) (ds : List Denomination) :
    n.worth (d :: ds) = d.value * (n.get d).val + n.worth ds := by
  simp [worth]

theorem worth_set_of_notMem (n : Notes) {d : Denomination} {ds : List Denomination} (c : Nat32)
    (h : d ∉ ds) : (n.set d c).worth ds = n.worth ds := by
  unfold worth
  refine congrArg List.sum (List.map_congr_left fun e he => ?_)
  have hne : e ≠ d := ne_of_mem_of_not_mem he h
  rw [get_set_of_ne n c hne]

/-- Of each denomination the plan has all the notes that are held, or what it has of the smaller
ones is worth less than one more. -/
structure IsGreedy (plan available : Notes) : Prop where
  held : ∀ d, (plan.get d).val ≤ (available.get d).val
  largest : ∀ {d ds}, d :: ds <:+ Denomination.descending →
    (plan.get d).val = (available.get d).val ∨ plan.worth ds < d.value

end Notes

namespace Dispenser

variable {ds : List Denomination}

/-! ### The walk down the denominations -/

theorem takeGreedy_held (available : Notes) (ds : List Denomination) (left : Nat)
    (d : Denomination) :
    ((takeGreedy available ds left).1.get d).val ≤ (available.get d).val := by
  induction ds generalizing left with
  | nil => simp [takeGreedy]
  | cons e ds ih =>
    rw [takeGreedy]
    by_cases hd : d = e
    · subst hd
      rw [Notes.get_set_self, Nat32.val_atMost]
      exact Nat.min_le_left _ _
    · rw [Notes.get_set_of_ne _ _ hd]
      exact ih _

/-- What is taken and what is left are worth the units there were. -/
theorem worth_takeGreedy_add_rest (available : Notes) (hn : ds.Nodup) (left : Nat) :
    (takeGreedy available ds left).1.worth ds + (takeGreedy available ds left).2 = left := by
  induction ds generalizing left with
  | nil => simp [takeGreedy, Notes.worth]
  | cons d ds ih =>
    rw [List.nodup_cons] at hn
    have hstep := value_take_add_rest available d left
    rw [takeGreedy, Notes.worth_cons, Notes.get_set_self, Notes.worth_set_of_notMem _ _ hn.1,
      Nat.add_assoc, ih hn.2, Nat.mul_comm]
    exact hstep

/-- The walk leaves notes of a denomination behind only where one of them is too much for what is
left to the smaller ones. -/
theorem takeGreedy_largest (available : Notes) (hn : ds.Nodup) {d : Denomination}
    {smaller : List Denomination} (h : d :: smaller <:+ ds) (left : Nat) :
    ((takeGreedy available ds left).1.get d).val = (available.get d).val ∨
      (takeGreedy available ds left).1.worth smaller + (takeGreedy available ds left).2 <
        d.value := by
  induction ds generalizing left with
  | nil => simp at h
  | cons e ds ih =>
    rw [List.nodup_cons] at hn
    rw [takeGreedy]
    rcases List.suffix_cons_iff.mp h with heq | hsuffix
    · obtain ⟨rfl, rfl⟩ := List.cons.inj heq
      rw [Notes.get_set_self, Notes.worth_set_of_notMem _ _ hn.1,
        worth_takeGreedy_add_rest available hn.2, Nat32.val_atMost]
      -- the count is all that is held, or the quotient, which leaves the remainder
      rcases Nat.le_total (available.get d).val (left / d.value) with hle | hle
      · exact .inl (Nat.min_eq_left hle)
      · right
        have hdiv := Nat.div_add_mod left d.value
        have hmod := Nat.mod_lt left d.value_pos
        rw [Nat.min_eq_right hle, Nat.mul_comm]
        omega
    · have hd : d ≠ e := ne_of_mem_of_not_mem (hsuffix.subset List.mem_cons_self) hn.1
      have hsmaller : e ∉ smaller := fun he => hn.1 (hsuffix.subset (List.mem_cons_of_mem d he))
      rw [Notes.get_set_of_ne _ _ hd, Notes.worth_set_of_notMem _ _ hsmaller]
      exact ih hn.2 hsuffix _

/-- A plan for an amount is greedy, and worth the amount. -/
theorem isGreedy_of_allocate {amount : Decimal} {available plan : Notes}
    (h : allocate amount available = some plan) :
    plan.IsGreedy available ∧ amount.value = plan.value := by
  unfold allocate at h
  cases hunits : amount.wholeUnits? with
  | none =>
    rw [hunits] at h
    cases h
  | some units =>
    rw [hunits] at h
    have hdistinct : Denomination.descending.Nodup := by decide
    have hworth := worth_takeGreedy_add_rest available hdistinct units
    have hheld := takeGreedy_held available Denomination.descending units
    have hlargest := fun d smaller (hs : d :: smaller <:+ Denomination.descending) =>
      takeGreedy_largest available hdistinct hs units
    simp only at h
    generalize takeGreedy available Denomination.descending units = taken at h hworth hheld hlargest
    obtain ⟨taken, left⟩ := taken
    split at h
    · cases h
    · split at h
      · rename_i hleft
        obtain rfl := Option.some_inj.mp h
        -- nothing is left over, so the plan is worth all the units
        have hzero : left = 0 := hleft
        subst hzero
        refine ⟨⟨hheld, fun hs => hlargest _ _ hs⟩, ?_⟩
        rw [(Decimal.wholeUnits?_eq_some_iff.mp hunits).2.1, ← hworth, Notes.worth_descending]
        rfl
      · cases h

end Dispenser

/-! ### Exchanging notes -/

namespace Notes

variable {plan other available : Notes}

theorem value_eq (n : Notes) : n.value =
    10 * n.tens.val + 20 * n.twenties.val + 50 * n.fifties.val + 100 * n.hundreds.val := by
  simp only [value, Denomination.ascending, List.foldr_cons, List.foldr_nil, Denomination.value,
    get]
  omega

theorem noteCount_eq (n : Notes) : n.noteCount =
    n.tens.val + n.twenties.val + n.fifties.val + n.hundreds.val := by
  simp only [noteCount, Denomination.ascending, List.foldr_cons, List.foldr_nil, get]
  omega

/-- The three facts that make a plan greedy: of the tens there is nothing to say. -/
theorem IsGreedy.largest_eq (h : plan.IsGreedy available) :
    (plan.hundreds.val = available.hundreds.val ∨
        10 * plan.tens.val + 20 * plan.twenties.val + 50 * plan.fifties.val < 100) ∧
      (plan.fifties.val = available.fifties.val ∨
        10 * plan.tens.val + 20 * plan.twenties.val < 50) ∧
      (plan.twenties.val = available.twenties.val ∨ 10 * plan.tens.val < 20) := by
  have hhundred := h.largest
    (by decide : [.hundred, .fifty, .twenty, .ten] <:+ Denomination.descending)
  have hfifty := h.largest (by decide : [.fifty, .twenty, .ten] <:+ Denomination.descending)
  have htwenty := h.largest (by decide : [.twenty, .ten] <:+ Denomination.descending)
  simp only [worth, List.map_cons, List.map_nil, List.sum_cons, List.sum_nil, get,
    Denomination.value] at hhundred hfifty htwenty
  omega

/-- Twenties and tens that are worth `extra` tens more than those of a greedy plan are more notes:
at least one for every two of the extra tens.  The plan may have an odd ten that they exchange, with
one of the extra ones, for a twenty. -/
theorem small_notes_le {tens twenties tens' twenties' held extra : Nat}
    (hgreedy : twenties = held ∨ 10 * tens < 20) (hheld : twenties' ≤ held)
    (hvalue : 20 * twenties' + 10 * tens' = 20 * twenties + 10 * tens + 10 * extra) :
    2 * (twenties + tens) + extra ≤ 2 * (twenties' + tens') + 1 := by
  rcases hgreedy with hall | hodd
  · -- all twenties are used, so every extra ten is one more note
    omega
  · omega

/-- A greedy plan has the fewest notes of all selections from the same notes with its value. -/
theorem IsGreedy.noteCount_le (h : plan.IsGreedy available)
    (ho : other.within available = true) (hv : other.value = plan.value) :
    plan.noteCount ≤ other.noteCount := by
  rw [within_iff] at ho
  have hhundreds : other.hundreds.val ≤ available.hundreds.val := ho .hundred
  have hfifties : other.fifties.val ≤ available.fifties.val := ho .fifty
  have htwenties : other.twenties.val ≤ available.twenties.val := ho .twenty
  obtain ⟨hhundred, hfifty, htwenty⟩ := h.largest_eq
  rw [value_eq, value_eq] at hv
  -- it has no more hundreds, and a fifty more only for a hundred that it lacks
  have hfewer : other.hundreds.val ≤ plan.hundreds.val := by omega
  obtain ⟨lacking, hlacking⟩ := Nat.exists_eq_add_of_le hfewer
  have hroom : other.fifties.val ≤ plan.fifties.val + 2 * lacking := by omega
  -- what it lacks in these it has in twenties and tens
  have hsmall : 2 * (plan.twenties.val + plan.tens.val) +
      (10 * lacking + 5 * plan.fifties.val - 5 * other.fifties.val) ≤
        2 * (other.twenties.val + other.tens.val) + 1 :=
    small_notes_le htwenty htwenties (by omega)
  rw [noteCount_eq, noteCount_eq]
  omega

end Notes

/-! ### The greedy dispenser -/

namespace Dispenser

/-- A plan of the greedy dispenser is worth the amount, lists only notes that are held, and as many
of them, and no other selection of the notes that are held is worth the amount with fewer notes. -/
theorem allocate_fewest {amount : Decimal} {available plan : Notes}
    (h : allocate amount available = some plan) :
    plan.total.value = amount.value ∧
      (∀ e ∈ plan.entries, 0 < e.2.val ∧ e.2.val ≤ (available.get e.1).val) ∧
      ∀ other : Notes, other.within available = true → other.total.value = amount.value →
        plan.noteCount ≤ other.noteCount := by
  obtain ⟨hgreedy, hvalue⟩ := isGreedy_of_allocate h
  refine ⟨by rw [Notes.value_total, hvalue], ?_, ?_⟩
  · intro e he
    obtain ⟨hcount, hne⟩ := Notes.mem_entries_iff.mp he
    have hheld := hgreedy.held e.1
    rw [hcount] at hheld
    exact ⟨Nat.pos_of_ne_zero hne, hheld⟩
  · intro other hother hsame
    refine hgreedy.noteCount_le hother ?_
    rw [Notes.value_total, hvalue] at hsame
    exact_mod_cast hsame

/-- Sixty, written with two fraction digits, out of a fifty, three twenties and a ten: two notes,
where the twenties alone would be three. -/
theorem allocate_fewest_sixty :
    let amount : Decimal := ⟨false, 6000, 2, by decide, by decide⟩
    let available : Notes := ⟨1, ⟨3, by decide⟩, 1, 0⟩
    let plan : Notes := ⟨1, 0, 1, 0⟩
    let twenties : Notes := ⟨0, ⟨3, by decide⟩, 0, 0⟩
    allocate amount available = some plan ∧ plan.total.value = amount.value ∧
      twenties.total.value = amount.value ∧ plan.noteCount ≤ twenties.noteCount := by
  intro amount available plan twenties
  have hplan : allocate amount available = some plan := by decide
  have htwenties : twenties.total.value = amount.value :=
    Decimal.equals_iff_value_eq.mp (by decide)
  obtain ⟨hvalue, _, hfewest⟩ := allocate_fewest hplan
  exact ⟨hplan, hvalue, htwenties, hfewest twenties (by decide) htwenties⟩

end Dispenser

end CashMachine
