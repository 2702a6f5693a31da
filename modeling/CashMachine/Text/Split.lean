/-
Dividing texts at separators.

* `parts` — the pieces between separators, the empty ones included;
* `words` — the pieces that are not empty;
* `splitAtFirst` — the text before and the text after the first occurrence of
  a character.

Main statements: `parts_append_sep` — the parts of two texts with a separator
between them are the parts of the one, then those of the other;
`words_append_sep` — the same for words;
`parts_of_no_sep` — a text without separators is one part;
`splitAtFirst_eq_some` — what is found before and after, and that the
separator does not occur before;
`splitAtFirst_of_notMem` — nothing is found where it does not occur.
-/

namespace CashMachine.Text

/-- The pieces of a text between separators, the empty ones included. -/
def parts (sep : Char → Bool) : List Char → List (List Char)
  | [] => [[]]
  | c :: s =>
    if sep c then
      [] :: parts sep s
    else
      match parts sep s with
      | [] => [[c]]
      | p :: ps => (c :: p) :: ps

/-- The pieces of a text between separators that hold at least one character. -/
def words (sep : Char → Bool) (s : List Char) : List (List Char) :=
  (parts sep s).filter fun p => !p.isEmpty

theorem parts_ne_nil (sep : Char → Bool) (s : List Char) : parts sep s ≠ [] := by
  cases s with
  | nil => simp [parts]
  | cons c s => rw [parts]; split <;> try split
                all_goals simp

theorem parts_append_sep (sep : Char → Bool) (s t : List Char) {c : Char} (h : sep c = true) :
    parts sep (s ++ c :: t) = parts sep s ++ parts sep t := by
  induction s with
  | nil => simp [parts, h]
  | cons d s ih =>
    rw [List.cons_append, parts, parts, ih]
    split
    · rfl
    · cases hp : parts sep s with
      | nil => exact absurd hp (parts_ne_nil sep s)
      | cons p ps => rfl

theorem parts_of_no_sep {sep : Char → Bool} {s : List Char} (h : ∀ c ∈ s, sep c = false) :
    parts sep s = [s] := by
  induction s with
  | nil => rfl
  | cons c s ih =>
    rw [List.forall_mem_cons] at h
    rw [parts, h.1, ih h.2]
    rfl

theorem words_append_sep (sep : Char → Bool) (s t : List Char) {c : Char} (h : sep c = true) :
    words sep (s ++ c :: t) = words sep s ++ words sep t := by
  simp [words, parts_append_sep sep s t h]

/-- The text before and the text after the first `c`, if there is one. -/
def splitAtFirst (c : Char) : List Char → Option (List Char × List Char)
  | [] => none
  | d :: s =>
    if d = c then some ([], s)
    else (splitAtFirst c s).map fun p => (d :: p.1, p.2)

theorem splitAtFirst_eq_some {c : Char} {s a b : List Char} :
    splitAtFirst c s = some (a, b) ↔ s = a ++ c :: b ∧ c ∉ a := by
  induction s generalizing a with
  | nil => simp [splitAtFirst]
  | cons d s ih =>
    rw [splitAtFirst]
    split
    · rename_i hd
      subst hd
      constructor
      · rintro h
        simp only [Option.some.injEq, Prod.mk.injEq] at h
        obtain ⟨rfl, rfl⟩ := h
        simp
      · rintro ⟨h, hn⟩
        cases a with
        | nil => simp_all
        | cons e a => simp_all
    · rename_i hd
      simp only [Option.map_eq_some_iff, Prod.exists, Prod.mk.injEq]
      constructor
      · rintro ⟨a', b', h, rfl, rfl⟩
        obtain ⟨rfl, hn⟩ := ih.1 h
        exact ⟨rfl, by simp [hn, Ne.symm hd]⟩
      · rintro ⟨h, hn⟩
        cases a with
        | nil => simp_all
        | cons e a =>
          simp only [List.cons_append, List.cons.injEq, List.mem_cons, not_or] at h hn
          exact ⟨a, b, ih.2 ⟨h.2, hn.2⟩, by rw [h.1], rfl⟩

theorem splitAtFirst_of_notMem {c : Char} {s : List Char} (h : c ∉ s) :
    splitAtFirst c s = none := by
  cases hsplit : splitAtFirst c s with
  | none => rfl
  | some p =>
    obtain ⟨rfl, _⟩ := splitAtFirst_eq_some.mp hsplit
    exact absurd (List.mem_append_right _ List.mem_cons_self) h

end CashMachine.Text
