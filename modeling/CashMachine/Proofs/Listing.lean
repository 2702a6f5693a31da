/-
Texts of notes: put together, and written out.

A text of two parts with a separator between them is read part by part: the first error of the two
is the error of the whole, and the counts of the two add up.  A holding is read back from every
text that lists its entries (`Notes.Listing`), whatever their order and however many separators
stand between them and around them.

* `Text.words_append_of_gap` — separators at the start of a text are passed over;
* `Notes.readEntry_spelling` — a face value, a colon and a count are an entry;
* `Notes.readEntries_listing` — a listing is read as the row that it lists;
* `Notes.ofText_composes` — texts of two parts, and the texts that list a holding.
-/
import CashMachine.Notes.Text
import CashMachine.Proofs.Collected
import CashMachine.Proofs.Numeral

namespace CashMachine

namespace Text

variable {sep : Char → Bool}

theorem words_append_of_gap {gap : List Char} (h : ∀ c ∈ gap, sep c = true) (s : List Char) :
    words sep (gap ++ s) = words sep s := by
  induction gap with
  | nil => rfl
  | cons c gap ih =>
    rw [List.forall_mem_cons] at h
    -- the text before the first separator is empty, and has no words
    rw [List.cons_append, ← List.nil_append (c :: (gap ++ s)), words_append_sep sep [] _ h.1,
      ih h.2]
    rfl

theorem words_of_gap {gap : List Char} (h : ∀ c ∈ gap, sep c = true) : words sep gap = [] := by
  rw [← List.append_nil gap, words_append_of_gap h]
  rfl

theorem words_of_no_sep {s : List Char} (hne : s ≠ []) (h : ∀ c ∈ s, sep c = false) :
    words sep s = [s] := by
  rw [words, parts_of_no_sep h]
  simpa using hne

end Text

namespace Notes

open Text

/-- The text spells the entry: a face value, a colon and a count. -/
def Spelling (e : Denomination × Nat32) (s : List Char) : Prop :=
  ∃ face count : List Char, (∃ value : Nat32, value.val = e.1.value ∧ value.Numeral face) ∧
    e.2.Numeral count ∧ s = face ++ ':' :: count

/-- The text holds only separators. -/
def Gap (s : List Char) : Prop :=
  ∀ c ∈ s, isSeparator c = true

instance (s : List Char) : Decidable (Gap s) :=
  decidable_of_iff (s.all isSeparator = true) List.all_eq_true

/-- The text lists the entries in their order, with separators between them and any number of
separators around them. -/
inductive Listing : List (Denomination × Nat32) → List Char → Prop
  | none {gap : List Char} : Gap gap → Listing [] gap
  | last {e : Denomination × Nat32} {gap piece : List Char} :
      Gap gap → Spelling e piece → Listing [e] (gap ++ piece)
  | next {e : Denomination × Nat32} {es : List (Denomination × Nat32)} {gap piece s : List Char}
      {c : Char} : Gap gap → Spelling e piece → isSeparator c = true → Listing es s →
      Listing (e :: es) (gap ++ (piece ++ c :: s))

variable {e : Denomination × Nat32} {es : List (Denomination × Nat32)} {s t : List Char} {c : Char}
  {m n : Notes}

theorem read_eq_map (s : List Char) : read s = (readEntries s).map ofList := by
  rw [read]
  cases readEntries s <;> rfl

theorem read_eq_error_iff {x : UnsupportedDenomination} :
    read s = .error x ↔ readEntries s = .error x := by
  rw [read_eq_map]
  cases readEntries s <;> simp [Except.map]

theorem read_eq_ok_iff : read s = .ok n ↔ ∃ es, readEntries s = .ok es ∧ ofList es = n := by
  rw [read_eq_map]
  cases readEntries s <;> simp [Except.map]

theorem spelling_ne_nil (h : Spelling e s) : s ≠ [] := by
  obtain ⟨face, count, _, _, rfl⟩ := h
  simp

theorem isSeparator_of_mem_spelling (h : Spelling e s) (hc : c ∈ s) :
    isSeparator c = false := by
  have hnumeral : ∀ {a : Nat32} {t : List Char}, a.Numeral t → c ∈ t → isSeparator c = false := by
    intro a t ht hct
    rw [isSeparator, Nat32.isBlank_of_mem_numeral ht hct, Bool.false_or, beq_eq_false_iff_ne]
    rintro rfl
    exact Nat32.not_mem_numeral ht (by decide) (by decide) hct
  obtain ⟨face, count, ⟨value, _, hface⟩, hcount, rfl⟩ := h
  rw [List.mem_append, List.mem_cons] at hc
  rcases hc with hc | rfl | hc
  · exact hnumeral hface hc
  · decide
  · exact hnumeral hcount hc

theorem read_face {d : Denomination} {value : Nat32} (hd : value.val = d.value)
    (h : value.Numeral s) : Denomination.read s = .ok d := by
  rw [Denomination.read, Nat32.trim_numeral h, Nat32.read?_numeral h]
  show Denomination.ofValue value.val = .ok d
  rw [hd, Denomination.ofValue, Denomination.ofValue?_value]

theorem readEntry_spelling (h : Spelling e s) : readEntry s = .ok e := by
  obtain ⟨face, count, ⟨value, hvalue, hface⟩, hcount, rfl⟩ := h
  have hsplit : splitAtFirst ':' (face ++ ':' :: count) = some (face, count) :=
    splitAtFirst_eq_some.mpr ⟨rfl, Nat32.not_mem_numeral hface (by decide) (by decide)⟩
  simp only [readEntry, hsplit, Nat32.trim_numeral hcount, Nat32.read?_numeral hcount,
    read_face hvalue hface]
  rfl

theorem words_spelling (h : Spelling e s) : words isSeparator s = [s] :=
  words_of_no_sep (spelling_ne_nil h) fun _ hc => isSeparator_of_mem_spelling h hc

theorem readEntries_of_gap {gap : List Char} (h : Gap gap) (s : List Char) :
    readEntries (gap ++ s) = readEntries s := by
  rw [readEntries, words_append_of_gap h]
  rfl

theorem readEntries_spelling (h : Spelling e s) : readEntries s = .ok [e] := by
  rw [readEntries, words_spelling h, List.mapM_cons, readEntry_spelling h]
  rfl

theorem readEntries_listing (h : Listing es s) : readEntries s = .ok es := by
  induction h with
  | none hgap =>
    rw [readEntries, words_of_gap hgap]
    rfl
  | last hgap hpiece => rw [readEntries_of_gap hgap, readEntries_spelling hpiece]
  | next hgap hpiece hc _ ih =>
    rw [readEntries_of_gap hgap, readEntries_append_sep _ _ hc, readEntries_spelling hpiece, ih]
    rfl

/-- A listing of the entries of a holding, in any order, is read as the holding. -/
theorem read_listing (hes : es.Perm n.entries) (h : Listing es s) :
    read s = .ok n := by
  rw [read_eq_map, readEntries_listing h, Except.map, ofList_of_perm hes]

/-! ### Texts of two parts -/

theorem read_append_error (hc : isSeparator c = true) {x : UnsupportedDenomination}
    (h : read s = .error x) : read (s ++ c :: t) = .error x := by
  rw [read_append_sep _ _ hc, read_eq_error_iff.mp h]
  rfl

theorem read_append_second_error (hc : isSeparator c = true) {x : UnsupportedDenomination}
    (hs : read s = .ok m) (ht : read t = .error x) : read (s ++ c :: t) = .error x := by
  obtain ⟨es, hes, _⟩ := read_eq_ok_iff.mp hs
  rw [read_append_sep _ _ hc, hes, read_eq_error_iff.mp ht]
  rfl

theorem read_append (hc : isSeparator c = true) (hs : read s = .ok m) (ht : read t = .ok n) :
    ∃ k, read (s ++ c :: t) = .ok k ∧ ∀ d, k.get d = (m.get d).add (n.get d) := by
  obtain ⟨es, hes, rfl⟩ := read_eq_ok_iff.mp hs
  obtain ⟨fs, hfs, rfl⟩ := read_eq_ok_iff.mp ht
  refine ⟨ofList (es ++ fs), ?_, get_ofList_append es fs⟩
  rw [read_append_sep _ _ hc, hes, hfs]
  rfl

theorem toList_append_sep (s t : String) (c : Char) :
    (s ++ c.toString ++ t).toList = s.toList ++ c :: t.toList := by
  simp [String.toList_append]

/-- A text of two parts with a separator between them has the first error of the two, and without
one the counts of both; and every listing of a holding's entries, in any order, is read as the
holding. -/
theorem ofText_composes :
    (∀ (s t : String) (c : Char), isSeparator c = true →
      (∀ x, ofText s = .error x → ofText (s ++ c.toString ++ t) = .error x) ∧
      (∀ m x, ofText s = .ok m → ofText t = .error x →
        ofText (s ++ c.toString ++ t) = .error x) ∧
      (∀ m n, ofText s = .ok m → ofText t = .ok n →
        ∃ k, ofText (s ++ c.toString ++ t) = .ok k ∧
          ∀ d, (k.get d).val = min ((m.get d).val + (n.get d).val) 4294967295)) ∧
    (∀ (n : Notes) (es : List (Denomination × Nat32)) (s : String),
      es.Perm n.entries → Listing es s.toList → ofText s = .ok n) := by
  refine ⟨fun s t c hc => ⟨fun x hs => ?_, fun m x hs ht => ?_, fun m n hs ht => ?_⟩,
    fun n es s hes h => read_listing hes h⟩
  · rw [ofText, toList_append_sep]
    exact read_append_error hc hs
  · rw [ofText, toList_append_sep]
    exact read_append_second_error hc hs ht
  · obtain ⟨k, hk, hget⟩ := read_append hc hs ht
    refine ⟨k, ?_, fun d => ?_⟩
    · rw [ofText, toList_append_sep]
      exact hk
    · rw [hget, Nat32.val_add]

/-- Two texts with a comma between them, and a listing with a zero and a plus sign in it. -/
theorem ofText_composes_fifties :
    ofText ("five" ++ ','.toString ++ "50:1") = .error ⟨"five"⟩ ∧
    ofText ("50:1" ++ ','.toString ++ "five") = .error ⟨"five"⟩ ∧
    (∃ k, ofText ("50:1" ++ ','.toString ++ "50:4294967295") = .ok k ∧
      (k.get .fifty).val = 4294967295) ∧
    ofText ",50:01 , 10:+2" = .ok ⟨2, 0, 1, 0⟩ := by
  have hfifty : ofText "50:1" = .ok ⟨0, 0, 1, 0⟩ := rfl
  have hmany : ofText "50:4294967295" = .ok ⟨0, 0, Nat32.max, 0⟩ := rfl
  have herror : ofText "five" = .error ⟨"five"⟩ := rfl
  have h1 : (1 : Nat32).digits = ['1'] := by
    show digits 1 = ['1']
    rw [digits]
    rfl
  have h2 : (2 : Nat32).digits = ['2'] := by
    show digits 2 = ['2']
    rw [digits]
    rfl
  have h10 : digits 10 = ['1', '0'] := by
    rw [digits, digits]
    rfl
  have h50 : digits 50 = ['5', '0'] := by
    rw [digits, digits]
    rfl
  have hone : Spelling (.fifty, 1) ['5', '0', ':', '0', '1'] :=
    ⟨['5', '0'], ['0', '1'],
      ⟨⟨50, by decide⟩, rfl, by rw [← h50]; exact Nat32.numeral_digits ⟨50, by decide⟩⟩,
      ⟨0, 1, by decide, by rw [h1]; rfl⟩, rfl⟩
  have htwo : Spelling (.ten, 2) ['1', '0', ':', '+', '2'] :=
    ⟨['1', '0'], ['+', '2'],
      ⟨⟨10, by decide⟩, rfl, by rw [← h10]; exact Nat32.numeral_digits ⟨10, by decide⟩⟩,
      ⟨1, 0, by decide, by rw [h2]; rfl⟩, rfl⟩
  have hrest : Listing [(.ten, 2)] ([',', ' '] ++ ['1', '0', ':', '+', '2']) :=
    .last (by decide) htwo
  have hlisting : Listing [(.fifty, 1), (.ten, 2)] ",50:01 , 10:+2".toList :=
    .next (show Gap [','] by decide) hone (show isSeparator ' ' = true by decide) hrest
  obtain ⟨hcomma, hlisted⟩ := ofText_composes
  refine ⟨(hcomma _ _ ',' (by decide)).1 _ herror,
    (hcomma _ _ ',' (by decide)).2.1 _ _ hfifty herror, ?_, hlisted _ _ _ ?_ hlisting⟩
  · obtain ⟨k, hk, hget⟩ := (hcomma _ _ ',' (by decide)).2.2 _ _ hfifty hmany
    exact ⟨k, hk, hget .fifty⟩
  · decide

end Notes

end CashMachine
