/-
Texts of versions: how a version is written, and which texts are read as it.

A version is written as its two numbers with a point between them.  It is read from that and from
other texts too: there may be blanks around it, zeros and a plus sign in front of each number, and a
minor number of zero may be missing together with its point (`Version.Spelling`).  Nothing else is
read, each text is read as one version at most, and a version has one text in which it is written.

* `Text.trim_blank_append`, `Text.trim_append_blank`, `Text.exists_trim` — blanks around a text;
* `Version.pieces_eq_iff` — the texts without blanks that have the numbers of a version;
* `Version.read?_eq_some_iff` — all texts that are read as a version;
* `Version.text_round_trip` — writing, reading and order.
-/
import Mathlib.Data.List.TakeWhile
import CashMachine.Proofs.Numeral
import CashMachine.Version

namespace CashMachine

namespace Text

/-- The text holds only blanks. -/
def Blank (s : List Char) : Prop :=
  ∀ c ∈ s, isBlank c = true

instance (s : List Char) : Decidable (Blank s) :=
  decidable_of_iff (s.all isBlank = true) List.all_eq_true

variable {s blanks : List Char}

theorem trimStart_of_blank (h : Blank blanks) : trimStart blanks = [] :=
  List.dropWhile_eq_nil_iff.mpr h

theorem trimStart_blank_append (h : Blank blanks) (s : List Char) :
    trimStart (blanks ++ s) = trimStart s :=
  List.dropWhile_append_of_pos h

theorem trimEnd_append_blank (s : List Char) (h : Blank blanks) :
    trimEnd (s ++ blanks) = trimEnd s := by
  have hreverse : ∀ c ∈ blanks.reverse, isBlank c = true :=
    fun c hc => h c (List.mem_reverse.mp hc)
  rw [trimEnd, List.reverse_append, List.dropWhile_append_of_pos hreverse, trimEnd]

theorem trim_blank_append (h : Blank blanks) (s : List Char) : trim (blanks ++ s) = trim s := by
  rw [trim, trim, trimStart_blank_append h]

theorem trim_append_blank (s : List Char) (h : Blank blanks) : trim (s ++ blanks) = trim s := by
  have hstart : trimStart (s ++ blanks) =
      if (trimStart s).isEmpty then trimStart blanks else trimStart s ++ blanks :=
    List.dropWhile_append
  rw [trim, trim, hstart]
  split
  · -- the text is blank itself, and nothing is left of either
    rename_i hs
    rw [trimStart_of_blank h, List.isEmpty_iff.mp hs]
  · exact trimEnd_append_blank _ h

/-- What is trimmed off a text are blanks. -/
theorem exists_trim (s : List Char) :
    ∃ before after, Blank before ∧ Blank after ∧ s = before ++ trim s ++ after := by
  refine ⟨s.takeWhile isBlank, ((trimStart s).reverse.takeWhile isBlank).reverse, ?_, ?_, ?_⟩
  · exact fun c hc => List.mem_takeWhile_imp hc
  · exact fun c hc => List.mem_takeWhile_imp (List.mem_reverse.mp hc)
  · rw [List.append_assoc, trim, trimEnd, ← List.reverse_append, List.takeWhile_append_dropWhile,
      List.reverse_reverse, trimStart, List.takeWhile_append_dropWhile]

end Text

namespace Version

open Text

/-- The text spells the version: the major number and, behind a point, the minor number, which may
be missing together with the point when it is zero. -/
inductive Spelling (v : Version) : List Char → Prop
  | both {major minor : List Char} : v.major.Numeral major → v.minor.Numeral minor →
      Spelling v (major ++ '.' :: minor)
  | short {major : List Char} : v.minor = 0 → v.major.Numeral major → Spelling v major

variable {v w : Version} {s : List Char}

theorem spelling_chars (v : Version) : v.Spelling v.chars :=
  .both (Nat32.numeral_digits v.major) (Nat32.numeral_digits v.minor)

/-- A point does not stand in a number. -/
theorem point_notMem {a : Nat32} (h : a.Numeral s) : '.' ∉ s :=
  Nat32.not_mem_numeral h (by decide) (by decide)

theorem trim_spelling (h : v.Spelling s) : trim s = s := by
  refine trim_of_not_blank fun c hc => ?_
  cases h with
  | both hmajor hminor =>
    rw [List.mem_append, List.mem_cons] at hc
    rcases hc with hc | rfl | hc
    · exact Nat32.isBlank_of_mem_numeral hmajor hc
    · decide
    · exact Nat32.isBlank_of_mem_numeral hminor hc
  | short _ hmajor => exact Nat32.isBlank_of_mem_numeral hmajor hc

/-- The two pieces of a text are the numbers of a version exactly when the text spells it. -/
theorem pieces_eq_iff :
    v.major.Numeral (pieces s).1 ∧ v.minor.Numeral (pieces s).2 ↔ v.Spelling s := by
  constructor
  · rintro ⟨hmajor, hminor⟩
    rw [pieces] at hmajor hminor
    cases hsplit : splitAtFirst '.' s with
    | some p =>
      rw [hsplit] at hmajor hminor
      obtain ⟨rfl, _⟩ := splitAtFirst_eq_some.mp hsplit
      exact .both hmajor hminor
    | none =>
      rw [hsplit] at hmajor hminor
      -- the minor number is the one that the missing piece stands for
      have hzero : Nat32.read? ['0'] = some 0 := rfl
      have hread := Nat32.read?_numeral hminor
      exact .short (Option.some_inj.mp (hread.symm.trans hzero)) hmajor
  · intro h
    cases h with
    | both hmajor hminor =>
      rw [pieces, splitAtFirst_eq_some.mpr ⟨rfl, point_notMem hmajor⟩]
      exact ⟨hmajor, hminor⟩
    | short hzero hmajor =>
      rw [pieces, splitAtFirst_of_notMem (point_notMem hmajor), hzero]
      exact ⟨hmajor, Nat32.numeral_of_read? rfl⟩

theorem read?_eq_some_iff_trim : read? s = some v ↔ v.Spelling (trim s) := by
  rw [← pieces_eq_iff, ← Nat32.read?_eq_some_iff, ← Nat32.read?_eq_some_iff]
  have hread : read? s = (Nat32.read? (pieces (trim s)).1).bind fun major =>
      (Nat32.read? (pieces (trim s)).2).bind fun minor => some ⟨major, minor⟩ := rfl
  rw [hread, Option.bind_eq_some_iff]
  constructor
  · rintro ⟨major, hmajor, h⟩
    obtain ⟨minor, hminor, h⟩ := Option.bind_eq_some_iff.mp h
    obtain rfl := Option.some_inj.mp h
    exact ⟨hmajor, hminor⟩
  · rintro ⟨hmajor, hminor⟩
    exact ⟨v.major, hmajor, Option.bind_eq_some_iff.mpr ⟨v.minor, hminor, rfl⟩⟩

/-- The texts that are read as a version are its spellings with blanks around them. -/
theorem read?_eq_some_iff : read? s = some v ↔
    ∃ before body after, Blank before ∧ v.Spelling body ∧ Blank after ∧
      s = before ++ body ++ after := by
  rw [read?_eq_some_iff_trim]
  constructor
  · intro h
    obtain ⟨before, after, hbefore, hafter, hs⟩ := exists_trim s
    exact ⟨before, trim s, after, hbefore, h, hafter, hs⟩
  · rintro ⟨before, body, after, hbefore, hbody, hafter, rfl⟩
    rw [trim_append_blank _ hafter, trim_blank_append hbefore, trim_spelling hbody]
    exact hbody

theorem ofText_eq_ok_iff {t : String} : ofText t = .ok v ↔ read? t.toList = some v := by
  rw [ofText]
  cases read? t.toList with
  | none => simp
  | some w => simp

theorem ofText_text (v : Version) : ofText v.text = .ok v := by
  rw [ofText_eq_ok_iff, text, String.toList_ofList, read?_eq_some_iff]
  exact ⟨[], v.chars, [], nofun, v.spelling_chars, nofun, by simp⟩

/-- Different versions are written differently, since each is read back. -/
theorem text_inj : v.text = w.text ↔ v = w := by
  constructor
  · intro h
    have hv := v.ofText_text
    rw [h, w.ofText_text] at hv
    exact (Except.ok.inj hv).symm
  · intro h
    rw [h]

theorem compareTo_eq_iff : v.compareTo w = .eq ↔ v = w := by
  constructor
  · intro h
    have hle : v.compareTo w ≠ .gt := by simp [h]
    have hlt : v.compareTo w ≠ .lt := by simp [h]
    have hle' := le_iff.mp hle
    have hlt' := mt lt_iff.mpr hlt
    have hmajor : v.major = w.major := Nat32.ext (by omega)
    have hminor : v.minor = w.minor := Nat32.ext (by omega)
    calc v = ⟨v.major, v.minor⟩ := rfl
      _ = ⟨w.major, w.minor⟩ := by rw [hmajor, hminor]
      _ = w := rfl
  · rintro rfl
    simp [compareTo]

theorem compareTo_eq_gt_iff : v.compareTo w = .gt ↔ w < v := by
  rw [← not_le_iff]
  exact not_not.symm

/-- The order of the texts is another one: 2.9 is older than 2.10, whose text comes first. -/
theorem exists_lt_and_text_lt : ∃ v w : Version, v < w ∧ w.text < v.text := by
  refine ⟨⟨2, ⟨9, by decide⟩⟩, ⟨2, ⟨10, by decide⟩⟩, by decide, ?_⟩
  have htwo : digits 2 = ['2'] := digits_of_lt (by decide)
  have hnine : digits 9 = ['9'] := digits_of_lt (by decide)
  have hten : digits (10 * 1 + 0) = digits 1 ++ ['0'] := digits_mul_ten_add (by decide) (by decide)
  have hone : digits 1 = ['1'] := digits_of_lt (by decide)
  rw [hone] at hten
  show String.ofList (digits 2 ++ '.' :: digits (10 * 1 + 0)) <
    String.ofList (digits 2 ++ '.' :: digits 9)
  rw [htwo, hnine, hten]
  decide

/-- Writing a version and reading it are inverse.  The text of a version is read as it, whatever
blanks are put around it.  The texts that are read as a version are its spellings with blanks
around them; read from any of them, the version is written in the one text, which is read as it and
in which no other version is written.  Versions are ordered by their numbers, the major one first,
which is not the order of their texts. -/
theorem text_round_trip :
    (∀ (v : Version) (before after : String), Blank before.toList → Blank after.toList →
      ofText (before ++ v.text ++ after) = .ok v) ∧
    (∀ (t : String) (v : Version), ofText t = .ok v ↔
      ∃ before body after, Blank before ∧ v.Spelling body ∧ Blank after ∧
        t.toList = before ++ body ++ after) ∧
    (∀ (t : String) (v : Version), ofText t = .ok v →
      ofText v.text = .ok v ∧
      ∀ (t' : String) (w : Version), ofText t' = .ok w → (w.text = v.text ↔ w = v)) ∧
    (∀ v w : Version,
      (v.compareTo w = .lt ↔ v.major.val < w.major.val ∨
        v.major.val = w.major.val ∧ v.minor.val < w.minor.val) ∧
      (v.compareTo w = .eq ↔ v = w) ∧ (v.compareTo w = .gt ↔ w.compareTo v = .lt)) ∧
    ∃ v w : Version, v < w ∧ w.text < v.text := by
  refine ⟨?_, ?_, ?_, ?_, exists_lt_and_text_lt⟩
  · intro v before after hbefore hafter
    rw [ofText_eq_ok_iff, read?_eq_some_iff]
    refine ⟨before.toList, v.chars, after.toList, hbefore, v.spelling_chars, hafter, ?_⟩
    rw [String.toList_append, String.toList_append, text, String.toList_ofList]
  · intro t v
    rw [ofText_eq_ok_iff, read?_eq_some_iff]
  · intro t v _
    exact ⟨v.ofText_text, fun _ _ _ => text_inj⟩
  · intro v w
    exact ⟨lt_iff, compareTo_eq_iff, compareTo_eq_gt_iff⟩

theorem text_round_trip_padded :
    Blank "\t".toList ∧ Blank "\u3000\n".toList ∧
    ofText ("\t" ++ (⟨2, ⟨10, by decide⟩⟩ : Version).text ++ "\u3000\n") =
      .ok ⟨2, ⟨10, by decide⟩⟩ ∧
    ofText " +02 " = .ok ⟨2, 0⟩ ∧ ofText "2.00" = .ok ⟨2, 0⟩ ∧
    ofText (⟨2, 0⟩ : Version).text = .ok ⟨2, 0⟩ := by
  have hread : ofText " +02 " = .ok ⟨2, 0⟩ := rfl
  have hbefore : Blank "\t".toList := by decide
  have hafter : Blank "\u3000\n".toList := by decide
  obtain ⟨hpadded, _, hback, _⟩ := text_round_trip
  exact ⟨hbefore, hafter, hpadded _ _ _ hbefore hafter, hread, rfl, (hback _ _ hread).1⟩

end Version

end CashMachine
