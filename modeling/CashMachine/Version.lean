/-
Software versions: a major and a minor number, `2.10`.

A text of a version may have blanks around it; without a point the minor
number is zero.  Versions are ordered by the major number, then the minor.

Main statements: `le_iff`, `lt_iff` — the order, number by number;
`not_newer_lt_right` — the newer of two versions.
-/
import CashMachine.Text.Blank
import CashMachine.Text.Split
import CashMachine.Text.Quoted
import CashMachine.Nat32

namespace CashMachine

structure Version where
  major : Nat32
  minor : Nat32
deriving DecidableEq, Repr, Inhabited

/-- A text that is no version. -/
structure MalformedVersion where
  text : String
deriving DecidableEq, Repr

def MalformedVersion.message (e : MalformedVersion) : String :=
  "malformed software version: " ++ Text.quoted e.text

namespace Version

open CashMachine.Text

def compareTo (v w : Version) : Ordering :=
  match compare v.major.val w.major.val with
  | .eq => compare v.minor.val w.minor.val
  | o => o

instance : LT Version := ⟨fun v w => v.compareTo w = .lt⟩

instance : LE Version := ⟨fun v w => v.compareTo w ≠ .gt⟩

instance (v w : Version) : Decidable (v < w) :=
  inferInstanceAs (Decidable (v.compareTo w = .lt))

instance (v w : Version) : Decidable (v ≤ w) :=
  inferInstanceAs (Decidable (v.compareTo w ≠ .gt))

def newer (v w : Version) : Version :=
  if v < w then w else v

theorem le_iff {v w : Version} :
    v ≤ w ↔ v.major.val < w.major.val ∨ v.major.val = w.major.val ∧ v.minor.val ≤ w.minor.val := by
  show v.compareTo w ≠ .gt ↔ _
  rcases Nat.lt_trichotomy v.major.val w.major.val with h | h | h
  · simp [compareTo, Nat.compare_eq_lt.2 h, h]
  · simp [compareTo, h, Nat.compare_ne_gt]
  · have h1 : ¬ v.major.val < w.major.val := by omega
    have h2 : ¬ v.major.val = w.major.val := by omega
    simp [compareTo, Nat.compare_eq_gt.2 h, h1, h2]

theorem lt_iff {v w : Version} :
    v < w ↔ v.major.val < w.major.val ∨ v.major.val = w.major.val ∧ v.minor.val < w.minor.val := by
  show v.compareTo w = .lt ↔ _
  rcases Nat.lt_trichotomy v.major.val w.major.val with h | h | h
  · simp [compareTo, Nat.compare_eq_lt.2 h, h]
  · simp [compareTo, h, Nat.compare_eq_lt]
  · have h1 : ¬ v.major.val < w.major.val := by omega
    have h2 : ¬ v.major.val = w.major.val := by omega
    simp [compareTo, Nat.compare_eq_gt.2 h, h1, h2]

theorem le_refl (v : Version) : v ≤ v := by
  rw [le_iff]
  omega

theorem le_trans {u v w : Version} (huv : u ≤ v) (hvw : v ≤ w) : u ≤ w := by
  rw [le_iff] at huv hvw ⊢
  omega

theorem le_of_lt {v w : Version} (h : v < w) : v ≤ w := by
  rw [lt_iff] at h
  rw [le_iff]
  omega

theorem not_le_iff {v w : Version} : ¬ v ≤ w ↔ w < v := by
  rw [le_iff, lt_iff]
  omega

theorem newer_eq_left {v w : Version} (h : ¬ v < w) : v.newer w = v :=
  if_neg h

/-- The newer of two versions is older than neither. -/
theorem not_newer_lt_right (v w : Version) : ¬ v.newer w < w := by
  unfold newer
  split
  · rw [lt_iff]
    omega
  · assumption

theorem not_lt_of_not_le_of_not_lt {u v w : Version} (huv : ¬ u ≤ v) (hvw : ¬ v < w) :
    ¬ u < w := by
  rw [le_iff] at huv
  rw [lt_iff] at hvw ⊢
  omega

/-- The characters of a version: both numbers with a point between them. -/
def chars (v : Version) : List Char :=
  v.major.digits ++ '.' :: v.minor.digits

def text (v : Version) : String :=
  String.ofList v.chars

/-- The two numbers of a version as they stand in a text without blanks around it. -/
def pieces (s : List Char) : List Char × List Char :=
  match splitAtFirst '.' s with
  | some p => p
  | none => (s, ['0'])

def read? (s : List Char) : Option Version := do
  let (major, minor) := pieces (trim s)
  let major ← Nat32.read? major
  let minor ← Nat32.read? minor
  some ⟨major, minor⟩

def ofText (s : String) : Except MalformedVersion Version :=
  match read? s.toList with
  | some v => .ok v
  | none => .error ⟨s⟩

end Version

end CashMachine
