/-
Natural numbers below 2³²: note counts, sheets of paper, the two numbers of a
software version.  Counts that grow past the largest one stay there.

* `Nat32.read?` — an optional `+`, then digits, the value in range;
* `Nat32.digits` — a number as it is written.
-/
import CashMachine.Text.Digits

namespace CashMachine

/-- A natural number below 2³². -/
structure Nat32 where
  val : Nat
  val_le : val ≤ 4294967295 := by omega
deriving DecidableEq, Repr

namespace Nat32

def max : Nat32 := ⟨4294967295, by omega⟩

instance : OfNat Nat32 0 := ⟨⟨0, by omega⟩⟩
instance : OfNat Nat32 1 := ⟨⟨1, by omega⟩⟩
instance : OfNat Nat32 2 := ⟨⟨2, by omega⟩⟩

instance : Inhabited Nat32 := ⟨0⟩

theorem ext {a b : Nat32} (h : a.val = b.val) : a = b := by
  cases a; cases b; cases h; rfl

@[simp] theorem val_zero : (0 : Nat32).val = 0 := rfl

/-- The number if it is in range. -/
def ofNat? (n : Nat) : Option Nat32 :=
  if h : n ≤ 4294967295 then some ⟨n, h⟩ else none

/-- The number, or the largest of the type if it is beyond it. -/
def capped (n : Nat) : Nat32 :=
  ⟨min n 4294967295, by omega⟩

/-- The number, or the nearest end of the range. -/
def clamp (n : Int) : Nat32 :=
  capped n.toNat

/-- The smaller of a number of the type and any other. -/
def atMost (a : Nat32) (n : Nat) : Nat32 :=
  ⟨min a.val n, by have := a.val_le; omega⟩

/-- The sum, or the largest number of the type if it is beyond it. -/
def add (a b : Nat32) : Nat32 :=
  capped (a.val + b.val)

/-- The difference, or zero. -/
def sub (a b : Nat32) : Nat32 :=
  ⟨a.val - b.val, by have := a.val_le; omega⟩

@[simp] theorem val_capped (n : Nat) : (capped n).val = min n 4294967295 := rfl

theorem val_capped_of_le {n : Nat} (h : n ≤ max.val) : (capped n).val = n :=
  Nat.min_eq_left h

@[simp] theorem val_atMost (a : Nat32) (n : Nat) : (a.atMost n).val = min a.val n := rfl

@[simp] theorem val_add (a b : Nat32) : (a.add b).val = min (a.val + b.val) 4294967295 := rfl

@[simp] theorem val_sub (a b : Nat32) : (a.sub b).val = a.val - b.val := rfl

@[simp] theorem capped_val (a : Nat32) : capped a.val = a :=
  ext (Nat.min_eq_left a.val_le)

theorem ofNat?_val (a : Nat32) : ofNat? a.val = some a := by
  simp [ofNat?, a.val_le]

/-- Reads an optional `+`, then digits. -/
def read? : List Char → Option Nat32
  | '+' :: s => Text.natOfDigits? s >>= ofNat?
  | s => Text.natOfDigits? s >>= ofNat?

def digits (a : Nat32) : List Char :=
  Text.digits a.val

def text (a : Nat32) : String :=
  Text.ofNat a.val

end Nat32

end CashMachine
