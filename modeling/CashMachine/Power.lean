/-
Powers of ten and of two: what a decimal scale and a binary exponent stand for.

Main statements: `tenTo_add` — a sum of exponents is a product of powers; `tenTo_pos` —
no power of ten is zero.
-/

namespace CashMachine

def tenTo (k : Nat) : Nat :=
  Nat.pow 10 k

def twoTo (k : Nat) : Nat :=
  Nat.pow 2 k

@[simp] theorem tenTo_zero : tenTo 0 = 1 := rfl

theorem tenTo_succ (k : Nat) : tenTo (k + 1) = tenTo k * 10 := rfl

theorem tenTo_pos (k : Nat) : 0 < tenTo k :=
  Nat.pow_pos (by decide)

theorem tenTo_add (i j : Nat) : tenTo (i + j) = tenTo i * tenTo j :=
  Nat.pow_add 10 i j

end CashMachine
