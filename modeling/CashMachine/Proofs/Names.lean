/-
The names in a series of stamps.

They are counted from a seed in steps of an odd number, and there is a power of two of them: so all
names come once before one comes again.  A table with no more rows than there are names is replayed
with distinct names, which is what is asked for where the trail of a replay is spoken of.

* `TransactionId.ofNumber_injective` — different numbers are different names;
* `TransactionId.isWellFormed_ofNumber` — all of them have the form of a name;
* `Stamp.series_injective` — a series has different names at different places;
* `Batch.nodup_stampedRows` — the rows of a table have different names.
-/
import Mathlib.Data.List.Nodup
import Mathlib.Data.Nat.ModEq
import CashMachine.Batch.Replay

namespace CashMachine

namespace TransactionId

/-- The hyphen is at the same place in all names. -/
theorem length_front (n : Nat) : ((hexDigits 12 n).take 8).length = 8 := by
  rw [List.length_take, length_hexDigits]
  rfl

/-- So they are as different as their digits. -/
theorem ofNumber_injective {n m : Nat} (hn : n < count) (hm : m < count)
    (h : ofNumber n = ofNumber m) : n = m := by
  obtain ⟨hfront, hback⟩ := List.append_inj (String.ofList_injective h)
    ((length_front n).trans (length_front m).symm)
  have hdigits : hexDigits 12 n = hexDigits 12 m := by
    rw [← List.take_append_drop 8 (hexDigits 12 n), ← List.take_append_drop 8 (hexDigits 12 m),
      hfront, (List.cons.inj hback).2]
  have hcount : count = Nat.pow 16 12 := by decide
  exact hexDigits_injective (hcount ▸ hn) (hcount ▸ hm) hdigits

theorem isHexDigit_hexDigit {n : Nat} (h : n < 16) :
    isHexDigit (hexDigit n) = true := by
  have hall : ∀ n < 16, isHexDigit (hexDigit n) = true := by decide
  exact hall n h

theorem all_isHexDigit_hexDigits (width n : Nat) : (hexDigits width n).all isHexDigit = true := by
  induction width generalizing n with
  | zero => rfl
  | succ width ih =>
    rw [hexDigits, List.all_append, ih, List.all_cons,
      isHexDigit_hexDigit (Nat.mod_lt _ (by decide))]
    rfl

/-- What stands in front of the hyphen and behind it are the digits. -/
theorem isWellFormed_ofNumber (n : Nat) : isWellFormed (ofNumber n) = true := by
  have hall := all_isHexDigit_hexDigits 12 n
  have hlength := length_hexDigits 12 n
  have hfront := length_front n
  rw [isWellFormed, ofNumber, String.toList_ofList]
  generalize hexDigits 12 n = ds at hall hlength hfront
  have htake : (ds.take 8 ++ '-' :: ds.drop 8).take 8 = ds.take 8 :=
    List.take_left' hfront
  have hdrop : (ds.take 8 ++ '-' :: ds.drop 8).drop 9 = ds.drop 8 := by
    rw [List.append_cons]
    exact List.drop_left' (by rw [List.length_append, hfront]; rfl)
  have hyphen : (ds.take 8 ++ '-' :: ds.drop 8)[8]? = some '-' := by
    rw [List.getElem?_append_right (Nat.le_of_eq hfront), hfront]
    rfl
  simp only [htake, hdrop, hyphen, List.take_append_drop, hall]
  simp [hlength]

end TransactionId

theorem Stamp.series_injective {seed : Nat} {time time' : Instant} {i j : Nat}
    (hi : i < TransactionId.count) (hj : j < TransactionId.count)
    (h : (series seed time i).id = (series seed time' j).id) : i = j := by
  have hpos : 0 < TransactionId.count := by decide
  have hsame : seed + i * 104395301 ≡ seed + j * 104395301 [MOD TransactionId.count] :=
    TransactionId.ofNumber_injective (Nat.mod_lt _ hpos) (Nat.mod_lt _ hpos) h
  -- the step has no factor in common with the number of names
  have hcoprime : Nat.gcd TransactionId.count 104395301 = 1 := by decide +kernel
  have hplaces : i ≡ j [MOD TransactionId.count] :=
    (Nat.ModEq.add_left_cancel' seed hsame).cancel_right_of_coprime hcoprime
  exact hplaces.eq_of_lt_of_lt hi hj

/-- The names do not depend on what is in the rows. -/
theorem Batch.map_stampedRows (stamps : Nat → Stamp) (first : Nat) (bytes : List UInt8) :
    (stampedRows stamps first bytes).map (·.1.id) =
      (List.range (Row.ofTable bytes).length).map fun i => (stamps (first + i)).id := by
  rw [stampedRows]
  generalize Row.ofTable bytes = rows
  exact List.ext_getElem (by simp) (by simp)

theorem Batch.nodup_stampedRows (seed : Nat) (time : Instant) {first : Nat} {bytes : List UInt8}
    (h : first + (Row.ofTable bytes).length ≤ TransactionId.count) :
    ((stampedRows (Stamp.series seed time) first bytes).map (·.1.id)).Nodup := by
  rw [map_stampedRows]
  refine List.Nodup.map_on ?_ List.nodup_range
  intro i hi j hj hnames
  rw [List.mem_range] at hi hj
  have hplaces : first + i = first + j :=
    Stamp.series_injective (by omega) (by omega) hnames
  exact Nat.add_left_cancel hplaces

end CashMachine
