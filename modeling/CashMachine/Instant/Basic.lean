/-
Instants: seconds from the start of 1970 in universal time, and nanoseconds.

The nanoseconds go up to two thousand million: those of an inserted second
follow on those of the second before it, so that the count of seconds has no
place for it (`Instant.ofFields?`).
-/
import CashMachine.Instant.Calendar

namespace CashMachine

/-- A moment in universal time. -/
structure Instant where
  /-- Whole seconds from the start of 1970. -/
  seconds : Int
  nanos : Nat
  nanos_lt : nanos < 2000000000 := by omega
deriving DecidableEq, Repr

namespace Instant

/-- The start of 1970. -/
def epoch : Instant := ⟨0, 0, by decide⟩

instance : Inhabited Instant := ⟨epoch⟩

/-- The start of a second. -/
def ofSeconds (seconds : Int) : Instant := ⟨seconds, 0, by decide⟩

/-- A date and a time of day as they are written, and what the place of writing is
ahead of universal time. -/
structure Fields where
  date : Date
  hour : Nat
  minute : Nat
  /-- Up to sixty: the inserted second. -/
  second : Nat
  nanos : Nat
  /-- The seconds that the local time is ahead. -/
  offset : Int
deriving DecidableEq, Repr

/-- The first and the last year that have instants. -/
def years : Int × Int := (-262143, 262142)

/-- A day that exists, in a year that has instants. -/
def isDay (d : Date) : Bool :=
  d.isValid && years.1 ≤ d.year && d.year ≤ years.2

/-- The date, the time of day and the offset are all in range. -/
def Fields.inRange (f : Fields) : Bool :=
  isDay f.date && f.hour < 24 && f.minute < 60 && f.second ≤ 60 && f.nanos < 1000000000 &&
    f.offset.natAbs < 86400

/-- The seconds of universal time that the fields stand for, the inserted second
counted as the one before it. -/
def Fields.seconds (f : Fields) : Int :=
  f.date.dayNumber * 86400 + f.hour * 3600 + f.minute * 60 + (min f.second 59 : Nat) - f.offset

def dateOf (seconds : Int) : Date :=
  Date.ofDayNumber (seconds / 86400)

def ofFields? (f : Fields) : Option Instant :=
  if h : f.inRange = true ∧ isDay (dateOf f.seconds) = true then
    some ⟨f.seconds, f.nanos + if f.second = 60 then 1000000000 else 0, by
      have := h.1
      simp only [Fields.inRange, Bool.and_eq_true, decide_eq_true_eq] at this
      split <;> omega⟩
  else none

/-- The date in universal time. -/
def date (t : Instant) : Date :=
  dateOf t.seconds

/-- The seconds since midnight, in universal time. -/
def secondOfDay (t : Instant) : Nat :=
  (t.seconds % 86400).toNat

/-- The hour, the minute and the second, sixty for the inserted one. -/
def clock (t : Instant) : Nat × Nat × Nat :=
  let s := t.secondOfDay
  (s / 3600, s / 60 % 60, s % 60 + t.nanos / 1000000000)

/-- The nanoseconds within the second. -/
def fraction (t : Instant) : Nat :=
  t.nanos % 1000000000

end Instant

end CashMachine
