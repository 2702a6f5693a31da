/-
The calendar: years, months and days, and the count of days from the start of
1970 (`Date.dayNumber`).

Years run on both sides of zero, with the same rule for leap years everywhere.

Main statements: `daysBefore_succ` — a year begins as many days after the year
before as that one is long; `daysBefore_yearOf_le`, `lt_daysBefore_yearOf` — a
count of days lies in the year that is found for it.
-/

namespace CashMachine

/-- A day of the calendar. -/
structure Date where
  year : Int
  month : Nat
  day : Nat
deriving DecidableEq, Repr

namespace Date

/-- Every fourth year is a leap year, except three of four full centuries. -/
def isLeap (year : Int) : Bool :=
  year % 4 = 0 && (year % 100 ≠ 0 || year % 400 = 0)

def yearLength (year : Int) : Int :=
  if isLeap year then 366 else 365

def monthLengths (year : Int) : List Nat :=
  [31, if isLeap year then 29 else 28, 31, 30, 31, 30, 31, 31, 30, 31, 30, 31]

/-- The number of days from the start of 1970 to the start of a year. -/
def daysBefore (year : Int) : Int :=
  365 * year + (year - 1) / 4 - (year - 1) / 100 + (year - 1) / 400 - 719527

theorem daysBefore_succ (year : Int) :
    daysBefore (year + 1) = daysBefore year + yearLength year := by
  unfold daysBefore yearLength isLeap
  by_cases h4 : year % 4 = 0
  · by_cases h100 : year % 100 = 0
    · by_cases h400 : year % 400 = 0
      · simp [h4, h400]
        omega
      · simp [h4, h100, h400]
        omega
    · simp [h4, h100]
      omega
  · simp [h4]
    omega

def isValid (d : Date) : Bool :=
  1 ≤ d.month && 1 ≤ d.day && d.day ≤ ((monthLengths d.year)[d.month - 1]?).getD 0

/-- The number of days from the start of 1970. -/
def dayNumber (d : Date) : Int :=
  daysBefore d.year + (((monthLengths d.year).take (d.month - 1)).foldr (· + ·) 0 : Nat) + d.day - 1

/-- The year in which a count of days from the start of 1970 ends. -/
def yearOf (days : Int) : Int :=
  let guess := 400 * (days + 719528) / 146097
  if days < daysBefore guess then guess - 1
  else if daysBefore (guess + 1) ≤ days then guess + 1
  else guess

theorem daysBefore_yearOf_le (days : Int) : daysBefore (yearOf days) ≤ days := by
  unfold yearOf
  simp only
  split
  · rename_i h
    unfold daysBefore at *
    omega
  · split
    · assumption
    · rename_i h _
      omega

theorem lt_daysBefore_yearOf (days : Int) : days < daysBefore (yearOf days + 1) := by
  unfold yearOf
  simp only
  split
  · rename_i h
    simpa using h
  · split
    · rename_i h
      unfold daysBefore at *
      omega
    · omega

/-- The month and the day that lie a number of days into a year, given the lengths
of the months that are left. -/
def monthAndDay (month : Nat) : List Nat → Nat → Nat × Nat
  | [], left => (month, left + 1)
  | l :: ls, left => if left < l then (month, left + 1) else monthAndDay (month + 1) ls (left - l)

/-- The day that a count from the start of 1970 leads to. -/
def ofDayNumber (days : Int) : Date :=
  let year := yearOf days
  let (month, day) := monthAndDay 1 (monthLengths year) (days - daysBefore year).toNat
  ⟨year, month, day⟩

end Date

end CashMachine
