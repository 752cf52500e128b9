/-!
# Calendar

The proleptic Gregorian calendar, with a year zero and negative years before
it. Days are counted from the first of January of the year zero; a date is a
year together with a day of the year, which is split into month and day by
walking through the lengths of the months.

## Main definitions

* `isLeap`, `monthLengths`: The shape of a year.
* `daysBefore`: The days of the calendar in front of a year.
* `yearOf`: The year that holds a day.
* `Date`, `Date.ofDay`, `Date.toDay?`: Dates and days.

## Theorems

* `daysBefore_succ`: Each year has 365 or 366 days.
* `daysBefore_yearOf_le`, `lt_daysBefore_yearOf_succ`: A day lies in its year.
-/

namespace Rulebook
namespace Calendar

/-- Whether a year has a twenty-ninth of February. -/
def isLeap (year : Int) : Bool :=
  year % 4 = 0 && (year % 100 ≠ 0 || year % 400 = 0)

/-- The days of a year. -/
def yearLength (year : Int) : Nat :=
  if isLeap year then 366 else 365

/-- The days of each month of a year. -/
def monthLengths (year : Int) : List Nat :=
  [31, if isLeap year then 29 else 28, 31, 30, 31, 30, 31, 31, 30, 31, 30, 31]

/-- The days between the start of the year zero and the start of a year. The
    three quotients count the leap years in between. -/
def daysBefore (year : Int) : Int :=
  365 * year + (year + 3) / 4 - (year + 99) / 100 + (year + 399) / 400

/-- The year that holds a day: the mean length of a year leads at most one year
    astray, in either direction. -/
def yearOf (day : Int) : Int :=
  let guess := day * 400 / 146097
  if day < daysBefore guess then guess - 1
  else if daysBefore (guess + 1) ≤ day then guess + 1
  else guess

/-- The days of the months in front of a month, which is counted from zero. -/
def daysOfMonths (lengths : List Nat) (months : Nat) : Nat :=
  (lengths.take months).foldl (· + ·) 0

/-- Splits a day of the year, counted from zero, into the number of whole
    months before it and the day of its month. -/
def splitDay : List Nat → Nat → Nat × Nat
  | [], day => (0, day)
  | length :: rest, day =>
    if day < length then (0, day)
    else
      let (months, d) := splitDay rest (day - length)
      (months + 1, d)

/-- A date: year, month from 1 to 12, day of the month from 1. -/
structure Date where
  year : Int
  month : Nat
  day : Nat
  deriving DecidableEq, Repr

namespace Date

/-- The date of a day. -/
def ofDay (day : Int) : Date :=
  let year := yearOf day
  let (months, d) := splitDay (monthLengths year) (day - daysBefore year).toNat
  ⟨year, months + 1, d + 1⟩

/-- The day of a date; nothing when the month has no such day. -/
def toDay? (date : Date) : Option Int :=
  match (monthLengths date.year)[date.month - 1]? with
  | none => none
  | some length =>
    if 1 ≤ date.month ∧ 1 ≤ date.day ∧ date.day ≤ length then
      some (daysBefore date.year
        + (daysOfMonths (monthLengths date.year) (date.month - 1) + (date.day - 1) : Nat))
    else none

end Date

/-- Each year has 365 days, a leap year one more. -/
theorem daysBefore_succ (year : Int) :
    daysBefore (year + 1) = daysBefore year + yearLength year := by
  unfold daysBefore yearLength isLeap
  by_cases h4 : year % 4 = 0 <;> by_cases h100 : year % 100 = 0 <;>
    by_cases h400 : year % 400 = 0 <;> simp [h4, h100, h400] <;> omega

/-- A day does not lie before its year. -/
theorem daysBefore_yearOf_le (day : Int) : daysBefore (yearOf day) ≤ day := by
  unfold yearOf daysBefore
  simp only
  split
  · omega
  · split <;> omega

/-- A day does not lie behind its year. -/
theorem lt_daysBefore_yearOf_succ (day : Int) : day < daysBefore (yearOf day + 1) := by
  unfold yearOf
  simp only
  split
  · rw [Int.sub_add_cancel]
    assumption
  · unfold daysBefore at *
    split <;> omega

end Calendar
end Rulebook
