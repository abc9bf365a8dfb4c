/-
Daybook.Calendar.Date — real dates and reckoning with them.

Every real date has a number, the count of days from 1 January of the year
0, and every number in the range of the calendar has its date. Adding days
is adding numbers. A `Moment` is a date and a second of that day; moments
are counted in seconds in the same way.
-/
import Daybook.Calendar.Day

namespace Daybook.Calendar

/-- A day of the calendar. -/
structure Date extends Day where
  isReal : toDay.IsReal
deriving Repr

instance : DecidableEq Date := fun a b =>
  if h : a.toDay = b.toDay then
    .isTrue (by cases a; cases b; simp_all)
  else .isFalse fun heq => h (heq ▸ rfl)

/-- The days of the months of a year, January first. -/
def monthLengths (year : Int) : List Nat :=
  (List.range 12).map fun i => daysInMonth year (i + 1)

/-- The number of 1 January of `year`. -/
def yearStart (year : Int) : Int :=
  365 * year + (year + 3) / 4 - (year + 99) / 100 + (year + 399) / 400

/-- The year that the day numbered `n` falls in. The quotient is the right
year or one of its neighbours. -/
def yearOf (n : Int) : Int :=
  let guess := n * 400 / 146097
  if yearStart (guess + 1) ≤ n then guess + 1
  else if n < yearStart guess then guess - 1
  else guess

/-- The month and the day of the month of the day that has `n` days of the
year before it, where `lengths` are the lengths of the months from `month`
on. -/
def monthDayFrom (month : Nat) : List Nat → Nat → Nat × Nat
  | [], n => (month, n + 1)
  | length :: lengths, n =>
    if n < length then (month, n + 1) else monthDayFrom (month + 1) lengths (n - length)

namespace Day

/-- The count of days from 1 January of the year 0. -/
def number (d : Day) : Int :=
  let before : Nat := ((monthLengths d.year).take (d.month - 1)).foldr (· + ·) 0
  yearStart d.year + before + d.day - 1

/-- The day with a given number. -/
def ofNumber (n : Int) : Day :=
  let year := yearOf n
  let (month, day) := monthDayFrom 1 (monthLengths year) (n - yearStart year).toNat
  ⟨year, month, day⟩

/-- The day as a date, when it is one. -/
def toDate? (d : Day) : Option Date :=
  if h : d.IsReal then some ⟨d, h⟩ else none

end Day

namespace Date

/-- The date with these numbers, if there is one. -/
def of? (year : Int) (month day : Nat) : Option Date :=
  (Day.mk year month day).toDate?

/-- The date with a given number, if it lies in the calendar. -/
def ofNumber? (n : Int) : Option Date :=
  (Day.ofNumber n).toDate?

/-- The date `n` days later, or earlier when `n` is negative. -/
def addDays? (d : Date) (n : Int) : Option Date :=
  ofNumber? (d.number + n)

/-- The date `n` days later. A step past the end of the calendar is not
taken at all. -/
def advance (d : Date) (n : Nat) : Date :=
  (d.addDays? n).getD d

/-- The day of the week, Sunday being 0. -/
def weekday (d : Date) : Nat :=
  ((d.number + 6) % 7).toNat

end Date

/-- A date and a time of that day, in seconds. -/
structure Moment where
  date : Date
  second : Nat
deriving DecidableEq, Repr

namespace Moment

def daySeconds : Nat := 86400

/-- Seconds from the start of 1 January of the year 0. -/
def seconds (m : Moment) : Int :=
  m.date.number * daySeconds + m.second

/-- The moment so many seconds from the start of 1 January of the year 0,
if it lies in the calendar. -/
def ofSeconds? (s : Int) : Option Moment := do
  let date ← Date.ofNumber? (s / daySeconds)
  return ⟨date, (s % daySeconds).toNat⟩

/-- The moment `s` seconds later, or earlier when `s` is negative. -/
def addSeconds? (m : Moment) (s : Int) : Option Moment :=
  ofSeconds? (m.seconds + s)

/-- The moment `n` days later, at the same time of day. -/
def addDays? (m : Moment) (n : Int) : Option Moment :=
  m.addSeconds? (n * daySeconds)

end Moment

example : (Date.of? 2024 3 7).map (·.weekday) = some 4 := by decide +kernel

example : (Date.of? 2024 2 28).map (·.advance 2 |>.text) = some "2024-03-01" := by decide +kernel

example : Day.ofNumber (Day.number ⟨-1, 12, 31⟩ + 1) = ⟨0, 1, 1⟩ := by decide +kernel

end Daybook.Calendar
