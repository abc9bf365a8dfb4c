/-
Daybook.Calendar.Day — a day named by three numbers, and the names made of it.

A `Day` is three numbers and nothing more; `Day.IsReal` says that they name
a day of the Gregorian calendar, carried on before its adoption and after
today, in the years that the program can reckon with. The identifiers of
notes are texts made of these numbers. They are defined for every `Day`, so
that no name depends on a proof.
-/
import Daybook.Text.Number

namespace Daybook.Calendar

/-- The English month names, January first. -/
def monthNames : List String :=
  ["January", "February", "March", "April", "May", "June", "July", "August", "September",
    "October", "November", "December"]

/-- A year divisible by 4 has a leap day, unless it is divisible by 100 and
not by 400. -/
def isLeap (year : Int) : Bool :=
  (year % 4 == 0 && year % 100 != 0) || year % 400 == 0

/-- The number of days in a month; none for a number that is not a month. -/
def daysInMonth (year : Int) (month : Nat) : Nat :=
  match month with
  | 2 => if isLeap year then 29 else 28
  | 4 | 6 | 9 | 11 => 30
  | 1 | 3 | 5 | 7 | 8 | 10 | 12 => 31
  | _ => 0

def firstYear : Int := -262143

def lastYear : Int := 262142

/-- Year, month and day of the month, in any combination. -/
structure Day where
  year : Int
  month : Nat
  day : Nat
deriving DecidableEq, Repr

namespace Day

/-- The three numbers name a day of the calendar. -/
def IsReal (d : Day) : Prop :=
  firstYear ≤ d.year ∧ d.year ≤ lastYear ∧ 1 ≤ d.day ∧ d.day ≤ daysInMonth d.year d.month

instance (d : Day) : Decidable d.IsReal := by unfold IsReal; infer_instance

/-- The order of the calendar: by year, then by month, then by day. -/
def isBefore (a b : Day) : Bool :=
  if a.year != b.year then a.year < b.year
  else if a.month != b.month then a.month < b.month
  else a.day < b.day

/-- The English name of the month. A month past December goes round to
January again, and a month 0 counts as January. -/
def monthName (d : Day) : String :=
  monthNames.getD ((d.month - 1) % 12) ""

/-- The identifier of the day note: year in four places, month and day in two. -/
def dayId (d : Day) : String :=
  Text.padded 4 d.year ++ Text.padded 2 d.month ++ Text.padded 2 d.day

/-- The identifier of the month note: the month's name and the year as it is. -/
def monthId (d : Day) : String :=
  d.monthName ++ Text.padded 0 d.year

/-- The identifier of the year note: the year as it is. -/
def yearId (d : Day) : String :=
  Text.padded 0 d.year

/-- The day as people write it: year, month and day with hyphens between. -/
def text (d : Day) : String :=
  Text.padded 4 d.year ++ "-" ++ Text.padded 2 d.month ++ "-" ++ Text.padded 2 d.day

end Day

/-- The days in the order of the calendar, each of them once. -/
def chronological (days : List Day) : List Day :=
  (days.mergeSort fun a b => !b.isBefore a).eraseReps

end Daybook.Calendar
