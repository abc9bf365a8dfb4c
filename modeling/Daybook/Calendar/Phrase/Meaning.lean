/-
Daybook.Calendar.Phrase.Meaning — the date that a phrase means at a moment.

A phrase is read against the present moment. The answer is the date of the
moment that the phrase names, so a time of day matters only where it moves
the moment into another day, and where it is no time of day at all.
-/
import Daybook.Calendar.Phrase.Basic
import Daybook.Calendar.Date
import Daybook.Calendar.Written
import Daybook.Error

namespace Daybook.Calendar.Phrase

/-- The second of the day that a time names, if there is such a time. -/
def TimePart.second? (t : TimePart) : Option Nat :=
  if t.hour < 24 ∧ t.minute < 60 ∧ t.second < 60 then
    some (t.hour * 3600 + t.minute * 60 + t.second)
  else none

/-- The moment of a date and a time, the start of the day if no time is
given. A distance from universal time is taken off. -/
def momentOn? (date : Date) : Option TimePart → Option Moment
  | none => some ⟨date, 0⟩
  | some time => do
    let second ← time.second?
    (Moment.mk date second).addSeconds? (-time.offset)

/-- The first date at or before the given day of a month, but not before the
28th. -/
def clampedDate? (year : Int) (month : Nat) (day : Nat) : Option Date :=
  match day with
  | 0 => none
  | earlier + 1 =>
    match Date.of? year month (earlier + 1) with
    | some date => some date
    | none => if earlier < 28 then none else clampedDate? year month earlier

/-- The year and month that lie `count` months from those of `day`. Counting
back by whole years names a thirteenth month, which no year has. -/
def monthsFrom (day : Day) (count : Int) : Int × Nat :=
  let k := signed (day.month - 1 + count)
  if 0 ≤ k then (day.year + k / 12, (k % 12).toNat + 1)
  else
    let back := 12 - k
    (day.year - back / 12, 13 - (back % 12).toNat)

/-- The moment that lies a length of time from now. -/
def distantMoment? (now : Moment) (time : Option TimePart) : Span → Option Moment
  | .seconds n => now.addSeconds? n
  | .days n => do
    let moment ← now.addDays? n
    if time.isNone then return moment else momentOn? moment.date time
  | .months n => do
    let (year, month) := monthsFrom now.date.toDay n
    momentOn? (← clampedDate? year month now.date.day) time

/-- A day of this year, or of the year before or after it when the phrase
asks for the last or the next one and this year's lies on the other side of
now. -/
def yearlyDate? (now : Moment) (direction : Option Direction) (month day : Nat) : Option Date := do
  let date ← Date.of? now.date.year month day
  let start := (Moment.mk date 0).seconds
  if now.seconds < start ∧ direction = some .last then Date.of? (now.date.year - 1) month day
  else if start < now.seconds ∧ direction = some .next then Date.of? (now.date.year + 1) month day
  else return date

/-- The day of the week after now, or the last one before now. On the same
day of the week the time of day decides. -/
def weeklyDate? (now : Moment) (direction : Option Direction) (weekday : Nat)
    (time : Option TimePart) : Option Date :=
  let days : Int := weekday - now.date.weekday
  let given : Nat := match time with
    | none => 0
    | some t => t.hour * 3600 + t.minute * 60 + t.second
  let isLater := 0 < days ∨ (days = 0 ∧ now.second < given)
  let isEarlier := days < 0 ∨ (days = 0 ∧ given < now.second)
  let weeks : Int :=
    if direction = some .last then (if isLater then -7 else 0)
    else (if isEarlier then 7 else 0)
  now.date.addDays? (days + weeks)

/-- The moment that a phrase names. -/
def moment? (now : Moment) (p : Phrase) : Option Moment :=
  match p.date with
  | none => momentOn? now.date p.time
  | some (.absolute year month day) => do momentOn? (← Date.of? year month day) p.time
  | some (.distance span) => distantMoment? now p.time span
  | some (.month direction month) => do momentOn? (← yearlyDate? now direction month 1) p.time
  | some (.monthDay direction month day) => do
    momentOn? (← yearlyDate? now direction month day) p.time
  | some (.weekday direction weekday) => do
    momentOn? (← weeklyDate? now direction weekday p.time) p.time

end Daybook.Calendar.Phrase

namespace Daybook.Calendar

/-- The date that a user means by a text at the moment `now`: a written date,
or else a date phrase. -/
def Date.parse? (now : Moment) (text : String) : Option Date :=
  match Written.date? text with
  | some date => some date
  | none => do
    let phrase ← Phrase.parse? text
    return (← phrase.moment? now).date

/-- The date that a user means, or the complaint about the text as it was typed. -/
def Date.parse (now : Moment) (text : String) : Except JournalError Date :=
  match Date.parse? now text with
  | some date => .ok date
  | none => .error (.invalidDate text)

end Daybook.Calendar
