/-
Daybook.Calendar.Written — dates written as year, month and day.

The format is `YYYY-MM-DD`, read a little loosely: blanks may stand before
each number, a month or day may have one digit, and a year has up to four
digits unless a sign stands before it. Nothing may follow the day.
-/
import Daybook.Calendar.Date
import Daybook.Text.Blank

namespace Daybook.Calendar.Written

/-- At least one and at most `limit` digits, and what follows them. -/
def digits? (limit : Nat) (cs : List Char) : Option (Nat × List Char) :=
  let found := (cs.take limit).takeWhile Char.isDigit
  if found.isEmpty then none
  else some (Text.valueOfDigits found, cs.drop found.length)

/-- A year: up to four digits, or a sign and any number of digits. -/
def year? (cs : List Char) : Option (Int × List Char) :=
  match Text.dropBlanks cs with
  | '-' :: rest => (digits? rest.length rest).map fun (n, after) => (-n, after)
  | '+' :: rest => (digits? rest.length rest).map fun (n, after) => (n, after)
  | rest => (digits? 4 rest).map fun (n, after) => (n, after)

/-- A hyphen, and then a month or a day of the month. -/
def part? (cs : List Char) : Option (Nat × List Char) :=
  match cs with
  | '-' :: rest => digits? 2 (Text.dropBlanks rest)
  | _ => none

/-- The date that a text writes, if it writes one and nothing else. -/
def date? (text : String) : Option Date := do
  let (year, rest) ← year? text.toList
  let (month, rest) ← part? rest
  let (day, rest) ← part? rest
  if rest.isEmpty then Date.of? year month day else none

end Daybook.Calendar.Written
