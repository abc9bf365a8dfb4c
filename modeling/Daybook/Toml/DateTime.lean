/-
Daybook.Toml.DateTime — dates and times.

A date, a time of day, or both; with both there may be an offset from the
time of Greenwich. The second 60 is a leap second.
-/
import Daybook.Calendar.Day
import Daybook.Text.Number
import Daybook.Text.Reader

namespace Daybook.Toml

open Text (Reader expect next peek skipAll takeSome)

/-- Takes a number of exactly so many digits. -/
def places : Nat → Reader (List Char)
  | 0 => return []
  | n + 1 => do
    let c ← next
    if c.isDigit then return c :: (← places n) else failure

/-- Takes a number of exactly so many digits that lies in a range. -/
def numberWithin (width low high : Nat) : Reader Nat := do
  let n := Text.valueOfDigits (← places width)
  if low ≤ n ∧ n ≤ high then return n else failure

def date : Reader Unit := do
  let year ← numberWithin 4 0 9999
  expect '-'
  let month ← numberWithin 2 1 12
  expect '-'
  discard (numberWithin 2 1 (Calendar.daysInMonth year month))

def time : Reader Unit := do
  discard (numberWithin 2 0 23)
  expect ':'
  discard (numberWithin 2 0 59)
  expect ':'
  discard (numberWithin 2 0 60)
  if (← peek) = some '.' then
    expect '.'
    discard (takeSome Char.isDigit)

/-- Takes an offset from the time of Greenwich, if there is one. -/
def offset : Reader Unit := do
  match ← peek with
  | none => return ()
  | some c =>
    expect c
    if c = 'Z' ∨ c = 'z' then return ()
    else if c = '+' ∨ c = '-' then
      discard (numberWithin 2 0 23)
      expect ':'
      discard (numberWithin 2 0 59)
    else failure

/-- Takes a date, a time, or both with an offset. -/
def dateTime : Reader Unit := do
  if (← get)[2]? = some ':' then time
  else
    date
    match ← peek with
    | none => return ()
    | some c =>
      expect c
      if c = 'T' ∨ c = 't' ∨ c = ' ' then
        time
        offset
      else failure

/-- The reader takes all of the characters. -/
def takesAll (reader : Reader Unit) (cs : List Char) : Bool :=
  match reader.run cs with
  | some ((), []) => true
  | _ => false

end Daybook.Toml
