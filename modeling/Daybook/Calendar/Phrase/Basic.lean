/-
Daybook.Calendar.Phrase.Basic — what a date phrase says.

A phrase has a date part and a time part, and either may be missing. The
reader keeps to the order in which people say things: a direction such as
`last` before the name of a day, `ago` after an amount, a time of day at
the end. What comes after a complete phrase is not looked at.
-/
import Daybook.Calendar.Phrase.Token

namespace Daybook.Calendar

namespace Phrase

/-- Which way from now a named day lies. -/
inductive Direction where
  | next
  | last
deriving DecidableEq, Repr

/-- A length of time, counted in seconds, days or months. -/
inductive Span where
  | seconds (count : Int)
  | days (count : Int)
  | months (count : Int)
deriving DecidableEq, Repr

inductive DatePart where
  /-- A day given by its year, month and day. -/
  | absolute (year : Int) (month day : Nat)
  /-- So much time from now. -/
  | distance (span : Span)
  /-- The first day of a month. -/
  | month (direction : Option Direction) (month : Nat)
  | monthDay (direction : Option Direction) (month day : Nat)
  /-- A day of the week, Sunday being 0. -/
  | weekday (direction : Option Direction) (weekday : Nat)
deriving DecidableEq, Repr

/-- A time of day. `offset` is the distance from universal time in seconds. -/
structure TimePart where
  hour : Nat
  minute : Nat
  second : Nat
  offset : Int
deriving DecidableEq, Repr

/-- What reading the date part has already found of the time part. -/
inductive TimeStart where
  | none
  /-- The hour; its separator has not been read. -/
  | hour (hour : Nat)
  /-- The hour and the separator after it. -/
  | hourMark (hour : Nat) (mark : Char)
  | whole (time : TimePart)
deriving DecidableEq, Repr

end Phrase

structure Phrase where
  date : Option Phrase.DatePart
  time : Option Phrase.TimePart
deriving DecidableEq, Repr

namespace Phrase

/-! ## Names -/

/-- A letter in lower case. The capital dotted I becomes an `i` with a dot
above it; other letters outside ASCII start no name and stay as they are. -/
def lowerLetter (c : Char) : List Char :=
  if c = 'İ' then ['i', '\u0307'] else [c.toLower]

def lowerWord (text : String) : List Char :=
  text.toList.flatMap lowerLetter

/-- The place, from 0 on, of the name whose three letters begin the word. -/
def nameIndex? (names : List String) (word : List Char) : Option Nat :=
  names.findIdx? fun name => name.toList == word.take 3

/-- The month that the word begins like, January being 1. -/
def monthNamed? (word : List Char) : Option Nat :=
  (nameIndex? ["jan", "feb", "mar", "apr", "may", "jun", "jul", "aug", "sep", "oct", "nov", "dec"]
    word).map (· + 1)

/-- The day of the week that the word begins like, Sunday being 0. -/
def weekdayNamed? (word : List Char) : Option Nat :=
  nameIndex? ["sun", "mon", "tue", "wed", "thu", "fri", "sat"] word

/-- A number as a signed count of 32 bits, which wraps around. -/
def signed (n : Int) : Int :=
  n.bmod UInt32.size

/-- The unit of time named by one letter. -/
def letterUnit? (n : Int) : Char → Option Span
  | 's' => some (.seconds n)
  | 'm' => some (.seconds (60 * n))
  | 'h' => some (.seconds (3600 * n))
  | 'w' => some (.days (7 * n))
  | 'd' => some (.days n)
  | 'y' => some (.months (signed (12 * n)))
  | _ => none

/-- The unit of time named by three letters. -/
def wordUnit? (n : Int) (letters : List Char) : Option Span :=
  if letters = "sec".toList then some (.seconds n)
  else if letters = "min".toList then some (.seconds (60 * n))
  else if letters = "hou".toList then some (.seconds (3600 * n))
  else if letters = "day".toList then some (.days n)
  else if letters = "wee".toList then some (.days (7 * n))
  else if letters = "mon".toList then some (.months n)
  else if letters = "yea".toList then some (.months (signed (12 * n)))
  else none

/-- `n` times the unit of time that the word names. A word of fewer than
three bytes is known by its first letter. -/
def unitNamed? (n : Int) (word : List Char) : Option Span :=
  if (String.ofList word).utf8ByteSize < 3 then word.head?.bind (letterUnit? n)
  else wordUnit? n (word.take 3)

/-- The same length of time in the other direction. -/
def Span.back : Span → Span
  | .seconds n => .seconds (-n)
  | .days n => .days (-n)
  | .months n => .months (signed (-n))

/-- The hour that `am` or `pm` makes of an hour; `pm` always adds twelve. -/
def halfDayHour? (hour : Nat) (word : String) : Option Nat :=
  if word = "am" then some hour
  else if word = "pm" then some (hour + 12)
  else none

/-! ## The date part -/

/-- The year of a date written with slashes: below 100 it belongs to the
century that ends or begins nearest. -/
def slashYear (n : Nat) : Int :=
  if n < 100 then (if n > 40 then 1900 + n else 2000 + n) else signed n

def afterMonth (direction : Option Direction) (month : Nat) : Reader DatePart := do
  match ← token with
  | .number day =>
    if day < countLimit then
      if (← peek) = some ',' then
        skip
        return .absolute (signed (← count)) month day
      else return .monthDay direction month day
    else failure
  | _ => return .month direction month

/-- After an amount and a unit of time: `ago` turns the direction, a number
is the hour of a time of day, of which 32 bits count, and any other token but
a word is passed over. -/
def afterUnit (negative : Bool) (span : Span) : Reader (DatePart × TimeStart) :=
  if negative then return (.distance span.back, .none)
  else do
    match ← token with
    | .word word => if word = "ago" then return (.distance span.back, .none) else failure
    | .number hour => return (.distance span, .hour (hour % countLimit))
    | _ => return (.distance span, .none)

def afterNumberWord (direction : Option Direction) (negative : Bool) (n : Nat) (word : String) :
    Reader (Option DatePart × TimeStart) := do
  let name := lowerWord word
  if let some month := monthNamed? name then
    match ← token with
    | .number year =>
      if year < countLimit then return (some (.absolute (signed year) month n), .none)
      else return (some (.monthDay direction month n), .none)
    | _ => return (some (.monthDay direction month n), .none)
  else if let some span := unitNamed? (signed n) name then
    let (date, time) ← afterUnit negative span
    return (some date, time)
  else if let some hour := halfDayHour? n (.ofList name) then
    return (none, .whole ⟨hour, 0, 0, 0⟩)
  else failure

def afterNumber (direction : Option Direction) (negative : Bool) (n : Nat) :
    Reader (Option DatePart × TimeStart) := do
  match ← token with
  | .finish => return (some (.absolute (signed n) 1 1), .none)
  | .word word => afterNumberWord direction negative n word
  | .mark '-' =>
    let month ← count
    expectMark '-'
    let day ← count
    return (some (.absolute (signed n) month day), .none)
  | .mark '/' =>
    let day ← count
    if (← peek) = some '/' then
      skip
      return (some (.absolute (slashYear (← count)) n day), .none)
    else return (some (.monthDay direction n day), .none)
  | .mark ':' => return (none, .hourMark n ':')
  | .mark '.' => return (none, .hourMark n '.')
  | _ => failure

/-- The date part from its name or number on. -/
def afterDirection (direction : Option Direction) (negative : Bool) (first : Token) :
    Reader (Option DatePart × TimeStart) := do
  match first with
  | .word word =>
    let name := lowerWord word
    if let some weekday := weekdayNamed? name then
      return (some (.weekday direction weekday), .none)
    else if let some month := monthNamed? name then
      return (some (← afterMonth direction month), .none)
    else failure
  | .number n => if n < countLimit then afterNumber direction negative n else failure
  | _ => failure

/-- The number of days from today to a day with a name of its own. -/
def daysToNamed? (word : String) : Option Int :=
  if word = "now" || word = "today" then some 0
  else if word = "yesterday" then some (-1)
  else if word = "tomorrow" then some 1
  else none

/-- The direction that a word gives. -/
def directionNamed? (word : String) : Option Direction :=
  if word = "next" then some .next
  else if word = "last" then some .last
  else none

/-- The date part of a phrase, and what it holds of the time part. -/
def datePart : Reader (Option DatePart × TimeStart) := do
  let first ← token
  let negative := first == .mark '-'
  let first ← if negative then token else pure first
  match first with
  | .word word =>
    if let some days := daysToNamed? word then return (some (.distance (.days days)), .none)
    else if let some direction := directionNamed? word then
      afterDirection (some direction) negative (← token)
    else afterDirection none negative first
  | _ => afterDirection none negative first

/-! ## The time part -/

/-- After the sign of a distance from universal time: hours and minutes,
with a colon between or as one number. The distance is in seconds. -/
def offsetAfterSign : Reader Nat := do
  let first ← count
  if (← peek) = some ':' then
    skip
    let minutes ← count
    return 60 * (60 * first + minutes) % countLimit
  else return 60 * (60 * (first / 100) + first % 100) % countLimit

/-- After the seconds of a time: a fraction of a second is passed over, and
then may come a distance from universal time or a half of the day. -/
def afterSeconds (hour minute second : Nat) (following : Token) : Reader TimePart := do
  let following ← if following = .mark '.' then
      if (← peek).isNone then failure
      skip
      modify fun phrase => phrase.dropWhile Text.isNumber
      token
    else pure following
  match following with
  | .mark '+' => return ⟨hour, minute, second, ← offsetAfterSign⟩
  | .mark '-' => return ⟨hour, minute, second, -(← offsetAfterSign)⟩
  | .mark _ => failure
  | .word "Z" => return ⟨hour, minute, second, 0⟩
  | .word word =>
    match halfDayHour? hour word with
    | some hour => return ⟨hour, minute, second, 0⟩
    | none => failure
  | _ => return ⟨hour, minute, second, 0⟩

def afterHourMark (hour : Nat) (mark : Char) : Reader TimePart := do
  let minute ← count
  let following ← token
  if mark = '.' then
    match following with
    | .finish => return ⟨hour, minute, 0, 0⟩
    | .word word =>
      match halfDayHour? hour word with
      | some hour => return ⟨hour, minute, 0, 0⟩
      | none => failure
    | _ => failure
  else match following with
    | .mark ':' =>
      let second ← count
      afterSeconds hour minute second (← token)
    | .mark _ => failure
    | following => afterSeconds hour minute 0 following

/-- A separator after the hour, and the rest of the time. -/
def markAfterHour (hour : Nat) : Reader TimePart := do
  match ← token with
  | .mark c => if c = ':' || c = '.' then afterHourMark hour c else failure
  | _ => failure

/-- The time part of a phrase, if it has one. -/
def timePart (start : TimeStart) : Reader (Option TimePart) := do
  match start with
  | .whole time => return some time
  | .hourMark hour mark => return some (← afterHourMark hour mark)
  | .hour hour => return some (← markAfterHour hour)
  | .none =>
    if (← peek) = some 'T' then skip
    match ← token with
    | .finish => return none
    | .number hour =>
      if hour < countLimit then
        match ← token with
        | .mark c => if c = ':' || c = '.' then return some (← afterHourMark hour c) else failure
        | .word word =>
          match halfDayHour? hour word with
          | some hour => return some ⟨hour, 0, 0, 0⟩
          | none => failure
        | _ => failure
      else failure
    | _ => failure

def phrase : Reader Phrase := do
  let (date, start) ← datePart
  return ⟨date, ← timePart start⟩

/-- What a text says as a date phrase; `none` when it is not one. A zero
character ends the phrase. -/
def parse? (text : String) : Option Phrase :=
  (phrase.run (text.toList.takeWhile (· != '\x00'))).map (·.1)

end Phrase

end Daybook.Calendar
