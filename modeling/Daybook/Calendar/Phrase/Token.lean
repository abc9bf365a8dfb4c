/-
Daybook.Calendar.Phrase.Token — the words of a date phrase.

A phrase such as `3 days ago` is read one token at a time, from the
characters that are left. Blanks before a token do not count. There is
always a next token: at the end it is `finish`.
-/
import Daybook.Text.Blank
import Daybook.Text.Letter
import Daybook.Text.Number

namespace Daybook.Calendar.Phrase

inductive Token where
  /-- A row of digits that makes a number below 2^63. -/
  | number (value : Nat)
  /-- A row of digits that makes a larger number. -/
  | tooLarge
  /-- A letter or `_`, and the letters, numbers and `_` after it. -/
  | word (text : String)
  | quotation (text : String)
  | mark (char : Char)
  | finish
deriving DecidableEq, Repr

/-- Numbers from here on are too large for a token. -/
def numberLimit : Nat := UInt64.size / 2

/-- Numbers from here on are too large to count days, months or years. -/
def countLimit : Nat := UInt32.size

def startsWord (c : Char) : Bool :=
  Text.isLetter c || c == '_'

def continuesWord (c : Char) : Bool :=
  Text.isLetter c || Text.isNumber c || c == '_'

/-- The first token of a phrase, and what is left of the phrase after it. -/
def nextToken (phrase : List Char) : Token × List Char :=
  match Text.dropBlanks phrase with
  | [] => (.finish, [])
  | c :: rest =>
    if c.isDigit then
      let value := Text.valueOfDigits (c :: rest.takeWhile Char.isDigit)
      (if value < numberLimit then .number value else .tooLarge, rest.dropWhile Char.isDigit)
    else if startsWord c then
      (.word (.ofList (c :: rest.takeWhile continuesWord)), rest.dropWhile continuesWord)
    else if c == '"' || c == '\'' then
      (.quotation (.ofList (rest.takeWhile (· != c))), (rest.dropWhile (· != c)).drop 1)
    else (.mark c, rest)

/-- A reader of phrases: it takes some of the phrase, or refuses it. -/
abbrev Reader (α : Type) := StateT (List Char) Option α

def token : Reader Token := fun phrase => some (nextToken phrase)

/-- The next character, blanks included. It is not taken. -/
def peek : Reader (Option Char) := fun phrase => some (phrase.head?, phrase)

def skip : Reader Unit := fun phrase => some ((), phrase.drop 1)

/-- Takes a number that can count something. -/
def count : Reader Nat := do
  match ← token with
  | .number n => if n < countLimit then return n else failure
  | _ => failure

def expectMark (c : Char) : Reader Unit := do
  if (← token) = .mark c then return () else failure

example : nextToken "  3 days".toList = (.number 3, " days".toList) := by decide +kernel

end Daybook.Calendar.Phrase
