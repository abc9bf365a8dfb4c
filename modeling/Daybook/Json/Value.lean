/-
Daybook.Json.Value — JSON texts.

Objects keep all of their members, in order and with repetitions, since it
is for the reader of a value to say what a repeated key means. A string may
hold half of a surrogate pair, which stands for no character; such a string
has no text, and only a reader that needs the text finds fault with it.
-/
import Daybook.Text.Reader

namespace Daybook.Json

open Text (Reader expect expectAll hexValue? next peek skipAll takeSome)

/-- A JSON value. Nothing here depends on which number a number is. -/
inductive Value where
  | null
  | bool (value : Bool)
  | number
  | string (text : Option String)
  | array (items : List Value)
  | object (members : List (Option String × Value))

/-! ## Characters -/

/-- The characters that may stand between values. -/
def isSpace (c : Char) : Bool :=
  c == ' ' || c == '\n' || c == '\t' || c == '\r'

def skipSpace : Reader Unit :=
  skipAll isSpace

/-! ## Strings -/

/-- The value of some hexadecimal digits. -/
def hexNumber : Nat → Reader Nat
  | 0 => return 0
  | count + 1 => do
    match hexValue? (← next) with
    | some d => return d * 16 ^ count + (← hexNumber count)
    | none => failure

/-- What a character of a string stands for: a character, or half of a pair. -/
inductive Unit16 where
  | char (c : Char)
  | high (n : Nat)
  | low (n : Nat)

/-- The unit of a given number. -/
def Unit16.of (n : Nat) : Unit16 :=
  if 0xD800 ≤ n ∧ n < 0xDC00 then .high (n - 0xD800)
  else if 0xDC00 ≤ n ∧ n < 0xE000 then .low (n - 0xDC00)
  else .char (.ofNat n)

/-- The unit after a backslash. -/
def escaped : Reader Unit16 := do
  match ← next with
  | '"' => return .char '"'
  | '\\' => return .char '\\'
  | '/' => return .char '/'
  | 'b' => return .char '\x08'
  | 'f' => return .char '\x0c'
  | 'n' => return .char '\n'
  | 'r' => return .char '\r'
  | 't' => return .char '\t'
  | 'u' => return .of (← hexNumber 4)
  | _ => failure

/-- The units of a string up to its closing quote. `fuel` is at least the
number of characters that are left. -/
def unitsWithin : Nat → Reader (List Unit16)
  | 0 => failure
  | fuel + 1 => do
    match ← next with
    | '"' => return []
    | '\\' => return (← escaped) :: (← unitsWithin fuel)
    | c => if c.toNat < 0x20 then failure else return .char c :: (← unitsWithin fuel)

/-- The characters that a row of units stands for, if every half of a pair
has its other half. -/
def charsOf? : List Unit16 → Option (List Char)
  | [] => some []
  | .char c :: more => (charsOf? more).map (c :: ·)
  | .high h :: .low l :: more =>
    (charsOf? more).map (Char.ofNat (0x10000 + h * 0x400 + l) :: ·)
  | .high _ :: _ => none
  | .low _ :: _ => none

/-- The text of a string, from its opening quote on. -/
def string : Reader (Option String) := do
  expect '"'
  let left := (← get).length
  return (charsOf? (← unitsWithin left)).map .ofList

/-! ## Values -/

/-- The digits before the point. A zero that leads them stands alone. -/
def whole : Reader Unit := do
  match ← next with
  | '0' => return ()
  | c => if c.isDigit then skipAll Char.isDigit else failure

def fraction : Reader Unit := do
  if (← peek) = some '.' then
    expect '.'
    discard (takeSome Char.isDigit)

def exponent : Reader Unit := do
  if (← peek) = some 'e' ∨ (← peek) = some 'E' then
    discard next
    if (← peek) = some '+' ∨ (← peek) = some '-' then discard next
    discard (takeSome Char.isDigit)

def number : Reader Unit := do
  if (← peek) = some '-' then expect '-'
  whole
  fraction
  exponent

/-- What stands between two brackets, which may be nothing. What is there is
read with the bracket behind it. -/
def between {α : Type} (opening closing : Char) (parts : Reader (List α)) : Reader (List α) := do
  expect opening
  skipSpace
  if (← peek) = some closing then
    expect closing
    return []
  else parts

/-- What stands behind a part: a comma and more parts, or the closing bracket. -/
def partsFrom {α : Type} (closing : Char) (first : α) (more : Reader (List α)) :
    Reader (List α) := do
  skipSpace
  match ← next with
  | ',' => return first :: (← more)
  | c => if c = closing then return [first] else failure

/-- A value, given readers of the items and the members that may be in it. -/
def valueOf (items : Reader (List Value)) (members : Reader (List (Option String × Value))) :
    Reader Value := do
  match ← peek with
  | some 'n' => expectAll "null".toList; return .null
  | some 't' => expectAll "true".toList; return .bool true
  | some 'f' => expectAll "false".toList; return .bool false
  | some '"' => return .string (← string)
  | some '[' => return .array (← between '[' ']' items)
  | some '\x7b' => return .object (← between '\x7b' '\x7d' members)
  | _ => number; return .number

/-- A key and a value, which is read as given. -/
def member (value : Reader Value) : Reader (Option String × Value) := do
  skipSpace
  let key ← string
  skipSpace
  expect ':'
  return (key, ← value)

mutual

/-- A value. `fuel` is more than the number of values inside one another. -/
def value : Nat → Reader Value
  | 0 => failure
  | fuel + 1 => do
    skipSpace
    valueOf (elements fuel) (members fuel)

def elements : Nat → Reader (List Value)
  | 0 => failure
  | fuel + 1 => do partsFrom ']' (← value fuel) (elements fuel)

def members : Nat → Reader (List (Option String × Value))
  | 0 => failure
  | fuel + 1 => do partsFrom '\x7d' (← member (value fuel)) (members fuel)

end

/-- The value that a whole text holds. -/
def parse? (text : String) : Option Value := do
  let cs := text.toList
  let (found, rest) ← (value (cs.length + 1)).run cs
  if (rest.dropWhile isSpace).isEmpty then return found else none

/-! ## Records -/

/-- The values of a record's fields. A record is an object in which each of
the fields is a member exactly once, whatever else is in it, or else an
array of the fields in order. -/
def Value.fields? (names : List String) : Value → Option (List Value)
  | .object members =>
    if members.any fun m => m.1.isNone then none
    else names.mapM fun name =>
      match members.filter fun m => m.1 == some name with
      | [m] => some m.2
      | _ => none
  | .array items => if items.length = names.length then some items else none
  | _ => none

def Value.text? : Value → Option String
  | .string text => text
  | _ => none

def Value.items? : Value → Option (List Value)
  | .array items => some items
  | _ => none

end Daybook.Json
