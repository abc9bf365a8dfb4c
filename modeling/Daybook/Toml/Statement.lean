/-
Daybook.Toml.Statement — the statements that a file is made of.

A statement is a header or gives a value to a key. One stands on a line,
except that arrays and texts in three quotation marks may hold line breaks.
-/
import Daybook.Toml.DateTime
import Daybook.Toml.Number
import Daybook.Toml.Quoted
import Daybook.Toml.Value

namespace Daybook.Toml

open Text (Reader expect next peek skipAll takeAll takeSome)

/-- A statement. A path names a table inside tables. -/
inductive Statement where
  | assign (path : List String) (value : Value)
  | table (path : List String)
  /-- The header of one of several tables of one name. -/
  | element (path : List String)

/-! ## Between the words -/

/-- The characters without blanks, line breaks and comments at their front.
`inComment` tells whether a comment was begun. -/
def withoutLines (inComment : Bool) : List Char → Option (List Char)
  | [] => some []
  | c :: rest =>
    if c == '\n' then withoutLines false rest
    else if isBreak c rest then withoutLines inComment rest
    else if inComment then if isControl c then none else withoutLines true rest
    else if isBlank c then withoutLines false rest
    else if c == '#' then withoutLines true rest
    else some (c :: rest)

/-- Passes over blanks, line breaks and comments. -/
def skipLines : Reader Unit := fun cs =>
  (withoutLines false cs).map ((), ·)

def skipBlanks : Reader Unit :=
  skipAll isBlank

/-- Passes over what may stand behind a statement. There is a line break
behind it unless the text ends. -/
def lineEnd : Reader Unit := do
  skipBlanks
  match ← peek with
  | none | some '\n' | some '\r' | some '#' => skipLines
  | some _ => failure

/-! ## Keys -/

/-- A character of a key that needs no quotation marks. -/
def isBare (c : Char) : Bool :=
  c.isAlphanum || c == '_' || c == '-'

def key : Reader String := do
  match ← peek with
  | some '"' => Quoting.lineText '"'
  | some '\'' => Quoting.lineText '\''
  | _ => return .ofList (← takeSome isBare)

/-- Takes keys with dots between them. `fuel` is more than their number. -/
def pathWithin : Nat → Reader (List String)
  | 0 => failure
  | fuel + 1 => do
    let first ← key
    skipBlanks
    if (← peek) = some '.' then
      expect '.'
      skipBlanks
      return first :: (← pathWithin fuel)
    else return [first]

def path : Reader (List String) := do
  pathWithin ((← get).length + 1)

/-! ## Values -/

/-- A character of a word that stands for a value. -/
def isWordChar (c : Char) : Bool :=
  c.isAlphanum || c == '_' || c == '-' || c == '+' || c == '.' || c == ':'

def wordValue? (word : List Char) : Option Value :=
  if word = "true".toList then some (.boolean true)
  else if word = "false".toList then some (.boolean false)
  else if takesAll dateTime word then some .dateTime
  else
    match integer? word with
    | some n => some (.integer n)
    | none => if isFraction word then some .fraction else none

/-- Takes a word that stands for a value. A time may follow its date behind
a space. -/
def word : Reader (List Char) := do
  let front ← takeAll isWordChar
  if takesAll date front then
    match ← get with
    | ' ' :: c :: _ =>
      if c.isDigit then
        expect ' '
        return front ++ ' ' :: (← takeAll isWordChar)
      else return front
    | _ => return front
  else return front

/-- Takes the rest of an array behind its opening bracket. -/
def items (value : Reader Value) : Nat → Reader (List Value)
  | 0 => failure
  | fuel + 1 => do
    skipLines
    if (← peek) = some ']' then
      expect ']'
      return []
    let first ← value
    skipLines
    match ← next with
    | ']' => return [first]
    | ',' => return first :: (← items value fuel)
    | _ => failure

/-- Takes a path and the value that it is given. -/
def assignment (value : Reader Value) : Reader (List String × Value) := do
  let keys ← path
  expect '='
  skipBlanks
  return (keys, ← value)

/-- Takes the rest of an inline table that has an entry. -/
def entries (value : Reader Value) : Nat → Reader (List (List String × Value))
  | 0 => failure
  | fuel + 1 => do
    let first ← assignment value
    skipBlanks
    match ← next with
    | '\x7d' => return [first]
    | ',' =>
      skipBlanks
      return first :: (← entries value fuel)
    | _ => failure

/-- Takes an array with such values in it. -/
def arrayOf (value : Reader Value) : Reader Value := do
  expect '['
  return .array (← items value ((← get).length + 1))

/-- Takes an inline table with such values in it. -/
def tableOf (value : Reader Value) : Reader Value := do
  expect '\x7b'
  skipBlanks
  if (← peek) = some '\x7d' then
    expect '\x7d'
    return .table .inline []
  match Table.ofAssignments? (← entries value ((← get).length + 1)) with
  | some t => return .table .inline t
  | none => failure

/-- Takes a value that holds no others. -/
def leaf : Reader Value := do
  match ← peek with
  | some '"' => return .text (← Quoting.text '"')
  | some '\'' => return .text (← Quoting.text '\'')
  | _ =>
    match wordValue? (← word) with
    | some v => return v
    | none => failure

/-- Takes a value with arrays and inline tables in it at most so many deep. -/
def value : Nat → Reader Value
  | 0 => leaf
  | depth + 1 => do
    match ← peek with
    | some '[' => arrayOf (value depth)
    | some '\x7b' => tableOf (value depth)
    | _ => leaf

/-- Arrays and inline tables may be this many deep. -/
def maxDepth : Nat := 80

/-! ## Files -/

def header : Reader Statement := do
  expect '['
  if (← peek) = some '[' then
    expect '['
    skipBlanks
    let keys ← path
    expect ']'
    expect ']'
    return .element keys
  else
    skipBlanks
    let keys ← path
    expect ']'
    return .table keys

def statement : Reader Statement := do
  if (← peek) = some '[' then header
  else
    let (keys, v) ← assignment (value maxDepth)
    return .assign keys v

/-- Takes all statements. `fuel` is more than their number. -/
def statementsWithin : Nat → Reader (List Statement)
  | 0 => failure
  | fuel + 1 => do
    skipLines
    if (← peek).isNone then return []
    let first ← statement
    lineEnd
    return first :: (← statementsWithin fuel)

/-- The characters without the mark that some editors put at the front of a
file. -/
def withoutMark : List Char → List Char
  | '\uFEFF' :: rest => rest
  | cs => cs

def statements? (text : String) : Option (List Statement) :=
  let cs := withoutMark text.toList
  ((statementsWithin (cs.length + 1)).run cs).map (·.1)

end Daybook.Toml
