/-
Daybook.Toml.Quoted — texts in quotation marks.

A text is quoted by double quotes, and then a backslash starts an escape,
or by single quotes, and then it holds what is written. Either mark may
stand once or three times at each end; only three allow line breaks within.
The closing three are the last three in a row of at most five.
-/
import Daybook.Text.Reader

namespace Daybook.Toml

open Text (Reader hexValue?)

/-- How a text is quoted. -/
structure Quoting where
  /-- The quotation mark: a double or a single quote. -/
  mark : Char
  /-- The mark stands three times, and there may be line breaks in the text. -/
  lines : Bool
deriving DecidableEq, Repr

/-- The character is a control character. The tab is not counted as one. -/
def isControl (c : Char) : Bool :=
  (c.toNat < 0x20 && c != '\t') || c.toNat == 0x7F

/-- A line break starts with this character: it is a line feed, or a
carriage return before one. -/
def isBreak (c : Char) (rest : List Char) : Bool :=
  c == '\n' || (c == '\r' && rest.head? == some '\n')

def isBlank (c : Char) : Bool :=
  c == ' ' || c == '\t'

namespace Quoting

/-- A backslash starts an escape. -/
def escapes (q : Quoting) : Bool :=
  q.mark == '"'

/-- Where the reader of a quoted text is. -/
inductive Mode where
  /-- In the text. -/
  | plain
  /-- Behind a backslash. -/
  | escape
  /-- In the digits of a code point, with so many more to come after the next. -/
  | digits (more value : Nat)
  /-- Behind a backslash and blanks, before the end of the line. -/
  | lineEnd
  /-- Behind a line that ends with a backslash, before more of the text. -/
  | skip
deriving DecidableEq, Repr

/-- What a character does. -/
inductive Step where
  /-- It adds to the text. -/
  | go (mode : Mode) (text : List Char)
  /-- It closes the text. -/
  | close (text rest : List Char)
  | fail
deriving DecidableEq, Repr

/-- The closing marks at the front of the characters, and how many marks
before them belong to the text. -/
def closing? (q : Quoting) (cs : List Char) : Option (List Char × List Char) :=
  let run := (cs.takeWhile (· == q.mark)).length
  if !q.lines then
    if run = 0 then none else some ([], cs.drop 1)
  else if run < 3 then none
  else
    let extra := min (run - 3) 2
    some (List.replicate extra q.mark, cs.drop (extra + 3))

/-- A character that may stand in the text for itself. -/
def allows (q : Quoting) (c : Char) (rest : List Char) : Bool :=
  !isControl c || (q.lines && isBreak c rest)

/-- A character in the text. -/
def plainStep (q : Quoting) (c : Char) (rest : List Char) : Step :=
  match q.closing? (c :: rest) with
  | some (text, rest) => .close text rest
  | none =>
    if q.escapes && c == '\\' then .go .escape []
    else if q.allows c rest then .go .plain [c]
    else .fail

/-- The character that a letter behind a backslash stands for. -/
def escaped? : Char → Option Char
  | 'b' => some '\x08'
  | 't' => some '\t'
  | 'n' => some '\n'
  | 'f' => some '\x0c'
  | 'r' => some '\r'
  | '"' => some '"'
  | '\\' => some '\\'
  | _ => none

/-- A character in what is left of a line behind a backslash. -/
def lineEndStep (c : Char) (rest : List Char) : Step :=
  if c = '\n' then .go .skip []
  else if isBlank c || isBreak c rest then .go .lineEnd []
  else .fail

/-- A character behind a backslash. -/
def escapeStep (q : Quoting) (c : Char) (rest : List Char) : Step :=
  match escaped? c with
  | some d => .go .plain [d]
  | none =>
    if c = 'u' then .go (.digits 3 0) []
    else if c = 'U' then .go (.digits 7 0) []
    else if q.lines then lineEndStep c rest
    else .fail

/-- A digit of a code point. -/
def digitStep (more value : Nat) (c : Char) : Step :=
  match hexValue? c, more with
  | none, _ => .fail
  | some d, more + 1 => .go (.digits more (value * 16 + d)) []
  | some d, 0 =>
    let n := value * 16 + d
    if n.isValidChar then .go .plain [.ofNat n] else .fail

/-- What a character does in each mode. -/
def step (q : Quoting) : Mode → Char → List Char → Step
  | .plain, c, rest => q.plainStep c rest
  | .escape, c, rest => q.escapeStep c rest
  | .digits more value, c, _ => digitStep more value c
  | .lineEnd, c, rest => lineEndStep c rest
  | .skip, c, rest =>
    if isBlank c || isBreak c rest then .go .skip [] else q.plainStep c rest

/-- The text up to its closing marks, and what comes behind them. -/
def body? (q : Quoting) : Mode → List Char → Option (List Char × List Char)
  | _, [] => none
  | mode, c :: rest =>
    match q.step mode c rest with
    | .fail => none
    | .close text after => some (text, after)
    | .go mode text =>
      match q.body? mode rest with
      | some (more, after) => some (text ++ more, after)
      | none => none

/-- The characters without a line break at their front. -/
def withoutBreak : List Char → List Char
  | '\n' :: rest => rest
  | '\r' :: '\n' :: rest => rest
  | cs => cs

/-- Takes a text within one line, from its opening mark on. -/
def lineText (mark : Char) : Reader String := fun cs => do
  let (text, rest) ← (Quoting.mk mark false).body? .plain (cs.drop 1)
  return (.ofList text, rest)

/-- Takes a text, from its opening marks on. A line break right behind three
marks does not belong to the text. -/
def text (mark : Char) : Reader String := fun cs =>
  if [mark, mark, mark].isPrefixOf cs then do
    let (text, rest) ← (Quoting.mk mark true).body? .plain (withoutBreak (cs.drop 3))
    return (.ofList text, rest)
  else lineText mark cs

/-! ## Writing -/

/-- So many marks in a row at most. -/
def maxRun (mark : Char) : List Char → Nat
  | [] => 0
  | c :: rest => max ((c :: rest).takeWhile (· == mark)).length (maxRun mark rest)

/-- The text can be written in this way without an escape, tabs aside. -/
def fits (q : Quoting) (cs : List Char) : Bool :=
  cs.all (fun c => !isControl c || (q.lines && c == '\n')) &&
    (!q.escapes || !cs.contains '\\') && maxRun q.mark cs ≤ (if q.lines then 2 else 0)

/-- The ways that are tried in turn. -/
def preferred : List Quoting :=
  [⟨'"', false⟩, ⟨'\'', false⟩, ⟨'"', true⟩, ⟨'\'', true⟩]

/-- How a text is written: in the first way without escapes, or else in
double quotes, three of them if it has a line break. -/
def choose (cs : List Char) : Quoting :=
  (preferred.find? fun q => q.fits cs).getD ⟨'"', cs.contains '\n'⟩

def hexDigit (n : Nat) : Char :=
  "0123456789ABCDEF".toList.getD n '0'

/-- A character within double quotes. -/
def written (c : Char) : List Char :=
  match c with
  | '\x08' => ['\\', 'b']
  | '\t' => ['\\', 't']
  | '\n' => ['\\', 'n']
  | '\x0c' => ['\\', 'f']
  | '\r' => ['\\', 'r']
  | '\\' => ['\\', '\\']
  | c =>
    if isControl c then ['\\', 'u', '0', '0', hexDigit (c.toNat / 16), hexDigit (c.toNat % 16)]
    else [c]

/-- The text between double quotes, behind `run` double quotes. One quote
has to be escaped if it could close the text: every quote, or every third in
a row when only three would close it. -/
def writtenBody (lines : Bool) : Nat → List Char → List Char
  | _, [] => []
  | run, c :: rest =>
    if c = '"' then
      if lines && run < 2 then c :: writtenBody lines (run + 1) rest
      else '\\' :: c :: writtenBody lines 0 rest
    else if lines && c == '\n' then c :: writtenBody lines 0 rest
    else written c ++ writtenBody lines 0 rest

/-- The quotation marks at either end. -/
def marks (q : Quoting) : List Char :=
  List.replicate (if q.lines then 3 else 1) q.mark

def write (q : Quoting) (cs : List Char) : List Char :=
  q.marks ++ (if q.lines && cs.contains '\n' then ['\n'] else []) ++
    (if q.escapes then writtenBody q.lines 0 cs else cs) ++ q.marks

end Quoting

/-- A text as it is written in a file. -/
def writtenText (text : String) : String :=
  .ofList ((Quoting.choose text.toList).write text.toList)

end Daybook.Toml
