/-
Daybook.Machine.Watch — commands on a machine, with a user at the keyboard.

Time passes only while nothing else can happen: then the clock goes to the
next tick of the watch. The user may wait for a text to be printed, and then
type more and end the input, or break off.
-/
import Daybook.Command.Run
import Daybook.Machine.Basic

namespace Daybook.Machine

open Command (Event LineReader Outcome Watch)

/-- What a user who waits for a text does when it was printed. -/
inductive Reaction where
  | type (text : String)
  | interrupt
deriving DecidableEq, Repr

/-- A user: the text that is waited for, and what is done then. -/
structure Cue where
  text : String
  reaction : Reaction
deriving DecidableEq, Repr

/-- The first line of the input, with its line break if it has one. -/
def firstLine (typed : List Char) : List Char × List Char :=
  match Text.cut? '\n' typed with
  | some (line, rest) => (line ++ ['\n'], rest)
  | none => (typed, [])

/-- The reader reads on, if it was asked to and can. -/
def readOn (m : Machine) : Machine :=
  let reader := (m.reader.take?).getD m.reader
  if reader.phase ≠ .reading then m
  else if m.typed.contains '\n' || (m.inputEnded && !m.typed.isEmpty) then
    let (line, typed) := firstLine m.typed
    { m with typed, reader := (reader.read? (.ofList line)).getD reader }
  else if m.inputEnded then { m with reader := (reader.finish?).getD reader }
  else { m with reader }

/-- What has come in for a watch. -/
def incoming? (m : Machine) (watch : Watch) : Option (Event × Machine) :=
  if watch.input.isOpen then
    (m.reader.next?).map fun (event, reader) => (event, { m with reader })
  else none

def hasPrinted (m : Machine) (text : String) : Bool :=
  (m.output.splitOn text).length > 1

def later (m : Machine) (seconds : Nat) : Machine :=
  { m with now := (m.now.addSeconds? seconds).getD m.now }

def nextEvent (m : Machine) (cue : Option Cue) (watch : Watch) :
    Event × Machine × Option Cue :=
  let m := m.readOn
  match m.incoming? watch, cue with
  | some (event, m), cue => (event, m, cue)
  | none, none => (.tick, m.later watch.seconds, none)
  | none, some cue =>
    if !m.hasPrinted cue.text then (.tick, m.later watch.seconds, some cue)
    else
      match cue.reaction with
      | .interrupt => (.interrupt, m, none)
      | .type text =>
        let m := readOn { m with typed := m.typed ++ text.toList, inputEnded := true }
        match m.incoming? watch with
        | some (event, m) => (event, m, none)
        | none => (.tick, m.later watch.seconds, none)

/-- Goes on with a watch for at most so many events. -/
def watchFor (m : Machine) (cue : Option Cue) (watch : Watch) : Nat → Machine
  | 0 => m
  | events + 1 =>
    let (event, m, cue) := m.nextEvent cue watch
    match m.perform (watch.turn event) with
    | (none, m) => m
    | (some watch, m) => watchFor m cue watch events

/-- Carries out a command line. A watch ends after so many events at the
latest. The reply is the exit code. -/
def run (m : Machine) (cue : Option Cue) (words : List String) (events : Nat) : Nat × Machine :=
  match m.perform (Command.run words) with
  | (.ended code, m) => (code, m)
  | (.watching watch, m) => (0, m.watchFor cue watch events)

end Daybook.Machine
