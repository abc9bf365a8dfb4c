/-
Daybook.Command.Work — what a command asks of its surroundings.

A command prints, complains, and starts other programs, besides using a
storage and a clock. All of it is asked for, so that a command can be
carried out on a machine in memory as well as on a real one.
-/
import Daybook.Calendar.Date
import Daybook.Journal.Session

namespace Daybook.Command

inductive Query where
  | storage (query : Storage.Query)
  | print (text : String)
  /-- Put a text out where complaints go. -/
  | complain (text : String)
  /-- Run a program on a file while the user watches. The reply is its exit
  code, -1 if it has none. -/
  | launch (program : String) (argument : String)
  /-- Run a program unseen. The reply tells whether it succeeded. -/
  | probe (program : String) (argument : String)
  | environment (name : String)
  | now
  /-- A number that nobody can foresee. -/
  | seed
  /-- Have the next line of input read. The reply tells whether somebody
  reads it. -/
  | requestLine

def Query.Reply : Query → Type
  | storage query => query.Reply
  | print _ | complain _ => Unit
  | launch .. => Except StorageError Int
  | probe .. | requestLine => Bool
  | environment _ => Option String
  | now => Calendar.Moment
  | seed => UInt64

def interface : Interface := ⟨Query, Query.Reply⟩

abbrev Work (α : Type) := Procedure interface α

abbrev Try (α : Type) := Attempt interface JournalError α

def onStorage {α : Type} (work : Storage.Work α) : Work α :=
  work.relay fun query => .ask (.storage query) .done

def tryOnStorage {α : Type} (work : Storage.Try α) : Work (Except JournalError α) :=
  onStorage work.run

def print (line : String) : Work Unit := .ask (.print (line ++ "\n")) .done

def complain (line : String) : Work Unit := .ask (.complain (line ++ "\n")) .done

def launch (program argument : String) : Work (Except StorageError Int) :=
  .ask (.launch program argument) .done

def probe (program argument : String) : Work Bool := .ask (.probe program argument) .done

def fromEnvironment (name : String) : Work (Option String) := .ask (.environment name) .done

def now : Work Calendar.Moment := .ask .now .done

def seed : Work UInt64 := .ask .seed .done

def requestLine : Work Bool := .ask .requestLine .done

/-- Complains of an error, and that is a failure. -/
def fail (line : String) : Work Bool := do
  complain ("✗ " ++ line)
  return false

/-- A source of chance that nobody can foresee. -/
def freshSelector : Work Selector := do
  return .seeded (← seed)

/-- Gives a warning. Further lines of it are set in. -/
def warn (warning : Warning) : Work Unit :=
  complain ("[WARN] " ++ warning.message.replace "\n" "\n    ")

def warnAll (warnings : List Warning) : Work Unit :=
  warnings.forM warn

/-- How a command shows a note. -/
abbrev Host := Path → Work (Except JournalError Unit)

/-- How a command answers the questions of a journal. Warnings are given at
once. -/
def answer (host : Host) :
    (q : Journal.Query) → Journal.Session → Work (q.Reply × Journal.Session)
  | .storage q, s => .ask (.storage q) fun reply => .done (reply, s)
  | .openNote path, s => do return (← host path, s)
  | .keep q, s => do
    let (reply, s) := s.answer q
    warnAll s.warnings
    return (reply, { s with warnings := [] })

def perform {α : Type} (host : Host) (work : Journal.Try α) (s : Journal.Session) :
    Work (Except JournalError α × Journal.Session) :=
  work.run.interpret (answer host) s

end Daybook.Command
