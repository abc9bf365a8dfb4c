/-
Daybook.Journal.Work — what a journal asks of its surroundings.

A journal needs a storage, a host that shows notes, and a few things to be
kept between its calls: the source of chance, whether a run is in flight,
whether the journal was activated, and which note was opened last. All of
these are questions, so that every single step of a run can be seen and runs
can be nested in one another.
-/
import Daybook.Random.Selector
import Daybook.Rendering
import Daybook.Storage.Query

namespace Daybook.Journal

/-- A question to what a journal keeps between its calls. -/
inductive Keep where
  /-- Take the mark of the run in flight. The reply tells whether it was free. -/
  | enter
  /-- Give the mark back. -/
  | leave
  /-- Put a text together, drawing from the source of chance. -/
  | render (rendering : Selector → Rendering Selector)
  /-- Mark the journal as activated. The reply tells whether it was not so yet. -/
  | markActivated
  /-- Which note was opened last? -/
  | lastOpened
  /-- Keep in mind which note was opened last. -/
  | remember (path : Path)

def Keep.Reply : Keep → Type
  | enter | markActivated => Bool
  | leave | remember _ => Unit
  | render _ => Except JournalError String
  | lastOpened => Option Path

/-- A question of a journal. -/
inductive Query where
  | storage (query : Storage.Query)
  /-- Show a note to the user. -/
  | openNote (path : Path)
  | keep (query : Keep)

def Query.Reply : Query → Type
  | storage query => query.Reply
  | openNote _ => Except JournalError Unit
  | keep query => query.Reply

def interface : Interface := ⟨Query, Query.Reply⟩

abbrev Work (α : Type) := Procedure interface α

abbrev Try (α : Type) := Attempt interface JournalError α

def onStorage {α : Type} (work : Storage.Work α) : Work α :=
  work.relay fun query => .ask (.storage query) .done

def tryOnStorage {α : Type} (work : Storage.Try α) : Try α :=
  ExceptT.mk (onStorage work.run)

def enter : Work Bool := .ask (.keep .enter) .done

def leave : Work Unit := .ask (.keep .leave) .done

def render (rendering : Selector → Rendering Selector) : Try String :=
  ExceptT.mk (.ask (.keep (.render rendering)) .done)

def markActivated : Work Bool := .ask (.keep .markActivated) .done

def lastOpened : Work (Option Path) := .ask (.keep .lastOpened) .done

def remember (path : Path) : Work Unit := .ask (.keep (.remember path)) .done

def showNote (path : Path) : Try Unit := ExceptT.mk (.ask (.openNote path) .done)

end Daybook.Journal
