/-
Daybook.Journal.Run — one run of the journal.

A run makes sure of the notes of a year, a month and a day, in this order,
so that a day note never comes before the notes above it. The text of a day
note is made only if the note is missing. At most one run is in flight at a
time: a run takes a mark at its start and gives it back however it ends, and
a run that finds the mark taken does nothing at all.
-/
import Daybook.Journal.Body
import Daybook.Journal.Ensure
import Daybook.Journal.Work

namespace Daybook

open Calendar (Day)

/-- A journal: where its notes are and how their texts come about. -/
structure Journal where
  layout : Layout
  library : Library
  builder : BodyBuilder

namespace Journal

structure Report where
  /-- The day that the run was for. -/
  day : Day
  yearNote : Ensured
  monthNote : Ensured
  dayNote : Ensured
  /-- The file of the day note. -/
  note : Path
deriving DecidableEq, Repr

/-- How a call ended that did not fail. -/
inductive Run where
  | completed (report : Report)
  /-- Another run is in flight; nothing was done. -/
  | busy
deriving DecidableEq, Repr

/-- The text of a new day note, as the builder makes it. -/
def dayText (journal : Journal) (day : Day) : Try String := do
  render (← tryOnStorage (journal.builder.prepare journal.layout ⟨day, journal.library⟩))

def ensureDay (journal : Journal) (day : Day) : Try Ensured := do
  let location := journal.layout.locate .day day
  if ← (onStorage (Storage.isPresent location.file)).always then
    return .present
  tryOnStorage (ensureAt location (← journal.dayText day))

def materialize (journal : Journal) (day : Day) : Try Report := do
  let yearNote ← tryOnStorage (ensureAt (journal.layout.locate .year day) Note.yearText)
  let monthNote ← tryOnStorage (ensureAt (journal.layout.locate .month day) (Note.monthText day))
  let dayNote ← journal.ensureDay day
  return ⟨day, yearNote, monthNote, dayNote, (journal.layout.locate .day day).file⟩

/-- Work done as the only run in flight. -/
def alone (work : Try Report) : Try Run := do
  if ← enter then
    let outcome ← work.run.always
    leave.always
    match outcome with
    | .ok report => return .completed report
    | .error e => throw e
  else return .busy

/-- Makes sure of the notes of a day without opening any. -/
def ensureFor (journal : Journal) (day : Day) : Try Run :=
  alone (journal.materialize day)

def openNote (journal : Journal) (path : Path) : Try Unit := do
  match ← (onStorage (findNote journal.layout.root path)).always with
  | some found => showNote found
  | none => throw (.noteNotFound path)

/-- Makes sure of the notes of today and opens the day note. -/
def createAndOpen (journal : Journal) (today : Day) : Try Run :=
  alone do
    let report ← journal.materialize today
    journal.openNote report.note
    return report

end Journal

end Daybook
