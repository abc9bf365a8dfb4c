/-
Daybook.Journal.Lifecycle — when the journal runs.

A host activates the journal once when it starts, triggers it when the user
asks for today's note, and ticks it on a timer. A tick keeps the notes
present, but it opens the day note only if that is another note than the one
opened last.
-/
import Daybook.Journal.Run

namespace Daybook.Journal

open Calendar (Day)

inductive Tick where
  /-- The day note was another one than the last and was opened. -/
  | opened (report : Report)
  /-- The day note was opened before. -/
  | unchanged (report : Report)
  /-- A run is in flight; nothing was done. -/
  | busy
deriving DecidableEq, Repr

/-- The user asks for today's note. It is opened even if it was before. -/
def trigger (journal : Journal) (today : Day) : Try Run := do
  let run ← journal.createAndOpen today
  if let .completed report := run then
    remember report.note
  return run

/-- The host starts: today's note is made and opened. Later calls do nothing
and give `none`, also if the first one fails. -/
def activate (journal : Journal) (today : Day) : Try (Option Run) := do
  if ← markActivated then return some (← journal.trigger today)
  else return none

/-- The timer fires. -/
def tick (journal : Journal) (today : Day) : Try Tick := do
  match ← journal.ensureFor today with
  | .busy => return .busy
  | .completed report =>
    if (← lastOpened).any fun last => last.same report.note then
      return .unchanged report
    journal.openNote report.note
    remember report.note
    return .opened report

end Daybook.Journal
