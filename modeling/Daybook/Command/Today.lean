/-
Daybook.Command.Today — the command that makes today's notes.
-/
import Daybook.Command.Template

namespace Daybook.Command

/-- Says which notes a run made. -/
def printReport (report : Journal.Report) : Work Unit := do
  for (period, done) in
      [("year", report.yearNote), ("month", report.monthNote), ("day", report.dayNote)] do
    if done = .created then
      print ("✓ Created " ++ period ++ " note for " ++ report.day.text)

/-- Makes the notes of a day and shows the day note. -/
def today (typed : Option String) (noOpen : Bool) (config : Config) : Work Bool := do
  match ← chosenDate typed with
  | .error e => fail e.message
  | .ok date =>
    match ← tryOnStorage config.journal with
    | .error e => fail e.message
    | .ok journal =>
      let host := (Viewer.choose config.editor noOpen).host
      let (run, _) ← perform host (journal.createAndOpen date.toDay) (.start (← freshSelector))
      match run with
      | .ok (.completed report) =>
        printReport report
        return true
      | .ok .busy => fail "Another run is in progress"
      | .error e => fail ("Error creating today's note: " ++ e.message)

end Daybook.Command
