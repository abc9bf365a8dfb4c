/-
Daybook.Command.Watch — the command that keeps today's notes present.

A watch goes from event to event: the timer fires, a line of input comes in,
the user breaks off. Lines are asked for one at a time, so that nobody reads
the terminal while the editor runs. As long as a line is awaited a tick does
not start the editor: it announces the new day note, and the next line opens
it.
-/
import Daybook.Command.Today
import Daybook.Journal.Lifecycle

namespace Daybook.Command

/-- What the watch knows of its input. -/
structure Input where
  /-- A line was asked for and has not come in. -/
  waiting : Bool
  /-- There may be more lines. -/
  isOpen : Bool
deriving DecidableEq, Repr

/-- What can happen to a watch. -/
inductive Event where
  | tick
  | line (text : String)
  /-- A line cannot be read, and no other will be. -/
  | unreadable
  | ended
  | interrupt
deriving DecidableEq, Repr

namespace Input

def start : Input := ⟨false, true⟩

/-- A line is to be asked for now. -/
def wants (input : Input) : Bool :=
  !input.waiting && input.isOpen

/-- After a line was asked for. If nobody reads lines there will be none. -/
def asked (input : Input) (isRead : Bool) : Input :=
  if isRead then { input with waiting := true } else { input with isOpen := false }

/-- After an event. -/
def after (input : Input) : Event → Input
  | .line _ => { input with waiting := false }
  | .unreadable | .ended => ⟨false, false⟩
  | .tick | .interrupt => input

end Input

/-- What a line asks of a watch. -/
inductive Order where
  | openToday
  | quit
  | unknown (word : String)
deriving DecidableEq, Repr

def Order.ofLine (line : String) : Order :=
  let word := Text.trim line
  if word ∈ ["", "o", "open"] then .openToday
  else if word ∈ ["q", "quit"] then .quit
  else .unknown word

/-- A watch between two events. -/
structure Watch where
  journal : Journal
  session : Journal.Session
  seconds : Nat
  viewer : Viewer
  input : Input

namespace Watch

/-- How a tick shows a note. -/
def tickViewer (watch : Watch) : Viewer :=
  if watch.input.waiting then .announcing else watch.viewer

def perform {α : Type} (watch : Watch) (viewer : Viewer)
    (work : Calendar.Day → Journal.Try α) : Work (Except JournalError α × Watch) := do
  let today := (← now).date.toDay
  let (result, session) ← Command.perform viewer.host (work today) watch.session
  return (result, { watch with session })

def printRun : Except JournalError Journal.Run → Work Unit
  | .ok (.completed report) => printReport report
  | .ok .busy => print "Busy, try again"
  | .error e => complain ("✗ " ++ e.message)

/-- Opens today's note because the user asks for it. -/
def openToday (watch : Watch) : Work Watch := do
  let (run, watch) ← watch.perform watch.viewer watch.journal.trigger
  printRun run
  return watch

/-- Makes sure of today's notes because the timer fires. -/
def tick (watch : Watch) : Work Watch := do
  let (outcome, watch) ← watch.perform watch.tickViewer watch.journal.tick
  match outcome with
  | .ok (.opened report) => printReport report
  | .ok (.unchanged _) | .ok .busy => return watch
  | .error e => complain ("✗ " ++ e.message)
  return watch

/-- Asks for the next line, unless one is awaited. -/
def request (watch : Watch) : Work Watch := do
  if watch.input.wants then
    return { watch with input := watch.input.asked (← requestLine) }
  else return watch

/-- One event. The reply is `none` when the watch is over. -/
def turn (watch : Watch) (event : Event) : Work (Option Watch) := do
  let watch := { watch with input := watch.input.after event }
  match event with
  | .tick => return some (← watch.tick)
  | .interrupt =>
    print ""
    return none
  | .ended => return some (← watch.request)
  | .unreadable =>
    complain "[WARN] Could not read stdin"
    return some (← watch.request)
  | .line text =>
    match Order.ofLine text with
    | .quit => return none
    | .openToday => return some (← (← watch.openToday).request)
    | .unknown word =>
      print ("Unknown input '" ++ word ++ "'. Enter opens today's note, q quits.")
      return some (← watch.request)

/-- The start of a watch: today's note is opened, and the first line asked for. -/
def activate (watch : Watch) : Work Watch := do
  let (run, watch) ← watch.perform watch.viewer watch.journal.activate
  match run with
  | .ok (some (.completed report)) => printReport report
  | .ok _ => pure ()
  | .error e => complain ("✗ " ++ e.message)
  print ("Watching every " ++ toString watch.seconds ++
    "s. Press Enter to open today's note, q or Ctrl-C to stop.")
  watch.request

/-- A watch with the user's settings, if there is a journal for them. -/
def start (interval : Option UInt64) (noOpen : Bool) (config : Config) :
    Work (Option Watch) := do
  match ← tryOnStorage config.journal with
  | .error e =>
    discard (fail e.message)
    return none
  | .ok journal =>
    let seconds := match interval with
      | some n => max n.toNat 1
      | none => config.tickSeconds
    let watch : Watch :=
      ⟨journal, .start (← freshSelector), seconds, .choose config.editor noOpen, .start⟩
    return some (← watch.activate)

end Watch

end Daybook.Command
