/-
Daybook.Main — the program on a real machine.

Only here something happens: the questions of a command are put to the
operating system, and its answers are given back. The lines of the user are
read beside the watch, one for each request. No other program is started
from here, so an editor counts as one that cannot be.
-/
import Daybook.Command.Run
import Std.Time.Zoned

namespace Daybook.Terminal

open Command (Event Watch)

/-! ## Files -/

/-- The cause that the operating system gave for a failure. -/
def causeOf? : IO.Error → Option SystemCause
  | .noFileOrDirectory .. => some .noSuchEntry
  | .permissionDenied .. => some .accessDenied
  | .alreadyExists .. => some .entryExists
  | .inappropriateType _ code _ => some (if code = 21 then .isAFolder else .notAFolder)
  | .invalidArgument _ code _ => if code = 36 then some .nameTooLong else none
  | .unsupportedOperation .. => some .notSupported
  | _ => none

/-- A failure of the operating system as one of a storage. -/
def storageError (e : IO.Error) : StorageError :=
  match causeOf? e with
  | some cause => .system cause
  | none => .reported (toString e)

/-- Does something that the operating system may refuse. -/
def attempt {α : Type} (action : IO α) : BaseIO (Except StorageError α) := do
  match ← action.toBaseIO with
  | .ok a => return .ok a
  | .error e => return .error (storageError e)

def isPresent (text : String) : BaseIO Bool := do
  return (← attempt (IO.FS.realPath ⟨text⟩)) matches .ok _

def read (path : Path) : IO String := do
  match String.fromUTF8? (← IO.FS.readBinFile ⟨path.text⟩) with
  | some text => return text
  | none => throw (.userError "stream did not contain valid UTF-8")

/-- The paths of what is directly in a folder. -/
def list (path : Path) : IO (List Path) := do
  let entries ← (← IO.FS.realPath ⟨path.text⟩).readDir
  return entries.toList.map fun entry => path.join entry.fileName

/-- The most folders inside one another that a path can name. -/
def depthLimit : Nat := 4096

def answerStorage : (q : Storage.Query) → BaseIO q.Reply
  | .isPresent path => isPresent path.text
  | .isFolder path => if path.isEmpty then return false else isPresent (path.text ++ "/.")
  | .read path => attempt (read path)
  | .write path text => attempt (IO.FS.writeFile ⟨path.text⟩ text)
  | .create path text => attempt do
    let file ← IO.FS.Handle.mk ⟨path.text⟩ .writeNew
    file.putStr text
  | .makeFolders path => attempt (IO.FS.createDirAll ⟨path.text⟩)
  | .list path => attempt (list path)
  | .depth => return depthLimit

/-! ## The keyboard -/

/-- A line that is being read. The empty text is the end of the input. -/
abbrev Line := Task (Except IO.Error String)

/-- What has come in when a line was read. -/
def eventOf : Except IO.Error String → Event
  | .ok "" => .ended
  | .ok text => .line text
  | .error _ => .unreadable

def readLine : BaseIO Line :=
  IO.asTask (do (← IO.getStdin).getLine) .dedicated

/-! ## Commands -/

/-- The time on the clock, if it is a day that the calendar has. -/
def now? : IO (Option Calendar.Moment) := do
  let now ← Std.Time.PlainDateTime.now
  let date := Calendar.Date.of? now.date.year.toInt now.date.month.val.toNat now.date.day.val.toNat
  return date.map (⟨·, now.time.toSeconds.val.toNat⟩)

def seed : IO UInt64 := do
  return (← IO.getRandomBytes 8).toList.foldl (fun n byte => n * 256 + byte.toUInt64) 0

def answer (line : IO.Ref (Option Line)) : (q : Command.Query) → IO q.Reply
  | .storage q => answerStorage q
  | .print text => do
    IO.print text
    (← IO.getStdout).flush
  | .complain text => IO.eprint text
  | .launch .. => return .error (.system .notSupported)
  | .probe .. => return false
  | .environment name => IO.getEnv name
  | .now => do
    match ← now? with
    | some now => return now
    | none => throw (.userError "the clock shows no day of the calendar")
  | .seed => seed
  | .requestLine => do
    line.set (some (← readLine))
    return true

def carryOut {α : Type} (line : IO.Ref (Option Line)) : Command.Work α → IO α
  | .done a => return a
  | .ask q next => do carryOut line (next (← answer line q))

/-- The milliseconds between two looks at the keyboard. -/
def pause : UInt32 := 20

/-- A tick that is this many milliseconds late puts off all later ones. -/
def lateness : Nat := 5

/-- Waits for the next event of a watch. The tick is due at `due`; the reply
tells as well when the tick after it is. -/
partial def nextEvent (line : IO.Ref (Option Line)) (period due : Nat) : IO (Event × Nat) := do
  if let some task ← line.get then
    if ← IO.hasFinished task then
      line.set none
      return (eventOf task.get, due)
  let now ← IO.monoMsNow
  if due ≤ now then
    return (.tick, (if due + lateness < now then now else due) + period)
  IO.sleep (min pause (due - now).toUInt32)
  nextEvent line period due

/-- Goes on with a watch until it is over. -/
partial def goOn (line : IO.Ref (Option Line)) (watch : Watch) (due : Nat) : IO Unit := do
  let (event, due) ← nextEvent line (watch.seconds * 1000) due
  if let some watch ← carryOut line (watch.turn event) then
    goOn line watch due

/-- Carries out a command line. The reply is the exit code. -/
def run (words : List String) : IO UInt32 := do
  let line ← IO.mkRef none
  match ← carryOut line (Command.run words) with
  | .ended code => return code.toUInt32
  | .watching watch =>
    goOn line watch ((← IO.monoMsNow) + watch.seconds * 1000)
    return 0

end Daybook.Terminal

def main (words : List String) : IO UInt32 :=
  Daybook.Terminal.run words
