/-
Daybook.Machine.Basic — a machine in memory on which commands are carried out.

It has a file tree, a clock, an environment, and a user who has typed some
input. Three programs are always there; all others are scripts in the tree.
-/
import Daybook.Command.LineReader
import Daybook.Machine.Script
import Daybook.Storage.Tree

namespace Daybook

open Storage (Tree)

structure Machine where
  tree : Tree
  environment : List (String × String)
  now : Calendar.Moment
  /-- The next number that nobody could foresee. -/
  seed : UInt64
  output : String
  complaints : String
  reader : Command.LineReader
  /-- What the user has typed and nobody has read. -/
  typed : List Char
  /-- The user types nothing more. -/
  inputEnded : Bool

namespace Machine

/-! ## Programs -/

/-- What running a program puts out, and its exit code. -/
structure Execution where
  output : String
  complaints : String
  code : Nat
deriving DecidableEq, Repr

def putOut (tree : Tree) (argument : String) : Execution :=
  match tree.read ⟨argument⟩ with
  | .ok text => ⟨text, "", 0⟩
  | .error (.system cause) => ⟨"", "cat: " ++ argument ++ ": " ++ cause.words ++ "\n", 1⟩
  | .error e => ⟨"", "cat: " ++ argument ++ ": " ++ e.message ++ "\n", 1⟩

/-- Runs the program at a path, if there is one. -/
def execute (tree : Tree) (path : Path) (argument : String) : Except StorageError Execution :=
  match path.text with
  | "/bin/cat" => .ok (putOut tree argument)
  | "/bin/true" => .ok ⟨"", "", 0⟩
  | "/bin/false" => .ok ⟨"", "", 1⟩
  | _ =>
    match tree.look path with
    | .error e => .error e
    | .ok (_, .file text true) =>
      let shell := runScript text argument
      .ok ⟨shell.output, "", shell.status⟩
    | .ok _ => .error (.system .accessDenied)

/-- Runs the first program of a row of paths that is one. If there is none,
a path that may not be run is worth more mention than one that is not there. -/
def executeFirst (tree : Tree) (argument : String) :
    List Path → StorageError → Except StorageError Execution
  | [], cause => .error cause
  | path :: more, cause =>
    match execute tree path argument with
    | .ok execution => .ok execution
    | .error (.system .accessDenied) => executeFirst tree argument more (.system .accessDenied)
    | .error _ => executeFirst tree argument more cause

/-- The folders in which programs are looked for. An empty entry is the
folder in which relative paths start. -/
def programFolders (m : Machine) : List Path :=
  match m.environment.lookup "PATH" with
  | none => []
  | some text => (Text.pieces ':' text.toList).map fun folder => ⟨.ofList folder⟩

/-- Runs a program. One that is named without a slash is looked for. -/
def launch (m : Machine) (program argument : String) : Except StorageError Execution :=
  if program.toList.contains '\x00' then .error (.reported "nul byte found in provided data")
  else if program.isEmpty then .error (.system .noSuchEntry)
  else if program.toList.contains '/' then execute m.tree ⟨program⟩ argument
  else executeFirst m.tree argument (m.programFolders.map (·.join program)) (.system .noSuchEntry)

/-! ## Answers -/

/-- The machine after it put something out. -/
def emit (m : Machine) (output complaints : String) : Machine :=
  { m with output := m.output ++ output, complaints := m.complaints ++ complaints }

def answer : (q : Command.Query) → Machine → q.Reply × Machine
  | .storage q, m =>
    let (reply, tree) := Tree.answer q m.tree
    (reply, { m with tree })
  | .print text, m => ((), m.emit text "")
  | .complain text, m => ((), m.emit "" text)
  | .launch program argument, m =>
    match m.launch program argument with
    | .ok execution => (.ok execution.code, m.emit execution.output execution.complaints)
    | .error cause => (.error cause, m)
  | .probe program argument, m =>
    match m.launch program argument with
    | .ok execution => (execution.code == 0, m)
    | .error _ => (false, m)
  | .environment name, m => (m.environment.lookup name, m)
  | .now, m => (m.now, m)
  | .seed, m => (m.seed, { m with seed := m.seed + 1 })
  | .requestLine, m =>
    let (isRead, reader) := m.reader.request
    (isRead, { m with reader })

def perform {α : Type} (m : Machine) (work : Command.Work α) : α × Machine :=
  work.run answer m

end Machine

end Daybook
