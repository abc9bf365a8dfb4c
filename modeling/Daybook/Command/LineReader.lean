/-
Daybook.Command.LineReader — a reader that works beside the watch.

The reader takes one request at a time and reads one line for it. Lines that
were read wait in a row until the watch takes them. When a line cannot be
read or the input has ended, the reader stops for good, and the watch learns
of it after the lines that were read before.
-/
import Daybook.Command.Watch

namespace Daybook.Command

/-- What the reader is doing. -/
inductive Phase where
  | idle
  | reading
  | stopped
deriving DecidableEq, Repr

/-- A reader, with the requests and lines on their way. -/
structure LineReader where
  /-- The requests that the reader has not taken. -/
  requests : Nat
  phase : Phase
  /-- The events that the watch has not taken. -/
  arrived : List Event
deriving DecidableEq, Repr

namespace LineReader

def start : LineReader := ⟨0, .idle, []⟩

/-- Asks for a line. The reply tells whether the reader is still there. -/
def request (r : LineReader) : Bool × LineReader :=
  if r.phase = .stopped then (false, r) else (true, { r with requests := r.requests + 1 })

/-- The reader takes a request. -/
def take? (r : LineReader) : Option LineReader :=
  if r.phase = .idle ∧ 0 < r.requests then
    some { r with phase := .reading, requests := r.requests - 1 }
  else none

/-- The reader has read a line. -/
def read? (r : LineReader) (text : String) : Option LineReader :=
  if r.phase = .reading then
    some { r with phase := .idle, arrived := r.arrived ++ [.line text] }
  else none

/-- The reader cannot read a line. -/
def fail? (r : LineReader) : Option LineReader :=
  if r.phase = .reading then
    some { r with phase := .stopped, arrived := r.arrived ++ [.unreadable] }
  else none

/-- The reader finds the end of the input. -/
def finish? (r : LineReader) : Option LineReader :=
  if r.phase = .reading then some { r with phase := .stopped } else none

/-- The next event for a watch that listens. -/
def next? (r : LineReader) : Option (Event × LineReader) :=
  match r.arrived with
  | event :: more => some (event, { r with arrived := more })
  | [] => if r.phase = .stopped then some (.ended, r) else none

end LineReader

end Daybook.Command
