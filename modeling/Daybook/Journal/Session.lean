/-
Daybook.Journal.Session — what a journal keeps between its calls.

A session answers the questions that a journal has for itself. With a
storage and a host it answers all of them. Showing a note may change anything
in the session, because a host may call the journal again before it shows
the note.
-/
import Daybook.Journal.Work

namespace Daybook.Journal

/-- The state that the calls of a journal share. -/
structure Session where
  selector : Selector
  /-- A run is in flight. -/
  busy : Bool
  activated : Bool
  lastOpened : Option Path
  /-- The warnings given so far, oldest first. -/
  warnings : List Warning

namespace Session

def start (selector : Selector) : Session :=
  ⟨selector, false, false, none, []⟩

def answer : (q : Keep) → Session → q.Reply × Session
  | .enter, s => (!s.busy, { s with busy := true })
  | .leave, s => ((), { s with busy := false })
  | .render rendering, s =>
    let r := rendering s.selector
    (r.outcome, { s with selector := r.state, warnings := s.warnings ++ r.warnings })
  | .markActivated, s => (!s.activated, { s with activated := true })
  | .lastOpened, s => (s.lastOpened, s)
  | .remember path, s => ((), { s with lastOpened := some path })

end Session

/-- A session in surroundings `σ`: the storage, and what the host keeps. -/
structure World (σ : Type) where
  outside : σ
  session : Session

/-- A host that shows notes. -/
abbrev Host (σ : Type) := Path → World σ → Except JournalError Unit × World σ

namespace World

variable {σ : Type}

/-- How the questions of a journal are answered, with a given storage and host. -/
def answer (backend : Storage.Backend σ) (host : Host σ) :
    (q : Query) → World σ → q.Reply × World σ
  | .storage q, w =>
    let (reply, outside) := backend q w.outside
    (reply, { w with outside })
  | .openNote path, w => host path w
  | .keep q, w =>
    let (reply, session) := w.session.answer q
    (reply, { w with session })

def perform {α : Type} (backend : Storage.Backend σ) (host : Host σ) (work : Try α)
    (w : World σ) : Except JournalError α × World σ :=
  work.run.run (answer backend host) w

end World

end Daybook.Journal
