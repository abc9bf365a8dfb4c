/-
Daybook.Proofs.Journal.Events — calls made one after another.

An event is a call at a moment, and a moment is what may be different each
time: what the clock shows, how the storage answers, and what comes of
showing a note. The journal and its session go on from event to event. The
host that is spoken of here shows notes and does not call the journal while
it does so.
-/
import Daybook.Journal.Session
import Daybook.Proofs.Journal.Calls

namespace Daybook.Journal

open Calendar (Date)

variable {σ : Type}

/-- What is asked and told while the work of a journal is done in a world. -/
def World.exchanges {α : Type} (backend : Storage.Backend σ) (host : Host σ) (w : World σ)
    (work : Try α) : Past :=
  work.run.log (World.answer backend host) w

/-- The surroundings in which a call is made. -/
structure Moment (σ : Type) where
  /-- What the clock shows. -/
  today : Date
  backend : Storage.Backend σ
  /-- What comes of showing a note. -/
  shows : Path → World σ → Except JournalError Unit

namespace Moment

variable (journal : Journal) (m : Moment σ) (call : Call) (w : World σ)

/-- A host that shows notes and leaves everything as it is. -/
def host : Host σ := fun path w => (m.shows path w, w)

/-- How questions are answered at the moment. -/
abbrev answer : (q : Query) → World σ → q.Reply × World σ := World.answer m.backend m.host

/-- What is asked and told during a call. -/
def log : Past := World.exchanges m.backend m.host w (call.work journal m.today)

/-- What a call gives. -/
def outcome : Except JournalError call.Result :=
  (World.perform m.backend m.host (call.work journal m.today) w).1

/-- What a call leaves. -/
def after : World σ := (World.perform m.backend m.host (call.work journal m.today) w).2

end Moment

/-- A call at a moment. -/
structure Event (σ : Type) extends Moment σ where
  call : Call

namespace Event

variable (journal : Journal) (e : Event σ) (w : World σ)

/-- The date whose notes the call makes, if it makes any. -/
def date : Date := e.call.date e.today

/-- What is asked and told during the event. -/
def log : Past := e.toMoment.log journal e.call w

/-- What the event leaves. -/
def after : World σ := e.toMoment.after journal e.call w

end Event

/-- The world after events, the first one first. -/
def afterAll (journal : Journal) (events : List (Event σ)) (w : World σ) : World σ :=
  events.foldl (fun w e => e.after journal w) w

@[simp] theorem afterAll_nil (journal : Journal) (w : World σ) : afterAll journal [] w = w := rfl

@[simp] theorem afterAll_cons (journal : Journal) (e : Event σ) (events : List (Event σ))
    (w : World σ) :
    afterAll journal (e :: events) w = afterAll journal events (e.after journal w) := rfl

end Daybook.Journal
