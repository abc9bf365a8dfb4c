/-
Daybook.Proofs.Command.LineProtocol — a watch, its reader, and the terminal
between them.

The watch and the reader of its input work side by side. The watch goes from
event to event, and in a turn it has one question after another answered.
The reader takes requests, reads, and stops when it cannot go on. A `Scene`
is what there is of both at a moment, with tallies of what went between them;
a `Move` is one step of either, with anything that can come from outside: any
readings, any replies, and the timer and the user's break at any time.

`line_protocol` says what holds after any moves: one line is asked for at a
time, what is read is heard in order and none of it is lost, the editor is
never started while a line is awaited, nothing is asked for after the end of
the input, and whenever the timer fires the journal ticks.

Two things are kept from move to move. What is left of a turn conforms to what
the watch knows of its input. And the reader stands in one of seven ways to it
(`Standing`), so each of the reader's steps is looked at once, without the
watch, and each of the watch's without the reader.
-/
import Daybook.Command.LineReader
import Daybook.Proofs.Command.Turns

namespace Daybook.Command

/-! ## A watch and its reader -/

/-- What comes of reading a line. -/
inductive Reading where
  | line (text : String)
  | failed
  | finished
deriving DecidableEq, Repr

/-- What a watch gets to hear of a reading. -/
def Reading.event : Reading → Event
  | line text => .line text
  | failed => .unreadable
  | finished => .ended

/-- The reader after it has read. -/
def LineReader.settle? (reader : LineReader) : Reading → Option LineReader
  | .line text => reader.read? text
  | .failed => reader.fail?
  | .finished => reader.finish?

/-- A request that reaches the reader. One that has stopped may still take
requests for a while, and never comes to them. -/
def LineReader.asked (reader : LineReader) (isLate : Bool) : Bool × LineReader :=
  if reader.phase = .stopped ∧ isLate then (true, { reader with requests := reader.requests + 1 })
  else reader.request

/-- The event came from the input. -/
def Event.isHeard : Event → Bool
  | .line _ | .unreadable | .ended => true
  | .tick | .interrupt => false

/-- A watch and its reader at some moment. -/
structure Scene where
  reader : LineReader
  /-- What the watch has still to do before it listens again. -/
  rest : Work (Option Watch)
  /-- What the watch knows of its input. -/
  input : Input
  /-- How many requests the watch has sent. -/
  sent : Nat
  /-- How many readings the reader has begun. -/
  begun : Nat
  /-- What the readings came to, in this order. -/
  came : List Event
  /-- The events that the watch has turned to. -/
  turned : List Event

/-- What can happen next. -/
inductive Move where
  /-- The reader takes a request and begins to read. -/
  | take
  /-- The reading comes to an end. -/
  | settle (reading : Reading)
  /-- The reader finds that nobody will ask it any more. -/
  | leave
  /-- The watch has its next question answered. -/
  | answer (replies : (q : Query) → q.Reply)
  /-- The watch hears what comes from its input. -/
  | hear
  | tick
  | interrupt

/-- How a question of the watch is answered: a request by the reader, anything
else from outside. -/
def LineReader.answer (replies : (q : Query) → q.Reply) (reader : LineReader) :
    (q : Query) → q.Reply × LineReader
  | .requestLine => reader.asked (replies .requestLine)
  | q => (replies q, reader)

/-- How many requests an exchange sends. -/
def requestsIn : (q : Query) → q.Reply → Nat
  | .requestLine, isRead => Bool.toNat isRead
  | _, _ => 0

namespace Scene

/-- A watch before anything has happened. -/
def start (watch : Watch) : Scene where
  reader := .start
  rest := Watch.activate { watch with input := .start } >>= fun watch => return some watch
  input := .start
  sent := 0
  begun := 0
  came := []
  turned := []

/-- The watch turns to an event. -/
def turnTo (s : Scene) (watch : Watch) (event : Event) : Scene :=
  { s with
    rest := watch.turn event
    input := s.input.after event
    turned := s.turned ++ [event] }

/-- One move. What cannot happen now changes nothing. -/
def move (s : Scene) : Move → Scene
  | .take =>
    match s.reader.take? with
    | some reader => { s with reader, begun := s.begun + 1 }
    | none => s
  | .settle reading =>
    match s.reader.settle? reading with
    | some reader => { s with reader, came := s.came ++ [reading.event] }
    | none => s
  | .leave =>
    match s.rest with
    | .done none =>
      if s.reader.phase = .idle ∧ s.reader.requests = 0 then
        { s with reader := { s.reader with phase := .stopped } }
      else s
    | _ => s
  | .answer replies =>
    match s.rest with
    | .ask q next =>
      let (reply, reader) := s.reader.answer replies q
      { s with
        reader
        rest := next reply
        input := s.input.told q reply
        sent := s.sent + requestsIn q reply }
    | .done _ => s
  | .hear =>
    match s.rest, s.reader.next? with
    | .done (some watch), some (event, reader) =>
      if watch.input.isOpen then { s.turnTo watch event with reader } else s
    | _, _ => s
  | .tick =>
    match s.rest with
    | .done (some watch) => s.turnTo watch .tick
    | _ => s
  | .interrupt =>
    match s.rest with
    | .done (some watch) => s.turnTo watch .interrupt
    | _ => s

/-- The scene after some moves. -/
def after (s : Scene) (moves : List Move) : Scene :=
  moves.foldl move s

/-- What the watch has heard from its input. -/
def heard (s : Scene) : List Event :=
  s.turned.filter Event.isHeard

/-- How many requests are on their way: sent and not taken, being read for, or
read for and not heard of. -/
def outstanding (s : Scene) : Nat :=
  s.reader.requests + (if s.reader.phase = .reading then 1 else 0)
    + (s.came.length - s.heard.length)

/-- The watch waits for an event. -/
def Listens (s : Scene) (watch : Watch) : Prop :=
  s.rest = .done (some watch)

/-- The watch is over. -/
def IsOver (s : Scene) : Prop :=
  s.rest = .done none

end Scene

/-! ## How the reader stands to the watch -/

/-- A reader without anything to do waits for a request, unless it left after
the watch was over. -/
def Phase.Free (isOver : Prop) (phase : Phase) : Prop :=
  phase = .idle ∨ phase = .stopped ∧ isOver

/-- How a reader stands to what the watch knows of its input and has heard, and
what the readings came to. -/
inductive Standing (isOver : Prop) (heard : List Event) :
    LineReader → Input → List Event → Prop where
  | quiet {phase : Phase} (h : phase.Free isOver) :
      Standing isOver heard ⟨0, phase, []⟩ ⟨false, true⟩ heard
  | asked : Standing isOver heard ⟨1, .idle, []⟩ ⟨true, true⟩ heard
  | reading : Standing isOver heard ⟨0, .reading, []⟩ ⟨true, true⟩ heard
  | arrived {phase : Phase} (text : String) (h : phase.Free isOver) :
      Standing isOver heard ⟨0, phase, [.line text]⟩ ⟨true, true⟩ (heard ++ [.line text])
  | failed :
      Standing isOver heard ⟨0, .stopped, [.unreadable]⟩ ⟨true, true⟩ (heard ++ [.unreadable])
  | finished : Standing isOver heard ⟨0, .stopped, []⟩ ⟨true, true⟩ (heard ++ [.ended])
  | closed : Standing isOver heard ⟨0, .stopped, []⟩ ⟨false, false⟩ heard

namespace Standing

variable {isOver isOver' : Prop} {heard came : List Event} {reader reader' : LineReader}
  {input : Input}

theorem mono (h : Standing isOver heard reader input came) (hover : isOver → isOver') :
    Standing isOver' heard reader input came := by
  have hfree : ∀ {phase : Phase}, phase.Free isOver → phase.Free isOver' :=
    fun h => h.imp_right fun h => ⟨h.1, hover h.2⟩
  cases h with
  | quiet h => exact .quiet (hfree h)
  | asked => exact .asked
  | reading => exact .reading
  | arrived text h => exact .arrived text (hfree h)
  | failed => exact .failed
  | finished => exact .finished
  | closed => exact .closed

theorem take (h : Standing isOver heard reader input came) (htake : reader.take? = some reader') :
    Standing isOver heard reader' input came ∧ reader.requests = reader'.requests + 1 := by
  cases h with
  | asked =>
    cases htake
    exact ⟨.reading, rfl⟩
  | _ => simp [LineReader.take?] at htake

/-- Only a reader that reads comes to the end of a reading. -/
theorem settle {reading : Reading} (h : Standing isOver heard reader input came)
    (hsettle : reader.settle? reading = some reader') :
    Standing isOver heard reader' input (came ++ [reading.event])
      ∧ reader'.requests = reader.requests := by
  have hreading : reader.phase = .reading := by
    cases hphase : reader.phase with
    | reading => rfl
    | _ => cases reading <;> simp [LineReader.settle?, LineReader.read?, LineReader.fail?,
        LineReader.finish?, hphase] at hsettle
  cases h with
  | reading =>
    cases reading with
    | line text =>
      cases hsettle
      exact ⟨.arrived text (.inl rfl), rfl⟩
    | failed =>
      cases hsettle
      exact ⟨.failed, rfl⟩
    | finished =>
      cases hsettle
      exact ⟨.finished, rfl⟩
  | quiet h | arrived _ h => rcases h with rfl | ⟨rfl, _⟩ <;> cases hreading
  | _ => cases hreading

theorem leave (h : Standing isOver heard reader input came) (hover : isOver)
    (hidle : reader.phase = .idle) (hnone : reader.requests = 0) :
    Standing isOver heard { reader with phase := .stopped } input came := by
  cases h with
  | quiet _ => exact .quiet (.inr ⟨rfl, hover⟩)
  | arrived text _ => exact .arrived text (.inr ⟨rfl, hover⟩)
  | asked => cases hnone
  | _ => cases hidle

/-- A request that is wanted reaches a reader that waits for one. -/
theorem request (h : Standing isOver heard reader input came) (hover : ¬ isOver)
    (hwants : input.wants = true) (isLate : Bool) :
    (reader.asked isLate).1 = true
      ∧ Standing isOver heard (reader.asked isLate).2 (input.asked true) came
      ∧ (reader.asked isLate).2.requests = reader.requests + 1 := by
  cases h with
  | quiet h =>
    obtain rfl := h.resolve_right fun h => hover h.2
    exact ⟨rfl, .asked, rfl⟩
  | _ => cases hwants

/-- What a watch hears is the next of what came. -/
theorem hear {event : Event} (h : Standing isOver heard reader input came) (hover : ¬ isOver)
    (hopen : input.isOpen = true) (hnext : reader.next? = some (event, reader')) :
    Standing isOver (heard ++ [event]) reader' (input.after event) came
      ∧ event.isHeard = true ∧ reader'.requests = reader.requests := by
  cases h with
  | quiet h =>
    obtain rfl := h.resolve_right fun h => hover h.2
    cases hnext
  | asked | reading => cases hnext
  | arrived text h =>
    cases hnext
    exact ⟨.quiet h, rfl, rfl⟩
  | failed =>
    cases hnext
    exact ⟨.closed, rfl, rfl⟩
  | finished =>
    cases hnext
    exact ⟨.closed, rfl, rfl⟩
  | closed => cases hopen

/-- One request is on its way while a line is awaited, and none otherwise. -/
theorem outstanding (h : Standing isOver heard reader input came) :
    reader.requests + (if reader.phase = .reading then 1 else 0) + (came.length - heard.length)
      = input.waiting.toNat := by
  have hfree : ∀ {phase : Phase}, phase.Free isOver → phase ≠ .reading := by
    rintro phase (rfl | ⟨rfl, _⟩) <;> exact nofun
  cases h with
  | quiet h => simp [hfree h]
  | arrived text h => simp [hfree h]
  | _ => simp

/-- No line is awaited of an input that is over. -/
theorem waiting_eq_false (h : Standing isOver heard reader input came)
    (hclosed : input.isOpen = false) : input.waiting = false := by
  cases h with
  | closed => rfl
  | _ => cases hclosed

theorem heard_isPrefix (h : Standing isOver heard reader input came) : heard <+: came := by
  cases h with
  | arrived | failed | finished => exact List.prefix_append _ _
  | _ => exact List.prefix_refl _

/-- What came and was not heard can be heard now. -/
theorem next (h : Standing isOver heard reader input came) {event : Event}
    (hcame : came[heard.length]? = some event) :
    input.isOpen = true ∧ ∃ reader', reader.next? = some (event, reader') := by
  cases h with
  | arrived | failed | finished =>
    rw [List.getElem?_concat_length] at hcame
    cases hcame
    exact ⟨rfl, _, rfl⟩
  | _ => simp at hcame

end Standing

/-! ## What every move keeps -/

namespace Scene

variable {first : Watch} {s : Scene}

/-- The last event is one that a watch is over with. -/
def Stopped (s : Scene) : Prop :=
  ∃ event, s.turned.getLast? = some event ∧ event.Stops

/-- The watch was told that there is no more input. -/
def HasEnded (s : Scene) : Prop :=
  ∃ event ∈ s.turned, event.endsInput = true

/-- What is so at any moment after a watch has started. -/
structure Sound (first : Watch) (s : Scene) : Prop where
  conforms : Conforms (TurnsOut first.journal first.viewer s.Stopped) s.rest s.input
  standing : Standing s.IsOver s.heard s.reader s.input s.came
  counted : s.sent = s.begun + s.reader.requests
  ended : s.HasEnded → s.input.isOpen = false

theorem sound_start (watch : Watch) : (start watch).Sound watch where
  conforms := conforms_activate { watch with input := .start } rfl
  standing := .quiet (.inl rfl)
  counted := rfl
  ended := fun ⟨_, hmem, _⟩ => nomatch hmem

theorem Sound.rests (h : s.Sound first) {watch : Watch} (hrest : s.Listens watch) :
    watch.Rests first.journal first.viewer s.input := by
  have hconforms := h.conforms
  rw [hrest] at hconforms
  exact hconforms

theorem not_isOver {watch : Watch} (hrest : s.Listens watch) : ¬ s.IsOver := by
  intro hover
  rw [IsOver, hrest] at hover
  cases hover

theorem endsInput_after {input : Input} {event : Event} (h : event.endsInput = true) :
    (input.after event).isOpen = false := by
  cases event <;> first | rfl | cases h

theorem isOpen_after {input : Input} (event : Event) (h : input.isOpen = false) :
    (input.after event).isOpen = false := by
  cases event <;> first | rfl | exact h

/-- A watch that listens may turn to any event that leaves the reader standing
as it should. -/
theorem Sound.turnTo (h : s.Sound first) {watch : Watch} (hrest : s.Listens watch) {event : Event}
    {reader : LineReader}
    (hstanding : Standing s.IsOver (s.turnTo watch event).heard reader (s.input.after event) s.came)
    (hrequests : reader.requests = s.reader.requests) :
    Sound first { s.turnTo watch event with reader } where
  conforms := by
    have hrests := h.rests hrest
    have hinput := hrests.input
    rw [← hinput] at hrests
    have hturn := conforms_turn event hrests
    rw [hinput] at hturn
    refine hturn.mono fun input r hr => ?_
    cases r with
    | some watch => exact hr
    | none => exact ⟨event, List.getLast?_concat .., hr⟩
  standing := hstanding.mono fun hover => absurd hover (not_isOver hrest)
  counted := h.counted.trans (by rw [hrequests]; rfl)
  ended := by
    rintro ⟨e, hmem, he⟩
    rcases List.mem_append.mp hmem with hmem | hmem
    · exact isOpen_after event (h.ended ⟨e, hmem, he⟩)
    · obtain rfl := List.mem_singleton.mp hmem
      exact endsInput_after he

theorem heard_turnTo (watch : Watch) {event : Event} (h : event.isHeard = true) :
    (s.turnTo watch event).heard = s.heard ++ [event] := by
  simp [heard, Scene.turnTo, h]

theorem heard_turnTo_other (watch : Watch) (event : Event) (h : event.isHeard = false) :
    (s.turnTo watch event).heard = s.heard := by
  simp [heard, Scene.turnTo, h]

theorem Sound.answer (h : s.Sound first) (replies : (q : Query) → q.Reply) :
    (s.move (.answer replies)).Sound first := by
  cases hrest : s.rest with
  | done r =>
    have hsame : s.move (.answer replies) = s := by simp only [move, hrest]
    rw [hsame]
    exact h
  | ask q next =>
    have hover : ¬ s.IsOver := fun hover => by
      rw [IsOver, hrest] at hover
      cases hover
    have hmove : s.move (.answer replies) =
        { s with
          reader := (s.reader.answer replies q).2
          rest := next (s.reader.answer replies q).1
          input := s.input.told q (s.reader.answer replies q).1
          sent := s.sent + requestsIn q (s.reader.answer replies q).1 } := by
      simp only [move, hrest]
    have hconforms := h.conforms
    rw [hrest] at hconforms
    obtain ⟨hmay, hnext⟩ := hconforms
    rw [hmove]
    cases q with
    | requestLine =>
      obtain ⟨htaken, hstanding, hrequests⟩ :=
        h.standing.request hover hmay (replies .requestLine)
      have hreply : (s.reader.answer replies .requestLine).1 = true := htaken
      rw [hreply]
      refine ⟨hnext true, hstanding.mono fun h => absurd h hover, ?_, fun hended => ?_⟩
      · show s.sent + 1 = s.begun + (s.reader.asked (replies .requestLine)).2.requests
        rw [hrequests, h.counted, Nat.add_assoc]
      · exact h.ended hended
    | _ => exact ⟨hnext _, h.standing.mono fun h => absurd h hover, h.counted, h.ended⟩

theorem sound_move (h : s.Sound first) (m : Move) : (s.move m).Sound first := by
  cases m with
  | take =>
    simp only [move]
    cases htake : s.reader.take? with
    | none => exact h
    | some reader =>
      obtain ⟨hstanding, hrequests⟩ := h.standing.take htake
      refine ⟨h.conforms, hstanding, ?_, h.ended⟩
      show s.sent = s.begun + 1 + reader.requests
      rw [h.counted, hrequests]
      omega
  | settle reading =>
    simp only [move]
    cases hsettle : s.reader.settle? reading with
    | none => exact h
    | some reader =>
      obtain ⟨hstanding, hrequests⟩ := h.standing.settle hsettle
      exact ⟨h.conforms, hstanding, h.counted.trans (by rw [← hrequests]), h.ended⟩
  | leave =>
    simp only [move]
    split
    · rename_i hover
      split
      · rename_i hfree
        exact ⟨h.conforms, h.standing.leave hover hfree.1 hfree.2, h.counted, h.ended⟩
      · exact h
    · exact h
  | answer replies => exact h.answer replies
  | hear =>
    simp only [move]
    split
    · rename_i watch event reader hrest hnext
      split
      · rename_i hopen
        rw [(h.rests hrest).input] at hopen
        obtain ⟨hstanding, hheard, hrequests⟩ := h.standing.hear (not_isOver hrest) hopen hnext
        exact h.turnTo hrest (by rw [heard_turnTo watch hheard]; exact hstanding) hrequests
      · exact h
    · exact h
  | tick =>
    simp only [move]
    split
    · rename_i watch hrest
      exact h.turnTo hrest (by rw [heard_turnTo_other watch .tick rfl]; exact h.standing) rfl
    · exact h
  | interrupt =>
    simp only [move]
    split
    · rename_i watch hrest
      exact h.turnTo hrest (by rw [heard_turnTo_other watch .interrupt rfl]; exact h.standing) rfl
    · exact h

theorem sound_after (h : s.Sound first) (moves : List Move) : (s.after moves).Sound first := by
  induction moves generalizing s with
  | nil => exact h
  | cons m moves ih => exact ih (sound_move h m)

/-- What a watch turned to stays so. -/
theorem turned_move (m : Move) : s.turned <+: (s.move m).turned := by
  cases m <;> simp only [move] <;> repeat' split
  all_goals first | exact List.prefix_refl _ | exact List.prefix_append _ _

theorem HasEnded.move (h : s.HasEnded) (m : Move) : (s.move m).HasEnded := by
  obtain ⟨event, hmem, hends⟩ := h
  exact ⟨event, (turned_move m).subset hmem, hends⟩

/-- Nothing is asked for after the end of the input. -/
theorem Sound.sent_move (h : s.Sound first) (hended : s.HasEnded) (m : Move) :
    (s.move m).sent = s.sent := by
  cases m with
  | answer replies =>
    simp only [Scene.move]
    split
    · rename_i q next hrest
      have hmay := h.conforms
      rw [hrest] at hmay
      cases q with
      | requestLine =>
        have hwants : s.input.wants = true := hmay.1
        simp [Input.wants, h.ended hended] at hwants
      | _ => rfl
    · rfl
  | _ =>
    simp only [Scene.move]
    repeat' split
    all_goals rfl

theorem Sound.sent_after (h : s.Sound first) (hended : s.HasEnded) (moves : List Move) :
    (s.after moves).sent = s.sent := by
  induction moves generalizing s with
  | nil => rfl
  | cons m moves ih =>
    exact (ih (sound_move h m) (hended.move m)).trans (h.sent_move hended m)

theorem Sound.outstanding (h : s.Sound first) : s.outstanding = s.input.waiting.toNat :=
  h.standing.outstanding

/-- A watch that listens hears next the first of what came and was not heard. -/
theorem Sound.hears_next (h : s.Sound first) {watch : Watch} (hrest : s.Listens watch)
    {event : Event} (hcame : s.came[s.heard.length]? = some event) :
    ∃ reader, s.move .hear = { s.turnTo watch event with reader } := by
  obtain ⟨hopen, reader, hnext⟩ := h.standing.next hcame
  rw [← (h.rests hrest).input] at hopen
  have hwatch : s.rest = .done (some watch) := hrest
  exact ⟨reader, by simp only [move, hwatch, hnext, if_pos hopen]⟩

/-- Whenever a watch listens the timer may fire, and then its journal ticks. -/
theorem rest_move_tick {watch : Watch} (hrest : s.Listens watch) :
    s.move .tick = s.turnTo watch .tick
      ∧ (s.move .tick).rest = watch.tickShowing watch.tickViewer := by
  have hwatch : s.rest = .done (some watch) := hrest
  have hmove : s.move .tick = s.turnTo watch .tick := by simp only [move, hwatch]
  exact ⟨hmove, by rw [hmove, ← turn_tick]; rfl⟩

/-- The editor is started only while no request is on its way. -/
theorem Sound.launches_alone (h : s.Sound first) {program argument : String}
    {next : Except StorageError Int → Work (Option Watch)}
    (hrest : s.rest = .ask (.launch program argument) next) : s.outstanding = 0 := by
  have hmay := h.conforms
  rw [hrest] at hmay
  have hfree : s.input.waiting = false := hmay.1
  rw [h.outstanding, hfree]
  rfl

theorem Sound.stopped (h : s.Sound first) (hover : s.IsOver) : s.Stopped := by
  have hconforms := h.conforms
  rw [hover] at hconforms
  exact hconforms

end Scene

/-! ## Any moves -/

/-- However a watch and its reader move, and whatever comes from outside: the
reader begins no reading without a request, and there is one request on its
way while the watch awaits a line and none otherwise. The watch hears what was
read, in that order and each reading once; what it has not heard it hears
next. A tick is always the tick of the one journal. While a request is on its
way it only announces a note, and nothing else starts the editor then;
otherwise it opens notes as the user wants. When the watch was told that the
input is over, it asks for no line ever after, and its ticks open notes as the
user wants. It is over only if the user said so. -/
theorem line_protocol (watch : Watch) (moves : List Move) :
    let s := (Scene.start watch).after moves
    s.begun ≤ s.sent
      ∧ s.outstanding ≤ 1
      ∧ (s.input.waiting = true ↔ s.outstanding = 1)
      ∧ s.heard <+: s.came
      ∧ (∀ w, s.Listens w → w.input = s.input
        ∧ w.tickViewer = (if s.outstanding = 1 then .announcing else watch.viewer)
        ∧ ∀ event, s.came[s.heard.length]? = some event →
          ∃ reader, s.move .hear = { s.turnTo w event with reader })
      ∧ (∀ w, s.Listens w → w.journal = watch.journal
        ∧ s.move .tick = s.turnTo w .tick
        ∧ (s.move .tick).rest
          = w.tickShowing (if s.outstanding = 1 then .announcing else watch.viewer))
      ∧ (∀ program argument next, s.rest = .ask (.launch program argument) next →
        s.outstanding = 0)
      ∧ (s.HasEnded → (∀ more, (s.after more).sent = s.sent)
        ∧ ∀ w, s.Listens w → w.tickViewer = watch.viewer
          ∧ (s.move .tick).rest = w.tickShowing watch.viewer)
      ∧ (s.IsOver → s.Stopped) := by
  intro s
  have h : s.Sound watch := Scene.sound_after (Scene.sound_start watch) moves
  have hone : s.outstanding ≤ 1 := h.outstanding ▸ Bool.toNat_le _
  have hwaiting : s.input.waiting = true ↔ s.outstanding = 1 := by
    rw [h.outstanding, Bool.toNat_eq_one]
  have hviewer : ∀ w, s.Listens w →
      w.tickViewer = (if s.outstanding = 1 then .announcing else watch.viewer) := by
    intro w hrest
    obtain ⟨-, hview, hinput, -⟩ := h.rests hrest
    simp only [Watch.tickViewer, hinput, hwaiting, hview]
  have htick : ∀ w, s.Listens w → s.move .tick = s.turnTo w .tick
      ∧ (s.move .tick).rest
        = w.tickShowing (if s.outstanding = 1 then .announcing else watch.viewer) := by
    intro w hrest
    rw [← hviewer w hrest]
    exact Scene.rest_move_tick hrest
  have hnone : s.HasEnded → s.outstanding ≠ 1 := by
    intro hended
    rw [Ne, ← hwaiting, h.standing.waiting_eq_false (h.ended hended)]
    exact Bool.false_ne_true
  refine ⟨?_, hone, hwaiting, h.standing.heard_isPrefix, fun w hrest => ?_, fun w hrest => ?_,
    fun program argument next => h.launches_alone, fun hended => ⟨?_, fun w hrest => ⟨?_, ?_⟩⟩,
    h.stopped⟩
  · have := h.counted
    omega
  · exact ⟨(h.rests hrest).input, hviewer w hrest, fun event => h.hears_next hrest⟩
  · exact ⟨(h.rests hrest).journal, htick w hrest⟩
  · exact h.sent_after hended
  · rw [hviewer w hrest, if_neg (hnone hended)]
  · rw [(htick w hrest).2, if_neg (hnone hended)]

end Daybook.Command
