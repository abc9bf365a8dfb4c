/-
Daybook.Proofs.Command.Turns — what a watch asks in a turn.

Whatever it is told, a watch asks for a line only when it wants one, and
starts the editor only while no line is awaited (`MayAsk`). What it knows of
its input changes on the way, so the rule is read along the questions
(`Conforms`). `conforms_activate` says so of the start of a watch and
`conforms_turn` of every event; both also say what comes of the turn: a watch
that wants no line now, or none, and that only after an event that ends it.

A watch tells its journal nothing of the input, so everything but the one
question for a line is work aside the input (`Aside`).
-/
import Daybook.Proofs.Command.Asked

namespace Daybook.Command

open Procedure (Asks)

/-! ## What a turn may ask -/

/-- What the watch knows of its input after an answer. -/
def Input.told (input : Input) : (q : Query) → q.Reply → Input
  | .requestLine, isRead => input.asked isRead
  | _, _ => input

/-- A line is asked for only if one is wanted, and a program is started on the
terminal only while none is awaited. -/
def MayAsk (input : Input) : Query → Prop
  | .requestLine => input.wants = true
  | .launch .. => input.waiting = false
  | _ => True

/-- Whatever the replies are, each question is one that may be asked with what
is known of the input by then, and so is the end one that the goal admits. -/
def Conforms {α : Type} (goal : Input → α → Prop) : Work α → Input → Prop
  | .done a, input => goal input a
  | .ask q next, input => MayAsk input q ∧ ∀ reply, Conforms goal (next reply) (input.told q reply)

/-- A question that may be asked and that tells nothing of the input. -/
def Aside (input : Input) (q : Query) : Prop :=
  q ≠ .requestLine ∧ MayAsk input q

section Conduct

variable {α β : Type} {goal goal' : Input → α → Prop} {input : Input} {p : Work α}

theorem conforms_bind (p : Work α) (f : α → Work β) (goal : Input → β → Prop) (input : Input) :
    Conforms goal (p.bind f) input
      ↔ Conforms (fun input a => Conforms goal (f a) input) p input := by
  induction p generalizing input with
  | done a => rfl
  | ask q next ih => simp only [Procedure.bind_ask, Conforms, ih]

theorem Conforms.mono (h : Conforms goal p input)
    (hgoal : ∀ input a, goal input a → goal' input a) : Conforms goal' p input := by
  induction p generalizing input with
  | done a => exact hgoal input a h
  | ask q next ih => exact ⟨h.1, fun reply => ih reply (h.2 reply)⟩

theorem Aside.told {q : Query} (h : Aside input q) (reply : q.Reply) :
    input.told q reply = input := by
  cases q with
  | requestLine => exact absurd rfl h.1
  | _ => rfl

/-- Work aside the input, with a conduct behind it. -/
theorem conforms_after {f : α → Work β} {goal : Input → β → Prop} (h : p.Asks (Aside input))
    (hf : ∀ a, Conforms goal (f a) input) : Conforms goal (p.bind f) input := by
  induction p with
  | done a => exact hf a
  | ask q next ih =>
    refine ⟨h.1.2, fun reply => ?_⟩
    rw [h.1.told reply]
    exact ih reply (h.2 reply)

end Conduct

/-! ## What a watch asks aside its input -/

section Aside

variable {input : Input}

theorem aside_talks : Talks (Aside input) :=
  ⟨fun _ => ⟨nofun, trivial⟩, fun _ => ⟨nofun, trivial⟩⟩

theorem firstKnown_aside (programs : List String) : (firstKnown programs).Asks (Aside input) := by
  induction programs with
  | nil => exact trivial
  | cons program more ih =>
    refine ⟨⟨nofun, trivial⟩, fun (found : Bool) => ?_⟩
    cases found with
    | true => exact trivial
    | false => exact ih

theorem runEditor_aside (h : input.waiting = false) (editor : String) (path : Path) :
    (runEditor editor path).Asks (Aside input) := by
  refine ⟨⟨nofun, h⟩, fun ended => ?_⟩
  cases ended <;> exact trivial

theorem chooseEditor_aside (configured : Option String) :
    (chooseEditor configured).Asks (Aside input) := by
  cases configured with
  | some editor => exact trivial
  | none =>
    refine ⟨⟨nofun, trivial⟩, fun (first : Option String) => ?_⟩
    cases first with
    | some editor => exact trivial
    | none =>
      refine ⟨⟨nofun, trivial⟩, fun (second : Option String) => ?_⟩
      cases second with
      | some editor => exact trivial
      | none => exact firstKnown_aside _

theorem edit_aside (h : input.waiting = false) (configured : Option String) (path : Path) :
    (edit configured path).Asks (Aside input) := by
  refine (chooseEditor_aside configured).bind fun chosen => ?_
  cases chosen with
  | some editor => exact runEditor_aside h editor path
  | none => exact trivial

/-- A viewer starts the editor only if no line is awaited. -/
theorem host_aside {viewer : Viewer} (h : input.waiting = true → viewer = .announcing)
    (path : Path) : (viewer.host path).Asks (Aside input) := by
  cases viewer with
  | printing => exact (aside_talks.print_asks _).bind fun _ => trivial
  | announcing => exact (aside_talks.print_asks _).bind fun _ => trivial
  | editor configured =>
    have hfree : input.waiting = false := by
      rw [← Bool.not_eq_true]
      exact fun hwaiting => nomatch h hwaiting
    exact (aside_talks.print_asks _).bind fun _ => edit_aside hfree configured path

theorem answer_aside {host : Host} (h : ∀ path, (host path).Asks (Aside input)) (q : Journal.Query)
    (s : Journal.Session) : (answer host q s).Asks (Aside input) := by
  cases q with
  | storage q => exact ⟨⟨nofun, trivial⟩, fun _ => trivial⟩
  | openNote path => exact (h path).bind fun _ => trivial
  | keep q => exact (aside_talks.warnAll_asks _).bind fun _ => trivial

/-- A journal's work with a viewer that may be used now. -/
theorem journal_aside {α : Type} {viewer : Viewer} (h : input.waiting = true → viewer = .announcing)
    (work : Journal.Try α) (session : Journal.Session) :
    (perform viewer.host work session).Asks (Aside input) :=
  (Procedure.asks_any _).interpret (fun q s _ => answer_aside (host_aside h) q s) session

theorem printRun_aside (run : Except JournalError Journal.Run) :
    (Watch.printRun run).Asks (Aside input) := by
  rcases run with e | report | _
  · exact aside_talks.complain_asks _
  · exact aside_talks.printReport_asks report
  · exact aside_talks.print_asks _

end Aside

/-! ## What a turn comes to -/

/-- The event comes from the input, and there will be no other. -/
def Event.endsInput : Event → Bool
  | .unreadable | .ended => true
  | _ => false

/-- The event is over with the watch. -/
def Event.Stops : Event → Prop
  | .interrupt => True
  | .line text => Order.ofLine text = .quit
  | _ => False

/-- A watch at the end of a turn: its journal and its viewer are the same, it
knows what there is to know of its input, and it asks for no line now. -/
structure Watch.Rests (journal : Journal) (viewer : Viewer) (known : Input) (watch : Watch) :
    Prop where
  journal : watch.journal = journal
  viewer : watch.viewer = viewer
  input : watch.input = known
  unwanted : known.wants = false

/-- What a turn comes to: a watch at rest, or nothing if the watch is over. -/
def TurnsOut (journal : Journal) (viewer : Viewer) (isOver : Prop) (input : Input) :
    Option Watch → Prop
  | some watch => watch.Rests journal viewer input
  | none => isOver

section Turns

variable {watch : Watch} {journal : Journal} {viewer : Viewer} {isOver : Prop}

/-- Whatever becomes of a journal's work, the watch is the same but for its
session. -/
theorem conforms_perform {α β : Type} {goal : Input → β → Prop} {shown : Viewer}
    {work : Calendar.Day → Journal.Try α} {f : Except JournalError α × Watch → Work β}
    (h : watch.input.waiting = true → shown = .announcing)
    (hf : ∀ result session, Conforms goal (f (result, { watch with session })) watch.input) :
    Conforms goal ((watch.perform shown work).bind f) watch.input := by
  refine ⟨trivial, fun (today : Calendar.Moment) => ?_⟩
  show Conforms goal (((perform shown.host (work today.date.toDay) watch.session).bind _).bind f) _
  rw [Procedure.bind_assoc]
  exact conforms_after (journal_aside h _ _) fun r => hf r.1 r.2

theorem conforms_request :
    Conforms (fun input w => w.Rests watch.journal watch.viewer input) watch.request
      watch.input := by
  unfold Watch.request
  by_cases hwants : watch.input.wants = true
  · rw [if_pos hwants]
    refine ⟨hwants, fun (isRead : Bool) => ⟨rfl, rfl, rfl, ?_⟩⟩
    cases isRead <;> simp [Input.told, Input.asked, Input.wants]
  · rw [if_neg hwants]
    exact ⟨rfl, rfl, rfl, by simpa using hwants⟩

variable (watch)

theorem conforms_request_some (isOver : Prop) :
    Conforms (TurnsOut watch.journal watch.viewer isOver)
      (watch.request.bind fun w => .done (some w)) watch.input :=
  (conforms_bind _ _ _ _).mpr (conforms_request.mono fun _ _ h => h)

/-- The start of a watch. -/
theorem conforms_activate (h : watch.input.waiting = false) :
    Conforms (TurnsOut watch.journal watch.viewer isOver)
      (watch.activate.bind fun w => .done (some w)) watch.input := by
  unfold Watch.activate
  rw [Procedure.bind_eq, Procedure.bind_assoc]
  refine conforms_perform (fun hwaiting => by simp [h] at hwaiting) fun run session => ?_
  have hlast : Conforms (TurnsOut watch.journal watch.viewer isOver) (((print ("Watching every " ++
      toString watch.seconds ++ "s. Press Enter to open today's note, q or Ctrl-C to stop.")).bind
        fun _ => Watch.request { watch with session }).bind fun w => .done (some w))
      watch.input := by
    rw [Procedure.bind_assoc]
    exact conforms_after (aside_talks.print_asks _) fun _ =>
      conforms_request_some { watch with session } isOver
  rcases run with e | _ | report | _
  · show Conforms _ (((complain _).bind _).bind _) _
    rw [Procedure.bind_assoc]
    exact conforms_after (aside_talks.complain_asks _) fun _ => hlast
  · exact hlast
  · show Conforms _ (((printReport report).bind _).bind _) _
    rw [Procedure.bind_assoc]
    exact conforms_after (aside_talks.printReport_asks _) fun _ => hlast
  · exact hlast

theorem conforms_tick (h : watch.input.wants = false) :
    Conforms (TurnsOut watch.journal watch.viewer isOver) (watch.tick.bind fun w => .done (some w))
      watch.input := by
  unfold Watch.tick
  rw [Procedure.bind_eq, Procedure.bind_assoc]
  refine conforms_perform (fun hwaiting => by rw [Watch.tickViewer, if_pos hwaiting])
    fun outcome session => ?_
  have hrests : Watch.Rests watch.journal watch.viewer watch.input { watch with session } :=
    ⟨rfl, rfl, rfl, h⟩
  rcases outcome with e | report | _ | _
  · show Conforms _ (((complain _).bind _).bind _) _
    rw [Procedure.bind_assoc]
    exact conforms_after (aside_talks.complain_asks _) fun _ => hrests
  · show Conforms _ (((printReport report).bind _).bind _) _
    rw [Procedure.bind_assoc]
    exact conforms_after (aside_talks.printReport_asks _) fun _ => hrests
  · exact hrests
  · exact hrests

theorem conforms_openToday (h : watch.input.waiting = false) :
    Conforms (TurnsOut watch.journal watch.viewer isOver)
      (watch.openToday.bind fun w => w.request.bind fun w => .done (some w)) watch.input := by
  unfold Watch.openToday
  rw [Procedure.bind_eq, Procedure.bind_assoc]
  refine conforms_perform (fun hwaiting => by simp [h] at hwaiting) fun run session => ?_
  show Conforms _ (((Watch.printRun run).bind _).bind _) _
  rw [Procedure.bind_assoc]
  exact conforms_after (printRun_aside run) fun _ =>
    conforms_request_some { watch with session } isOver

/-- A tick, when notes are shown in this way: the tick of the journal on the day of the
clock. What comes of it is printed, and of the watch only the session is another one. -/
def Watch.tickShowing (watch : Watch) (shown : Viewer) : Work (Option Watch) := do
  let today := (← now).date.toDay
  let (outcome, session) ← Command.perform shown.host (watch.journal.tick today) watch.session
  match outcome with
  | .ok (.opened report) => printReport report
  | .ok (.unchanged _) | .ok .busy => pure ()
  | .error e => complain ("✗ " ++ e.message)
  return some { watch with session }

/-- Turning to a tick, a watch has its journal tick. -/
theorem turn_tick : watch.turn .tick = watch.tickShowing watch.tickViewer := by
  have hturn : watch.turn .tick = watch.tick.bind fun w => .done (some w) := rfl
  rw [hturn, Watch.tick, Watch.tickShowing, Watch.perform]
  simp only [Procedure.bind_eq, Procedure.bind_assoc]
  congr 1
  funext moment
  congr 1
  funext r
  obtain ⟨outcome, session⟩ := r
  rcases outcome with e | report | _ | _
  · exact Procedure.bind_assoc (complain _) _ _
  · exact Procedure.bind_assoc (printReport report) _ _
  · rfl
  · rfl

/-- One event. Only a tick leaves the input as it is, so a watch that wanted no
line before it wants none after it. -/
theorem conforms_turn {watch : Watch} (event : Event) (h : watch.Rests journal viewer watch.input) :
    Conforms (TurnsOut journal viewer event.Stops) (watch.turn event)
      (watch.input.after event) := by
  obtain rfl := h.journal
  obtain rfl := h.viewer
  cases event with
  | tick => exact conforms_tick watch h.unwanted
  | interrupt => exact conforms_after (aside_talks.print_asks _) fun _ => trivial
  | ended => exact conforms_request_some { watch with input := ⟨false, false⟩ } _
  | unreadable =>
    exact conforms_after (aside_talks.complain_asks _) fun _ =>
      conforms_request_some { watch with input := ⟨false, false⟩ } _
  | line text =>
    simp only [Watch.turn]
    cases horder : Order.ofLine text with
    | quit => exact horder
    | openToday =>
      exact conforms_openToday { watch with input := watch.input.after (.line text) } rfl
    | unknown word =>
      exact conforms_after (aside_talks.print_asks _) fun _ =>
        conforms_request_some { watch with input := watch.input.after (.line text) } _

end Turns

end Daybook.Command
