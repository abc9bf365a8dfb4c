/-
Daybook.Proofs.Journal.Calls — the calls of a journal and what they may ask.

A host reaches a journal through seven calls. `Call` names them, so that one
statement can be about all of them, and `call_obeys` says for all of them at
once what they may ask: the notes of one date are made by a run that has
taken the mark (`MayAsk`); beyond that a call looks through folders, shows
notes, and uses what the journal keeps. None of them has another way to the
storage.
-/
import Daybook.Calendar.Date
import Daybook.Journal.Lifecycle
import Daybook.Proofs.Journal.Conduct

namespace Daybook.Journal

open Calendar (Date Day)
open Procedure (Asks Obeys Since)

/-- What a host can call a journal for. -/
inductive Call where
  | ensureToday
  | ensureFor (date : Date)
  | createAndOpen
  | openNote (path : Path)
  | activate
  | trigger
  | tick

namespace Call

/-- What a call gives. -/
abbrev Result : Call → Type
  | ensureToday | ensureFor _ | createAndOpen | trigger => Run
  | openNote _ => Unit
  | activate => Option Run
  | tick => Tick

/-- The date whose notes the call makes, if it makes any. -/
def date (today : Date) : Call → Date
  | ensureFor date => date
  | _ => today

/-- The work of a call. -/
def work (journal : Journal) (today : Date) : (call : Call) → Try call.Result
  | ensureToday => journal.ensureFor today.toDay
  | ensureFor date => journal.ensureFor date.toDay
  | createAndOpen => journal.createAndOpen today.toDay
  | openNote path => journal.openNote path
  | activate => journal.activate today.toDay
  | trigger => journal.trigger today.toDay
  | tick => journal.tick today.toDay

end Call

/-! ## The mark of the run in flight -/

/-- The mark was taken. -/
def Entered (past : Past) : Prop :=
  (⟨.keep .enter, true⟩ : Exchange interface) ∈ past

/-- It was not tried before to take the mark. -/
def Untried (past : Past) : Prop :=
  ∀ e ∈ past, e.query ≠ .keep .enter

/-- What a run and the taking of its mark may ask. -/
inductive MayRun (journal : Journal) (day : Day) (past : Past) : Query → Prop where
  | enter (h : Untried past) : MayRun journal day past (.keep .enter)
  | leave : MayRun journal day past (.keep .leave)
  | inside {q : Query} (hentered : Entered past) (h : MayAsk journal day past q) :
      MayRun journal day past q

/-- What comes of work that is done alone. -/
def AloneGoal (goal : Past → Except JournalError Report → Prop) (new : Past)
    (r : Except JournalError Run) : Prop :=
  match r with
  | .ok .busy => new = [⟨.keep .enter, false⟩]
  | .ok (.completed report) =>
    ∃ during, new = ⟨.keep .enter, true⟩ :: during ++ [⟨.keep .leave, ()⟩]
      ∧ goal during (.ok report)
  | .error e =>
    ∃ during, new = ⟨.keep .enter, true⟩ :: during ++ [⟨.keep .leave, ()⟩]
      ∧ goal during (.error e)

/-- What follows on the attempt to take the mark. -/
def afterEnter (work : Try Report) (free : Bool) : Work (Except JournalError Run) :=
  if free then
    work.run.bind fun outcome => .ask (.keep .leave) fun _ => .done (outcome.map .completed)
  else .done (.ok .busy)

theorem alone_run (work : Try Report) :
    (alone work).run = .ask (.keep .enter) (afterEnter work) := by
  refine congrArg (@Procedure.ask interface _ (.keep .enter)) (funext fun free => ?_)
  cases (free : Bool) with
  | false => rfl
  | true =>
    show (work.run.always >>= fun outcome => leave.always >>= _ : Try Run).run = _
    rw [ExceptT.run_bind, Procedure.run_always, Procedure.bind_eq, Procedure.bind_assoc]
    refine congrArg work.run.bind (funext fun outcome => ?_)
    cases outcome <;> rfl

variable {rule : Past → Query → Prop} {past : Past}

theorem alone_obeys {work : Try Report} {goal : Past → Except JournalError Report → Prop}
    (henter : rule past (.keep .enter)) (hleave : ∀ past, rule past (.keep .leave))
    (hwork : work.run.Obeys rule (Since (past ++ [⟨.keep .enter, true⟩]) goal)
      (past ++ [⟨.keep .enter, true⟩])) :
    (alone work).run.Obeys rule (Since past (AloneGoal goal)) past := by
  rw [alone_run]
  refine ⟨henter, fun free => ?_⟩
  cases (free : Bool) with
  | false => exact ⟨_, rfl, rfl⟩
  | true =>
    refine (Procedure.obeys_bind _ _ _ _).mpr (hwork.mono (fun _ _ h => h) ?_)
    rintro _ outcome - ⟨during, hnew, hgoal⟩
    refine ⟨hleave _, fun (_ : Unit) => ?_⟩
    rw [hnew]
    cases outcome with
    | ok report => exact ⟨_, by simp, during, rfl, hgoal⟩
    | error e => exact ⟨_, by simp, during, rfl, hgoal⟩

/-- The work of a run, from the moment that its mark was taken. -/
theorem inside_obeys {α : Type} {journal : Journal} {day : Day} {p : Work α}
    {goal : Past → α → Prop} (hentered : Entered past)
    (h : p.Obeys (MayAsk journal day) goal past) : p.Obeys (MayRun journal day) goal past := by
  refine h.counting.mono ?_ fun _ _ _ hgoal => hgoal
  rintro past' q ⟨hpast, hq⟩
  exact .inside (hpast.subset hentered) hq

theorem ensureFor_obeys {journal : Journal} {day : Day} (huntried : Untried past)
    (honce : ∀ e ∈ past, ¬ Renders e) :
    (journal.ensureFor day).run.Obeys (MayRun journal day)
      (Since past (AloneGoal (RunGoal journal day))) past := by
  refine alone_obeys (.enter huntried) (fun _ => .leave) (inside_obeys (by simp [Entered]) ?_)
  refine materialize_obeys ?_
  simpa [or_imp, forall_and, Renders] using honce

/-! ## The length of a run -/

theorem ensureAt_within (location : Location) (text : String) :
    (tryOnStorage (ensureAt location text)).run.Within 4 := by
  rw [ensureAt, ensure, tryOnStorage_bind]
  refine Procedure.Within.attempt (m := 2) (n := 2) ?_ fun _ => ?_
  · intro there
    cases (there : Bool) with
    | true => exact trivial
    | false =>
      intro reply
      cases (reply : Except StorageError Unit) <;> exact trivial
  · intro there
    cases (there : Bool) with
    | true => exact trivial
    | false =>
      intro reply
      cases (reply : Except StorageError Unit) with
      | ok u => exact trivial
      | error cause =>
        show (onStorage (ExceptT.run (if cause.kind = .alreadyExists
          then (pure .present : Storage.Try Ensured)
          else throw (.fileWrite location.file cause)))).Within 0
        split <;> exact trivial

theorem dayText_within (journal : Journal) (day : Day) : (journal.dayText day).run.Within 3 := by
  refine Procedure.Within.attempt (m := 2) (n := 1) ?_ fun _ _ => trivial
  cases journal.builder with
  | sections toggles => exact trivial
  | template registry =>
    intro there
    cases (there : Bool) with
    | false => exact trivial
    | true =>
      intro reply
      cases (reply : Except StorageError String) <;> exact trivial

/-- A run asks at most eighteen questions. -/
theorem ensureFor_within (journal : Journal) (day : Day) :
    (journal.ensureFor day).run.Within 18 := by
  have hday : (journal.ensureDay day).run.Within 8 := by
    intro there
    cases (there : Bool) with
    | true => exact trivial
    | false => exact (dayText_within journal day).attempt fun text => ensureAt_within _ text
  have hmake : (journal.materialize day).run.Within 16 := by
    refine (ensureAt_within _ _).attempt (n := 12) fun _ => ?_
    refine (ensureAt_within _ _).attempt (n := 8) fun _ => ?_
    exact hday.attempt (n := 0) fun _ => by exact trivial
  rw [ensureFor, alone_run]
  intro free
  cases (free : Bool) with
  | false => exact trivial
  | true =>
    refine hmake.bind (n := 1) fun outcome => ?_
    exact fun _ => trivial

/-! ## Finding and showing a note -/

/-- The question is one that finding a note asks. -/
def Finds (q : Query) : Prop :=
  match q with
  | .storage (.list _) | .storage (.isFolder _) | .storage .depth => True
  | _ => False

theorem walkWithin_asks (bound : Nat) (folder : Path) :
    (Storage.walkWithin bound folder).Asks fun q => Finds (.storage q) := by
  induction bound generalizing folder with
  | zero => exact trivial
  | succ bound ih =>
    refine ⟨trivial, fun reply => ?_⟩
    cases (reply : Except StorageError (List Path)) with
    | error cause => exact trivial
    | ok entries =>
      show (Procedure.bind (entries.mapM _) _).Asks _
      refine Asks.bind (Asks.mapM ?_ entries) fun _ => trivial
      refine fun entry => ⟨trivial, fun there => ?_⟩
      cases (there : Bool) with
      | false => exact trivial
      | true => exact (ih entry).bind fun _ => trivial

theorem onStorage_asks {α : Type} {p : Storage.Work α} {only : Query → Prop}
    (h : p.Asks fun q => only (.storage q)) : (onStorage p).Asks only :=
  h.relay fun _ hq => ⟨hq, fun _ => trivial⟩

theorem findNote_asks (root path : Path) : (onStorage (findNote root path)).Asks Finds := by
  refine onStorage_asks ?_
  refine Asks.bind (Asks.bind ?_ ?_) fun _ => trivial
  · exact ⟨trivial, fun _ => trivial⟩
  · exact fun bound => walkWithin_asks bound root

/-- The question is one that finding and showing a note asks. -/
def FindsOrShows (q : Query) : Prop :=
  Finds q ∨ ∃ path, q = .openNote path

theorem openNote_only (journal : Journal) (path : Path) :
    (journal.openNote path).run.Asks FindsOrShows := by
  refine Asks.attempt ?_ fun found => ?_
  · rw [Procedure.run_always]
    exact ((findNote_asks _ _).mono fun _ => .inl).bind fun _ => trivial
  · cases found with
    | none => exact trivial
    | some found => exact ⟨.inr ⟨found, rfl⟩, fun _ => trivial⟩

/-! ## What a call may ask -/

/-- What a call may ask that makes the notes of a day, or none. -/
inductive MayCall (journal : Journal) (day : Day) (past : Past) : Query → Prop where
  | run {q : Query} (h : MayRun journal day past q) : MayCall journal day past q
  | find {q : Query} (h : Finds q) : MayCall journal day past q
  | openNote (path : Path) : MayCall journal day past (.openNote path)
  | markActivated : MayCall journal day past (.keep .markActivated)
  | lastOpened : MayCall journal day past (.keep .lastOpened)
  | remember (path : Path) : MayCall journal day past (.keep (.remember path))

section

variable {journal : Journal} {day : Day}

/-- No call writes over a file. -/
theorem MayCall.not_overwrites {q : Storage.Query} (h : MayCall journal day past (.storage q)) :
    q.overwrites = false := by
  cases h with
  | run h => cases h with
    | inside _ h => cases h <;> rfl
  | find h => cases q <;> first | rfl | exact absurd h id

/-- A file that a call creates is a note of its day. -/
theorem MayCall.create_inv {path : Path} {text : String}
    (h : MayCall journal day past (.storage (.create path text))) :
    Entered past ∧ ∃ period, path = (journal.layout.locate period day).file
      ∧ Known past (journal.layout.folder period day)
      ∧ (∀ p ∈ above period, Known past (journal.layout.locate p day).file)
      ∧ TextOf journal day past period text := by
  cases h with
  | run h => cases h with
    | inside hentered h => cases h with
      | create period _ hfolder habove htext =>
        exact ⟨hentered, period, rfl, hfolder, habove, htext⟩
  | find h => exact absurd h id

/-- A folder that a call makes is one for notes of its day. -/
theorem MayCall.makeFolders_inv {folder : Path}
    (h : MayCall journal day past (.storage (.makeFolders folder))) :
    ∃ period, folder = journal.layout.folder period day := by
  cases h with
  | run h => cases h with
    | inside _ h => cases h with
      | makeFolders period => exact ⟨period, rfl⟩
  | find h => exact absurd h id

theorem openNote_obeys (path : Path) :
    (journal.openNote path).run.Obeys (MayCall journal day) (fun _ _ => True) past := by
  refine Obeys.followed ((Procedure.obeys_always _ (fun _ _ => True) _).mpr ?_) ?_
  · exact ((findNote_asks _ _).obeys (fun _ _ h => .find h) past).mono (fun _ _ h => h)
      fun _ _ _ _ => trivial
  · intro found past
    cases found with
    | none => exact trivial
    | some path => exact ⟨.openNote path, fun _ => trivial⟩

theorem createAndOpen_obeys (huntried : Untried past) (honce : ∀ e ∈ past, ¬ Renders e) :
    (journal.createAndOpen day).run.Obeys (MayCall journal day) (fun _ _ => True) past := by
  have hwork : (do
      let report ← journal.materialize day
      journal.openNote report.note
      return report : Try Report).run.Obeys (MayCall journal day) (fun _ _ => True)
        (past ++ [⟨.keep .enter, true⟩]) := by
    refine Obeys.followed ((inside_obeys (by simp [Entered]) (materialize_obeys ?_)).mono
      (fun _ _ h => .run h) fun _ _ _ h => h) fun report _ => ?_
    · simpa [or_imp, forall_and, Renders] using honce
    · exact (openNote_obeys report.note).followed fun _ _ => trivial
  exact (alone_obeys (.run (.enter huntried)) (fun _ => .run .leave) hwork.since_start).mono
    (fun _ _ h => h) fun _ _ _ _ => trivial

theorem trigger_obeys (huntried : Untried past) (honce : ∀ e ∈ past, ¬ Renders e) :
    (journal.trigger day).run.Obeys (MayCall journal day) (fun _ _ => True) past := by
  refine (createAndOpen_obeys huntried honce).followed fun run _ => ?_
  cases run with
  | busy => exact trivial
  | completed report => exact ⟨.remember _, fun _ => trivial⟩

theorem activate_obeys :
    (journal.activate day).run.Obeys (MayCall journal day) (fun _ _ => True) [] := by
  refine ⟨.markActivated, fun first => ?_⟩
  cases (first : Bool) with
  | false => exact trivial
  | true =>
    have huntried : Untried ([] ++ [⟨.keep .markActivated, true⟩]) := by
      intro e he hq
      cases List.mem_singleton.mp he
      cases hq
    exact (trigger_obeys huntried (by simp [Renders])).followed fun _ _ => trivial

theorem tick_obeys : (journal.tick day).run.Obeys (MayCall journal day) (fun _ _ => True) [] := by
  refine Obeys.followed ((ensureFor_obeys (by simp [Untried]) (by simp)).mono
    (fun _ _ h => .run h) fun _ _ _ h => h) fun run past => ?_
  cases run with
  | busy => exact trivial
  | completed report =>
    refine ⟨.lastOpened, fun last => ?_⟩
    show (ExceptT.run (if (last : Option Path).any fun last => last.same report.note then
        (pure (.unchanged report) : Try Tick)
      else journal.openNote report.note >>= fun _ => (remember report.note).always >>= fun _ =>
        pure (.opened report))).Obeys _ _ _
    split
    · exact trivial
    · exact (openNote_obeys report.note).followed fun _ _ => ⟨.remember _, fun _ => trivial⟩

end

/-- No call asks for more. -/
theorem call_obeys (journal : Journal) (today : Date) (call : Call) :
    (call.work journal today).run.Obeys (MayCall journal (call.date today).toDay)
      (fun _ _ => True) [] := by
  have hensure : ∀ day : Day,
      (journal.ensureFor day).run.Obeys (MayCall journal day) (fun _ _ => True) [] := fun day =>
    (ensureFor_obeys (by simp [Untried]) (by simp)).mono (fun _ _ h => .run h)
      fun _ _ _ _ => trivial
  cases call with
  | ensureToday => exact hensure _
  | ensureFor date => exact hensure _
  | createAndOpen => exact createAndOpen_obeys (by simp [Untried]) (by simp)
  | openNote path => exact openNote_obeys path
  | activate => exact activate_obeys
  | trigger => exact trigger_obeys (by simp [Untried]) (by simp)
  | tick => exact tick_obeys

end Daybook.Journal
