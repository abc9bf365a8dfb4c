/-
Daybook.Proofs.Journal.Performed — what the parts of a call come to.

The rules say what a call may ask; here the calls are carried out in a
world, one part after another. Each part has one lemma for its result and
the world that it leaves and one for its exchanges. What a part does to the
storage is left to the storage. What counts here is the session and which
notes are shown: making notes shows none and leaves the marks of the session
alone (`Quiet`), and so does looking for a note.
-/
import Daybook.Proofs.Journal.Events

namespace Daybook.Journal

open Calendar (Day)

/-! ## Notes that are shown -/

/-- The note that was to be shown, and what came of it. -/
def shown? : Exchange interface → Option (Path × Except JournalError Unit)
  | ⟨.openNote path, reply⟩ => some (path, reply)
  | _ => none

/-- The notes that were to be shown, and what came of it. -/
def shown (log : Past) : List (Path × Except JournalError Unit) :=
  log.filterMap shown?

@[simp] theorem shown_append (log more : Past) : shown (log ++ more) = shown log ++ shown more :=
  List.filterMap_append

theorem shown_concat {log : Past} {e : Exchange interface} (hlog : shown log = [])
    (he : shown? e = none) : shown (log ++ [e]) = [] := by
  rw [shown_append, hlog, shown, List.nil_append, List.filterMap_cons, he]
  rfl

variable {σ : Type} {α β : Type} (backend : Storage.Backend σ) (host : Host σ) (w : World σ)

/-! ## One part after another -/

namespace World

variable {backend host w}

section Steps

variable {x : Try α} (f : α → Try β) {w' : World σ}

theorem perform_ok {a : α} (h : perform backend host x w = (.ok a, w')) :
    perform backend host (x >>= f) w = perform backend host (f a) w' :=
  Procedure.run_attempt_ok f h

theorem perform_error {e : JournalError} (h : perform backend host x w = (.error e, w')) :
    perform backend host (x >>= f) w = (.error e, w') :=
  Procedure.run_attempt_error f h

theorem exchanges_ok {a : α} (h : perform backend host x w = (.ok a, w')) :
    exchanges backend host w (x >>= f)
      = exchanges backend host w x ++ exchanges backend host w' (f a) :=
  Procedure.log_attempt_ok f h

theorem exchanges_error {e : JournalError} (h : perform backend host x w = (.error e, w')) :
    exchanges backend host w (x >>= f) = exchanges backend host w x :=
  Procedure.log_attempt_error f h

end Steps

/-- Work that fails fails in its first part or after it. -/
theorem perform_bind_error {x : Try α} {f : α → Try β} {e : JournalError} {w w' : World σ}
    (h : perform backend host (x >>= f) w = (.error e, w')) :
    perform backend host x w = (.error e, w')
      ∨ ∃ a v, perform backend host x w = (.ok a, v)
        ∧ perform backend host (f a) v = (.error e, w') := by
  rcases hx : perform backend host x w with ⟨e' | a, v⟩
  · rw [perform_error _ hx] at h
    cases h
    exact .inl rfl
  · rw [perform_ok _ hx] at h
    exact .inr ⟨a, v, rfl, h⟩

/-- Two worlds that the first part makes one are one after the second part. -/
theorem perform_next {x : Try α} {y : Try β} {a a' : α} {w w' v v' : World σ}
    (h : perform backend host x w = (.ok a, v)) (h' : perform backend host x w' = (.ok a', v'))
    (hy : perform backend host y v = perform backend host y v') :
    perform backend host (x >>= fun _ => y) w = perform backend host (x >>= fun _ => y) w' := by
  rw [perform_ok _ h, perform_ok _ h', hy]

theorem perform_congr {x : Try α} (f : α → Try β) {w w' : World σ}
    (h : perform backend host x w = perform backend host x w') :
    perform backend host (x >>= f) w = perform backend host (x >>= f) w' := by
  rcases hx : perform backend host x w' with ⟨e | a, v⟩
  · rw [perform_error _ (h.trans hx), perform_error _ hx]
  · rw [perform_ok _ (h.trans hx), perform_ok _ hx]

variable (backend host w)

/-- To make something of a result asks nothing more. -/
theorem perform_bind_pure (x : Try α) (f : α → β) :
    perform backend host (x >>= fun a => pure (f a)) w
      = ((perform backend host x w).1.map f, (perform backend host x w).2) :=
  Procedure.run_attempt_map f x w

theorem exchanges_bind_pure (x : Try α) (f : α → β) :
    exchanges backend host w (x >>= fun a => pure (f a)) = exchanges backend host w x := by
  rcases h : perform backend host x w with ⟨e | a, w'⟩
  · exact exchanges_error _ h
  · exact (exchanges_ok _ h).trans (List.append_nil _)

/-- The world after a note was kept in mind as the one opened last. -/
def remembering (w : World σ) (path : Path) : World σ :=
  { w with session := { w.session with lastOpened := some path } }

theorem perform_lastOpened :
    perform backend host lastOpened.always w = (.ok w.session.lastOpened, w) := rfl

end World

/-- What a session keeps besides the source of chance and the warnings: the
mark of the run in flight, whether the journal was activated, and the note
opened last. -/
def Session.marks (s : Session) : Bool × Bool × Option Path :=
  (s.busy, s.activated, s.lastOpened)

/-- Nothing was shown, and the marks of the session are as they were. -/
structure Quiet (w : World σ) (log : Past) (w' : World σ) : Prop where
  marks : w'.session.marks = w.session.marks
  shown : shown log = []

/-! ## Making notes -/

theorem quiet_materialize (journal : Journal) (day : Day) :
    Quiet w (World.exchanges backend host w (journal.materialize day))
      (World.perform backend host (journal.materialize day) w).2 := by
  have hstep : ∀ past q w', MayAsk journal day past q → Quiet w past w' →
      Quiet w (past ++ [⟨q, (World.answer backend host q w').1⟩])
        (World.answer backend host q w').2 := by
    intro past q w' hq hquiet
    cases hq <;> exact ⟨hquiet.marks, shown_concat hquiet.shown rfl⟩
  have hobeys : (journal.materialize day).run.Obeys _ _ [] := materialize_obeys (by simp)
  exact (hobeys.run_invariant hstep ⟨rfl, rfl⟩).1

/-- However it is answered, a run comes to what its rule says. -/
theorem runGoal_materialize (journal : Journal) (day : Day) :
    RunGoal journal day (World.exchanges backend host w (journal.materialize day))
      (World.perform backend host (journal.materialize day) w).1 := by
  have hobeys : (journal.materialize day).run.Obeys _ _ [] := materialize_obeys (by simp)
  obtain ⟨new, hnew, hgoal⟩ := hobeys.run_goal (World.answer backend host) w
  rw [List.nil_append] at hnew
  rwa [World.exchanges, hnew]

theorem day_of_materialize {journal : Journal} {day : Day} {report : Report} {w' : World σ}
    (h : World.perform backend host (journal.materialize day) w = (.ok report, w')) :
    report.day = day := by
  have hgoal := runGoal_materialize backend host w journal day
  rw [h] at hgoal
  exact hgoal.1

/-- A run that goes through reports the day note of its day. -/
theorem note_of_materialize {journal : Journal} {day : Day} {report : Report}
    (h : (World.perform backend host (journal.materialize day) w).1 = .ok report) :
    report.note = (journal.layout.locate .day day).file := by
  have hgoal := runGoal_materialize backend host w journal day
  rw [h] at hgoal
  exact hgoal.2.1

/-- What a run over a memory was shown to be there is there at its end. -/
theorem present_materialize (faults : Storage.Faults) (host : Host Storage.Memory)
    (w : World Storage.Memory) (journal : Journal) (day : Day) :
    Present (World.exchanges (Storage.seen faults) host w (journal.materialize day))
      (World.perform (Storage.seen faults) host (journal.materialize day) w).2.outside := by
  have hstep : ∀ past q (w' : World Storage.Memory), MayAsk journal day past q →
      Present past w'.outside →
      Present (past ++ [⟨q, (World.answer (Storage.seen faults) host q w').1⟩])
        (World.answer (Storage.seen faults) host q w').2.outside := by
    rintro past q w' hq hpresent
    rcases q with q | path | q
    · exact hpresent.told faults q
    · cases hq
    · exact hpresent.silent fun _ h => h
  have hobeys : (journal.materialize day).run.Obeys _ _ [] := materialize_obeys (by simp)
  have hstart : Present [] w.outside := by
    rintro path ⟨e, he, _⟩
    cases he
  exact (hobeys.run_invariant hstep hstart).1

/-- When a run over a memory goes through, all its notes are there. -/
theorem has_of_materialize {faults : Storage.Faults} {host : Host Storage.Memory}
    {w w₁ : World Storage.Memory} {journal : Journal} {day : Day} {report : Report}
    (hmade : World.perform (Storage.seen faults) host (journal.materialize day) w
      = (.ok report, w₁)) (period : Period) :
    w₁.outside.has (journal.layout.locate period day).file = true := by
  have hgoal := runGoal_materialize (Storage.seen faults) host w journal day
  have hpresent := present_materialize faults host w journal day
  rw [hmade] at hgoal hpresent
  obtain ⟨_, _, hknown, _⟩ := hgoal
  exact hpresent _ (hknown period)

/-- The world with the journal marked as activated. -/
def World.activating (w : World σ) : World σ :=
  { w with session := { w.session with activated := true } }

/-- Whether the journal was activated does not matter for making notes. -/
theorem materialize_activating (journal : Journal) (day : Day) :
    World.perform backend host (journal.materialize day) w.activating
      = ((World.perform backend host (journal.materialize day) w).1,
        (World.perform backend host (journal.materialize day) w).2.activating) := by
  have hobeys : (journal.materialize day).run.Obeys _ _ [] := materialize_obeys (by simp)
  refine hobeys.run_map (fun past q w hq => ?_) w
  cases hq <;> rfl

/-! ## Work that is done alone -/

/-- The world with the mark of the run in flight set or taken away. -/
def World.marked (w : World σ) (busy : Bool) : World σ :=
  { w with session := { w.session with busy } }

theorem marks_marked (w : World σ) (busy : Bool) :
    (w.marked busy).session.marks = (busy, w.session.marks.2) := rfl

theorem marks_remembering (w : World σ) (path : Path) :
    (w.remembering path).session.marks
      = (w.session.marks.1, w.session.marks.2.1, some path) := rfl

section Alone

variable {w} (hfree : w.session.busy = false) (work : Try Report)

/-- While a run is in flight nothing is done. -/
theorem perform_alone_busy (hbusy : w.session.busy = true) :
    World.perform backend host (alone work) w = (.ok .busy, w) := by
  calc World.perform backend host (alone work) w
      = (afterEnter work (!w.session.busy)).run (World.answer backend host) (w.marked true) := by
        rw [World.perform, alone_run]
        rfl
    _ = (.ok .busy, w.marked w.session.busy) := by
        rw [hbusy]
        rfl

include hfree

theorem perform_alone :
    World.perform backend host (alone work) w
      = ((World.perform backend host work (w.marked true)).1.map .completed,
        (World.perform backend host work (w.marked true)).2.marked false) := by
  calc World.perform backend host (alone work) w
      = (afterEnter work (!w.session.busy)).run (World.answer backend host) (w.marked true) := by
        rw [World.perform, alone_run]
        rfl
    _ = _ := by
        rw [hfree]
        exact Procedure.run_bind _ _ _ _

theorem exchanges_alone :
    World.exchanges backend host w (alone work)
      = ⟨.keep .enter, true⟩ :: World.exchanges backend host (w.marked true) work
        ++ [⟨.keep .leave, ()⟩] := by
  calc World.exchanges backend host w (alone work)
      = ⟨.keep .enter, !w.session.busy⟩
          :: (afterEnter work (!w.session.busy)).log (World.answer backend host)
            (w.marked true) := by
        rw [World.exchanges, alone_run]
        rfl
    _ = _ := by
        rw [hfree]
        exact congrArg _ (Procedure.log_bind _ _ _ _)

/-- Taking the mark and giving it back shows no note. -/
theorem shown_alone :
    shown (World.exchanges backend host w (alone work))
      = shown (World.exchanges backend host (w.marked true) work) := by
  rw [exchanges_alone backend host hfree]
  show shown (World.exchanges backend host (w.marked true) work ++ [⟨.keep .leave, ()⟩]) = _
  rw [shown_append]
  exact List.append_nil _

end Alone

/-! ## Finding and showing a note -/

theorem run_onStorage (p : Storage.Work α) :
    (onStorage p).run (World.answer backend host) w
      = ((p.run backend w.outside).1, { w with outside := (p.run backend w.outside).2 }) := by
  induction p generalizing w with
  | done a => rfl
  | ask q next ih => exact ih _ _

/-- Work on the storage leaves the session alone. -/
theorem perform_tryOnStorage (x : Storage.Try α) :
    World.perform backend host (tryOnStorage x) w
      = ((x.run.run backend w.outside).1,
        { w with outside := (x.run.run backend w.outside).2 }) :=
  run_onStorage backend host w x.run

/-- Looking whether something is there. -/
theorem perform_isPresent (path : Path) :
    World.perform backend host (onStorage (Storage.isPresent path)).always w
      = (.ok (backend (.isPresent path) w.outside).1,
        { w with outside := (backend (.isPresent path) w.outside).2 }) := rfl

theorem ensureDay_eq (journal : Journal) (day : Day) :
    journal.ensureDay day
      = (onStorage (Storage.isPresent (journal.layout.locate .day day).file)).always >>= fun
        | true => pure .present
        | false => journal.dayText day >>= fun text =>
          tryOnStorage (ensureAt (journal.layout.locate .day day) text) := by
  refine congrArg (_ >>= ·) (funext fun there => ?_)
  cases there <;> rfl

theorem shown_onStorage (p : Storage.Work α) :
    shown ((onStorage p).log (World.answer backend host) w) = [] := by
  induction p generalizing w with
  | done a => rfl
  | ask q next ih => exact ih _ _

/-- What is found when a note is looked for in a world, and what is left of
the world then. -/
def World.lookUp (journal : Journal) (path : Path) : Option Path × World σ :=
  let r := (findNote journal.layout.root path).run backend w.outside
  (r.1, { w with outside := r.2 })

theorem perform_findNote (journal : Journal) (path : Path) :
    World.perform backend host (onStorage (findNote journal.layout.root path)).always w
      = (.ok (w.lookUp backend journal path).1, (w.lookUp backend journal path).2) := by
  rw [World.perform, Procedure.run_always]
  refine (Procedure.run_bind _ _ _ _).trans ?_
  rw [run_onStorage]
  rfl

theorem shown_findNote (journal : Journal) (path : Path) :
    shown (World.exchanges backend host w
      (onStorage (findNote journal.layout.root path)).always) = [] := by
  rw [World.exchanges, Procedure.run_always]
  refine (congrArg shown (Procedure.log_bind _ _ _ _)).trans ?_
  rw [shown_append, shown_onStorage]
  rfl

section Found

variable {backend w} {journal : Journal} {path : Path} {w' : World σ}

theorem perform_openNote_found {found : Path}
    (h : w.lookUp backend journal path = (some found, w')) :
    World.perform backend host (journal.openNote path) w = host found w'
      ∧ shown (World.exchanges backend host w (journal.openNote path))
        = [(found, (host found w').1)] := by
  have hfind := perform_findNote backend host w journal path
  rw [h] at hfind
  rw [openNote, World.perform_ok _ hfind, World.exchanges_ok _ hfind, shown_append,
    shown_findNote]
  exact ⟨rfl, rfl⟩

theorem perform_openNote_missing (h : w.lookUp backend journal path = (none, w')) :
    World.perform backend host (journal.openNote path) w = (.error (.noteNotFound path), w')
      ∧ shown (World.exchanges backend host w (journal.openNote path)) = [] := by
  have hfind := perform_findNote backend host w journal path
  rw [h] at hfind
  rw [openNote, World.perform_ok _ hfind, World.exchanges_ok _ hfind, shown_append,
    shown_findNote]
  exact ⟨rfl, rfl⟩

end Found

/-- What is found is the note that was looked for. -/
theorem same_of_lookUp {journal : Journal} {path found : Path} {w' : World σ}
    (h : w.lookUp backend journal path = (some found, w')) : found.same path = true := by
  have hlookUp : (w.lookUp backend journal path).1 = some found := by rw [h]
  have hwalk := Procedure.run_bind backend (Storage.walk journal.layout.root)
    (fun all => .done (all.find? fun found => found.same path)) w.outside
  have hfound : (((Storage.walk journal.layout.root).run backend w.outside).1.find?
      fun found => found.same path) = some found := (congrArg Prod.fst hwalk).symm.trans hlookUp
  simpa using List.find?_some hfound

/-- Looking for a note leaves the session as it is. -/
theorem session_of_lookUp {journal : Journal} {path : Path} {found : Option Path} {w' : World σ}
    (h : w.lookUp backend journal path = (found, w')) : w'.session = w.session := by
  cases h
  rfl

end Daybook.Journal
