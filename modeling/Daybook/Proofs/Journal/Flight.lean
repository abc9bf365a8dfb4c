/-
Daybook.Proofs.Journal.Flight — at most one run is in flight.

Calls of one journal are started, carried on by one answer at a time, left
off half-way, and nested in one another, in any order. `one_run_in_flight`
says what the mark of the run in flight does for them.

A call that a host makes before it shows a note needs no case of its own: the
outer call waits with the question that shows the note, and the turns of the
inner call come while it waits. So a host that is asked to show a note leaves
the session alone here, and everything that it calls is one of the calls.

A call that is dropped asks nothing more. If it has the mark, the mark is
given back, as it would be at the end of the call.

Two things are kept from turn to turn. Each call goes by `MayFly`: it takes
the mark first and asks nothing without it. And the session is busy exactly
if some call has the mark, which is one call at most (`Marked`). Both speak
of what the calls were told, never of the code that is left of them.
-/
import Daybook.Proofs.Journal.Performed
import Daybook.Proofs.Procedure.Pool

namespace Daybook.Journal

open Calendar (Date)
open Procedure (Asks Obeys)

/-! ## The mark in the past of a call -/

/-- The mark was free and was taken in the exchange. -/
def takesMark : Exchange interface → Bool
  | ⟨.keep .enter, reply⟩ => reply
  | _ => false

/-- The mark was given back in the exchange. -/
def leavesMark : Exchange interface → Bool
  | ⟨.keep .leave, _⟩ => true
  | _ => false

/-- A call with this past has the mark. -/
def hasMark (past : Past) : Bool :=
  past.any takesMark && !past.any leavesMark

@[simp] theorem hasMark_nil : hasMark [] = false := rfl

theorem hasMark_leave (past : Past) : hasMark (past ++ [⟨.keep .leave, ()⟩]) = false := by
  simp [hasMark, leavesMark]

/-- The question neither takes the mark nor gives it back. -/
def Inside (q : Query) : Prop :=
  q ≠ .keep .enter ∧ q ≠ .keep .leave

theorem hasMark_inside {q : Query} (hq : Inside q) (past : Past) (reply : q.Reply) :
    hasMark (past ++ [⟨q, reply⟩]) = hasMark past := by
  have hnone : takesMark ⟨q, reply⟩ = false ∧ leavesMark ⟨q, reply⟩ = false := by
    rcases q with q | path | q
    · exact ⟨rfl, rfl⟩
    · exact ⟨rfl, rfl⟩
    · cases q with
      | enter => exact absurd rfl hq.1
      | leave => exact absurd rfl hq.2
      | _ => exact ⟨rfl, rfl⟩
  simp [hasMark, hnone]

/-! ## What a call may ask -/

/-- What a call may ask that works alone: first for the mark, and anything
else only while it has it. -/
inductive MayFly (past : Past) : Query → Prop where
  | enter (h : past = []) : MayFly past (.keep .enter)
  | leave (h : hasMark past = true) : MayFly past (.keep .leave)
  | inside {q : Query} (hq : Inside q) (h : hasMark past = true) : MayFly past q

/-- What comes of a call that works alone, `none` if it was dropped. -/
def Landed (past : Past) (outcome : Option (Except JournalError Run)) : Prop :=
  hasMark past = false
    ∧ (outcome = some (.ok .busy) ↔ past = [⟨.keep .enter, false⟩])

theorem inside_of_mayAsk {journal : Journal} {day : Calendar.Day} {past : Past} {q : Query}
    (h : MayAsk journal day past q) : Inside q := by
  cases h <;> exact ⟨nofun, nofun⟩

theorem inside_of_finds {q : Query} (h : Finds q) : Inside q := by
  cases q with
  | storage q => exact ⟨nofun, nofun⟩
  | openNote path => exact absurd h id
  | keep q => exact absurd h id

theorem materialize_asks (journal : Journal) (day : Calendar.Day) :
    (journal.materialize day).run.Asks Inside := by
  have hobeys : (journal.materialize day).run.Obeys _ _ [] := materialize_obeys (by simp)
  exact Obeys.asks hobeys fun _ _ => inside_of_mayAsk

theorem openNote_asks (journal : Journal) (path : Path) :
    (journal.openNote path).run.Asks Inside := by
  refine (openNote_only journal path).mono fun q hq => ?_
  rcases hq with hfinds | ⟨shown, rfl⟩
  · exact inside_of_finds hfinds
  · exact ⟨nofun, nofun⟩

/-- Work that does nothing to the mark goes by the rule from when the call has
the mark, and leaves the call with it. -/
theorem inside_flies {α : Type} {p : Work α} (h : p.Asks Inside) {past : Past}
    (hmark : hasMark past = true) : p.Obeys MayFly (fun past _ => hasMark past = true) past := by
  induction p generalizing past with
  | done a => exact hmark
  | ask q next ih =>
    refine ⟨.inside h.1 hmark, fun reply => ih reply (h.2 reply) ?_⟩
    exact (hasMark_inside h.1 past reply).trans hmark

theorem alone_flies {work : Try Report} (h : work.run.Asks Inside) :
    (alone work).run.Obeys MayFly (fun past r => Landed past (some r)) [] := by
  rw [alone_run]
  refine ⟨.enter rfl, fun free => ?_⟩
  cases (free : Bool) with
  | false => exact ⟨rfl, by simp⟩
  | true =>
    refine (Procedure.obeys_bind _ _ _ _).mpr ((inside_flies h rfl).counting.mono
      (fun _ _ hq => hq.2) ?_)
    rintro new outcome - hmark
    refine ⟨.leave hmark, fun (_ : Unit) => ⟨hasMark_leave _, ?_⟩⟩
    cases outcome <;> simp [Except.map]

/-! ## Calls in flight -/

/-- A call that makes the notes of a day. Each call has a clock of its own. -/
inductive Flight where
  | createAndOpen (today : Date)
  | ensureToday (today : Date)
  | ensureFor (date : Date)

/-- The calls of one journal. A call that was dropped ends in `none`. -/
abbrev Flights (σ ι : Type) :=
  Pool interface (World σ) Unit ι fun _ => Option (Except JournalError Run)

/-- What happens to the calls. -/
inductive Move (σ ι : Type) where
  /-- A call has its next question answered, by this storage and this screen. -/
  | answer (i : ι) (backend : Storage.Backend σ) (screen : Path → σ → Except JournalError Unit × σ)
  /-- A call is dropped. -/
  | drop (i : ι)

namespace Flight

def work (journal : Journal) : Flight → Try Run
  | createAndOpen today => journal.createAndOpen today.toDay
  | ensureToday today => journal.ensureFor today.toDay
  | ensureFor date => journal.ensureFor date.toDay

end Flight

namespace Flights

section

variable {σ ι : Type}

/-- No call was started yet, and no run is in flight. -/
def start (journal : Journal) (flights : ι → Flight) (w : World σ) : Flights σ ι :=
  Pool.start (w.marked false) (fun _ => ())
    fun i => ((flights i).work journal).run.bind fun r => .done (some r)

/-- The call has asked nothing yet, and it is not over. -/
def Waits (pool : Flights σ ι) (i : ι) : Prop :=
  pool.past i = [] ∧ ∀ r, pool.rest i ≠ .done r

/-- The call has been started, and it is not over. -/
def Runs (pool : Flights σ ι) (i : ι) : Prop :=
  pool.past i ≠ [] ∧ ∀ r, pool.rest i ≠ .done r

/-- The session is busy exactly if some call has the mark, and at most one
call has it. -/
structure Marked (past : ι → Past) (w : World σ) : Prop where
  one : ∀ i j, hasMark (past i) = true → hasMark (past j) = true → i = j
  busy : w.session.busy = true ↔ ∃ i, hasMark (past i) = true

/-- What holds of calls from turn to turn. -/
structure Sound (pool : Flights σ ι) : Prop where
  obey : pool.Obey (fun _ => MayFly) fun _ => Landed
  marked : Marked pool.past pool.shared

theorem sound_start (journal : Journal) (flights : ι → Flight) (w : World σ) :
    (start journal flights w).Sound := by
  refine ⟨fun i => ?_, ?_⟩
  · refine (Procedure.obeys_bind ((flights i).work journal).run _ _ _).mpr ?_
    show ((flights i).work journal).run.Obeys MayFly (fun past r => Landed past (some r)) []
    have hopens : ∀ day, (journal.createAndOpen day).run.Obeys MayFly
        (fun past r => Landed past (some r)) [] := fun day =>
      alone_flies <| (materialize_asks journal day).attempt fun report =>
        (openNote_asks journal report.note).attempt fun _ => trivial
    have hensures : ∀ day, (journal.ensureFor day).run.Obeys MayFly
        (fun past r => Landed past (some r)) [] := fun day =>
      alone_flies (materialize_asks journal day)
    cases flights i with
    | createAndOpen today => exact hopens today.toDay
    | ensureToday today => exact hensures today.toDay
    | ensureFor date => exact hensures date.toDay
  · exact ⟨fun i j hi => by simp [start, Pool.start] at hi,
      by simp [start, Pool.start, World.marked]⟩

variable {pool : Flights σ ι}

/-- A call that has not been started asks for the mark. -/
theorem Sound.waits_inv (h : pool.Sound) {i : ι} (hwaits : pool.Waits i) :
    ∃ next, pool.rest i = .ask (.keep .enter) next := by
  have hi := h.obey i
  cases hrest : pool.rest i with
  | done r => exact absurd hrest (hwaits.2 r)
  | ask q next =>
    rw [hrest, hwaits.1] at hi
    cases hi.1 with
    | enter _ => exact ⟨next, rfl⟩
    | leave hmark => cases hmark
    | inside _ hmark => cases hmark

/-- A call has the mark from its start to its end. -/
theorem Sound.runs_iff (h : pool.Sound) (i : ι) :
    pool.Runs i ↔ hasMark (pool.past i) = true := by
  have hi := h.obey i
  unfold Runs
  cases hrest : pool.rest i with
  | done r =>
    rw [hrest] at hi
    simp [hi.1]
  | ask q next =>
    rw [hrest] at hi
    cases hi.1 with
    | enter hfirst => simp [hfirst]
    | leave hmark => simpa [hmark] using fun hnil => by simp [hnil] at hmark
    | inside _ hmark => simpa [hmark] using fun hnil => by simp [hnil] at hmark

/-- A call that waits for a note to be shown is running. -/
theorem Sound.runs_of_openNote (h : pool.Sound) {i : ι} {path : Path} {next}
    (hrest : pool.rest i = .ask (.openNote path) next) : pool.Runs i := by
  have hi := h.obey i
  rw [hrest] at hi
  rw [h.runs_iff]
  cases hi.1 with
  | inside _ hmark => exact hmark

theorem Sound.one (h : pool.Sound) {i j : ι} (hi : pool.Runs i) (hj : pool.Runs j) : i = j :=
  h.marked.one i j ((h.runs_iff i).mp hi) ((h.runs_iff j).mp hj)

theorem Sound.busy_iff (h : pool.Sound) : pool.shared.session.busy = true ↔ ∃ i, pool.Runs i := by
  simpa only [h.runs_iff] using h.marked.busy

/-- A call that took the mark does not come to be busy. -/
theorem Sound.not_busy (h : pool.Sound) {i : ι}
    (htook : [⟨.keep .enter, true⟩] <+: pool.past i) :
    pool.rest i ≠ .done (some (.ok .busy)) := by
  intro hrest
  have hi := h.obey i
  rw [hrest] at hi
  rw [hi.2.mp rfl, List.prefix_cons_iff] at htook
  obtain htook | ⟨_, htook, -⟩ := htook
  · cases htook
  · cases htook

end

/-! ## One move -/

variable {σ ι : Type} [DecidableEq ι]

/-- How a question is answered by a storage and a screen. -/
def answering (backend : Storage.Backend σ) (screen : Path → σ → Except JournalError Unit × σ) :
    Pool.Answer interface (World σ) Unit :=
  fun q s =>
    let host : Host σ := fun path w =>
      let r := screen path w.outside
      (r.1, { w with outside := r.2 })
    let r := World.answer backend host q s.1
    (r.1, r.2, ())

/-- A call that has not ended yet is dropped. If it has the mark, it gives it
back. -/
def drop (i : ι) (pool : Flights σ ι) : Flights σ ι :=
  match pool.rest i with
  | .done _ => pool
  | .ask .. =>
    if hasMark (pool.past i) then
      { pool with
        shared := pool.shared.marked false
        rest := Function.update pool.rest i (.done none)
        past := Function.update pool.past i (pool.past i ++ [⟨.keep .leave, ()⟩]) }
    else { pool with rest := Function.update pool.rest i (.done none) }

def move (pool : Flights σ ι) : Move σ ι → Flights σ ι
  | .answer i backend screen => pool.turn (answering backend screen) i
  | .drop i => drop i pool

def after (pool : Flights σ ι) (moves : List (Move σ ι)) : Flights σ ι :=
  moves.foldl move pool

variable {past : ι → Past} {w w' : World σ} {i : ι} {pool : Flights σ ι}

/-- A call that keeps what it has of the mark, and a session as busy as before. -/
theorem Marked.keep (h : Marked past w) {new : Past} (hnew : hasMark new = hasMark (past i))
    (hbusy : w'.session.busy = w.session.busy) : Marked (Function.update past i new) w' := by
  have hall : ∀ j, hasMark (Function.update past i new j) = hasMark (past j) := by
    intro j
    by_cases hj : j = i
    · subst hj
      rw [Function.update_self, hnew]
    · rw [Function.update_of_ne hj]
  exact ⟨by simpa only [hall] using h.one, by simpa only [hall, hbusy] using h.busy⟩

/-- A call takes the mark that nobody has. -/
theorem Marked.take (h : Marked past w) (hfree : w.session.busy = false) {new : Past}
    (hnew : hasMark new = true) (hbusy : w'.session.busy = true) :
    Marked (Function.update past i new) w' := by
  have hnobody : ∀ j, hasMark (past j) ≠ true := fun j hj => by
    rw [h.busy.mpr ⟨j, hj⟩] at hfree
    cases hfree
  have hall : ∀ j, hasMark (Function.update past i new j) = true ↔ j = i := by
    intro j
    by_cases hj : j = i
    · subst hj
      simp [hnew]
    · simp [hj, hnobody j]
  exact ⟨fun j k hj hk => ((hall j).mp hj).trans ((hall k).mp hk).symm,
    by simpa only [hall, hbusy, true_iff] using ⟨i, rfl⟩⟩

/-- The call that has the mark gives it back. -/
theorem Marked.giveBack (h : Marked past w) (hmark : hasMark (past i) = true) {new : Past}
    (hnew : hasMark new = false) (hbusy : w'.session.busy = false) :
    Marked (Function.update past i new) w' := by
  have hall : ∀ j, hasMark (Function.update past i new j) ≠ true := by
    intro j
    by_cases hj : j = i
    · subst hj
      simp [hnew]
    · rw [Function.update_of_ne hj]
      exact fun hmark' => hj (h.one j i hmark' hmark)
  exact ⟨fun j k hj => absurd hj (hall j), by simp [hbusy, hall]⟩

/-- An answer to a question that a call may ask keeps the invariant. -/
theorem keeps_answering (backend : Storage.Backend σ)
    (screen : Path → σ → Except JournalError Unit × σ) :
    Pool.Keeps (fun _ => MayFly) (fun past (w : World σ) (_ : ι → Unit) => Marked past w)
      (answering backend screen) := by
  intro past w own i q hq h
  cases hq with
  | enter hfirst =>
    show Marked (Function.update past i (past i ++ [⟨.keep .enter, !w.session.busy⟩]))
      (w.marked true)
    rw [hfirst]
    cases hbusy : w.session.busy with
    | true => exact h.keep (by rw [hfirst]; rfl) hbusy.symm
    | false => exact h.take hbusy rfl rfl
  | leave hmark =>
    show Marked (Function.update past i (past i ++ [⟨.keep .leave, ()⟩])) (w.marked false)
    exact h.giveBack hmark (hasMark_leave _) rfl
  | inside hq hmark =>
    refine h.keep (hasMark_inside hq _ _) ?_
    rcases q with q | path | q
    · rfl
    · rfl
    · cases q with
      | enter => exact absurd rfl hq.1
      | leave => exact absurd rfl hq.2
      | _ => rfl

/-- A call may come to its end at any time. -/
theorem obey_ended (h : pool.Obey (fun _ => MayFly) fun _ => Landed) {new : Past}
    {r : Option (Except JournalError Run)} (hlanded : Landed new r) (w : World σ) :
    Pool.Obey (fun _ => MayFly) (fun _ => Landed)
      { pool with
        shared := w
        rest := Function.update pool.rest i (.done r)
        past := Function.update pool.past i new } := by
  intro j
  by_cases hj : j = i
  · subst hj
    simp only [Function.update_self]
    exact hlanded
  · simpa [Function.update_of_ne hj] using h j

theorem sound_drop (h : pool.Sound) (i : ι) : (drop i pool).Sound := by
  unfold drop
  split
  · exact h
  · rename_i q next hrest
    split
    · rename_i hmark
      have hlanded : Landed (pool.past i ++ [⟨.keep .leave, ()⟩]) none := by
        refine ⟨hasMark_leave _, by simp, fun heq => ?_⟩
        have hnil : pool.past i = [] := by simpa using congrArg List.length heq
        rw [hnil] at hmark
        cases hmark
      exact ⟨obey_ended h.obey hlanded _, h.marked.giveBack hmark (hasMark_leave _) rfl⟩
    · rename_i hmark
      -- a call that is not over and is without the mark has asked nothing
      have hfirst : pool.past i = [] := by
        by_contra hstarted
        refine hmark ((h.runs_iff i).mp ⟨hstarted, fun r hdone => ?_⟩)
        rw [hrest] at hdone
        cases hdone
      have hlanded : Landed [] none := ⟨rfl, by simp⟩
      have hobey := obey_ended (i := i) h.obey hlanded pool.shared
      rw [← hfirst, Function.update_eq_self] at hobey
      exact ⟨hobey, h.marked⟩

theorem sound_move (h : pool.Sound) (m : Move σ ι) : (pool.move m).Sound := by
  cases m with
  | answer i backend screen =>
    obtain ⟨hobey, hmarked⟩ :=
      Pool.turn_invariant (keeps_answering backend screen) i h.obey h.marked
    exact ⟨hobey, hmarked⟩
  | drop i => exact sound_drop h i

theorem sound_after (h : pool.Sound) (moves : List (Move σ ι)) : (pool.after moves).Sound := by
  induction moves generalizing pool with
  | nil => exact h
  | cons m moves ih => exact ih (sound_move h m)

theorem past_drop (i j : ι) : pool.past j <+: (drop i pool).past j := by
  unfold drop
  split
  · exact List.prefix_refl _
  · split
    · by_cases hj : j = i
      · subst hj
        simp
      · simp [Function.update_of_ne hj]
    · exact List.prefix_refl _

/-- What a call has asked and was told stays so. -/
theorem past_after (moves : List (Move σ ι)) (j : ι) :
    pool.past j <+: (pool.after moves).past j := by
  induction moves generalizing pool with
  | nil => exact List.prefix_refl _
  | cons m moves ih =>
    have hmove : pool.past j <+: (pool.move m).past j := by
      cases m with
      | answer i backend screen => exact Pool.past_turn _ i j pool
      | drop i => exact past_drop i j
    exact hmove.trans ih

theorem not_runs_drop (i : ι) : ¬ (drop i pool).Runs i := by
  intro hruns
  unfold drop at hruns
  split at hruns
  · rename_i r hrest
    exact hruns.2 r hrest
  · split at hruns
    · exact hruns.2 none (Function.update_self ..)
    · exact hruns.2 none (Function.update_self ..)

/-! ## Starting a call -/

section Starting

variable (backend : Storage.Backend σ) (screen : Path → σ → Except JournalError Unit × σ)

/-- To start a call is to ask for the mark. -/
theorem Sound.start_call (h : pool.Sound) (hwaits : pool.Waits i) :
    (pool.move (.answer i backend screen)).past i
        = [⟨.keep .enter, !pool.shared.session.busy⟩]
      ∧ (pool.move (.answer i backend screen)).shared = pool.shared.marked true := by
  obtain ⟨next, hrest⟩ := h.waits_inv hwaits
  rw [move, Pool.turn_ask hrest]
  refine ⟨?_, rfl⟩
  simp only [Function.update_self, hwaits.1]
  rfl

/-- A call that is started while another one runs finds the journal busy, and
that is all that it does. -/
theorem Sound.start_busy (h : pool.Sound) (hwaits : pool.Waits i) {j : ι} (hruns : pool.Runs j) :
    (pool.move (.answer i backend screen)).rest i = .done (some (.ok .busy))
      ∧ (pool.move (.answer i backend screen)).past i = [⟨.keep .enter, false⟩]
      ∧ (pool.move (.answer i backend screen)).shared = pool.shared := by
  have hbusy : pool.shared.session.busy = true := h.busy_iff.mpr ⟨j, hruns⟩
  obtain ⟨hpast, hshared⟩ := h.start_call backend screen hwaits
  have hsound := sound_move h (.answer i backend screen)
  rw [hbusy] at hpast
  have hi := hsound.obey i
  refine ⟨?_, hpast, ?_⟩
  · cases hrest : (pool.move (.answer i backend screen)).rest i with
    | done r =>
      rw [hrest, hpast] at hi
      rw [hi.2.mpr rfl]
    | ask q next =>
      rw [hrest, hpast] at hi
      cases hi.1 with
      | enter hnil => cases hnil
      | leave hmark => cases hmark
      | inside _ hmark => cases hmark
  · rw [hshared, World.marked, ← hbusy]

/-- A call that is started while none runs is the one that runs, and it never
comes to be busy. -/
theorem Sound.start_free (h : pool.Sound) (hwaits : pool.Waits i) (hfree : ∀ j, ¬ pool.Runs j) :
    (pool.move (.answer i backend screen)).Runs i
      ∧ ∀ moves, ((pool.move (.answer i backend screen)).after moves).rest i
        ≠ .done (some (.ok .busy)) := by
  have hbusy : pool.shared.session.busy = false := by
    rw [← Bool.not_eq_true, h.busy_iff]
    exact fun ⟨j, hruns⟩ => hfree j hruns
  have htook : (pool.move (.answer i backend screen)).past i = [⟨.keep .enter, true⟩] := by
    rw [(h.start_call backend screen hwaits).1, hbusy]
    rfl
  have hsound := sound_move h (.answer i backend screen)
  refine ⟨(hsound.runs_iff i).mpr (by rw [htook]; rfl), fun moves => ?_⟩
  refine (sound_after hsound moves).not_busy ?_
  rw [← htook]
  exact past_after moves i

end Starting

end Flights

/-! ## Any calls, in any order -/

/-- However the calls of a journal are started, carried on, left off and nested
in one another: at most one runs, and it has the mark from its start to its
end; the session is busy exactly while one runs. A call that is started while
another one runs comes to be busy and does nothing else; a call that is
started while none runs never comes to be busy. -/
theorem one_run_in_flight {σ ι : Type} [DecidableEq ι] (journal : Journal) (flights : ι → Flight)
    (w : World σ) (moves : List (Move σ ι)) :
    let pool := (Flights.start journal flights w).after moves
    (∀ i, pool.Runs i ↔ hasMark (pool.past i) = true)
      ∧ (∀ i j, pool.Runs i → pool.Runs j → i = j)
      ∧ (pool.shared.session.busy = true ↔ ∃ i, pool.Runs i)
      ∧ (∀ i path next, pool.rest i = .ask (.openNote path) next → pool.Runs i)
      ∧ (∀ i, ¬ (pool.move (.drop i)).Runs i)
      ∧ ∀ i backend screen, pool.Waits i →
        let started := pool.move (.answer i backend screen)
        (∀ j, pool.Runs j → started.rest i = .done (some (.ok .busy))
            ∧ started.past i = [⟨.keep .enter, false⟩] ∧ started.shared = pool.shared)
          ∧ ((∀ j, ¬ pool.Runs j) → started.Runs i
            ∧ ∀ more, (started.after more).rest i ≠ .done (some (.ok .busy))) := by
  intro pool
  have h : pool.Sound := Flights.sound_after (Flights.sound_start journal flights w) moves
  refine ⟨h.runs_iff, fun i j => h.one, h.busy_iff, fun i path next => h.runs_of_openNote,
    fun i => Flights.not_runs_drop i, fun i backend screen hwaits => ?_⟩
  exact ⟨fun j hruns => h.start_busy backend screen hwaits hruns,
    fun hfree => h.start_free backend screen hwaits hfree⟩

end Daybook.Journal
