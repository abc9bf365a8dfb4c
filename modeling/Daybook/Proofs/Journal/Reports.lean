/-
Daybook.Proofs.Journal.Reports — what a report says, and what it is good for.

A report says of each note of its day whether the run made it. That is
whether nothing was in its place when the call began, neither a file nor a
folder (`Tracked.created_iff`): what a call makes was missing, and what it
knows of was there or was made by it.

Once a run has gone through, its notes are there for good, whatever comes
after. So the next run for the same day finds them all and leaves everything
as it is (`ensureFor_present`). It does not even look at the template or
draw, because it does so only after it has missed the day note (`Seeks`).
-/
import Daybook.Proofs.Journal.Ensure
import Daybook.Proofs.Journal.Opening

namespace Daybook.Journal

open Calendar (Date Day)
open Procedure (Asks Obeys Since)
open Storage (Faults Memory seen)

/-! ## Reports -/

def Run.report? : Run → Option Report
  | .completed report => some report
  | .busy => none

def Tick.report? : Tick → Option Report
  | .opened report | .unchanged report => some report
  | .busy => none

/-- The report in what a call gives. -/
def Call.report? : (call : Call) → call.Result → Option Report
  | .ensureToday, run | .ensureFor _, run | .createAndOpen, run | .trigger, run => Run.report? run
  | .openNote _, () => none
  | .activate, run => Option.bind run Run.report?
  | .tick, outcome => Tick.report? outcome

/-- In these exchanges a run for the day went through and gave the report. -/
def Completes (journal : Journal) (day : Day) (log : Past) (report : Report) : Prop :=
  ∃ before during after, log = before ++ during ++ after
    ∧ (journal.materialize day).run.Ends during (.ok report)

/-- A run went through, and all that was made was made by the run. -/
def Ran (journal : Journal) (day : Day) (log : Past) (report : Report) : Prop :=
  ∃ before during after, log = before ++ during ++ after ∧ made before = [] ∧ made after = []
    ∧ (journal.materialize day).run.Ends during (.ok report)

variable {journal : Journal} {day : Day} {report : Report}

theorem Ran.completes {log : Past} (h : Ran journal day log report) :
    Completes journal day log report := by
  obtain ⟨before, during, after, hlog, _, _, hends⟩ := h
  exact ⟨before, during, after, hlog, hends⟩

theorem Ran.within {log : Past} (h : Ran journal day log report) (pre post : Past)
    (hpre : made pre = []) (hpost : made post = []) :
    Ran journal day (pre ++ log ++ post) report := by
  obtain ⟨before, during, after, rfl, hbefore, hafter, hends⟩ := h
  exact ⟨pre ++ before, during, after ++ post, by simp, by simp [hpre, hbefore],
    by simp [hpost, hafter], hends⟩

theorem runGoal_of_ends {during : Past}
    (h : (journal.materialize day).run.Ends during (.ok report)) :
    RunGoal journal day during (.ok report) := by
  have hobeys : (journal.materialize day).run.Obeys (MayAsk journal day)
      (Since [] (RunGoal journal day)) [] := materialize_obeys (by simp)
  obtain ⟨new, hnew, hgoal⟩ := hobeys.goal_of_ends h
  obtain rfl : during = new := by simpa using hnew
  exact hgoal

/-- A run that has gone through knows of all its notes. -/
theorem Completes.known {log : Past} (h : Completes journal day log report) (period : Period) :
    Known log (journal.layout.locate period day).file := by
  obtain ⟨before, during, after, rfl, hends⟩ := h
  obtain ⟨_, _, hknown, _⟩ := runGoal_of_ends hends
  exact ((hknown period).append_right before).append_left after

/-! ## The run behind a report -/

/-- Whoever gives a report has it from a run. -/
def Reported {α : Type} (journal : Journal) (day : Day) (report? : α → Option Report) (new : Past)
    (r : Except JournalError α) : Prop :=
  ∀ a report, r = .ok a → report? a = some report → Ran journal day new report

/-- Nothing was made, and no other report is given than this one. -/
def Hands {α : Type} (report? : α → Option Report) (given : Option Report) (new : Past)
    (r : Except JournalError α) : Prop :=
  made new = [] ∧ ∀ a, r = .ok a → report? a = given

variable {past : Past}

theorem made_of_silent {new : Past} (h : ∀ e ∈ new, made? e = none) : made new = [] :=
  List.filterMap_eq_nil_iff.mpr h

theorem openNote_makes_nothing (path : Path) :
    (journal.openNote path).run.Obeys (fun _ _ => True) (Since past fun new _ => made new = [])
      past := by
  refine ((openNote_only journal path).obeys (fun _ _ _ => trivial) past).mono
    (fun _ _ h => h) ?_
  rintro new r - ⟨more, hmore, _, honly⟩
  refine ⟨more, hmore, made_of_silent fun e he => ?_⟩
  obtain ⟨q, reply⟩ := e
  rcases honly _ he with hfinds | ⟨_, rfl⟩
  · cases q with
    | storage q => cases q <;> first | rfl | exact absurd hfinds id
    | openNote _ => rfl
    | keep _ => rfl
  · rfl

theorem alone_ran {work : Try Report}
    (h : ∀ past, work.run.Obeys (fun _ _ => True) (Since past (Reported journal day some)) past) :
    (alone work).run.Obeys (fun _ _ => True) (Since past (Reported journal day Run.report?))
      past := by
  refine (alone_obeys trivial (fun _ => trivial) (h _)).mono (fun _ _ h => h) ?_
  rintro new r - ⟨new', hnew, hgoal⟩
  refine ⟨new', hnew, ?_⟩
  rintro run report rfl hreport
  cases run with
  | busy => cases hreport
  | completed report' =>
    obtain rfl : report' = report := Option.some.inj hreport
    obtain ⟨during, rfl, hran⟩ := hgoal
    exact (hran _ _ rfl rfl).within [⟨.keep .enter, true⟩] [⟨.keep .leave, ()⟩] rfl rfl

theorem materialize_ran :
    (journal.materialize day).run.Obeys (fun _ _ => True)
      (Since past (Reported journal day some)) past := by
  refine (Procedure.obeys_ends _ past).mono (fun _ _ h => h) ?_
  rintro new r - ⟨new', hnew, hends⟩
  refine ⟨new', hnew, ?_⟩
  rintro a report rfl hreport
  cases hreport
  exact ⟨[], new', [], by simp, rfl, rfl, hends⟩

section Steps

variable {α β : Type} {x : Try α} {f : α → Try β} {report? : β → Option Report}
  {given? : α → Option Report} {given : Option Report}

/-- What comes after a run hands on its report. -/
theorem reported_then_hands
    (hx : x.run.Obeys (fun _ _ => True) (Since past (Reported journal day given?)) past)
    (hf : ∀ a past, (f a).run.Obeys (fun _ _ => True) (Since past (Hands report? (given? a)))
      past) :
    (x >>= f).run.Obeys (fun _ _ => True) (Since past (Reported journal day report?)) past := by
  refine hx.andThen (fun _ a => Hands report? (given? a)) (fun new a _ => hf a _) ?_ ?_
  · rintro new a more r hran ⟨hmade, hands⟩ b report rfl hreport
    rw [hands b rfl] at hreport
    simpa using (hran a report rfl hreport).within [] more rfl hmade
  · rintro new e - b report hok
    cases hok

/-- So does what came before it, if it made nothing. -/
theorem silent_then_reported
    (hx : x.run.Obeys (fun _ _ => True) (Since past fun new _ => made new = []) past)
    (hf : ∀ a past, (f a).run.Obeys (fun _ _ => True) (Since past (Reported journal day report?))
      past) :
    (x >>= f).run.Obeys (fun _ _ => True) (Since past (Reported journal day report?)) past := by
  refine hx.andThen (fun _ _ => Reported journal day report?) (fun new a _ => hf a _) ?_ ?_
  · rintro new a more r hmade hreported b report hok hreport
    simpa using (hreported b report hok hreport).within new [] hmade rfl
  · rintro new e - b report hok
    cases hok

theorem silent_then_hands
    (hx : x.run.Obeys (fun _ _ => True) (Since past fun new _ => made new = []) past)
    (hf : ∀ a past, (f a).run.Obeys (fun _ _ => True) (Since past (Hands report? given)) past) :
    (x >>= f).run.Obeys (fun _ _ => True) (Since past (Hands report? given)) past := by
  refine hx.andThen (fun _ _ => Hands report? given) (fun new a _ => hf a _) ?_ ?_
  · rintro new a more r hmade ⟨hmore, hands⟩
    exact ⟨by simp [hmade, hmore], hands⟩
  · rintro new e hmade
    exact ⟨hmade, fun a hok => by cases hok⟩

theorem hands_pure {b : β} (h : report? b = given) :
    (pure b : Try β).run.Obeys (fun _ _ => True) (Since past (Hands report? given)) past := by
  refine ⟨[], by simp, rfl, ?_⟩
  rintro b' hok
  cases hok
  exact h

theorem silent_always {p : Work α} (h : p.Asks fun q => ∀ reply, made? ⟨q, reply⟩ = none) :
    (p.always : Try α).run.Obeys (fun _ _ => True) (Since past fun new _ => made new = []) past := by
  rw [Procedure.obeys_always]
  refine (h.obeys (fun _ _ _ => trivial) past).mono (fun _ _ h => h) ?_
  rintro new a - ⟨more, hmore, _, honly⟩
  exact ⟨more, hmore, made_of_silent fun e he => honly e he _⟩

end Steps

theorem createAndOpen_ran :
    (journal.createAndOpen day).run.Obeys (fun _ _ => True)
      (Since past (Reported journal day Run.report?)) past := by
  refine alone_ran fun past => ?_
  refine reported_then_hands materialize_ran fun report past => ?_
  exact silent_then_hands (openNote_makes_nothing report.note) fun _ _ => hands_pure rfl

theorem trigger_ran :
    (journal.trigger day).run.Obeys (fun _ _ => True)
      (Since past (Reported journal day Run.report?)) past := by
  refine reported_then_hands createAndOpen_ran fun run past => ?_
  cases run with
  | busy => exact hands_pure rfl
  | completed report =>
    exact silent_then_hands (silent_always ⟨fun _ => rfl, fun _ => trivial⟩)
      fun _ _ => hands_pure rfl

theorem activate_ran :
    (journal.activate day).run.Obeys (fun _ _ => True)
      (Since past (Reported journal day fun run => run.bind Run.report?)) past := by
  refine silent_then_reported (silent_always ⟨fun _ => rfl, fun _ => trivial⟩) fun first past => ?_
  cases first with
  | false =>
    refine ⟨[], by simp, ?_⟩
    rintro run report hok hreport
    cases hok
    cases hreport
  | true => exact reported_then_hands trigger_ran fun run past => hands_pure rfl

/-- What is left to settle when it is known which note was opened last. -/
def settleAfter (journal : Journal) (report : Report) (last : Option Path) : Try Tick :=
  if last.any fun last => last.same report.note then pure (.unchanged report)
  else do
    journal.openNote report.note
    remember report.note
    pure (.opened report)

theorem tick_ran :
    (journal.tick day).run.Obeys (fun _ _ => True)
      (Since past (Reported journal day Tick.report?)) past := by
  refine reported_then_hands (alone_ran fun _ => materialize_ran) fun run past => ?_
  cases run with
  | busy => exact hands_pure rfl
  | completed report =>
    refine silent_then_hands (silent_always ⟨fun _ => rfl, fun _ => trivial⟩) fun last past => ?_
    show (settleAfter journal report last).run.Obeys _ _ _
    unfold settleAfter
    split
    · exact hands_pure rfl
    · refine silent_then_hands (openNote_makes_nothing report.note) fun _ past => ?_
      exact silent_then_hands (silent_always ⟨fun _ => rfl, fun _ => trivial⟩)
        fun _ _ => hands_pure rfl

/-- Every report comes from a run that went through during the call, and that
made all that the call made. -/
theorem call_ran (journal : Journal) (today : Date) (call : Call) :
    (call.work journal today).run.Obeys (fun _ _ => True)
      (Since [] (Reported journal (call.date today).toDay call.report?)) [] := by
  cases call with
  | ensureToday => exact alone_ran fun _ => materialize_ran
  | ensureFor date => exact alone_ran fun _ => materialize_ran
  | createAndOpen => exact createAndOpen_ran
  | openNote path =>
    refine (Procedure.obeys_ends _ []).mono (fun _ _ h => h) ?_
    rintro new r - ⟨new', hnew, _⟩
    exact ⟨new', hnew, fun _ _ _ hreport => by cases hreport⟩
  | activate => exact activate_ran
  | trigger => exact trigger_ran
  | tick => exact tick_ran

theorem Event.ran {σ : Type} (journal : Journal) {e : Event σ} {w : World σ} {result : e.call.Result}
    {report : Report} (hok : e.toMoment.outcome journal e.call w = .ok result)
    (hreport : e.call.report? result = some report) :
    Ran journal e.date.toDay (e.log journal w) report := by
  obtain ⟨new, hnew, hreported⟩ := (call_ran journal e.today e.call).run_goal e.answer w
  obtain rfl : e.log journal w = new := List.append_cancel_left hnew
  exact hreported result report hok hreport

/-! ## What a report says -/

/-- What a call has done to a memory so far, as far as its own notes go. -/
structure Tracked (journal : Journal) (day : Day) (before : Memory) (past : Past) (now : Memory) :
    Prop where
  present : Present past now
  stays : ∀ path, before.has path = true → now.has path = true
  /-- What was made was missing before. -/
  made : ∀ f ∈ made past, before.has f.1 = false
  /-- A note that is new was made. -/
  new : ∀ period, now.has (journal.layout.locate period day).file = true →
    before.has (journal.layout.locate period day).file = true
      ∨ ∃ f ∈ Journal.made past, f.1.same (journal.layout.locate period day).file = true

variable {before now : Memory}

theorem Tracked.refl (before : Memory) : Tracked journal day before [] before where
  present path := by simp [Known]
  stays _ h := h
  made f hf := by simp [Journal.made] at hf
  new _ h := .inl h

/-- An exchange that is not with the storage. -/
theorem Tracked.silent (h : Tracked journal day before past now) {e : Exchange interface}
    (hshows : ∀ path, ¬ Shows path e) (hmade : made? e = none) :
    Tracked journal day before (past ++ [e]) now := by
  have hpast : Journal.made (past ++ [e]) = Journal.made past := by
    have he : Journal.made [e] = [] := made_of_silent (by simpa using hmade)
    rw [made_append, he, List.append_nil]
  exact ⟨h.present.silent hshows, h.stays, by rw [hpast]; exact h.made, by rw [hpast]; exact h.new⟩

/-- One answer of the storage, under any faults. -/
theorem Tracked.answer (h : Tracked journal day before past now) (faults : Faults)
    {q : Storage.Query} (hq : MayCall journal day past (.storage q)) :
    Tracked journal day before (past ++ [⟨.storage q, (seen faults q now).1⟩])
      (seen faults q now).2 where
  present := h.present.told faults q
  stays path hpath := Storage.has_answer faults q (h.stays path hpath)
  made f hf := by
    rw [made_append, List.mem_append] at hf
    rcases hf with hf | hf
    · exact h.made f hf
    · obtain ⟨e, he, hmade⟩ := List.mem_filterMap.mp hf
      rw [List.mem_singleton.mp he] at hmade
      have hfree : now.has f.1 = false := (Storage.textAt?_of_made faults hmade).1
      cases hbefore : before.has f.1 with
      | false => rfl
      | true =>
        rw [h.stays f.1 hbefore] at hfree
        cases hfree
  new period hnow := by
    have hold : now.has (journal.layout.locate period day).file = true →
        before.has (journal.layout.locate period day).file = true
          ∨ ∃ f ∈ Journal.made (past ++ [⟨.storage q, (seen faults q now).1⟩]),
            f.1.same (journal.layout.locate period day).file = true := by
      intro hnow
      refine (h.new period hnow).imp_right ?_
      rintro ⟨f, hf, hsame⟩
      exact ⟨f, by simp [hf], hsame⟩
    rcases Memory.has_iff.mp hnow with ⟨text, htext⟩ | hfolder
    · rcases Storage.textAt?_of_answer faults hq.not_overwrites htext with
        htext | ⟨path, rfl, hmade, hsame, _⟩
      · exact hold (Memory.has_iff.mpr (.inl ⟨text, htext⟩))
      · refine .inr ⟨(path, text), ?_, hsame⟩
        rw [made_append, List.mem_append]
        exact .inr (List.mem_filterMap.mpr ⟨_, List.mem_singleton_self _, hmade⟩)
    · rcases Storage.hasFolder_of_answer faults hfolder with hfolder | ⟨folder, rfl, a, ha, hsame⟩
      · exact hold (Memory.has_iff.mpr (.inr hfolder))
      · -- the folders that a call makes are no notes
        obtain ⟨p, rfl⟩ := hq.makeFolders_inv
        rw [journal.layout.folder_apart p period day day a ha] at hsame
        cases hsame

/-- One call, under any faults. -/
theorem Event.tracked (journal : Journal) {e : Event Memory} {faults : Faults}
    (he : e.backend = seen faults) (w : World Memory) :
    Tracked journal e.date.toDay w.outside (e.log journal w) (e.after journal w).outside := by
  have hstep : ∀ past q (w' : World Memory), MayCall journal e.date.toDay past q →
      Tracked journal e.date.toDay w.outside past w'.outside →
      Tracked journal e.date.toDay w.outside (past ++ [⟨q, (e.answer q w').1⟩])
        (e.answer q w').2.outside := by
    intro past q w' hq h
    cases q with
    | storage q =>
      simp only [Moment.answer, World.answer, he]
      exact h.answer faults hq
    | openNote path => exact h.silent (fun _ => id) rfl
    | keep q => exact h.silent (fun _ => id) rfl
  exact ((call_obeys journal e.today e.call).run_invariant hstep (.refl w.outside)).1

/-- A report says of a note that it was created exactly if nothing was in its
place before the call. -/
theorem Tracked.created_iff (h : Tracked journal day before past now) (hday : day.IsReal)
    (hran : Ran journal day past report) (period : Period) :
    report.ensured period = .created
      ↔ before.has (journal.layout.locate period day).file = false := by
  have hknown := hran.completes.known period
  obtain ⟨pre, during, post, rfl, hpre, hpost, hends⟩ := hran
  have hmade : Journal.made (pre ++ during ++ post) = Journal.made during := by
    simp [hpre, hpost]
  rw [ensured_eq_created (runGoal_of_ends hends) hday, ← hmade]
  constructor
  · rintro ⟨f, hf, hsame⟩
    rw [← Memory.has_congr hsame]
    exact h.made f hf
  · intro hfree
    refine (h.new period (h.present _ hknown)).resolve_left ?_
    rw [hfree]
    exact Bool.false_ne_true

/-! ## When the builder is asked -/

/-- The question is the builder's: it draws, it reads the template, or it looks
for something that is no note of the day and no folder of one. -/
def Consults (journal : Journal) (day : Day) : Query → Prop
  | .keep (.render _) => True
  | .storage (.read _) => True
  | .storage (.isPresent path) => ∀ period, path ≠ (journal.layout.locate period day).folder
      ∧ path ≠ (journal.layout.locate period day).file
  | _ => False

/-- It was looked for the day note, and it was not seen. -/
def Missed (journal : Journal) (day : Day) (past : Past) : Prop :=
  (⟨.storage (.isPresent (journal.layout.locate .day day).file), false⟩ : Exchange interface) ∈ past

/-- The builder is asked only after the day note was missed. -/
def Seeks (journal : Journal) (day : Day) (past : Past) (q : Query) : Prop :=
  Consults journal day q → Missed journal day past

/-- Making sure of a note is nothing for the builder. -/
theorem ensureAt_asks (period : Period) (text : String) :
    (tryOnStorage (ensureAt (journal.layout.locate period day) text)).run.Asks
      fun q => ¬ Consults journal day q := by
  rw [ensureAt, ensure, tryOnStorage_bind]
  refine Asks.attempt ?_ fun _ => ?_
  · rw [tryOnStorage, ExceptT.run_mk, ensureFolder_run]
    refine ⟨fun h => (h period).1 rfl, fun there => ?_⟩
    cases (there : Bool) with
    | true => exact trivial
    | false => exact ⟨id, fun _ => trivial⟩
  · rw [tryOnStorage, ExceptT.run_mk, ensureFile_run]
    refine ⟨fun h => (h period).2 rfl, fun there => ?_⟩
    cases (there : Bool) with
    | true => exact trivial
    | false => exact ⟨id, fun _ => trivial⟩

theorem seeks_of_asks {α : Type} {p : Work α} (h : p.Asks fun q => ¬ Consults journal day q) :
    p.Obeys (Seeks journal day) (fun _ _ => True) past :=
  (h.obeys (fun _ _ hq hconsults => absurd hconsults hq) past).mono (fun _ _ h => h)
    fun _ _ _ _ => trivial

theorem ensureDay_seeks :
    (journal.ensureDay day).run.Obeys (Seeks journal day) (fun _ _ => True) past := by
  refine ⟨fun h => absurd rfl (h .day).2, fun there => ?_⟩
  cases (there : Bool) with
  | true => exact trivial
  | false =>
    -- from here on the builder may do what it likes
    refine .of_past _ fun past' hpast q _ => hpast.subset ?_
    exact List.mem_append_right _ (List.mem_singleton_self _)

theorem materialize_seeks :
    (journal.materialize day).run.Obeys (Seeks journal day) (fun _ _ => True) past := by
  refine Obeys.followed (seeks_of_asks (ensureAt_asks .year _)) fun _ past => ?_
  refine Obeys.followed (seeks_of_asks (ensureAt_asks .month _)) fun _ past => ?_
  exact ensureDay_seeks.followed fun _ _ => trivial

theorem alone_seeks {work : Try Report}
    (h : ∀ past, work.run.Obeys (Seeks journal day) (fun _ _ => True) past) :
    (alone work).run.Obeys (Seeks journal day) (fun _ _ => True) past :=
  (alone_obeys (fun h => absurd h id) (fun _ h => absurd h id) (h _).since_start).mono
    (fun _ _ h => h) fun _ _ _ _ => trivial

theorem openNote_seeks (path : Path) :
    (journal.openNote path).run.Obeys (Seeks journal day) (fun _ _ => True) past := by
  refine seeks_of_asks ((openNote_only journal path).mono ?_)
  rintro q (hfinds | ⟨_, rfl⟩) hconsults
  · cases q with
    | storage q => cases q <;> first | exact hfinds | exact hconsults
    | openNote _ => exact hconsults
    | keep _ => exact hfinds
  · exact hconsults

theorem createAndOpen_seeks :
    (journal.createAndOpen day).run.Obeys (Seeks journal day) (fun _ _ => True) past := by
  refine alone_seeks fun past => materialize_seeks.followed fun report past => ?_
  exact (openNote_seeks report.note).followed fun _ _ => trivial

theorem trigger_seeks :
    (journal.trigger day).run.Obeys (Seeks journal day) (fun _ _ => True) past := by
  refine createAndOpen_seeks.followed fun run past => ?_
  cases run with
  | busy => exact trivial
  | completed report => exact ⟨fun h => absurd h id, fun _ => trivial⟩

/-- No call asks the builder before it has missed the day note. -/
theorem call_seeks (journal : Journal) (today : Date) (call : Call) :
    (call.work journal today).run.Obeys (Seeks journal (call.date today).toDay)
      (fun _ _ => True) [] := by
  cases call with
  | ensureToday => exact alone_seeks fun _ => materialize_seeks
  | ensureFor date => exact alone_seeks fun _ => materialize_seeks
  | createAndOpen => exact createAndOpen_seeks
  | openNote path => exact openNote_seeks path
  | trigger => exact trigger_seeks
  | activate =>
    refine ⟨fun h => absurd h id, fun first => ?_⟩
    cases (first : Bool) with
    | false => exact trivial
    | true => exact trigger_seeks.followed fun _ _ => trivial
  | tick =>
    refine Obeys.followed (alone_seeks fun _ => materialize_seeks) fun run past => ?_
    cases run with
    | busy => exact trivial
    | completed report =>
      refine ⟨fun h => absurd h id, fun last => ?_⟩
      show (settleAfter journal report last).run.Obeys _ _ _
      unfold settleAfter
      split
      · exact trivial
      · exact (openNote_seeks report.note).followed fun _ _ => ⟨fun h => absurd h id,
          fun _ => trivial⟩

/-- The day note was there all the time, and the builder was never asked. -/
structure Undrawn (journal : Journal) (day : Day) (selector : Selector) (past : Past)
    (w : World Memory) : Prop where
  there : w.outside.has (journal.layout.locate .day day).file = true
  selector : w.session.selector = selector
  found : ¬ Missed journal day past
  unasked : ∀ x ∈ past, ¬ Consults journal day x.query

/-- One answer, by a storage that is not blind. -/
theorem Undrawn.answer {faults : Faults} (hblind : faults.blind = false) {host : Host Memory}
    (hhost : ∀ path w, (host path w).2 = w) {selector : Selector} {w : World Memory}
    (h : Undrawn journal day selector past w) {q : Query} (hq : Seeks journal day past q) :
    Undrawn journal day selector (past ++ [⟨q, (World.answer (seen faults) host q w).1⟩])
      (World.answer (seen faults) host q w).2 where
  there := by
    cases q with
    | storage q => exact Storage.has_answer faults q h.there
    | openNote path =>
      show (host path w).2.outside.has _ = true
      rw [hhost]
      exact h.there
    | keep q => exact h.there
  selector := by
    have hconsults : ¬ Consults journal day q := fun hc => h.found (hq hc)
    cases q with
    | storage q => exact h.selector
    | openNote path =>
      show (host path w).2.session.selector = _
      rw [hhost]
      exact h.selector
    | keep q =>
      cases q with
      | render rendering => exact absurd trivial hconsults
      | _ => exact h.selector
  found hmissed := by
    rcases List.mem_append.mp hmissed with hold | hnew
    · exact h.found hold
    · -- a look at the day note would have shown it
      have hshown := Storage.isPresent_seen hblind w.outside (journal.layout.locate .day day).file
      rw [h.there] at hshown
      rw [List.mem_singleton] at hnew
      obtain rfl : .storage (.isPresent (journal.layout.locate .day day).file) = q :=
        congrArg Exchange.query hnew
      have hreply := eq_of_heq (Exchange.mk.inj hnew).2
      exact Bool.false_ne_true (hreply.trans (congrArg Prod.fst hshown))
  unasked x hx := by
    rcases List.mem_append.mp hx with hx | hx
    · exact h.unasked x hx
    · rw [List.mem_singleton.mp hx]
      exact fun hc => h.found (hq hc)

/-- Who sees the day note does not ask the builder and draws nothing. -/
theorem Event.undrawn (journal : Journal) {e : Event Memory} {faults : Faults}
    (he : e.backend = seen faults) (hblind : faults.blind = false) {w : World Memory}
    (hthere : w.outside.has (journal.layout.locate .day e.date.toDay).file = true) :
    Undrawn journal e.date.toDay w.session.selector (e.log journal w) (e.after journal w) := by
  have hstep : ∀ (past : Past) q (w' : World Memory), Seeks journal e.date.toDay past q →
      Undrawn journal e.date.toDay w.session.selector past w' →
      Undrawn journal e.date.toDay w.session.selector (past ++ [⟨q, (e.answer q w').1⟩])
        (e.answer q w').2 := by
    intro past q w' hq h
    simp only [Moment.answer, he]
    exact h.answer hblind (fun _ _ => rfl) hq
  have hstart : Undrawn journal e.date.toDay w.session.selector [] w :=
    ⟨hthere, rfl, by simp [Missed], by simp⟩
  exact ((call_seeks journal e.today e.call).run_invariant hstep hstart).1

/-! ## A run that finds everything -/

section Noop

variable {faults : Faults} {w : World Memory} (host : Host Memory)

/-- A run over notes that are all there reports so and leaves everything as it
is, whatever does not work, if only the storage sees them. -/
theorem ensureFor_present (hblind : faults.blind = false) (hclosed : w.outside.Closed)
    (hfree : w.session.busy = false)
    (hthere : ∀ period, w.outside.has (journal.layout.locate period day).file = true) :
    World.perform (seen faults) host (journal.ensureFor day) w
      = (.ok (.completed ⟨day, .present, .present, .present,
        (journal.layout.locate .day day).file⟩), w) := by
  have hfolder : ∀ period, w.outside.has (journal.layout.locate period day).folder = true := by
    intro period
    have hparent := hclosed _ (hthere period)
    rw [Memory.hasParent_fits _ (journal.layout.locate_fits period day)] at hparent
    exact Memory.has_iff.mpr (.inr hparent)
  have hnote : ∀ period text, World.perform (seen faults) host
      (tryOnStorage (ensureAt (journal.layout.locate period day) text)) (w.marked true)
        = (.ok .present, w.marked true) := by
    intro period text
    have hrun : (ensureAt (journal.layout.locate period day) text).run.run (seen faults)
        (w.marked true).outside = (.ok .present, w.outside) :=
      run_ensureAt_present text hblind (hfolder period) (hthere period)
    rw [perform_tryOnStorage, hrun]
    rfl
  have hlook : World.perform (seen faults) host
      (onStorage (Storage.isPresent (journal.layout.locate .day day).file)).always (w.marked true)
        = (.ok true, w.marked true) := by
    have hseen : seen faults (.isPresent (journal.layout.locate .day day).file)
        (w.marked true).outside = (true, w.outside) := by
      rw [← hthere .day]
      exact Storage.isPresent_seen hblind _ _
    rw [perform_isPresent, hseen]
    rfl
  have hday : World.perform (seen faults) host (journal.ensureDay day) (w.marked true)
      = (.ok .present, w.marked true) := by
    rw [ensureDay_eq, World.perform_ok _ hlook]
    rfl
  have hmade : World.perform (seen faults) host (journal.materialize day) (w.marked true)
      = (.ok ⟨day, .present, .present, .present, (journal.layout.locate .day day).file⟩,
        w.marked true) := by
    rw [materialize, World.perform_ok _ (hnote .year _), World.perform_ok _ (hnote .month _),
      World.perform_ok _ hday]
    rfl
  have hmarks : (w.marked true).marked w.session.busy = w := rfl
  rw [hfree] at hmarks
  rw [ensureFor, perform_alone _ _ hfree, hmade, hmarks]
  rfl

end Noop

/-! ## From a run to a later one -/

/-- The storage can come about, and nothing is in flight. -/
structure Settled (w : World Memory) : Prop where
  reachable : w.outside.Reachable
  free : w.session.busy = false

/-- Between calls nothing is in flight. -/
theorem free_after {σ : Type} (journal : Journal) (e : Event σ) {w : World σ}
    (hfree : w.session.busy = false) : (e.after journal w).session.busy = false := by
  obtain ⟨m, call⟩ := e
  have hensure : ∀ day, (World.perform m.backend m.host (journal.ensureFor day) w).2.session.busy
      = false := by
    intro day
    rw [ensureFor, perform_alone _ _ hfree]
    rfl
  cases call with
  | ensureToday => exact hensure _
  | ensureFor date => exact hensure _
  | createAndOpen =>
    show (World.perform m.backend m.host (alone _) w).2.session.busy = false
    rw [perform_alone _ _ hfree]
    rfl
  | openNote path =>
    have hsession := (openNote_opens m journal path w).2
    exact (congrArg Session.busy hsession).trans hfree
  | activate => exact congrArg (·.1) (marks_after journal (e := ⟨m, .activate⟩) trivial hfree)
  | trigger => exact congrArg (·.1) (marks_after journal (e := ⟨m, .trigger⟩) trivial hfree)
  | tick => exact congrArg (·.1) (marks_after journal (e := ⟨m, .tick⟩) trivial hfree)

theorem Event.settled (journal : Journal) {e : Event Memory} {faults : Faults}
    (he : e.backend = seen faults) {w : World Memory} (h : Settled w) :
    Settled (e.after journal w) where
  reachable := by
    have hstep : ∀ (past : Past) q (w' : World Memory), MayCall journal e.date.toDay past q →
        w'.outside.Reachable → (e.answer q w').2.outside.Reachable := by
      intro past q w' _ hw
      cases q with
      | storage q =>
        simp only [Moment.answer, World.answer, he]
        exact hw.seen faults q
      | openNote path => exact hw
      | keep q => exact hw
    exact ((call_obeys journal e.today e.call).run_invariant hstep h.reachable).1
  free := free_after journal e h.free

/-- What is there stays there, and the world stays settled. -/
theorem settled_afterAll (journal : Journal) {events : List (Event Memory)}
    (hfaults : ∀ e ∈ events, ∃ faults, e.backend = seen faults) {w : World Memory}
    (h : Settled w) :
    Settled (afterAll journal events w)
      ∧ ∀ path, w.outside.has path = true → (afterAll journal events w).outside.has path = true := by
  induction events generalizing w with
  | nil => exact ⟨h, fun _ hpath => hpath⟩
  | cons e events ih =>
    obtain ⟨faults, he⟩ := hfaults e List.mem_cons_self
    have hstays := (Event.tracked journal he w).stays
    obtain ⟨hsettled, hlater⟩ := ih (fun e' he' => hfaults e' (List.mem_cons_of_mem _ he'))
      (Event.settled journal he h)
    exact ⟨hsettled, fun path hpath => hlater path (hstays path hpath)⟩

/-- Of any call under any faults: a report says of each note that it was created
exactly if nothing was in its place before; and if the storage shows the day
note, then nothing is drawn and the builder is not asked. Once a run for a day
went through, whatever is called afterwards and whatever fails, a run for that
day over a storage that is not blind finds all three notes and leaves
everything as it is. -/
theorem reports_exact (journal : Journal) (e : Event Memory) {faults : Faults}
    (he : e.backend = seen faults) {w : World Memory} (hreach : w.outside.Reachable)
    (hfree : w.session.busy = false) :
    (∀ result report, e.toMoment.outcome journal e.call w = .ok result →
      e.call.report? result = some report →
      Completes journal e.date.toDay (e.log journal w) report
        ∧ ∀ period, report.ensured period = .created
          ↔ w.outside.has (journal.layout.locate period e.date.toDay).file = false)
    ∧ (faults.blind = false →
      w.outside.has (journal.layout.locate .day e.date.toDay).file = true →
      (e.after journal w).session.selector = w.session.selector
        ∧ ∀ x ∈ e.log journal w, ¬ Consults journal e.date.toDay x.query)
    ∧ ∀ report, Completes journal e.date.toDay (e.log journal w) report →
      ∀ later : List (Event Memory), (∀ e' ∈ later, ∃ faults, e'.backend = seen faults) →
      ∀ (faults' : Faults) (host : Host Memory), faults'.blind = false →
      World.perform (seen faults') host (journal.ensureFor e.date.toDay)
          (afterAll journal later (e.after journal w))
        = (.ok (.completed ⟨e.date.toDay, .present, .present, .present,
            (journal.layout.locate .day e.date.toDay).file⟩),
          afterAll journal later (e.after journal w)) := by
  have htracked := Event.tracked journal he w
  have hsettled : Settled (e.after journal w) := Event.settled journal he ⟨hreach, hfree⟩
  refine ⟨?_, ?_, ?_⟩
  · intro result report hok hreport
    have hran := Event.ran journal hok hreport
    exact ⟨hran.completes, htracked.created_iff e.date.isReal hran⟩
  · intro hblind hthere
    have hundrawn := Event.undrawn journal he hblind hthere
    exact ⟨hundrawn.selector, hundrawn.unasked⟩
  · intro report hcompletes later hlater faults' host hblind
    obtain ⟨hafter, hstays⟩ := settled_afterAll journal hlater hsettled
    refine ensureFor_present host hblind hafter.reachable.closed hafter.free fun period => ?_
    exact hstays _ (htracked.present _ (hcompletes.known period))

theorem reports_exact_own_year_note :
    let journal : Journal :=
      ⟨.under ⟨"notes"⟩, ⟨[⟨"Begin.", "Seneca"⟩], [⟨"Breathe."⟩]⟩, .sections .allOn⟩
    let day : Day := ⟨2024, 5, 1⟩
    let memory : Memory := Memory.empty.withFile ⟨"notes/2024/2024.md"⟩ "my year"
    let w : World Memory := ⟨memory, .start (.seeded 7)⟩
    let broken : Faults := ⟨true, true, true, true, false, []⟩
    let host : Host Memory := fun _ w => (.ok (), w)
    let first : Event Memory :=
      { call := .ensureFor ⟨day, by decide⟩
        today := ⟨⟨2024, 5, 2⟩, by decide⟩
        backend := seen .none
        shows := fun _ _ => .ok () }
    let other : Event Memory := { first with call := .trigger, backend := seen broken }
    let later := afterAll journal [other] (first.after journal w)
    memory.Reachable ∧ w.session.busy = false
      ∧ (∃ report, first.toMoment.outcome journal first.call w = .ok (.completed report)
        ∧ report.ensured .year ≠ .created ∧ report.ensured .month = .created)
      ∧ World.perform (seen broken) host (journal.ensureFor day) later
        = (.ok (.completed ⟨day, .present, .present, .present,
          (journal.layout.locate .day day).file⟩), later) := by
  intro journal day memory w broken host first other later
  have hreach : memory.Reachable := Memory.Reachable.empty.withFile _ _
  have hsome : ((first.toMoment.outcome journal first.call w).toOption.bind
      Run.report?).isSome = true := by decide +kernel
  obtain ⟨hreports, _, hlater⟩ := reports_exact journal first rfl (w := w) hreach rfl
  rcases hrun : first.toMoment.outcome journal first.call w with e | ⟨report⟩ | _
  all_goals rw [hrun] at hsome
  · cases hsome
  · obtain ⟨hcompletes, hcreated⟩ := hreports _ report hrun rfl
    refine ⟨hreach, rfl, ⟨report, rfl, ?_, ?_⟩, ?_⟩
    · exact fun h => absurd ((hcreated .year).mp h) (by decide +kernel)
    · exact (hcreated .month).mpr (by decide +kernel)
    · exact hlater report hcompletes [other] (by simpa using ⟨broken, rfl⟩) broken host rfl
  · cases hsome

end Daybook.Journal
