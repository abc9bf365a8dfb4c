/-
Daybook.Proofs.Journal.Lifecycle — what the calls of a lifecycle come to.

A trigger makes the notes of today and opens the day note; an activation is
a trigger, but only the first one; a tick makes the notes and *settles*
then: it opens the day note if that is another one than the last. For each of
them the lemmas here say which notes it has shown, and that it keeps in mind
the note of today exactly if that one was opened (`trigger_opens`,
`tick_opens`). They hold however the parts of a call fail.
-/
import Daybook.Proofs.Journal.Performed

namespace Daybook.Journal

open Calendar (Date Day)

variable {σ : Type}

/-! ## Making and opening the note of today -/

section Parts

variable {backend : Storage.Backend σ} {host : Host σ} {w w₁ w₂ : World σ} {journal : Journal}
  {day : Day} {report : Report} {cause : JournalError} {found : Path}

/-- Making the notes of a day and opening the day note. -/
def makeAndShow (journal : Journal) (day : Day) : Try Report := do
  let report ← journal.materialize day
  journal.openNote report.note
  return report

theorem makeAndShow_failed
    (h : World.perform backend host (journal.materialize day) w = (.error cause, w₁)) :
    World.perform backend host (makeAndShow journal day) w = (.error cause, w₁)
      ∧ shown (World.exchanges backend host w (makeAndShow journal day)) = [] := by
  rw [makeAndShow, World.perform_error _ h, World.exchanges_error _ h]
  exact ⟨rfl, (quiet_materialize backend host w journal day).shown⟩

theorem makeAndShow_made
    (h : World.perform backend host (journal.materialize day) w = (.ok report, w₁)) :
    World.perform backend host (makeAndShow journal day) w
        = ((World.perform backend host (journal.openNote report.note) w₁).1.map fun _ => report,
          (World.perform backend host (journal.openNote report.note) w₁).2)
      ∧ shown (World.exchanges backend host w (makeAndShow journal day))
        = shown (World.exchanges backend host w₁ (journal.openNote report.note)) := by
  rw [makeAndShow, World.perform_ok _ h, World.exchanges_ok _ h, shown_append,
    (quiet_materialize backend host w journal day).shown, World.perform_bind_pure,
    World.exchanges_bind_pure]
  exact ⟨rfl, rfl⟩

theorem trigger_failed (hfree : w.session.busy = false)
    (h : World.perform backend host (makeAndShow journal day) (w.marked true)
      = (.error cause, w₁)) :
    World.perform backend host (journal.trigger day) w = (.error cause, w₁.marked false)
      ∧ shown (World.exchanges backend host w (journal.trigger day))
        = shown (World.exchanges backend host (w.marked true) (makeAndShow journal day)) := by
  have halone : World.perform backend host (journal.createAndOpen day) w
      = (.error cause, w₁.marked false) := by
    refine (perform_alone backend host hfree (makeAndShow journal day)).trans ?_
    rw [h]
    rfl
  rw [trigger, World.perform_error _ halone, World.exchanges_error _ halone]
  exact ⟨rfl, shown_alone backend host hfree _⟩

theorem trigger_done (hfree : w.session.busy = false)
    (h : World.perform backend host (makeAndShow journal day) (w.marked true) = (.ok report, w₁)) :
    World.perform backend host (journal.trigger day) w
        = (.ok (.completed report), (w₁.marked false).remembering report.note)
      ∧ shown (World.exchanges backend host w (journal.trigger day))
        = shown (World.exchanges backend host (w.marked true) (makeAndShow journal day)) := by
  have halone : World.perform backend host (journal.createAndOpen day) w
      = (.ok (.completed report), w₁.marked false) := by
    refine (perform_alone backend host hfree (makeAndShow journal day)).trans ?_
    rw [h]
    rfl
  rw [trigger, World.perform_ok _ halone, World.exchanges_ok _ halone, shown_append]
  refine ⟨rfl, (List.append_nil _).trans (shown_alone backend host hfree _)⟩

/-- A trigger that makes the notes and finds the day note has it shown once. -/
theorem shown_trigger (hfree : w.session.busy = false)
    (hmade : World.perform backend host (journal.materialize day) (w.marked true)
      = (.ok report, w₁))
    (hfound : (w₁.lookUp backend journal report.note).1 = some found) :
    ∃ reply, shown (World.exchanges backend host w (journal.trigger day)) = [(found, reply)] := by
  have htrigger : shown (World.exchanges backend host w (journal.trigger day))
      = shown (World.exchanges backend host (w.marked true) (makeAndShow journal day)) := by
    rcases h : World.perform backend host (makeAndShow journal day) (w.marked true)
      with ⟨cause | report, w₂⟩
    · exact (trigger_failed hfree h).2
    · exact (trigger_done hfree h).2
  rcases hlookUp : w₁.lookUp backend journal report.note with ⟨found', w₂⟩
  rw [hlookUp] at hfound
  obtain rfl : found' = some found := hfound
  refine ⟨(host found w₂).1, htrigger.trans ?_⟩
  rw [(makeAndShow_made hmade).2]
  exact (perform_openNote_found host hlookUp).2

/-! ## Ticks -/

/-- What a tick does when the notes are there. -/
def settle (journal : Journal) (report : Report) : Try Tick := do
  if (← lastOpened).any fun last => last.same report.note then
    return .unchanged report
  journal.openNote report.note
  remember report.note
  return .opened report

theorem tick_eq : journal.tick day = journal.ensureFor day >>= fun
    | .busy => pure .busy
    | .completed report => settle journal report := rfl

theorem tick_failed
    (h : World.perform backend host (journal.ensureFor day) w = (.error cause, w₁)) :
    World.perform backend host (journal.tick day) w = (.error cause, w₁)
      ∧ World.exchanges backend host w (journal.tick day)
        = World.exchanges backend host w (journal.ensureFor day) := by
  rw [tick_eq, World.perform_error _ h, World.exchanges_error _ h]
  exact ⟨rfl, rfl⟩

theorem tick_settles
    (h : World.perform backend host (journal.ensureFor day) w = (.ok (.completed report), w₁)) :
    World.perform backend host (journal.tick day) w
        = World.perform backend host (settle journal report) w₁
      ∧ World.exchanges backend host w (journal.tick day)
        = World.exchanges backend host w (journal.ensureFor day)
          ++ World.exchanges backend host w₁ (settle journal report) := by
  rw [tick_eq, World.perform_ok _ h, World.exchanges_ok _ h]
  exact ⟨rfl, rfl⟩

theorem settle_same (backend : Storage.Backend σ) (host : Host σ) (journal : Journal)
    (h : w.session.lastOpened.any (fun last => last.same report.note) = true) :
    World.perform backend host (settle journal report) w = (.ok (.unchanged report), w)
      ∧ World.exchanges backend host w (settle journal report)
        = [⟨.keep .lastOpened, w.session.lastOpened⟩] := by
  have hlast := World.perform_lastOpened backend host w
  constructor
  · refine (World.perform_ok _ hlast).trans ?_
    rw [if_pos h]
    rfl
  · refine (World.exchanges_ok _ hlast).trans ?_
    rw [if_pos h]
    rfl

/-- Another note than the last is opened, and kept in mind if that works. -/
theorem settle_other (backend : Storage.Backend σ) (host : Host σ) (journal : Journal)
    (h : w.session.lastOpened.any (fun last => last.same report.note) = false) :
    World.perform backend host (settle journal report) w
        = (match World.perform backend host (journal.openNote report.note) w with
          | (.ok (), w₁) => (.ok (.opened report), w₁.remembering report.note)
          | (.error cause, w₁) => (.error cause, w₁))
      ∧ shown (World.exchanges backend host w (settle journal report))
        = shown (World.exchanges backend host w (journal.openNote report.note)) := by
  have hlast := World.perform_lastOpened backend host w
  have hne : ¬ w.session.lastOpened.any (fun last => last.same report.note) = true := by simp [h]
  rcases hopen : World.perform backend host (journal.openNote report.note) w with ⟨_ | ⟨⟩, w₁⟩
  all_goals constructor
  · refine (World.perform_ok _ hlast).trans ?_
    rw [if_neg hne]
    exact World.perform_error _ hopen
  · refine (congrArg shown (World.exchanges_ok _ hlast)).trans ?_
    rw [if_neg hne, shown_append]
    exact congrArg shown (World.exchanges_error _ hopen)
  · refine (World.perform_ok _ hlast).trans ?_
    rw [if_neg hne]
    exact World.perform_ok _ hopen
  · refine (congrArg shown (World.exchanges_ok _ hlast)).trans ?_
    rw [if_neg hne, shown_append]
    refine (congrArg shown (World.exchanges_ok _ hopen)).trans ?_
    rw [shown_append]
    exact List.append_nil _

end Parts

/-! ## Activating -/

section Activating

variable (backend : Storage.Backend σ) (host : Host σ) {w : World σ} (journal : Journal)
  (day : Day)

/-- The first activation is a trigger. -/
theorem activate_first (h : w.session.activated = false) :
    World.perform backend host (journal.activate day) w
        = ((World.perform backend host (journal.trigger day) w.activating).1.map some,
          (World.perform backend host (journal.trigger day) w.activating).2)
      ∧ shown (World.exchanges backend host w (journal.activate day))
        = shown (World.exchanges backend host w.activating (journal.trigger day)) := by
  have hmark : World.perform backend host markActivated.always w = (.ok true, w.activating) := by
    show (Except.ok (!w.session.activated), w.activating) = _
    rw [h]
    rfl
  constructor
  · exact (World.perform_ok _ hmark).trans (World.perform_bind_pure _ _ _ _ _)
  · refine (congrArg shown (World.exchanges_ok _ hmark)).trans ?_
    rw [shown_append]
    exact congrArg shown (World.exchanges_bind_pure _ _ _ _ _)

/-- A later one does nothing at all. -/
theorem activate_later (h : w.session.activated = true) :
    World.perform backend host (journal.activate day) w = (.ok none, w)
      ∧ World.exchanges backend host w (journal.activate day)
        = [⟨.keep .markActivated, false⟩] := by
  have hmark : World.perform backend host markActivated.always w = (.ok false, w) := by
    show (Except.ok (!w.session.activated), w.activating) = _
    obtain ⟨outside, selector, busy, activated, lastOpened, warnings⟩ := w
    simp only at h
    rw [h]
    rfl
  constructor
  · exact World.perform_ok _ hmark
  · refine (World.exchanges_ok _ hmark).trans ?_
    show ([⟨.keep .markActivated, !w.session.activated⟩] : Past) = _
    rw [h]
    rfl

end Activating

/-! ## What is opened -/

/-- A note was opened. -/
def opened (log : Past) : Bool :=
  (shown log).any fun s => s.2.isOk

/-- At most one note was to be opened, it was this one, and the result tells
whether it was opened. -/
structure Opens (path : Path) (log : Past) (ok : Bool) : Prop where
  once : (shown log).length ≤ 1
  path : ∀ s ∈ shown log, s.1.same path = true
  opened : opened log = ok

theorem Opens.of_shown {path : Path} {log log' : Past} {ok : Bool} (h : Opens path log ok)
    (hlog : shown log' = shown log) : Opens path log' ok where
  once := hlog ▸ h.once
  path := hlog ▸ h.path
  opened := by rw [Journal.opened, hlog]; exact h.opened

theorem Opens.none {path : Path} {log : Past} (h : shown log = []) : Opens path log false where
  once := by simp [h]
  path := by simp [h]
  opened := by simp [Journal.opened, h]

theorem isOk_map {ε α β : Type} (f : α → β) (r : Except ε α) : (r.map f).isOk = r.isOk := by
  cases r <;> rfl

section Moments

variable (m : Moment σ) {w w₁ : World σ} {journal : Journal} {report : Report}

theorem openNote_opens (journal : Journal) (path : Path) (w : World σ) :
    Opens path (World.exchanges m.backend m.host w (journal.openNote path))
        (World.perform m.backend m.host (journal.openNote path) w).1.isOk
      ∧ (World.perform m.backend m.host (journal.openNote path) w).2.session = w.session := by
  rcases hfound : w.lookUp m.backend journal path with ⟨_ | found, w₁⟩
  · obtain ⟨hperform, hshown⟩ := perform_openNote_missing m.host hfound
    rw [hperform]
    exact ⟨.none hshown, session_of_lookUp _ _ hfound⟩
  · obtain ⟨hperform, hshown⟩ := perform_openNote_found m.host hfound
    rw [hperform]
    refine ⟨⟨by simp [hshown], ?_, ?_⟩, session_of_lookUp _ _ hfound⟩
    · simpa [hshown] using same_of_lookUp _ _ hfound
    · simp [opened, hshown, Moment.host]

theorem makeAndShow_opens (journal : Journal) (day : Day) (w : World σ) :
    Opens (journal.layout.locate .day day).file
        (World.exchanges m.backend m.host w (makeAndShow journal day))
        (World.perform m.backend m.host (makeAndShow journal day) w).1.isOk
      ∧ (World.perform m.backend m.host (makeAndShow journal day) w).2.session.marks
        = w.session.marks
      ∧ ∀ report, (World.perform m.backend m.host (makeAndShow journal day) w).1 = .ok report →
        report.note = (journal.layout.locate .day day).file := by
  have hquiet := quiet_materialize m.backend m.host w journal day
  rcases hmade : World.perform m.backend m.host (journal.materialize day) w
    with ⟨cause | report, w₁⟩
  all_goals rw [hmade] at hquiet
  · obtain ⟨hperform, hshown⟩ := makeAndShow_failed hmade
    rw [hperform]
    exact ⟨.none hshown, hquiet.marks, fun _ h => by cases h⟩
  · obtain ⟨hperform, hshown⟩ := makeAndShow_made hmade
    obtain ⟨hopens, hsession⟩ := openNote_opens m journal report.note w₁
    have hnote := note_of_materialize m.backend m.host w (congrArg Prod.fst hmade)
    rw [hperform]
    refine ⟨?_, by rw [Session.marks, hsession]; exact hquiet.marks, ?_⟩
    · rw [isOk_map, ← hnote]
      exact hopens.of_shown hshown
    · intro report' h
      rcases hopen : (World.perform m.backend m.host (journal.openNote report.note) w₁).1
      all_goals
        rw [hopen] at h
        cases h
      exact hnote

/-- Whatever comes of it, a trigger opens at most the note of today and keeps
in mind whether it did. -/
theorem trigger_opens (journal : Journal) (day : Day) (hfree : w.session.busy = false) :
    Opens (journal.layout.locate .day day).file
        (World.exchanges m.backend m.host w (journal.trigger day))
        (World.perform m.backend m.host (journal.trigger day) w).1.isOk
      ∧ (World.perform m.backend m.host (journal.trigger day) w).2.session.marks
        = (false, w.session.activated,
          if opened (World.exchanges m.backend m.host w (journal.trigger day))
          then some (journal.layout.locate .day day).file else w.session.lastOpened) := by
  obtain ⟨hopens, hmarks, hnote⟩ := makeAndShow_opens m journal day (w.marked true)
  rcases hmade : World.perform m.backend m.host (makeAndShow journal day) (w.marked true)
    with ⟨cause | report, w₁⟩
  all_goals rw [hmade] at hopens hmarks hnote
  · obtain ⟨hperform, hshown⟩ := trigger_failed hfree hmade
    have htrigger := hopens.of_shown hshown
    rw [hperform, htrigger.opened, marks_marked, hmarks]
    exact ⟨htrigger, rfl⟩
  · obtain ⟨hperform, hshown⟩ := trigger_done hfree hmade
    have htrigger := hopens.of_shown hshown
    rw [hperform, htrigger.opened, marks_remembering, marks_marked, hmarks, hnote report rfl]
    exact ⟨htrigger, rfl⟩

/-- When the note is another one than the last, a tick opens at most that
note, and it gives `opened` exactly if it did. -/
theorem settle_opens (journal : Journal)
    (h : w.session.lastOpened.any (fun last => last.same report.note) = false) :
    Opens report.note (World.exchanges m.backend m.host w (settle journal report))
        (World.perform m.backend m.host (settle journal report) w).1.isOk
      ∧ ((World.perform m.backend m.host (settle journal report) w).1.isOk = true ↔
        (World.perform m.backend m.host (settle journal report) w).1 = .ok (.opened report))
      ∧ (World.perform m.backend m.host (settle journal report) w).2.session.marks
        = (w.session.busy, w.session.activated,
          if opened (World.exchanges m.backend m.host w (settle journal report))
          then some report.note else w.session.lastOpened) := by
  obtain ⟨hperform, hshown⟩ := settle_other m.backend m.host journal h
  obtain ⟨hopens, hsession⟩ := openNote_opens m journal report.note w
  rcases hopen : World.perform m.backend m.host (journal.openNote report.note) w
    with ⟨cause | ⟨⟩, w₁⟩
  all_goals
    rw [hopen] at hperform hopens hsession
    have hsettle := hopens.of_shown hshown
    rw [hperform, hsettle.opened]
  · refine ⟨hsettle, by simp [Except.isOk, Except.toBool], ?_⟩
    rw [Session.marks, hsession]
    rfl
  · refine ⟨hsettle, by simp [Except.isOk, Except.toBool], ?_⟩
    rw [marks_remembering, Session.marks, hsession]
    rfl

/-- Making the notes without opening any leaves the marks alone. -/
theorem ensureFor_spec (journal : Journal) (day : Day) (hfree : w.session.busy = false) :
    ∃ r w₁, World.perform m.backend m.host (journal.materialize day) (w.marked true) = (r, w₁)
      ∧ World.perform m.backend m.host (journal.ensureFor day) w
        = (r.map .completed, w₁.marked false)
      ∧ shown (World.exchanges m.backend m.host w (journal.ensureFor day)) = []
      ∧ (w₁.marked false).session.marks = (false, w.session.activated, w.session.lastOpened)
      ∧ ∀ report, r = .ok report → report.note = (journal.layout.locate .day day).file := by
  have hquiet := quiet_materialize m.backend m.host (w.marked true) journal day
  rcases hmade : World.perform m.backend m.host (journal.materialize day) (w.marked true)
    with ⟨r, w₁⟩
  rw [hmade] at hquiet
  refine ⟨r, w₁, rfl, (perform_alone m.backend m.host hfree _).trans (by rw [hmade]),
    (shown_alone m.backend m.host hfree _).trans hquiet.shown, ?_, ?_⟩
  · rw [marks_marked, hquiet.marks]
    rfl
  · rintro report rfl
    exact note_of_materialize m.backend m.host _ (congrArg Prod.fst hmade)

/-- Whatever comes of it, a tick opens at most the note of today and keeps in
mind whether it did. -/
theorem tick_opens (journal : Journal) (day : Day) (hfree : w.session.busy = false) :
    (∃ ok, Opens (journal.layout.locate .day day).file
        (World.exchanges m.backend m.host w (journal.tick day)) ok)
      ∧ (World.perform m.backend m.host (journal.tick day) w).2.session.marks
        = (false, w.session.activated,
          if opened (World.exchanges m.backend m.host w (journal.tick day))
          then some (journal.layout.locate .day day).file else w.session.lastOpened) := by
  obtain ⟨r, w₁, _, hensure, hshown, hmarks, hnote⟩ := ensureFor_spec m journal day hfree
  cases r with
  | error cause =>
    obtain ⟨hperform, hlog⟩ := tick_failed hensure
    have hopens : Opens (journal.layout.locate .day day).file _ false := .none hshown
    rw [hperform, hlog, hopens.opened, hmarks]
    exact ⟨⟨false, hopens⟩, rfl⟩
  | ok report =>
    obtain ⟨hperform, hlog⟩ := tick_settles hensure
    have hshown' : shown (World.exchanges m.backend m.host w (journal.tick day))
        = shown (World.exchanges m.backend m.host (w₁.marked false) (settle journal report)) := by
      rw [hlog, shown_append, hshown]
      rfl
    -- making the notes has left alone which note was opened last
    cases hlast : (w₁.marked false).session.lastOpened.any fun last => last.same report.note with
    | true =>
      obtain ⟨hsettle, hasks⟩ := settle_same m.backend m.host journal hlast
      rw [hasks] at hshown'
      have hopens : Opens (journal.layout.locate .day day).file _ false := .none hshown'
      rw [hperform, hsettle, hopens.opened, hmarks]
      exact ⟨⟨false, hopens⟩, rfl⟩
    | false =>
      obtain ⟨hopens, _, hsettle⟩ := settle_opens m journal hlast
      have htick := hopens.of_shown hshown'
      rw [hperform, hsettle, htick.opened, hopens.opened, ← hnote report rfl]
      simp only [Session.marks, Prod.mk.injEq] at hmarks
      rw [hmarks.1, hmarks.2.1, hmarks.2.2]
      exact ⟨⟨_, htick⟩, rfl⟩

end Moments

end Daybook.Journal
