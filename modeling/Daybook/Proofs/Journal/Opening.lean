/-
Daybook.Proofs.Journal.Opening — when a lifecycle opens a note.

The calls of a lifecycle are made one after another, with any clock and any
failures. Between them no run is in flight, and the session knows whether
there was an activation and which day's note was opened last
(`marks_afterAll`): the note is kept in mind after it was opened, never
before, and two dates have the same note only if they are the same. From
this the discipline follows (`opening_discipline`): a tick never opens a
note again, a trigger always does, an activation does so once.
-/
import Daybook.Proofs.Journal.Lifecycle

namespace Daybook.Journal

open Calendar (Date Day)
open Storage (Memory)

variable {σ : Type}

/-! ## Call after call -/

/-- The call is one of the three of a lifecycle. -/
def Call.OfLifecycle : Call → Prop
  | .activate | .trigger | .tick => True
  | _ => False

def Call.isActivate : Call → Bool
  | .activate => true
  | _ => false

theorem Call.isActivate_iff (call : Call) : call.isActivate = true ↔ call = .activate := by
  cases call <;> simp [isActivate]

/-- The dates of the events in which a note was opened. -/
def openings (journal : Journal) : List (Event σ) → World σ → List Date
  | [], _ => []
  | e :: events, w =>
    if opened (e.log journal w) then e.today :: openings journal events (e.after journal w)
    else openings journal events (e.after journal w)

/-- What an event of a lifecycle does to the marks of the session. -/
theorem marks_after (journal : Journal) {e : Event σ} (he : e.call.OfLifecycle) {w : World σ}
    (hfree : w.session.busy = false) :
    (e.after journal w).session.marks
      = (false, w.session.activated || e.call.isActivate,
        if opened (e.log journal w) then some (journal.layout.locate .day e.today.toDay).file
        else w.session.lastOpened) := by
  obtain ⟨m, call⟩ := e
  cases call with
  | trigger =>
    simp only [Call.isActivate, Bool.or_false]
    exact (trigger_opens m journal m.today.toDay hfree).2
  | tick =>
    simp only [Call.isActivate, Bool.or_false]
    exact (tick_opens m journal m.today.toDay hfree).2
  | activate =>
    simp only [Call.isActivate, Bool.or_true]
    cases hactivated : w.session.activated with
    | false =>
      obtain ⟨hperform, hshown⟩ :=
        activate_first m.backend m.host journal m.today.toDay hactivated
      obtain ⟨hopens, hmarks⟩ := trigger_opens m journal m.today.toDay
        (w := w.activating) hfree
      have hopened := (hopens.of_shown hshown).opened
      rw [hopens.opened] at hmarks
      refine (congrArg (fun r => r.2.session.marks) hperform).trans (hmarks.trans ?_)
      exact congrArg (fun ok : Bool => (false, true, if ok then
        some (journal.layout.locate .day m.today.toDay).file else w.session.lastOpened))
        hopened.symm
    | true =>
      obtain ⟨hperform, hasks⟩ :=
        activate_later m.backend m.host journal m.today.toDay hactivated
      have hopened : opened (World.exchanges m.backend m.host w
          (journal.activate m.today.toDay)) = false := by
        rw [hasks]
        rfl
      refine (congrArg (fun r => r.2.session.marks) hperform).trans ?_
      rw [Session.marks, hfree, hactivated]
      exact congrArg (fun ok : Bool => (false, true, if ok then
        some (journal.layout.locate .day m.today.toDay).file else w.session.lastOpened))
        hopened.symm
  | _ => exact absurd he id

/-- After any calls of a lifecycle no run is in flight, and the session knows
whether there was an activation and which day's note was opened last. -/
theorem marks_afterAll (journal : Journal) {events : List (Event σ)}
    (hevents : ∀ e ∈ events, e.call.OfLifecycle) {w : World σ} (hfree : w.session.busy = false) :
    (afterAll journal events w).session.marks
      = (false, w.session.activated || events.any fun e => e.call.isActivate,
        ((openings journal events w).getLast?.map fun date =>
          (journal.layout.locate .day date.toDay).file).or w.session.lastOpened) := by
  induction events generalizing w with
  | nil => simp [Session.marks, hfree, openings]
  | cons e events ih =>
    have hmarks := marks_after journal (hevents e List.mem_cons_self) hfree
    simp only [Session.marks, Prod.mk.injEq] at hmarks
    obtain ⟨hfree', hactivated, hlast⟩ := hmarks
    rw [afterAll_cons, ih (fun e' he' => hevents e' (List.mem_cons_of_mem _ he')) hfree',
      hactivated, hlast, List.any_cons, Bool.or_assoc, openings]
    split
    · rw [List.getLast?_cons]
      cases (openings journal events (e.after journal w)).getLast? <;> rfl
    · rfl

/-! ## The discipline -/

/-- What holds of a tick when `last` is the date of the latest opening. -/
structure TickRule (journal : Journal) (m : Moment σ) (last : Option Date) (w : World σ) :
    Prop where
  /-- At most one note is to be opened. -/
  once : (shown (m.log journal .tick w)).length ≤ 1
  /-- It is the note of today, and today is not the date of the latest opening. -/
  today : ∀ s ∈ shown (m.log journal .tick w),
    s.1.same (journal.layout.locate .day m.today.toDay).file = true ∧ last ≠ some m.today
  /-- If the notes can be made, the tick gives `unchanged` and asks for nothing
  more exactly if today is that date, and `opened` exactly if a note was opened. -/
  made : ∀ run, m.outcome journal .ensureToday w = .ok run → ∃ report, run = .completed report
    ∧ (m.outcome journal .tick w = .ok (.unchanged report) ↔ last = some m.today)
    ∧ (last = some m.today → m.log journal .tick w
      = m.log journal .ensureToday w ++ [⟨.keep .lastOpened, w.session.lastOpened⟩])
    ∧ (m.outcome journal .tick w = .ok (.opened report)
      ↔ opened (m.log journal .tick w) = true)

/-- If today's notes can be made as `ensureToday` makes them, and the day note
can be found in what that leaves, then the call has this note opened, once. -/
def OpensOnce (journal : Journal) (m : Moment σ) (call : Call) (w : World σ) : Prop :=
  ∀ report found w', m.outcome journal .ensureToday w = .ok (.completed report) →
    (m.after journal .ensureToday w).lookUp m.backend journal report.note = (some found, w') →
    found.same (journal.layout.locate .day m.today.toDay).file = true
      ∧ ∃ reply, shown (m.log journal call w) = [(found, reply)]

section Discipline

variable (m : Moment σ) {w : World σ} (journal : Journal)

/-- Two dates have the same day note exactly if they are the same. -/
theorem any_same_iff (last : Option Date) (today : Date) :
    ((last.map fun date => (journal.layout.locate .day date.toDay).file).any fun path =>
      path.same (journal.layout.locate .day today.toDay).file) = true ↔ last = some today := by
  cases last with
  | none => simp
  | some date =>
    simp only [Option.map_some, Option.any_some, Option.some.injEq,
      Layout.file_same_iff _ date.isReal today.isReal, true_and, Period.Agree]
    constructor
    · intro h
      cases date
      cases today
      cases h
      rfl
    · rintro rfl
      rfl

theorem tickRule {last : Option Date} (hfree : w.session.busy = false)
    (hlast : w.session.lastOpened
      = last.map fun date => (journal.layout.locate .day date.toDay).file) :
    TickRule journal m last w := by
  obtain ⟨r, w₁, _, hensure, hshown, hmarks, hnote⟩ :=
    ensureFor_spec m journal m.today.toDay hfree
  simp only [Session.marks, Prod.mk.injEq] at hmarks
  have hmade : m.outcome journal .ensureToday w = r.map .completed := congrArg Prod.fst hensure
  cases r with
  | error cause =>
    obtain ⟨_, hlog⟩ := tick_failed hensure
    have hnone : shown (m.log journal .tick w) = [] := (congrArg shown hlog).trans hshown
    refine ⟨by simp [hnone], by simp [hnone], fun run h => ?_⟩
    rw [hmade] at h
    cases h
  | ok report =>
    obtain ⟨hperform, hlog⟩ := tick_settles hensure
    have hany := any_same_iff journal last m.today
    rw [← hlast, ← hmarks.2.2, ← hnote report rfl] at hany
    have hshown' : shown (m.log journal .tick w)
        = shown (World.exchanges m.backend m.host (w₁.marked false) (settle journal report)) := by
      refine (congrArg shown hlog).trans ?_
      rw [shown_append, hshown]
      rfl
    by_cases hsame : last = some m.today
    -- the note of today is the one opened last
    · obtain ⟨hsettle, hasks⟩ := settle_same m.backend m.host journal (hany.mpr hsame)
      have hout : m.outcome journal .tick w = .ok (.unchanged report) :=
        congrArg Prod.fst (hperform.trans hsettle)
      rw [hasks] at hshown'
      have hnone : shown (m.log journal .tick w) = [] := hshown'
      refine ⟨by simp [hnone], by simp [hnone], fun run h => ?_⟩
      obtain rfl : Run.completed report = run := Except.ok.inj (hmade.symm.trans h)
      refine ⟨report, rfl, ⟨fun _ => hsame, fun _ => hout⟩, fun _ => ?_, ?_⟩
      · refine hlog.trans ?_
        rw [hasks, hmarks.2.2]
        rfl
      · rw [hout, opened, hnone]
        simp
    -- it is another one, so the tick tries to open it
    · have hother := Bool.eq_false_iff.mpr (mt hany.mp hsame)
      obtain ⟨hopens, hok, _⟩ := settle_opens m journal hother
      have htick := hopens.of_shown hshown'
      have hout : m.outcome journal .tick w
          = (World.perform m.backend m.host (settle journal report) (w₁.marked false)).1 :=
        congrArg Prod.fst hperform
      rw [hnote report rfl] at htick
      refine ⟨htick.once, fun s hs => ⟨htick.path s hs, hsame⟩, fun run h => ?_⟩
      obtain rfl : Run.completed report = run := Except.ok.inj (hmade.symm.trans h)
      refine ⟨report, rfl, ⟨fun h => ?_, fun h => absurd h hsame⟩, fun h => absurd h hsame, ?_⟩
      · rw [hout] at h
        rw [h] at hok
        exact absurd (hok.mp rfl) (by simp)
      · rw [hout, htick.opened]
        exact hok.symm

theorem ensureToday_inv {report : Report} (hfree : w.session.busy = false)
    (hmade : m.outcome journal .ensureToday w = .ok (.completed report)) :
    ∃ w₁, World.perform m.backend m.host (journal.materialize m.today.toDay) (w.marked true)
        = (.ok report, w₁)
      ∧ m.after journal .ensureToday w = w₁.marked false
      ∧ report.note = (journal.layout.locate .day m.today.toDay).file := by
  obtain ⟨r, w₁, hperform, hensure, _, _, hnote⟩ := ensureFor_spec m journal m.today.toDay hfree
  have hr : r.map Run.completed = .ok (.completed report) :=
    (congrArg Prod.fst hensure).symm.trans hmade
  cases r with
  | error cause => cases hr
  | ok report' =>
    cases hr
    exact ⟨w₁, hperform, congrArg Prod.snd hensure, hnote report rfl⟩

theorem trigger_opensOnce (hfree : w.session.busy = false) : OpensOnce journal m .trigger w := by
  intro report found w' hmade hfound
  obtain ⟨w₁, hperform, hafter, hnote⟩ := ensureToday_inv m journal hfree hmade
  have hsame := same_of_lookUp _ _ hfound
  rw [hafter] at hfound
  rw [hnote] at hsame
  exact ⟨hsame, shown_trigger hfree hperform (congrArg Prod.fst hfound)⟩

theorem activate_opensOnce (hfree : w.session.busy = false) (hfirst : w.session.activated = false) :
    OpensOnce journal m .activate w := by
  intro report found w' hmade hfound
  obtain ⟨w₁, hperform, hafter, hnote⟩ := ensureToday_inv m journal hfree hmade
  have hsame := same_of_lookUp _ _ hfound
  rw [hafter] at hfound
  rw [hnote] at hsame
  -- whether the journal is marked as activated does not matter for making notes
  have hperform' := materialize_activating m.backend m.host (w.marked true) journal m.today.toDay
  rw [hperform] at hperform'
  obtain ⟨reply, hreply⟩ := shown_trigger (w := w.activating) hfree hperform'
    (congrArg Prod.fst hfound)
  obtain ⟨_, hshown⟩ := activate_first m.backend m.host journal m.today.toDay hfirst
  exact ⟨hsame, reply, hshown.trans hreply⟩

end Discipline

/-- When a lifecycle opens a note. Its calls are made one after another, each
at a moment of its own: the clock may go back, and the storage and the host
may fail in any way. -/
theorem opening_discipline (journal : Journal) (outside : σ) (selector : Selector)
    (earlier : List (Event σ)) (hearlier : ∀ e ∈ earlier, e.call.OfLifecycle) (m : Moment σ) :
    let start : World σ := ⟨outside, .start selector⟩
    let w := afterAll journal earlier start
    TickRule journal m (openings journal earlier start).getLast? w
      ∧ OpensOnce journal m .trigger w
      ∧ ((∀ e ∈ earlier, e.call ≠ .activate) → OpensOnce journal m .activate w)
      ∧ ((∃ e ∈ earlier, e.call = .activate) → m.outcome journal .activate w = .ok none
        ∧ m.after journal .activate w = w
        ∧ m.log journal .activate w = [⟨.keep .markActivated, false⟩]) := by
  intro start w
  have hmarks : w.session.marks = _ := marks_afterAll journal hearlier rfl
  simp only [Session.marks, Prod.mk.injEq] at hmarks
  obtain ⟨hfree, hactivated, hlast⟩ := hmarks
  refine ⟨tickRule m journal hfree ?_, trigger_opensOnce m journal hfree, fun hnone => ?_,
    fun hsome => ?_⟩
  · rw [hlast]
    cases (openings journal earlier start).getLast? <;> rfl
  · refine activate_opensOnce m journal hfree (hactivated.trans ?_)
    simpa [start, Session.start, Call.isActivate_iff] using hnone
  · have hagain : w.session.activated = true := by
      refine hactivated.trans ?_
      simpa [start, Session.start, Call.isActivate_iff] using hsome
    obtain ⟨hperform, hasks⟩ := activate_later m.backend m.host journal m.today.toDay hagain
    exact ⟨congrArg Prod.fst hperform, congrArg Prod.snd hperform, hasks⟩

theorem opening_discipline_failed_activation :
    let journal : Journal :=
      ⟨.under ⟨"notes"⟩, ⟨[⟨"Begin.", "Seneca"⟩], [⟨"Breathe."⟩]⟩, .sections .allOn⟩
    let start : World Memory := ⟨.empty, .start (.seeded 7)⟩
    let stuck : Event Memory :=
      { call := .activate
        today := ⟨⟨2024, 5, 1⟩, by decide⟩
        backend := ({ Storage.Faults.none with folders := true }).answer Memory.answer
        shows := fun _ _ => .ok () }
    let m : Moment Memory := ⟨⟨⟨2024, 5, 1⟩, by decide⟩, Memory.answer, fun _ _ => .ok ()⟩
    (∀ e ∈ [stuck], e.call.OfLifecycle)
      ∧ TickRule journal m (openings journal [stuck] start).getLast?
          (afterAll journal [stuck] start)
      ∧ m.outcome journal .activate (afterAll journal [stuck] start) = .ok none := by
  intro journal start stuck m
  have hstuck : ∀ e ∈ [stuck], e.call.OfLifecycle := by simp [stuck, Call.OfLifecycle]
  obtain ⟨htick, _, _, hagain⟩ :=
    opening_discipline journal Memory.empty (.seeded 7) [stuck] hstuck m
  exact ⟨hstuck, htick, (hagain ⟨stuck, List.mem_cons_self, rfl⟩).1⟩

end Daybook.Journal
