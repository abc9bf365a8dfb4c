/-
Daybook.Proofs.Journal.Retry — a failed run is made up for by the next one.

A run makes sure of the notes of the year, the month and the day, one after
another, and stops at the first failure. What it leaves behind then is one of
five memories (`Stopped`), from the one that it found to the one that lacks
nothing but the day note. To try again without faults comes to the same from
all of them (`makeNotes_stopped`): a note that the failed run made is found,
a folder that it made is not made twice, and the rest goes as it would have
gone. Hence `failed_run_heals`.
-/
import Daybook.Proofs.Journal.Ensure
import Daybook.Proofs.Journal.Performed

namespace Daybook.Journal

open Calendar (Date Day)
open Procedure (Since)
open Storage (Faults Memory seen)

/-- The note that a run made sure of, if it did. -/
def Run.note? : Run → Option Path
  | .completed report => some report.note
  | .busy => none

/-! ## Making the notes -/

section Notes

variable {σ : Type} (backend : Storage.Backend σ) (host : Host σ) (journal : Journal) (day : Day)

/-- A run as far as it does not matter which notes were there before. -/
def makeNotes : Try Path := do
  let _ ← tryOnStorage (ensureAt (journal.layout.locate .year day) Note.yearText)
  let _ ← tryOnStorage (ensureAt (journal.layout.locate .month day) (Note.monthText day))
  let _ ← journal.ensureDay day
  return (journal.layout.locate .day day).file

theorem perform_makeNotes (w : World σ) :
    World.perform backend host (journal.makeNotes day) w
      = ((World.perform backend host (journal.materialize day) w).1.map (·.note),
        (World.perform backend host (journal.materialize day) w).2) := by
  rcases hyear : World.perform backend host
    (tryOnStorage (ensureAt (journal.layout.locate .year day) Note.yearText)) w with ⟨e | y, w₁⟩
  · rw [makeNotes, materialize, World.perform_error _ hyear, World.perform_error _ hyear]
    rfl
  rw [makeNotes, materialize, World.perform_ok _ hyear, World.perform_ok _ hyear]
  rcases hmonth : World.perform backend host
    (tryOnStorage (ensureAt (journal.layout.locate .month day) (Note.monthText day))) w₁
    with ⟨e | mo, w₂⟩
  · rw [World.perform_error _ hmonth, World.perform_error _ hmonth]
    rfl
  rw [World.perform_ok _ hmonth, World.perform_ok _ hmonth]
  rcases hday : World.perform backend host (journal.ensureDay day) w₂ with ⟨e | d, w₃⟩
  · rw [World.perform_error _ hday, World.perform_error _ hday]
    rfl
  · rw [World.perform_ok _ hday, World.perform_ok _ hday]
    rfl

/-- Two runs that come to the same but for what was there before. -/
theorem ensureFor_congr {w w' : World σ} (hfree : w.session.busy = false)
    (hfree' : w'.session.busy = false)
    (h : World.perform backend host (journal.makeNotes day) (w.marked true)
      = World.perform backend host (journal.makeNotes day) (w'.marked true)) :
    (World.perform backend host (journal.ensureFor day) w).2
        = (World.perform backend host (journal.ensureFor day) w').2
      ∧ (World.perform backend host (journal.ensureFor day) w).1.map Run.note?
        = (World.perform backend host (journal.ensureFor day) w').1.map Run.note? := by
  have hnote : ∀ r : Except JournalError Report,
      (r.map Run.completed).map Run.note? = (r.map (·.note)).map some := by
    intro r
    cases r <;> rfl
  rw [perform_makeNotes, perform_makeNotes, Prod.mk.injEq] at h
  rw [ensureFor, perform_alone _ _ hfree, perform_alone _ _ hfree']
  refine ⟨by rw [h.2], ?_⟩
  rw [hnote, hnote, h.1]

end Notes

/-! ## Where a run can stop -/

/-- Without faults the note can be made. -/
def Goes (location : Location) (text : String) (m : Memory) : Prop :=
  ∃ done, (ensureAt location text).run.run Memory.answer m
    = (.ok done, m.withNote location text)

section Stops

variable (journal : Journal) (day : Day) {m m' : Memory}

/-- The memory after the year note was made. -/
def withYear (m : Memory) : Memory :=
  m.withNote (journal.layout.locate .year day) Note.yearText

/-- The memory after the month note was made. -/
def withMonth (m : Memory) : Memory :=
  m.withNote (journal.layout.locate .month day) (Note.monthText day)

/-- What a failed run can leave of a memory. -/
inductive Stopped (m : Memory) : Memory → Prop where
  /-- Nothing was made. -/
  | start : Stopped m m
  | yearFolder : Stopped m (m.withFolder (journal.layout.locate .year day).folder)
  | year (hyear : Goes (journal.layout.locate .year day) Note.yearText m) :
      Stopped m (journal.withYear day m)
  | monthFolder (hyear : Goes (journal.layout.locate .year day) Note.yearText m) :
      Stopped m ((journal.withYear day m).withFolder (journal.layout.locate .month day).folder)
  /-- Only the day note was not made. -/
  | month (hyear : Goes (journal.layout.locate .year day) Note.yearText m)
      (hmonth : Goes (journal.layout.locate .month day) (Note.monthText day)
        (journal.withYear day m)) :
      Stopped m (journal.withMonth day (journal.withYear day m))

/-- The notes that have a text of their own, the one made first in front. -/
def fixedFiles : List (Path × String) :=
  [((journal.layout.locate .year day).file, Note.yearText),
    ((journal.layout.locate .month day).file, Note.monthText day)]

variable {journal day}

/-- The year note is no other note, and so is the month note. -/
theorem file_apart (layout : Layout) {p q : Period} (hday : day.IsReal) (h : p ≠ q) :
    (layout.locate p day).file.same (layout.locate q day).file = false := by
  rw [← Bool.not_eq_true, Layout.file_same_iff _ hday hday]
  exact fun hsame => h hsame.1

/-- The fixed notes come one after the other. -/
theorem Stopped.files (hday : day.IsReal) (h : Stopped journal day m m') :
    ∃ added, added <+: (journal.fixedFiles day).filter (fun file => !m.has file.1)
      ∧ m'.files = m.files ++ added := by
  have hyear : (journal.withYear day m).files = m.files
      ++ [((journal.layout.locate .year day).file, Note.yearText)].filter
        fun file => !m.has file.1 :=
    Memory.files_withNote (journal.layout.folder_apart .year .year day day)
  -- making the year note does not change what of the month note is missing
  have hapart : (journal.withYear day m).has (journal.layout.locate .month day).file
      = m.has (journal.layout.locate .month day).file :=
    Memory.has_withNote_apart (journal.layout.folder_apart .year .month day day)
      (file_apart journal.layout hday (by simp))
  have hmonth : (journal.withMonth day (journal.withYear day m)).files
      = (journal.withYear day m).files
        ++ [((journal.layout.locate .month day).file, Note.monthText day)].filter
          fun file => !m.has file.1 := by
    refine (Memory.files_withNote (journal.layout.folder_apart .month .month day day)).trans ?_
    simp only [List.filter_cons, List.filter_nil, hapart]
  have hall : (journal.fixedFiles day).filter (fun file => !m.has file.1)
      = [((journal.layout.locate .year day).file, Note.yearText)].filter
          (fun file => !m.has file.1)
        ++ [((journal.layout.locate .month day).file, Note.monthText day)].filter
          fun file => !m.has file.1 := List.filter_append [_] [_]
  rw [hall]
  cases h with
  | start => exact ⟨[], List.nil_prefix, by simp⟩
  | yearFolder => exact ⟨[], List.nil_prefix, by simp⟩
  | year => exact ⟨_, List.prefix_append _ _, hyear⟩
  | monthFolder => exact ⟨_, List.prefix_append _ _, by rw [Memory.files_withFolder, hyear]⟩
  | month => exact ⟨_, List.prefix_refl _, by rw [hmonth, hyear, List.append_assoc]⟩

/-- A failed run does not touch the day note. -/
theorem Stopped.dayNote (hday : day.IsReal) (h : Stopped journal day m m') :
    m'.has (journal.layout.locate .day day).file = m.has (journal.layout.locate .day day).file
      ∧ m'.textAt? (journal.layout.locate .day day).file
        = m.textAt? (journal.layout.locate .day day).file := by
  have hfolder := fun p => journal.layout.folder_apart p .day day day
  have hyear := file_apart journal.layout hday (p := .year) (q := .day) (by simp)
  have hmonth := file_apart journal.layout hday (p := .month) (q := .day) (by simp)
  cases h with
  | start => exact ⟨rfl, rfl⟩
  | yearFolder => exact ⟨Memory.has_withFolder_apart (hfolder .year), by simp⟩
  | year =>
    refine ⟨Memory.has_withNote_apart (hfolder .year) hyear, ?_⟩
    simp [withYear, Memory.textAt?_withNote, hyear]
  | monthFolder =>
    refine ⟨(Memory.has_withFolder_apart (hfolder .month)).trans
      (Memory.has_withNote_apart (hfolder .year) hyear), ?_⟩
    simp [withYear, Memory.textAt?_withNote, hyear]
  | month =>
    refine ⟨(Memory.has_withNote_apart (hfolder .month) hmonth).trans
      (Memory.has_withNote_apart (hfolder .year) hyear), ?_⟩
    simp [withYear, withMonth, Memory.textAt?_withNote, hyear, hmonth]

/-! ## Trying again -/

/-- A note that is there with its folder is passed by. -/
theorem perform_present (host : Host Memory) {location : Location} {text : String} (s : Session)
    (hfolder : m.has location.folder = true) (hfile : m.has location.file = true) :
    World.perform Memory.answer host (tryOnStorage (ensureAt location text)) ⟨m, s⟩
      = (.ok .present, ⟨m, s⟩) := by
  have hrun : (ensureAt location text).run.run (seen Faults.none) m = (.ok .present, m) :=
    run_ensureAt_present text rfl hfolder hfile
  rw [Storage.seen_none] at hrun
  rw [perform_tryOnStorage, hrun]

theorem Goes.perform (host : Host Memory) {location : Location} {text : String} (s : Session)
    (h : Goes location text m) :
    ∃ done, World.perform Memory.answer host (tryOnStorage (ensureAt location text)) ⟨m, s⟩
      = (.ok done, ⟨m.withNote location text, s⟩) := by
  obtain ⟨done, hrun⟩ := h
  exact ⟨done, by rw [perform_tryOnStorage, hrun]⟩

/-- Wherever a run stopped, to try again without faults comes to what a first
try would have come to. -/
theorem makeNotes_stopped (host : Host Memory) (h : Stopped journal day m m') (s : Session) :
    World.perform Memory.answer host (journal.makeNotes day) ⟨m', s⟩
      = World.perform Memory.answer host (journal.makeNotes day) ⟨m, s⟩ := by
  have hfits := fun p => journal.layout.locate_fits p day
  have hyearFolder : (journal.withYear day m).has (journal.layout.locate .year day).folder = true :=
    Memory.has_withNote_folder (hfits .year).folder
  have hyearFile : (journal.withYear day m).has (journal.layout.locate .year day).file = true :=
    Memory.has_withNote_file
  cases h with
  | start => rfl
  | yearFolder =>
    refine World.perform_congr _ ?_
    rw [perform_tryOnStorage, perform_tryOnStorage, run_ensureAt_withFolder m (hfits .year)]
  | year hyear =>
    obtain ⟨_, hyear⟩ := hyear.perform host s
    exact World.perform_next (perform_present host s hyearFolder hyearFile) hyear rfl
  | monthFolder hyear =>
    obtain ⟨_, hyear⟩ := hyear.perform host s
    refine World.perform_next (perform_present host s (Memory.has_withFolder_of_has hyearFolder)
      (Memory.has_withFolder_of_has hyearFile)) hyear (World.perform_congr _ ?_)
    rw [perform_tryOnStorage, perform_tryOnStorage, run_ensureAt_withFolder _ (hfits .month)]
    rfl
  | month hyear hmonth =>
    obtain ⟨_, hyear⟩ := hyear.perform host s
    obtain ⟨_, hmonth⟩ := hmonth.perform host s
    refine World.perform_next (perform_present host s (Memory.has_withNote_of_has hyearFolder)
      (Memory.has_withNote_of_has hyearFile)) hyear ?_
    exact World.perform_next (perform_present host s
      (Memory.has_withNote_folder (hfits .month).folder) Memory.has_withNote_file) hmonth rfl

/-! ## A failed run -/

/-- Whatever is used to put the day note together, the storage is only looked at. -/
def Looks : Query → Prop
  | .storage q => q.looks = true
  | .keep (.render _) => True
  | _ => False

variable (journal day) in
theorem dayText_looks : (journal.dayText day).run.Asks Looks := by
  have hprepare : (tryOnStorage (journal.builder.prepare journal.layout
      ⟨day, journal.library⟩)).run.Obeys (fun _ => Looks) (Since [] PreparedGoal) [] :=
    prepare_obeys (fun _ _ => rfl) fun _ _ _ => rfl
  exact (hprepare.asks fun _ _ h => h).attempt fun rendering => ⟨trivial, fun _ => trivial⟩

section Failures

variable {faults : Faults} {host : Host Memory} {w w₁ : World Memory} {e : JournalError}

theorem outside_dayText {r : Except JournalError String}
    (h : World.perform (seen faults) host (journal.dayText day) w = (r, w₁)) :
    w₁.outside = w.outside := by
  have hstep : ∀ (past : Past) q (w' : World Memory), Looks q → w'.outside = w.outside →
      (World.answer (seen faults) host q w').2.outside = w.outside := by
    intro past q w' hq hw
    cases q with
    | storage q => exact (Storage.answer_looks faults hq w'.outside).trans hw
    | openNote path => exact absurd hq id
    | keep q => exact hw
  have hobeys : (journal.dayText day).run.Obeys (fun _ => Looks) _ [] :=
    (dayText_looks journal day).obeys (fun _ _ h => h) []
  have hrun := (hobeys.run_invariant hstep rfl).1
  rwa [← World.perform, h] at hrun

theorem outside_of_error {location : Location} {text : String} (hreach : w.outside.Reachable)
    (h : World.perform (seen faults) host (tryOnStorage (ensureAt location text)) w
      = (.error e, w₁)) :
    w₁.outside = w.outside ∨ w₁.outside = w.outside.withFolder location.folder := by
  rw [perform_tryOnStorage, Prod.mk.injEq] at h
  obtain ⟨herror, rfl⟩ := h
  rcases ensureAt_seen faults w.outside text hreach.closed location
    with ⟨_, hrun⟩ | ⟨_, hrun⟩ | ⟨_, hrun, _⟩
  · exact .inl (by rw [hrun])
  · exact .inr (by rw [hrun])
  · rw [hrun] at herror
    cases herror

/-- Under faults a note is made only as it would be made without. -/
theorem outside_of_ok {location : Location} {text : String} {done : Ensured}
    (hreach : w.outside.Reachable)
    (h : World.perform (seen faults) host (tryOnStorage (ensureAt location text)) w
      = (.ok done, w₁)) :
    w₁.outside = w.outside.withNote location text ∧ w₁.outside.Reachable
      ∧ Goes location text w.outside := by
  rw [perform_tryOnStorage, Prod.mk.injEq] at h
  obtain ⟨hok, rfl⟩ := h
  refine ⟨?_, hreach.run faults _, ?_⟩
  all_goals
    rcases ensureAt_seen faults w.outside text hreach.closed location
      with ⟨_, hrun⟩ | ⟨_, hrun⟩ | ⟨done, hrun, hgoes⟩
  case refine_1.inr.inr => rw [hrun]
  case refine_2.inr.inr => exact ⟨done, hgoes⟩
  all_goals
    rw [hrun] at hok
    cases hok

/-- A failed attempt at the day note leaves the storage alone if the folder of
the day is there. -/
theorem outside_ensureDay (hreach : w.outside.Reachable)
    (hfolder : w.outside.has (journal.layout.locate .day day).folder = true)
    (h : World.perform (seen faults) host (journal.ensureDay day) w = (.error e, w₁)) :
    w₁.outside = w.outside := by
  rw [ensureDay_eq] at h
  rcases World.perform_bind_error h with hlook | ⟨there, w₂, hlook, h⟩
  · rw [perform_isPresent] at hlook
    cases hlook
  have hw₂ : w₂.outside = w.outside := by
    rw [perform_isPresent] at hlook
    cases hlook
    exact Storage.answer_looks faults rfl w.outside
  cases there with
  | true => cases h
  | false =>
    rcases World.perform_bind_error h with htext | ⟨text, w₃, htext, h⟩
    · rw [outside_dayText htext, hw₂]
    · have hw₃ : w₃.outside = w.outside := (outside_dayText htext).trans hw₂
      rcases outside_of_error (hw₃ ▸ hreach) h with hw₁ | hw₁
      · rw [hw₁, hw₃]
      · rw [hw₁, hw₃, Memory.withFolder_of_has hfolder]

/-- A run that fails stops in one of the five places. -/
theorem stopped_of_error (hreach : w.outside.Reachable)
    (h : World.perform (seen faults) host (journal.materialize day) w = (.error e, w₁)) :
    Stopped journal day w.outside w₁.outside := by
  rcases World.perform_bind_error h with hyear | ⟨_, w₂, hyear, h⟩
  · rcases outside_of_error hreach hyear with hw | hw
    · rw [hw]
      exact .start
    · rw [hw]
      exact .yearFolder
  obtain ⟨hmade, hreach₂, hyear⟩ := outside_of_ok hreach hyear
  have hw₂ : w₂.outside = journal.withYear day w.outside := hmade
  rcases World.perform_bind_error h with hmonth | ⟨_, w₃, hmonth, h⟩
  · rcases outside_of_error hreach₂ hmonth with hw | hw
    · rw [hw, hw₂]
      exact .year hyear
    · rw [hw, hw₂]
      exact .monthFolder hyear
  obtain ⟨hw₃, hreach₃, hmonth⟩ := outside_of_ok hreach₂ hmonth
  rcases World.perform_bind_error h with hday | ⟨_, _, _, h⟩
  · -- the day has the folder of its month
    have hfolder : w₃.outside.has (journal.layout.locate .month day).folder = true := by
      rw [hw₃]
      exact Memory.has_withNote_folder (journal.layout.locate_fits .month day).folder
    rw [outside_ensureDay hreach₃ hfolder hday, hw₃, hw₂]
    exact .month hyear (hw₂ ▸ hmonth)
  · cases h

end Failures

end Stops

/-- A run that fails under any faults leaves the day note as it was. Of the
notes of the year and the month it has made some that were missing, the year
first. Nothing is in flight, and to try again without faults comes to the same
as to try for the first time: the same storage and session in the end, and the
same result. -/
theorem failed_run_heals (journal : Journal) (date : Date) (faults : Faults) (host : Host Memory)
    {w w₁ : World Memory} {e : JournalError} (hreach : w.outside.Reachable)
    (hfail : World.perform (seen faults) host (journal.ensureFor date.toDay) w = (.error e, w₁)) :
    let note := (journal.layout.locate .day date.toDay).file
    let retry := World.perform Memory.answer host (journal.ensureFor date.toDay)
    (w₁.outside.has note = w.outside.has note
        ∧ w₁.outside.textAt? note = w.outside.textAt? note)
      ∧ (∃ added, added <+: (journal.fixedFiles date.toDay).filter
          (fun file => !w.outside.has file.1) ∧ w₁.outside.files = w.outside.files ++ added)
      ∧ w₁.session.busy = false
      ∧ (retry w₁).2 = (retry { w with session := w₁.session }).2
      ∧ (retry w₁).1.map Run.note? = (retry { w with session := w₁.session }).1.map Run.note? := by
  intro note retry
  cases hbusy : w.session.busy with
  | true =>
    rw [ensureFor, perform_alone_busy _ _ _ hbusy] at hfail
    cases hfail
  | false =>
    rcases hmade : World.perform (seen faults) host (journal.materialize date.toDay)
      (w.marked true) with ⟨e' | report, v⟩
    all_goals rw [ensureFor, perform_alone _ _ hbusy, hmade] at hfail
    · obtain rfl : v.marked false = w₁ := congrArg Prod.snd hfail
      have hstopped : Stopped journal date.toDay w.outside v.outside :=
        stopped_of_error (w := w.marked true) hreach hmade
      refine ⟨hstopped.dayNote date.isReal, hstopped.files date.isReal, rfl, ?_⟩
      exact ensureFor_congr _ _ _ _ rfl rfl (makeNotes_stopped host hstopped _)
    · cases hfail

theorem failed_run_heals_full_disk :
    let journal : Journal :=
      ⟨.under ⟨"notes"⟩, ⟨[⟨"Begin.", "Seneca"⟩], [⟨"Breathe."⟩]⟩, .sections .allOn⟩
    let date : Date := ⟨⟨2024, 5, 1⟩, by decide⟩
    let full : Faults := { Faults.none with writes := true }
    let host : Host Memory := fun _ w => (.ok (), w)
    let w : World Memory := ⟨.empty, .start (.seeded 7)⟩
    let run := World.perform (seen full) host (journal.ensureFor date.toDay)
    let retry := World.perform Memory.answer host (journal.ensureFor date.toDay)
    Memory.empty.Reachable
      ∧ ∃ w₁, run w = (.error (.fileWrite ⟨"notes/2024/2024.md"⟩ .denied), w₁)
        ∧ w₁.outside.hasFolder ⟨"notes/2024"⟩ = true
        ∧ (retry w₁).2 = (retry { w with session := w₁.session }).2 := by
  intro journal date full host w run retry
  have herror : (run w).1 = .error (.fileWrite ⟨"notes/2024/2024.md"⟩ .denied) := by
    decide +kernel
  have hfolder : (run w).2.outside.hasFolder ⟨"notes/2024"⟩ = true := by decide +kernel
  rcases hrun : run w with ⟨r, w₁⟩
  rw [hrun] at herror hfolder
  obtain rfl : r = _ := herror
  refine ⟨.empty, w₁, rfl, hfolder, ?_⟩
  exact (failed_run_heals journal date full host .empty hrun).2.2.2.1

end Daybook.Journal
