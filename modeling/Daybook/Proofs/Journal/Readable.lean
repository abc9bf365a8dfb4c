/-
Daybook.Proofs.Journal.Readable — what a completed run leaves to be read.

To a journal a note is there when a file or a folder is at its path; nothing else
is ever asked about one. So a run goes through also where a folder is in the place
of a note, and has that folder opened (`completed_onto_folder`). Nothing but that
can keep a note from being read after the run (`completed_notes_readable`).

What carries this is that a run neither makes nor mends such a place: it makes no
folder of a note, and it creates no file where a folder is. Whether there is a
folder without a file is therefore the same before and after each of its
questions (`onlyFolder_answer_iff`).
-/
import Daybook.Proofs.Journal.Found
import Daybook.Proofs.Storage.OneKind

namespace Daybook

open Calendar (Day)
open Storage (Faults Memory seen)

/-! ## 1. Folders in the place of files -/

namespace Storage

/-- There is a folder at the path and no file. -/
def Memory.OnlyFolder (m : Memory) (path : Path) : Prop :=
  m.hasFolder path = true ∧ m.hasFile path = false

instance (m : Memory) (path : Path) : Decidable (m.OnlyFolder path) :=
  inferInstanceAs (Decidable (_ ∧ _))

variable {m : Memory} {p : Path}

/-- What is there is a file unless it is only a folder. -/
theorem Memory.hasFile_iff (h : m.has p = true) : m.hasFile p = true ↔ ¬ m.OnlyFolder p := by
  simp only [Memory.has, Bool.or_eq_true] at h
  cases hfile : m.hasFile p with
  | true => simp [OnlyFolder, hfile]
  | false =>
    rw [hfile] at h
    simpa [OnlyFolder, hfile] using h

theorem Memory.onlyFolder_congr {q : Path} (h : p.same q = true) :
    m.OnlyFolder p ↔ m.OnlyFolder q := by
  rw [OnlyFolder, OnlyFolder, Memory.hasFolder_congr h, Memory.hasFile_congr h]

/-- The file at the path can be read. -/
def Memory.Readable (m : Memory) (path : Path) : Prop :=
  ∃ text, (Memory.answer (.read path) m).1 = .ok text

theorem Memory.readable_iff : m.Readable p ↔ m.hasFile p = true := by
  rw [Readable, Memory.hasFile_eq, Memory.answer]
  cases m.textAt? p with
  | none =>
    refine iff_of_false ?_ Bool.false_ne_true
    rintro ⟨text, hread⟩
    cases hread
  | some text => exact iff_of_true ⟨text, rfl⟩ rfl

instance (m : Memory) (path : Path) : Decidable (m.Readable path) :=
  decidable_of_iff _ Memory.readable_iff.symm

/-- A question that writes nothing and makes no folder of the path. -/
theorem onlyFolder_answer_iff (faults : Faults) {q : Query} (hq : q.overwrites = false)
    (hapart : ∀ folder, q = .makeFolders folder → ∀ a ∈ folder.ancestors, a.same p = false) :
    (seen faults q m).2.OnlyFolder p ↔ m.OnlyFolder p := by
  constructor
  · rintro ⟨hfolder, hfile⟩
    have hbefore : m.hasFolder p = true := by
      rcases hasFolder_of_answer faults hfolder with hold | ⟨folder, rfl, a, ha, hsame⟩
      · exact hold
      · rw [hapart folder rfl a ha] at hsame
        cases hsame
    refine ⟨hbefore, Bool.eq_false_iff.mpr fun h => ?_⟩
    rw [hasFile_answer faults q h] at hfile
    cases hfile
  · rintro ⟨hfolder, hfile⟩
    have hthere : m.has p = true := Memory.has_iff.mpr (.inr hfolder)
    refine ⟨hasFolder_answer faults q hfolder, ?_⟩
    rw [Memory.hasFile_eq, textAt?_of_has faults hq hthere, ← Memory.hasFile_eq]
    exact hfile

/-- What every call keeps is kept by a row of calls. -/
theorem Memory.after_invariant (kept : Memory → Prop)
    (hstep : ∀ m q, kept m → kept (Memory.answer q m).2) (h : kept m) (calls : List Query) :
    kept (m.after calls) := by
  induction calls generalizing m with
  | nil => exact h
  | cons q calls ih => exact ih (hstep m q h)

end Storage

namespace Journal

/-! ## 2. One run -/

variable {journal : Journal} {day : Day}

/-- A run neither makes nor mends a folder in the place of a note. -/
theorem onlyFolder_materialize_iff (faults : Faults) (host : Host Memory) (w : World Memory)
    (journal : Journal) (day : Day) (period : Period) :
    (World.perform (seen faults) host (journal.materialize day) w).2.outside.OnlyFolder
        (journal.layout.locate period day).file
      ↔ w.outside.OnlyFolder (journal.layout.locate period day).file := by
  have hstep : ∀ past q (w' : World Memory), MayAsk journal day past q →
      (w'.outside.OnlyFolder (journal.layout.locate period day).file
        ↔ w.outside.OnlyFolder (journal.layout.locate period day).file) →
      ((World.answer (seen faults) host q w').2.outside.OnlyFolder
          (journal.layout.locate period day).file
        ↔ w.outside.OnlyFolder (journal.layout.locate period day).file) := by
    rintro past q w' hq hkept
    rcases q with q | path | q
    · refine (Storage.onlyFolder_answer_iff faults ?_ fun folder hfolder a ha => ?_).trans hkept
      · cases hq <;> rfl
      · subst hfolder
        cases hq with
        | makeFolders other => exact Layout.not_same_of_ancestor _ ha
    · cases hq
    · exact hkept
  have hobeys : (journal.materialize day).run.Obeys _ _ [] := materialize_obeys (by simp)
  exact (hobeys.run_invariant hstep Iff.rfl).1

/-- After a run that goes through something is at the paths of all its notes, and
it is a file but where only a folder was before. -/
theorem made_of_materialize {faults : Faults} {host : Host Memory} {w w₁ : World Memory}
    {report : Report}
    (hmade : World.perform (seen faults) host (journal.materialize day) w = (.ok report, w₁))
    (period : Period) :
    w₁.outside.has (journal.layout.locate period day).file = true
      ∧ (w₁.outside.hasFile (journal.layout.locate period day).file = true
        ↔ ¬ w.outside.OnlyFolder (journal.layout.locate period day).file) := by
  have hthere := has_of_materialize hmade period
  have honly := onlyFolder_materialize_iff faults host w journal day period
  rw [hmade] at honly
  exact ⟨hthere, (Memory.hasFile_iff hthere).trans (not_congr honly)⟩

/-! ## 3. The calls that make notes -/

/-- The host takes no file and no folder out of the storage. -/
structure Host.TakesNothing (host : Host Memory) : Prop where
  has : ∀ path w p, w.outside.has p = true → (host path w).2.outside.has p = true
  hasFile : ∀ path w p, w.outside.hasFile p = true → (host path w).2.outside.hasFile p = true

/-- No call of the storage takes anything out of it. -/
theorem takesNothing_of_calls {host : Host Memory}
    (h : ∀ path w, ∃ calls, (host path w).2.outside = w.outside.after calls) :
    host.TakesNothing where
  has path w p hp := by
    obtain ⟨calls, hcalls⟩ := h path w
    rw [hcalls]
    refine Memory.after_invariant (fun m => m.has p = true) (fun m q hm => ?_) hp calls
    rw [← Storage.seen_none]
    exact Storage.has_answer Faults.none q hm
  hasFile path w p hp := by
    obtain ⟨calls, hcalls⟩ := h path w
    rw [hcalls]
    refine Memory.after_invariant (fun m => m.hasFile p = true) (fun m q hm => ?_) hp calls
    rw [← Storage.seen_none]
    exact Storage.hasFile_answer Faults.none q hm

/-- Work that is done alone and completes was free to begin. -/
theorem completed_alone {σ : Type} {backend : Storage.Backend σ} {host : Host σ} {w w' : World σ}
    {work : Try Report} {report : Report}
    (h : World.perform backend host (alone work) w = (.ok (.completed report), w')) :
    w.session.busy = false
      ∧ ∃ w₁, World.perform backend host work (w.marked true) = (.ok report, w₁)
        ∧ w' = w₁.marked false := by
  cases hbusy : w.session.busy with
  | true =>
    rw [perform_alone_busy backend host work hbusy] at h
    cases h
  | false =>
    rw [perform_alone backend host hbusy work] at h
    rcases hwork : World.perform backend host work (w.marked true) with ⟨cause | report', w₁⟩
    · rw [hwork] at h
      cases h
    · rw [hwork] at h
      cases h
      exact ⟨rfl, w₁, rfl, rfl⟩

/-- Work that makes notes and shows one has made them and found that one. -/
theorem completed_makeAndShow {σ : Type} {backend : Storage.Backend σ} {host : Host σ}
    {w w' : World σ} {report : Report}
    (h : World.perform backend host (makeAndShow journal day) w = (.ok report, w')) :
    ∃ w₁ found w₂, World.perform backend host (journal.materialize day) w = (.ok report, w₁)
      ∧ w₁.lookUp backend journal report.note = (some found, w₂)
      ∧ host found w₂ = (.ok (), w')
      ∧ shown (World.exchanges backend host w (makeAndShow journal day)) = [(found, .ok ())] := by
  rcases hmade : World.perform backend host (journal.materialize day) w with ⟨cause | report', w₁⟩
  · rw [(makeAndShow_failed hmade).1] at h
    cases h
  · obtain ⟨hperform, hshown⟩ := makeAndShow_made hmade
    rw [hperform] at h
    rcases hlookUp : w₁.lookUp backend journal report'.note with ⟨_ | found, w₂⟩
    · rw [(perform_openNote_missing host hlookUp).1] at h
      cases h
    · obtain ⟨hopen, hopened⟩ := perform_openNote_found host hlookUp
      rw [hopen] at h
      rcases hhost : host found w₂ with ⟨cause | ⟨⟩, w₃⟩
      · rw [hhost] at h
        cases h
      · rw [hhost] at h hopened
        cases h
        exact ⟨w₁, found, w₂, rfl, hlookUp, hhost, hshown.trans hopened⟩

/-- When a call completes over a memory without faults, something is at the path
of each of its notes, and it can be read unless there was only a folder before the
call. A note that is opened is the day note: it is there when the host is called,
and it is a file then, unless there was only a folder before the call. -/
theorem completed_notes_readable (journal : Journal) (day : Day) {host : Host Memory}
    (hhost : host.TakesNothing) {work : Try Run}
    (hwork : work = journal.ensureFor day ∨ work = journal.createAndOpen day)
    {w w' : World Memory} {report : Report}
    (h : World.perform Memory.answer host work w = (.ok (.completed report), w')) :
    report.day = day
      ∧ (∀ period,
        w'.outside.has (journal.layout.locate period day).file = true
          ∧ (¬ w.outside.OnlyFolder (journal.layout.locate period day).file →
            w'.outside.Readable (journal.layout.locate period day).file))
      ∧ ∀ e ∈ shown (World.exchanges Memory.answer host w work), ∃ w₁,
        (host e.1 w₁).1 = e.2 ∧ w' = (host e.1 w₁).2.marked false
          ∧ e.1.same (journal.layout.locate .day day).file = true
          ∧ w₁.outside.has e.1 = true
          ∧ (¬ w.outside.OnlyFolder e.1 → w₁.outside.hasFile e.1 = true) := by
  have hleft : ∀ w₁, World.perform Memory.answer host (journal.materialize day) (w.marked true)
      = (.ok report, w₁) → ∀ period,
      w₁.outside.has (journal.layout.locate period day).file = true
        ∧ (w₁.outside.hasFile (journal.layout.locate period day).file = true
          ↔ ¬ w.outside.OnlyFolder (journal.layout.locate period day).file) := by
    intro w₁ hmade
    rw [← Storage.seen_none] at hmade
    exact made_of_materialize (w := w.marked true) hmade
  rcases hwork with rfl | rfl
  · obtain ⟨hfree, w₁, hmade, rfl⟩ := completed_alone h
    refine ⟨day_of_materialize _ _ _ hmade, fun period => ?_, ?_⟩
    · obtain ⟨hthere, hfile⟩ := hleft w₁ hmade period
      exact ⟨hthere, fun hfree => Memory.readable_iff.mpr (hfile.mpr hfree)⟩
    · have hquiet := quiet_materialize Memory.answer host (w.marked true) journal day
      have hshown : shown (World.exchanges Memory.answer host w (journal.ensureFor day)) = [] :=
        (shown_alone Memory.answer host hfree _).trans hquiet.shown
      simp [hshown]
  · obtain ⟨hfree, w₃, hshow, rfl⟩ := completed_alone h
    obtain ⟨w₁, found, w₂, hmade, hlookUp, hopen, hshown⟩ := completed_makeAndShow hshow
    -- looking for the note has changed nothing
    obtain ⟨_, rfl⟩ := Prod.mk.inj ((lookUp_memory w₁ journal report.note).symm.trans hlookUp)
    have hnote := note_of_materialize Memory.answer host _ (congrArg Prod.fst hmade)
    have hsame := same_of_lookUp _ _ hlookUp
    rw [hnote] at hsame
    have hhas := hhost.has found w₁
    have hhasFile := hhost.hasFile found w₁
    rw [hopen] at hhas hhasFile
    refine ⟨day_of_materialize _ _ _ hmade, fun period => ?_, ?_⟩
    · obtain ⟨hthere, hfile⟩ := hleft w₁ hmade period
      exact ⟨hhas _ hthere,
        fun hfree => Memory.readable_iff.mpr (hhasFile _ (hfile.mpr hfree))⟩
    · have hall : shown (World.exchanges Memory.answer host w (journal.createAndOpen day))
          = [(found, .ok ())] :=
        (shown_alone Memory.answer host hfree (makeAndShow journal day)).trans hshown
      obtain ⟨hthere, hfile⟩ := hleft w₁ hmade .day
      rw [hall, List.forall_mem_singleton]
      refine ⟨w₁, by rw [hopen], by rw [hopen], hsame, ?_, fun hother => ?_⟩
      · rwa [Memory.has_congr hsame]
      · rw [Memory.hasFile_congr hsame]
        exact hfile.mpr fun honly => hother ((Memory.onlyFolder_congr hsame).mpr honly)

theorem completed_notes_readable_edited :
    let journal : Journal :=
      ⟨.under ⟨"notes"⟩, ⟨[⟨"Begin.", "Seneca"⟩], [⟨"Breathe."⟩]⟩, .sections ⟨false, false, false, false⟩⟩
    let memory : Memory := (Memory.empty.makeFolders ⟨"notes/2024/March2024/March2024.md"⟩).2
    let w : World Memory := ⟨memory, .start (.seeded 7)⟩
    let host : Host Memory := fun path w =>
      (.ok (), { w with outside := w.outside.after [.write path "edited"] })
    host.TakesNothing
      ∧ ∃ report w', World.perform Memory.answer host (journal.createAndOpen ⟨2024, 3, 7⟩) w
          = (.ok (.completed report), w')
        ∧ w'.outside.has ⟨"notes/2024/March2024/March2024.md"⟩ = true
        ∧ w'.outside.Readable ⟨"notes/2024/March2024/20240307.md"⟩ := by
  intro journal memory w host
  have hhost : host.TakesNothing :=
    takesNothing_of_calls fun path w => ⟨[.write path "edited"], rfl⟩
  have hrun : (World.perform Memory.answer host (journal.createAndOpen ⟨2024, 3, 7⟩) w).1
      = .ok (.completed ⟨⟨2024, 3, 7⟩, .created, .present, .created,
        ⟨"notes/2024/March2024/20240307.md"⟩⟩) := by decide +kernel
  have hfree : ¬ memory.OnlyFolder (journal.layout.locate .day ⟨2024, 3, 7⟩).file := by
    decide +kernel
  have hmonth : (journal.layout.locate .month ⟨2024, 3, 7⟩).file
      = ⟨"notes/2024/March2024/March2024.md"⟩ := by decide +kernel
  have hday : (journal.layout.locate .day ⟨2024, 3, 7⟩).file
      = ⟨"notes/2024/March2024/20240307.md"⟩ := by decide +kernel
  rcases hperform : World.perform Memory.answer host (journal.createAndOpen ⟨2024, 3, 7⟩) w
    with ⟨outcome, w'⟩
  rw [hperform] at hrun
  subst hrun
  obtain ⟨_, hnotes, _⟩ :=
    completed_notes_readable journal ⟨2024, 3, 7⟩ hhost (.inr rfl) hperform
  refine ⟨hhost, _, w', rfl, ?_, ?_⟩
  · rw [← hmonth]
    exact (hnotes .month).1
  · rw [← hday]
    exact (hnotes .day).2 hfree

/-- A run goes through with a folder in the place of the day note, and has the
folder opened. -/
theorem completed_onto_folder :
    let journal : Journal :=
      ⟨.under ⟨"notes"⟩, ⟨[⟨"Begin.", "Seneca"⟩], [⟨"Breathe."⟩]⟩, .sections ⟨false, false, false, false⟩⟩
    let memory : Memory := (Memory.empty.makeFolders ⟨"notes/2024/March2024/20240307.md"⟩).2
    let w : World Memory := ⟨memory, .start (.seeded 7)⟩
    let host : Host Memory := fun _ w => (.ok (), w)
    let r := World.perform Memory.answer host (journal.createAndOpen ⟨2024, 3, 7⟩) w
    r.1 = .ok (.completed ⟨⟨2024, 3, 7⟩, .created, .created, .present,
        ⟨"notes/2024/March2024/20240307.md"⟩⟩)
      ∧ ¬ r.2.outside.Readable ⟨"notes/2024/March2024/20240307.md"⟩
      ∧ shown (World.exchanges Memory.answer host w (journal.createAndOpen ⟨2024, 3, 7⟩))
        = [(⟨"notes/2024/March2024/20240307.md"⟩, .ok ())]
      ∧ r.2.outside.hasFile ⟨"notes/2024/March2024/20240307.md"⟩ = false := by
  decide +kernel

end Journal

end Daybook
