/-
Daybook.Proofs.Journal.Found — a note that was just made sure of is found.

A run knows its day note by the path that the layout gives it. To open the
note it looks for it among all that lies below the root, and shows it under
the spelling that is listed there. `fresh_note_found`: over a memory without
faults that look never fails, however the root is written and whatever was
done to the memory before. So a call that has made its notes shows exactly
the day note, once, and ends as the host says.

Three things come together: a run that goes through leaves its day note in
the memory; the memory has all the folders above it, since it can be made from
the empty one (`Reachable.closed`); and the note lies below the root by names
(`components_file`), so that a walk comes upon it (`mem_walked_iff`).
-/
import Daybook.Proofs.Journal.Lifecycle
import Daybook.Proofs.Storage.Subtree

namespace Daybook.Journal

open Calendar (Day)
open Storage (Faults Memory seen)

variable {journal : Journal} {day : Day} {host : Host Memory} {w w₁ : World Memory}
  {report : Report}

/-- In a memory a note is looked for in what a walk finds, and nothing is
changed. -/
theorem lookUp_memory (w : World Memory) (journal : Journal) (path : Path) :
    w.lookUp Memory.answer journal path
      = ((w.outside.walked w.outside.depth journal.layout.root).find? fun found =>
          found.same path, w) := by
  have hrun : (findNote journal.layout.root path).run Memory.answer w.outside
      = ((w.outside.walked w.outside.depth journal.layout.root).find? fun found =>
          found.same path, w.outside) := by
    refine (Procedure.run_bind _ (Storage.walk journal.layout.root) _ _).trans ?_
    rw [Memory.run_walk]
    rfl
  rw [World.lookUp, hrun]

/-- A note that is in a closed memory is found, whatever the root is. -/
theorem lookUp_note (w : World Memory) (journal : Journal) (p : Period) (day : Day)
    (hclosed : w.outside.Closed)
    (hthere : w.outside.has (journal.layout.locate p day).file = true) :
    ∃ found, found.same (journal.layout.locate p day).file = true
      ∧ w.lookUp Memory.answer journal (journal.layout.locate p day).file = (some found, w) := by
  obtain ⟨path, hpath, hsame⟩ := Memory.exists_path_of_has hthere
  have hbelow : path.IsBelow journal.layout.root :=
    (Path.isBelow_congr hsame).mpr (journal.layout.file_isBelow_root p day)
  have hwalked := (Memory.mem_walked_iff hclosed).mpr ⟨hpath, hbelow⟩
  have hsome : ((w.outside.walked w.outside.depth journal.layout.root).find? fun found =>
      found.same (journal.layout.locate p day).file).isSome = true :=
    List.find?_isSome.mpr ⟨path, hwalked, hsame⟩
  obtain ⟨found, hfound⟩ := Option.isSome_iff_exists.mp hsome
  refine ⟨found, by simpa using List.find?_some hfound, ?_⟩
  rw [lookUp_memory, hfound]

/-- A run over a memory leaves one that can be made from the empty one. -/
theorem reachable_materialize (faults : Faults) (journal : Journal) (day : Day)
    (host : Host Memory) (hreach : w.outside.Reachable) :
    (World.perform (seen faults) host (journal.materialize day) w).2.outside.Reachable := by
  have hstep : ∀ past q (w' : World Memory), MayAsk journal day past q →
      w'.outside.Reachable → (World.answer (seen faults) host q w').2.outside.Reachable := by
    rintro past q w' hq hreach
    rcases q with q | path | q
    · exact hreach.seen faults q
    · cases hq
    · exact hreach
  have hobeys : (journal.materialize day).run.Obeys _ _ [] := materialize_obeys (by simp)
  exact (hobeys.run_invariant hstep hreach).1

/-- A run that goes through leaves its day note where it is found. -/
theorem lookUp_materialize (hreach : w.outside.Reachable)
    (hmade : World.perform Memory.answer host (journal.materialize day) w = (.ok report, w₁)) :
    ∃ found, found.same (journal.layout.locate .day day).file = true
      ∧ w₁.lookUp Memory.answer journal report.note = (some found, w₁) := by
  rw [note_of_materialize Memory.answer host w (congrArg Prod.fst hmade)]
  rw [← Storage.seen_none] at hmade
  have hreach₁ := reachable_materialize Faults.none journal day host hreach
  rw [hmade] at hreach₁
  exact lookUp_note w₁ journal .day day hreach₁.closed (has_of_materialize hmade .day)

/-- A call that has made its notes over a memory without faults finds its day
note and shows it, and nothing else, once. It ends as the host says: it never
fails to find the note. A tick that does not hold the note for the one opened
last does the same. -/
theorem fresh_note_found (journal : Journal) (day : Day) (host : Host Memory)
    {w w₁ : World Memory} {report : Report} (hreach : w.outside.Reachable)
    (hfree : w.session.busy = false)
    (hmade : World.perform Memory.answer host (journal.materialize day) (w.marked true)
      = (.ok report, w₁)) :
    ∃ found, found.same (journal.layout.locate .day day).file = true
      ∧ w₁.lookUp Memory.answer journal report.note = (some found, w₁)
      ∧ World.perform Memory.answer host (journal.createAndOpen day) w
        = ((host found w₁).1.map fun _ => .completed report, (host found w₁).2.marked false)
      ∧ shown (World.exchanges Memory.answer host w (journal.createAndOpen day))
        = [(found, (host found w₁).1)]
      ∧ (w.session.lastOpened.any (fun last => last.same (journal.layout.locate .day day).file)
          = false →
        (World.perform Memory.answer host (journal.tick day) w).1
            = (host found (w₁.marked false)).1.map (fun _ => .opened report)
          ∧ shown (World.exchanges Memory.answer host w (journal.tick day))
            = [(found, (host found (w₁.marked false)).1)]) := by
  obtain ⟨found, hsame, hfound⟩ := lookUp_materialize (w := w.marked true) hreach hmade
  refine ⟨found, hsame, hfound, ?_, ?_, fun hother => ?_⟩
  · refine (perform_alone Memory.answer host hfree (makeAndShow journal day)).trans ?_
    rw [(makeAndShow_made hmade).1, (perform_openNote_found host hfound).1]
    rcases host found w₁ with ⟨_ | _, _⟩ <;> rfl
  · refine (shown_alone Memory.answer host hfree (makeAndShow journal day)).trans ?_
    rw [(makeAndShow_made hmade).2, (perform_openNote_found host hfound).2]
  · have hensure : World.perform Memory.answer host (journal.ensureFor day) w
        = (.ok (.completed report), w₁.marked false) := by
      refine (perform_alone Memory.answer host hfree (journal.materialize day)).trans ?_
      rw [hmade]
      rfl
    have hquiet := quiet_materialize Memory.answer host (w.marked true) journal day
    have hshown : shown (World.exchanges Memory.answer host w (journal.ensureFor day)) = [] :=
      (shown_alone Memory.answer host hfree _).trans hquiet.shown
    rw [hmade] at hquiet
    have hmarks := hquiet.marks
    simp only [Session.marks, Prod.mk.injEq] at hmarks
    have hnote := note_of_materialize Memory.answer host (w.marked true) (congrArg Prod.fst hmade)
    -- the note is looked for after the mark was given back
    have hlater : (w₁.marked false).lookUp Memory.answer journal report.note
        = (some found, w₁.marked false) := by
      rw [lookUp_memory] at hfound ⊢
      exact congrArg (fun r => (r, w₁.marked false)) (congrArg Prod.fst hfound)
    have hdiffers : (w₁.marked false).session.lastOpened.any
        (fun last => last.same report.note) = false := by
      rw [hnote]
      exact (congrArg (Option.any _) hmarks.2.2).trans hother
    obtain ⟨hperform, hlog⟩ := tick_settles hensure
    obtain ⟨hsettle, hshows⟩ := settle_other Memory.answer host journal hdiffers
    obtain ⟨hopen, hopens⟩ := perform_openNote_found host hlater
    rw [hperform, hsettle, hopen, hlog, shown_append, hshown, hshows, hopens]
    refine ⟨?_, rfl⟩
    rcases host found (w₁.marked false) with ⟨_ | _, _⟩ <;> rfl

theorem fresh_note_found_odd_root :
    let journal : Journal :=
      ⟨.under ⟨"./notes//."⟩, ⟨[⟨"Begin.", "Seneca"⟩], [⟨"Breathe."⟩]⟩, .sections .allOn⟩
    let memory : Memory :=
      (((Memory.empty.withFile ⟨"./notes/old.md"⟩ "old").makeFolders ⟨"notes/2024"⟩).2.create
        ⟨"notes/2024//2024.md"⟩ "my year").2
    let w : World Memory := ⟨memory, .start (.seeded 7)⟩
    let host : Host Memory := fun _ w => (.ok (), w)
    memory.Reachable ∧ w.session.busy = false
      ∧ (∃ report w₁, World.perform Memory.answer host (journal.materialize ⟨2024, 5, 1⟩)
          (w.marked true) = (.ok report, w₁))
      ∧ ∃ found : Path, found.same ⟨"./notes/2024/May2024/20240501.md"⟩ = true
        ∧ shown (World.exchanges Memory.answer host w (journal.createAndOpen ⟨2024, 5, 1⟩))
          = [(found, .ok ())]
        ∧ shown (World.exchanges Memory.answer host w (journal.tick ⟨2024, 5, 1⟩))
          = [(found, .ok ())] := by
  intro journal memory w host
  have hreach : memory.Reachable :=
    ((Memory.Reachable.empty.withFile _ _).makeFolders _).create _ _
  have hok : (World.perform Memory.answer host (journal.materialize ⟨2024, 5, 1⟩)
      (w.marked true)).1.isOk = true := by decide +kernel
  have hplace : (journal.layout.locate .day ⟨2024, 5, 1⟩).file.same
      ⟨"./notes/2024/May2024/20240501.md"⟩ = true := by decide +kernel
  have hmade : ∃ report w₁, World.perform Memory.answer host (journal.materialize ⟨2024, 5, 1⟩)
      (w.marked true) = (.ok report, w₁) := by
    rcases h : World.perform Memory.answer host (journal.materialize ⟨2024, 5, 1⟩)
      (w.marked true) with ⟨_ | report, w₁⟩
    · rw [h] at hok
      cases hok
    · exact ⟨report, w₁, rfl⟩
  obtain ⟨report, w₁, hrun⟩ := hmade
  obtain ⟨found, hsame, _, _, hshown, htick⟩ :=
    fresh_note_found journal ⟨2024, 5, 1⟩ host (w := w) hreach rfl hrun
  exact ⟨hreach, rfl, ⟨report, w₁, hrun⟩, found, Path.same_trans hsame hplace, hshown,
    (htick rfl).2⟩

end Daybook.Journal
