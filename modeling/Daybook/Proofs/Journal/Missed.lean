/-
Daybook.Proofs.Journal.Missed — when a note that is there is not found.

A storage may refuse to list a folder. A walk goes on without that folder and
nobody is told, so that a note behind it is looked for in vain: it is reported
as missing although it is stored. `note_missed_iff_cutOff` says of which notes
this is true, both for the look itself and for the calls that open the note of
today: it depends on the folders above the note and on nothing else. The
other refusals of a storage never have this end.

To make sure of notes no folder is listed, so the runs over a storage that
refuses lists are those over the storage behind it (`perform_materialize_refusing`).
-/
import Daybook.Proofs.Journal.Found
import Daybook.Proofs.Storage.Refusal

namespace Daybook.Journal

open Calendar (Day)
open Storage (Backend CutOff Faults Memory Refusals refusing seen unlistedBy)

/-! ## 1. The look -/

section Looking

variable {faults : Faults} {m : Memory}

/-- All spellings of a path are cut off together, so the look fails for all that
it could find or for nothing. -/
theorem findNote_refusing (hhidden : faults.hidden = []) (refusals : Refusals) (m : Memory)
    (root path : Path) :
    (findNote root path).run (refusing refusals (seen faults)) m
      = (if CutOff (unlistedBy faults refusals) root path then none
          else (m.walked m.depth root).find? fun found => found.same path, m) := by
  refine (Procedure.run_bind _ (Storage.walk root) _ m).trans ?_
  rw [Memory.run_walk_refusing hhidden]
  refine congrArg (·, m) (List.find?_filter.trans ?_)
  have htogether : ∀ found : Path, found.same path = true →
      (CutOff (unlistedBy faults refusals) root found
        ↔ CutOff (unlistedBy faults refusals) root path) :=
    fun found hsame => Storage.cutOff_congr hsame
  split
  · next hcut =>
    refine List.find?_eq_none.mpr fun found _ hfound => ?_
    obtain ⟨hopen, hsame⟩ := of_decide_eq_true hfound
    simp [(htogether found hsame).mpr hcut] at hopen
  · next hopen =>
    refine congrArg (List.find? · _) (funext fun found => ?_)
    cases hsame : found.same path with
    | false => simp
    | true => simp [htogether found hsame, hopen]

/-- A walk through a memory comes upon a spelling of the path if it is there, below the
start. -/
theorem find?_walked_eq_none (hreach : m.Reachable) (root path : Path) :
    ((m.walked m.depth root).find? fun found => found.same path) = none
      ↔ ¬ (m.has path = true ∧ path.IsBelow root) := by
  rw [List.find?_eq_none]
  constructor
  · rintro hnone ⟨hthere, hbelow⟩
    obtain ⟨found, hfound, hsame⟩ := Memory.exists_path_of_has hthere
    have hbelow : found.IsBelow root := (Path.isBelow_congr hsame).mpr hbelow
    exact hnone found ((Memory.mem_walked_iff hreach.closed).mpr ⟨hfound, hbelow⟩) hsame
  · intro hmissing found hfound hsame
    obtain ⟨hpath, hbelow⟩ := (Memory.mem_walked_iff hreach.closed).mp hfound
    refine hmissing ⟨?_, (Path.isBelow_congr hsame).mp hbelow⟩
    rw [← Memory.has_congr hsame]
    exact Memory.has_of_mem_paths hpath

/-- A look changes nothing. It fails for what is not there and for what is cut off, and
what it finds is the path that was looked for. -/
theorem findNote_none_iff (hhidden : faults.hidden = []) (refusals : Refusals)
    (hreach : m.Reachable) (root path : Path) :
    ∃ found, (findNote root path).run (refusing refusals (seen faults)) m = (found, m)
      ∧ (found = none ↔ ¬ (m.has path = true ∧ path.IsBelow root)
        ∨ CutOff (unlistedBy faults refusals) root path)
      ∧ ∀ entry ∈ found, entry ∈ m.paths ∧ entry.same path = true := by
  refine ⟨_, findNote_refusing hhidden refusals m root path, ?_, ?_⟩
  · split
    · next hcut => exact iff_of_true rfl (.inr hcut)
    · next hway =>
      rw [find?_walked_eq_none hreach]
      exact (or_iff_left hway).symm
  · intro entry hentry
    split at hentry
    · cases hentry
    · have hmem := (Memory.mem_walked_iff hreach.closed).mp (List.mem_of_find?_eq_some hentry)
      exact ⟨hmem.1, by simpa using List.find?_some (Option.mem_def.mp hentry)⟩

end Looking

/-! ## 2. The calls -/

section Calls

variable {σ : Type} {backend : Backend σ} {host : Host σ} {w w₁ : World σ} {journal : Journal}
  {day : Day} {report : Report} {cause : JournalError} (hfree : w.session.busy = false)

include hfree

/-- The calls that open the note of today fail as its making does. -/
theorem calls_failed
    (h : World.perform backend host (journal.materialize day) (w.marked true)
      = (.error cause, w₁)) :
    World.perform backend host (journal.createAndOpen day) w = (.error cause, w₁.marked false)
      ∧ World.perform backend host (journal.tick day) w = (.error cause, w₁.marked false) := by
  constructor
  · refine (perform_alone backend host hfree (makeAndShow journal day)).trans ?_
    rw [(makeAndShow_failed h).1]
    rfl
  · have hensure : World.perform backend host (journal.ensureFor day) w
        = (.error cause, w₁.marked false) := by
      refine (perform_alone backend host hfree (journal.materialize day)).trans ?_
      rw [h]
      rfl
    exact (tick_failed hensure).1

variable (hmade : World.perform backend host (journal.materialize day) (w.marked true)
  = (.ok report, w₁))

include hmade

/-- When the notes are made, the call ends as the opening of the day note does. -/
theorem createAndOpen_made :
    World.perform backend host (journal.createAndOpen day) w
      = ((World.perform backend host
            (journal.openNote (journal.layout.locate .day day).file) w₁).1.map
          fun _ => .completed report,
        (World.perform backend host
          (journal.openNote (journal.layout.locate .day day).file) w₁).2.marked false) := by
  refine (perform_alone backend host hfree (makeAndShow journal day)).trans ?_
  rw [(makeAndShow_made hmade).1, note_of_materialize _ _ _ (congrArg Prod.fst hmade)]
  rcases World.perform backend host (journal.openNote _) w₁ with ⟨_ | _, _⟩ <;> rfl

/-- A tick leaves a note alone that was opened last and else opens it. -/
theorem tick_made :
    World.perform backend host (journal.tick day) w
      = if w.session.lastOpened.any fun last =>
            last.same (journal.layout.locate .day day).file then
          (.ok (.unchanged report), w₁.marked false)
        else match World.perform backend host
            (journal.openNote (journal.layout.locate .day day).file) (w₁.marked false) with
          | (.ok (), w₂) => (.ok (.opened report),
              w₂.remembering (journal.layout.locate .day day).file)
          | (.error cause, w₂) => (.error cause, w₂) := by
  have hensure : World.perform backend host (journal.ensureFor day) w
      = (.ok (.completed report), w₁.marked false) := by
    refine (perform_alone backend host hfree (journal.materialize day)).trans ?_
    rw [hmade]
    rfl
  have hmarks := (quiet_materialize backend host (w.marked true) journal day).marks
  rw [hmade] at hmarks
  have hlast : (w₁.marked false).session.lastOpened = w.session.lastOpened :=
    congrArg (fun marks => marks.2.2) hmarks
  rw [(tick_settles hensure).1, ← hlast,
    ← note_of_materialize _ _ _ (congrArg Prod.fst hmade)]
  split
  · next hsame => exact (settle_same backend host journal hsame).1
  · next hother =>
    exact (settle_other backend host journal (Bool.eq_false_iff.mpr hother)).1

end Calls

/-! ## 3. Behind a folder that is not listed -/

section Missed

variable {faults : Faults} {journal : Journal} {day : Day}

/-- To make sure of notes no folder is listed. -/
theorem perform_materialize_refusing {σ : Type} (backend : Backend σ) (host : Host σ)
    (refusals : Refusals) (journal : Journal) (day : Day) (w : World σ) :
    World.perform (refusing refusals backend) host (journal.materialize day) w
      = World.perform backend host (journal.materialize day) w := by
  have hobeys : (journal.materialize day).run.Obeys _ _ [] := materialize_obeys (by simp)
  refine hobeys.run_map (f := id) (fun past q w hq => ?_) w
  cases hq <;> rfl

/-- A day note that is there is found unless it is cut off, in any session. -/
theorem openNote_refusing (hhidden : faults.hidden = []) (refusals : Refusals)
    (host : Host Memory) {m : Memory} (hreach : m.Reachable)
    (hthere : m.has (journal.layout.locate .day day).file = true) :
    (CutOff (unlistedBy faults refusals) journal.layout.root
        (journal.layout.locate .day day).file →
      ∀ w : World Memory, w.outside = m → World.perform (refusing refusals (seen faults)) host
          (journal.openNote (journal.layout.locate .day day).file) w
        = (.error (.noteNotFound (journal.layout.locate .day day).file), w))
    ∧ (¬ CutOff (unlistedBy faults refusals) journal.layout.root
        (journal.layout.locate .day day).file →
      ∃ found, found.same (journal.layout.locate .day day).file = true
        ∧ ∀ w : World Memory, w.outside = m → World.perform (refusing refusals (seen faults)) host
            (journal.openNote (journal.layout.locate .day day).file) w
          = host found w) := by
  have hlook := findNote_refusing hhidden refusals m journal.layout.root
    (journal.layout.locate .day day).file
  refine ⟨fun hcut w hw => ?_, fun hway => ?_⟩
  · rw [if_pos hcut, ← hw] at hlook
    refine (perform_openNote_missing host ?_).1
    rw [World.lookUp, hlook]
  · rw [if_neg hway] at hlook
    have hsome := mt (find?_walked_eq_none hreach journal.layout.root _).mp
      (not_not.mpr ⟨hthere, journal.layout.file_isBelow_root .day day⟩)
    obtain ⟨found, hfound⟩ := Option.ne_none_iff_exists'.mp hsome
    refine ⟨found, by simpa using List.find?_some hfound, fun w hw => ?_⟩
    rw [hfound, ← hw] at hlook
    refine (perform_openNote_found host ?_).1
    rw [World.lookUp, hlook]

/-- Over a memory that refuses what it likes, but hides nothing that it lists:
what is stored below a folder is looked for in vain exactly if a folder on the way
to it is not listed. The calls that open the note of today report it as missing
for this reason and for no other, though it is there. -/
theorem note_missed_iff_cutOff (hhidden : faults.hidden = []) (refusals : Refusals)
    (journal : Journal) (day : Day) (host : Host Memory) {w : World Memory}
    (hreach : w.outside.Reachable) (hfree : w.session.busy = false) :
    let backend := refusing refusals (seen faults)
    let cutOff := CutOff (unlistedBy faults refusals)
    let note := (journal.layout.locate .day day).file
    let isLast := w.session.lastOpened.any fun last => last.same note
    (∀ root path, ∃ found, (findNote root path).run backend w.outside = (found, w.outside)
      ∧ (found = none ↔ ¬ (w.outside.has path = true ∧ path.IsBelow root) ∨ cutOff root path)
      ∧ ∀ entry ∈ found, entry ∈ w.outside.paths ∧ entry.same path = true)
    ∧ (∀ cause w₁,
      World.perform backend host (journal.materialize day) (w.marked true) = (.error cause, w₁) →
      World.perform backend host (journal.createAndOpen day) w = (.error cause, w₁.marked false)
        ∧ World.perform backend host (journal.tick day) w = (.error cause, w₁.marked false))
    ∧ ∀ report w₁,
      World.perform backend host (journal.materialize day) (w.marked true) = (.ok report, w₁) →
      w₁.outside.has note = true
        ∧ (cutOff journal.layout.root note →
          World.perform backend host (journal.createAndOpen day) w
              = (.error (.noteNotFound note), w₁.marked false)
            ∧ World.perform backend host (journal.tick day) w
              = (if isLast then .ok (.unchanged report) else .error (.noteNotFound note),
                w₁.marked false))
        ∧ (¬ cutOff journal.layout.root note → ∃ found, found.same note = true
          ∧ World.perform backend host (journal.createAndOpen day) w
            = ((host found w₁).1.map fun _ => .completed report, (host found w₁).2.marked false)
          ∧ (World.perform backend host (journal.tick day) w).1
            = if isLast then .ok (.unchanged report)
              else (host found (w₁.marked false)).1.map fun _ => .opened report) := by
  intro backend cutOff note isLast
  refine ⟨findNote_none_iff hhidden refusals hreach, fun cause w₁ => calls_failed hfree,
    fun report w₁ hmade => ?_⟩
  have hcreate := createAndOpen_made hfree hmade
  have htick := tick_made hfree hmade
  rw [perform_materialize_refusing] at hmade
  have hthere := has_of_materialize hmade .day
  have hreach₁ : w₁.outside.Reachable := by
    have hafter := reachable_materialize faults journal day host (w := w.marked true) hreach
    rwa [hmade] at hafter
  obtain ⟨hmissed, hfound⟩ := openNote_refusing hhidden refusals host hreach₁ hthere
  refine ⟨hthere, fun hcut => ?_, fun hway => ?_⟩
  · rw [hcreate, htick, hmissed hcut w₁ rfl, hmissed hcut (w₁.marked false) rfl]
    refine ⟨rfl, ?_⟩
    split <;> rfl
  · obtain ⟨found, hsame, hopen⟩ := hfound hway
    refine ⟨found, hsame, ?_, ?_⟩
    · rw [hcreate, hopen w₁ rfl]
    · rw [htick, hopen (w₁.marked false) rfl]
      split
      · rfl
      · rcases host found (w₁.marked false) with ⟨_ | _, _⟩ <;> rfl

/-- With the folder of the year refused, the day note in the folder of the month is
missed by both calls; a note beside the folder of the year is found. -/
theorem note_missed_refused_year :
    let journal : Journal :=
      ⟨.under ⟨"notes"⟩, ⟨[⟨"Begin.", "Seneca"⟩], [⟨"Breathe."⟩]⟩, .sections .allOn⟩
    let refusals : Refusals := fun place =>
      if place = [.name "notes", .name "2024"] then some .denied else none
    let faults : Faults := { Faults.none with reads := true, blind := true }
    let backend := refusing refusals (seen faults)
    let host : Host Memory := fun _ w => (.ok (), w)
    let memory := Memory.empty.withFile ⟨"notes/old.md"⟩ "old"
    let w : World Memory := ⟨memory, .start (.seeded 7)⟩
    let note := (journal.layout.locate .day ⟨2024, 5, 1⟩).file
    faults.hidden = [] ∧ memory.Reachable ∧ w.session.busy = false
      ∧ (∃ found, (findNote ⟨"notes"⟩ ⟨"notes//old.md"⟩).run backend memory = (some found, memory))
      ∧ ∃ report w₁,
        World.perform backend host (journal.materialize ⟨2024, 5, 1⟩) (w.marked true)
          = (.ok report, w₁)
        ∧ w₁.outside.has note = true
        ∧ World.perform backend host (journal.createAndOpen ⟨2024, 5, 1⟩) w
          = (.error (.noteNotFound note), w₁.marked false)
        ∧ World.perform backend host (journal.tick ⟨2024, 5, 1⟩) w
          = (.error (.noteNotFound note), w₁.marked false) := by
  intro journal refusals faults backend host memory w note
  have hreach : memory.Reachable := Memory.Reachable.empty.withFile _ _
  have hok : (World.perform backend host (journal.materialize ⟨2024, 5, 1⟩)
      (w.marked true)).1.isOk = true := by decide +kernel
  have hcut : CutOff (unlistedBy faults refusals) journal.layout.root note := by decide +kernel
  have hway : ¬ CutOff (unlistedBy faults refusals) ⟨"notes"⟩ ⟨"notes//old.md"⟩ := by
    decide +kernel
  have hbelow : (⟨"notes//old.md"⟩ : Path).IsBelow ⟨"notes"⟩ := by decide +kernel
  have hhidden : faults.hidden = [] := rfl
  obtain ⟨hfind, _, hmade⟩ :=
    note_missed_iff_cutOff hhidden refusals journal ⟨2024, 5, 1⟩ host (w := w) hreach rfl
  refine ⟨hhidden, hreach, rfl, ?_, ?_⟩
  · obtain ⟨found, hrun, hnone, _⟩ := hfind ⟨"notes"⟩ ⟨"notes//old.md"⟩
    obtain ⟨found, rfl⟩ := Option.ne_none_iff_exists'.mp fun h =>
      (hnone.mp h).elim (fun hmissing => hmissing ⟨by decide +kernel, hbelow⟩) hway
    exact ⟨found, hrun⟩
  · rcases hrun : World.perform backend host (journal.materialize ⟨2024, 5, 1⟩) (w.marked true)
      with ⟨_ | report, w₁⟩
    · rw [hrun] at hok
      cases hok
    · obtain ⟨hthere, hmissed, _⟩ := hmade report w₁ hrun
      exact ⟨report, w₁, rfl, hthere, hmissed hcut⟩

/-- One file in a storage that lists nothing: it is there, and it is not found. -/
theorem stored_note_not_found :
    let memory := Memory.empty.withFile ⟨"root/2024/n.md"⟩ "x"
    memory.Reachable ∧ memory.has ⟨"root/2024/n.md"⟩ = true
      ∧ (⟨"root/2024/n.md"⟩ : Path).IsBelow ⟨"root"⟩
      ∧ (findNote ⟨"root"⟩ ⟨"root/2024/n.md"⟩).run (seen { Faults.none with lists := true }) memory
        = (none, memory) :=
  ⟨Memory.Reachable.empty.withFile _ _, by decide +kernel, by decide +kernel, by decide +kernel⟩

end Missed

end Daybook.Journal
