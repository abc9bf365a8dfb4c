/-
Daybook.Proofs.Storage.Closed — a memory has the folders that its paths need.

A memory that was made from the empty one has, with every path in it, the
folder that the path lies in (`Reachable.closed`), and so all the folders
above it (`Closed.folder_of_prefix`). The path may be written in any way: what
it lies in is told by its components (`hasParent_iff`).

This is what walking through a memory depends on. A walk goes down from
folder to folder, so it would miss a file below a folder that was never made.
-/
import Daybook.Proofs.Storage.Growth
import Daybook.Proofs.Storage.Walk
import Mathlib.Data.List.Induction

namespace Daybook.Storage

namespace Memory

variable {m : Memory} {path p : Path} {text : String}

/-! ## Memories that can come about -/

/-- The memory can be made from the empty one. -/
inductive Reachable : Memory → Prop where
  | empty : Reachable .empty
  | withFile {m : Memory} (h : Reachable m) (path : Path) (text : String) :
      Reachable (m.withFile path text)
  | write {m : Memory} (h : Reachable m) (path : Path) (text : String) :
      Reachable (m.write path text).2
  | create {m : Memory} (h : Reachable m) (path : Path) (text : String) :
      Reachable (m.create path text).2
  | makeFolders {m : Memory} (h : Reachable m) (path : Path) : Reachable (m.makeFolders path).2

/-- No question leads elsewhere. -/
theorem Reachable.answer (h : Reachable m) (q : Query) : Reachable (Memory.answer q m).2 := by
  cases q with
  | write path text => exact h.write path text
  | create path text => exact h.create path text
  | makeFolders path => exact h.makeFolders path
  | _ => exact h

/-- Under faults a question is refused or answered. -/
theorem Reachable.seen (h : Reachable m) (faults : Faults) (q : Query) :
    Reachable (Storage.seen faults q m).2 := by
  have hcases : (Storage.seen faults q m).2 = m
      ∨ (Storage.seen faults q m).2 = (Memory.answer q m).2 := by
    cases q with
    | write path text =>
      simp only [Storage.seen, Faults.answer]
      split
      · exact .inl rfl
      · exact .inr rfl
    | create path text =>
      simp only [Storage.seen, Faults.answer]
      split
      · exact .inl rfl
      · exact .inr rfl
    | makeFolders path =>
      simp only [Storage.seen, Faults.answer]
      split
      · exact .inl rfl
      · exact .inr rfl
    | _ => exact .inl (answer_looks faults rfl m)
  rcases hcases with he | he
  · rw [he]
    exact h
  · rw [he]
    exact h.answer q

theorem Reachable.run {α : Type} (h : Reachable m) (faults : Faults) (work : Work α) :
    Reachable (work.run (Storage.seen faults) m).2 := by
  induction work generalizing m with
  | done a => exact h
  | ask q next ih => exact ih _ (h.seen faults q)

/-! ## The folder that a path lies in -/

theorem hasFolder_iff : m.hasFolder p = true ↔ ∃ f ∈ m.folders, f.components = p.components := by
  simp [hasFolder, Path.same_iff]

/-- Nothing counts of the path but its components. -/
theorem hasParent_iff : m.hasParent p = true ↔ p.components.dropLast = []
    ∨ ∃ folder : Path, folder.components = p.components.dropLast ∧ m.hasFolder folder = true := by
  unfold hasParent
  rcases p.parent?_cases with ⟨hnone, hcomp⟩ | ⟨parent, hparent, _, _, hcomp⟩
  · rcases hcomp with hcomp | hcomp <;> simp [hnone, hcomp]
  · simp only [hparent, Bool.or_eq_true, Path.isEmpty_iff, hcomp]
    constructor
    · exact fun h => h.imp_right fun hfolder => ⟨parent, hcomp, hfolder⟩
    · rintro (h | ⟨folder, hfolder, hhas⟩)
      · exact .inl h
      · rw [hasFolder_congr (Path.same_iff.mpr (hfolder.trans hcomp.symm))] at hhas
        exact .inr hhas

theorem hasParent_congr {q : Path} (h : p.same q = true) : m.hasParent p = m.hasParent q := by
  rw [Bool.eq_iff_iff, hasParent_iff, hasParent_iff, Path.same_iff.mp h]

/-- Everything that is there lies in a folder that is there. -/
def Closed (m : Memory) : Prop :=
  ∀ p, m.has p = true → m.hasParent p = true

theorem Closed.put (h : m.Closed) (hparent : m.hasParent path = true) :
    (m.put path text).Closed := by
  intro p hp
  show m.hasParent p = true
  rcases has_iff.mp hp with ⟨t, ht⟩ | hfolder
  · rw [textAt?_put] at ht
    split at ht
    · rename_i hsame
      rwa [← hasParent_congr hsame]
    · exact h p (has_iff.mpr (.inl ⟨t, ht⟩))
  · exact h p (has_iff.mpr (.inr hfolder))

theorem Closed.addFolders (h : m.Closed) (folder : Path) : (m.addFolders folder).Closed := by
  intro p hp
  rw [hasParent_iff]
  have hold : m.has p = true → p.components.dropLast = [] ∨ ∃ f : Path,
      f.components = p.components.dropLast ∧ (m.addFolders folder).hasFolder f = true := by
    intro hhas
    refine (hasParent_iff.mp (h p hhas)).imp_right fun ⟨f, hf, hfolder⟩ => ⟨f, hf, ?_⟩
    rw [hasFolder_addFolders, hfolder, Bool.true_or]
  rcases has_iff.mp hp with ⟨t, ht⟩ | hfolder
  · rw [textAt?_addFolders] at ht
    exact hold (has_iff.mpr (.inl ⟨t, ht⟩))
  · rcases hasFolder_of_addFolders hfolder with hthere | ⟨a, ha, hsame⟩
    · exact hold (has_iff.mpr (.inr hthere))
    · -- a folder is made together with every ancestor that has components
      by_cases hnil : p.components.dropLast = []
      · exact .inl hnil
      · have hpre : p.components.dropLast <+: folder.components := by
          rw [← Path.same_iff.mp hsame]
          exact (List.dropLast_prefix _).trans (Path.components_ancestor ha)
        obtain ⟨b, hb, hcomp⟩ := Path.exists_ancestor hnil hpre
        refine .inr ⟨b, hcomp, ?_⟩
        rw [hasFolder_addFolders, Bool.or_eq_true, List.any_eq_true]
        exact .inr ⟨b, hb, Path.same_refl b⟩

theorem Closed.withFile (h : m.Closed) (path : Path) (text : String) :
    (m.withFile path text).Closed := by
  unfold Memory.withFile
  split
  · rename_i parent hparent
    refine (h.addFolders parent).put ?_
    rw [hasParent, hparent]
    simp only [Bool.or_eq_true]
    cases hempty : parent.isEmpty with
    | true => exact .inl rfl
    | false => exact .inr (hasFolder_addFolders_self hempty)
  · rename_i hparent
    exact h.put (by rw [hasParent, hparent])

/-- Whatever was done to it, a memory has the folder that each path lies in. -/
theorem Reachable.closed (h : Reachable m) : m.Closed := by
  induction h with
  | empty => exact fun p hp => absurd hp (by simp [Memory.empty, has, hasFile, hasFolder])
  | withFile _ path text ih => exact ih.withFile path text
  | write _ path text ih =>
    unfold Memory.write
    split
    · rename_i hparent
      exact ih.put hparent
    · exact ih
  | create _ path text ih =>
    unfold Memory.create
    split
    · exact ih
    · split
      · rename_i hparent
        exact ih.put hparent
      · exact ih
  | makeFolders _ path ih =>
    unfold Memory.makeFolders
    split
    · exact ih
    · exact ih.addFolders path

/-- In a closed memory all the folders above a path are there. -/
theorem Closed.folder_of_prefix (h : m.Closed) {cs rest : List Component} (hcs : cs ≠ [])
    (hrest : rest ≠ []) (hp : m.has p = true) (hcomp : p.components = cs ++ rest) :
    ∃ f ∈ m.folders, f.components = cs := by
  induction rest using List.reverseRecOn generalizing p with
  | nil => exact absurd rfl hrest
  | append_singleton rest c ih =>
    have hdrop : p.components.dropLast = cs ++ rest := by
      rw [hcomp, ← List.append_assoc, List.dropLast_concat]
    rcases hasParent_iff.mp (h p hp) with hnil | ⟨folder, hfolder, hthere⟩
    · rw [hdrop, List.append_eq_nil_iff] at hnil
      exact absurd hnil.1 hcs
    · rw [hdrop] at hfolder
      cases rest with
      | nil =>
        rw [List.append_nil] at hfolder
        obtain ⟨f, hf, hsame⟩ := hasFolder_iff.mp hthere
        exact ⟨f, hf, hsame.trans hfolder⟩
      | cons d rest => exact ih (by simp) (has_iff.mpr (.inr hthere)) hfolder

/-! ## Walking -/

/-- What a walk through a memory finds. -/
def walked (m : Memory) : Nat → Path → List Path
  | 0, _ => []
  | bound + 1, folder => (m.entries folder).flatMap fun entry =>
    if m.hasFolder entry then entry :: m.walked bound entry else [entry]

theorem walked_eq (m : Memory) (bound : Nat) (folder : Path) :
    m.walked bound folder = Storage.walked m.entries m.hasFolder bound folder := by
  induction bound generalizing folder with
  | zero => rfl
  | succ bound ih => simp only [walked, Storage.walked, ih]

theorem run_walk (m : Memory) (folder : Path) :
    (walk folder).run Memory.answer m = (m.walked m.depth folder, m) := by
  rw [walked_eq]
  exact Storage.run_walk (fun _ => rfl) (fun _ => rfl) rfl folder

/-- The paths of a memory. -/
def paths (m : Memory) : List Path :=
  m.folders ++ m.files.map (·.1)

theorem exists_path_of_has (h : m.has p = true) : ∃ q ∈ m.paths, q.same p = true := by
  simp only [has, hasFile, hasFolder, Bool.or_eq_true, List.any_eq_true] at h
  rcases h with ⟨file, hfile, hsame⟩ | ⟨folder, hfolder, hsame⟩
  · exact ⟨file.1, List.mem_append_right _ (List.mem_map_of_mem hfile), hsame⟩
  · exact ⟨folder, List.mem_append_left _ hfolder, hsame⟩

theorem has_of_mem_paths (h : p ∈ m.paths) : m.has p = true := by
  simp only [has, hasFile, hasFolder, Bool.or_eq_true, List.any_eq_true]
  rcases List.mem_append.mp h with h | h
  · exact .inr ⟨p, h, Path.same_refl p⟩
  · obtain ⟨file, hfile, rfl⟩ := List.mem_map.mp h
    exact .inl ⟨file, hfile, Path.same_refl _⟩

theorem length_le_depth (h : p ∈ m.paths) : p.components.length ≤ m.depth := by
  exact le_foldl_max (List.mem_map_of_mem (f := fun path => path.components.length) h)

theorem mem_entries_iff {folder path : Path} :
    path ∈ m.entries folder ↔ path ∈ m.paths ∧ liesIn folder path = true := by
  rw [entries, ← List.filter_append, List.mem_filter, paths]

end Memory

end Daybook.Storage
