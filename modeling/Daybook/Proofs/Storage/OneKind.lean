/-
Daybook.Proofs.Storage.OneKind — when a memory is like a file tree.

In a file tree a place is a file or a folder but not both, and nothing lies below
a file (`IsTree`). A memory keeps its files and its folders apart, and its calls
look at the other kind only in part: creating a file looks at both, writing one
only at the folder around it, and making folders only for a file in the place of
the last of them. So the memory stops being like a tree when a file is written
onto a folder (`write_onto_folder`), and when folders are made through a file.

Those two are all that can go wrong but for a file at the empty path. Each call
keeps the tree if it respects what is there and breaks it if it does not
(`isTree_answer_iff`), and so does a row of calls (`isTree_throughout_iff`).
-/
import Daybook.Proofs.Storage.Closed

namespace Daybook.Storage

namespace Memory

variable {m : Memory} {path p : Path} {text : String}

/-! ## 1. Trees -/

/-- No file stands above the path. -/
def Clear (m : Memory) (path : Path) : Prop :=
  ∀ a ∈ path.above, m.hasFile a = false

instance (m : Memory) (path : Path) : Decidable (m.Clear path) :=
  inferInstanceAs (Decidable (∀ a ∈ path.above, m.hasFile a = false))

/-- The memory is like a file tree. -/
structure IsTree (m : Memory) : Prop where
  /-- The place where relative paths start is no file. -/
  ground : m.hasFile ⟨""⟩ = false
  oneKind : ∀ p, m.hasFile p = true → m.hasFolder p = false
  /-- Nothing lies below a file. -/
  clear : ∀ p, m.has p = true → m.Clear p

theorem isTree_empty : IsTree .empty where
  ground := rfl
  oneKind _ h := absurd h Bool.false_ne_true
  clear _ h := absurd h Bool.false_ne_true

theorem clear_iff : m.Clear path ↔ ∀ p, path.IsBelow p → m.hasFile p = false := by
  constructor
  · rintro h p ⟨a, ha, hsame⟩
    rw [← hasFile_congr hsame]
    exact h a ha
  · exact fun h a ha => h a ⟨a, ha, Path.same_refl a⟩

/-- What lies in a folder of a tree has no file above it. -/
theorem IsTree.clear_of_hasParent (h : m.IsTree) (hparent : m.hasParent p = true) : m.Clear p := by
  intro a ha
  cases hp : p.parent? with
  | none => exact absurd (⟨a, ha, Path.same_refl a⟩ : p.IsBelow a) (Path.not_isBelow hp)
  | some folder =>
    rw [Path.above_of_parent hp] at ha
    simp only [hasParent, hp, Bool.or_eq_true] at hparent
    rcases hparent with hempty | hfolder
    · obtain rfl : folder = ⟨""⟩ := congrArg Path.mk (String.isEmpty_iff.mp hempty)
      obtain rfl : a = ⟨""⟩ := List.mem_singleton.mp ha
      exact h.ground
    · rcases List.mem_cons.mp ha with rfl | ha
      · refine Bool.eq_false_iff.mpr fun hfile => ?_
        rw [h.oneKind a hfile] at hfolder
        cases hfolder
      · exact h.clear folder (has_iff.mpr (.inr hfolder)) a ha

/-- In a closed memory what something lies below is a folder. -/
theorem Closed.hasFolder_of_isBelow {folder : Path} (h : m.Closed) (hp : m.has p = true)
    (hbelow : p.IsBelow folder) (hempty : folder.isEmpty = false) : m.hasFolder folder = true := by
  obtain ⟨⟨rest, hrest⟩, hne, _⟩ := Path.isBelow_iff.mp hbelow
  have hcomp : folder.components ≠ [] := fun hnil => by
    rw [Path.isEmpty_iff.mpr hnil] at hempty
    cases hempty
  refine hasFolder_iff.mpr (h.folder_of_prefix hcomp (fun hnil => hne ?_) hp hrest.symm)
  rw [← hrest, hnil, List.append_nil]

/-! ## 2. Putting a file and adding folders -/

theorem hasFolder_addFolders_iff {folder : Path} :
    (m.addFolders folder).hasFolder p = true
      ↔ m.hasFolder p = true ∨ p.components ≠ [] ∧ p.components <+: folder.components := by
  rw [hasFolder_addFolders, Bool.or_eq_true, Path.any_ancestor_iff]

theorem IsTree.put (h : m.IsTree) (hclosed : m.Closed) (hparent : m.hasParent path = true)
    (hempty : path.isEmpty = false) (hfolder : m.hasFolder path = false) :
    (m.put path text).IsTree where
  ground := by
    rw [hasFile_put, h.ground, Bool.or_false]
    refine Bool.eq_false_iff.mpr fun hsame => ?_
    rw [Path.isEmpty_iff.mpr (Path.same_iff.mp hsame)] at hempty
    cases hempty
  oneKind p hp := by
    rw [hasFile_put, Bool.or_eq_true] at hp
    rcases hp with hsame | hp
    · rw [hasFolder_put, ← hasFolder_congr hsame]
      exact hfolder
    · exact h.oneKind p hp
  clear p hp := by
    -- the new file has no file above it, and nothing was below its place before
    rw [has, hasFile_put, hasFolder_put, Bool.or_assoc, Bool.or_eq_true] at hp
    refine clear_iff.mpr fun f hbelow => ?_
    rw [hasFile_put, Bool.or_eq_false_iff]
    rcases hp with hsame | hp
    · have hclear := h.clear_of_hasParent (hasParent_congr hsame ▸ hparent)
      refine ⟨Bool.eq_false_iff.mpr fun hf => ?_, clear_iff.mp hclear f hbelow⟩
      have hlt := hbelow.length_lt
      rw [← Path.same_iff.mp hf, Path.same_iff.mp hsame] at hlt
      exact Nat.lt_irrefl _ hlt
    · refine ⟨Bool.eq_false_iff.mpr fun hf => ?_, clear_iff.mp (h.clear p hp) f hbelow⟩
      have hthere := hclosed.hasFolder_of_isBelow hp ((Path.isBelow_congr_right hf).mpr hbelow) hempty
      rw [hfolder] at hthere
      cases hthere

/-- A file may be put in any folder but onto one, and not at the empty path. -/
theorem IsTree.put_iff (h : m.IsTree) (hclosed : m.Closed) (hparent : m.hasParent path = true) :
    (m.put path text).IsTree ↔ path.isEmpty = false ∧ m.hasFolder path = false := by
  have hthere : (m.put path text).hasFile path = true := by
    rw [hasFile_put, Path.same_refl]
    rfl
  refine ⟨fun htree => ⟨?_, htree.oneKind path hthere⟩,
    fun ⟨hempty, hfolder⟩ => h.put hclosed hparent hempty hfolder⟩
  refine Bool.eq_false_iff.mpr fun hempty => Bool.false_ne_true (htree.ground.symm.trans ?_)
  rw [← hasFile_congr (Path.same_iff.mpr (Path.isEmpty_iff.mp hempty) : path.same ⟨""⟩ = true)]
  exact hthere

theorem IsTree.addFolders (h : m.IsTree) (hfile : m.hasFile path = false)
    (hclear : m.Clear path) : (m.addFolders path).IsTree where
  ground := by
    rw [hasFile_addFolders]
    exact h.ground
  oneKind p hp := by
    rw [hasFile_addFolders] at hp
    refine Bool.eq_false_iff.mpr fun hfolder => ?_
    rcases hasFolder_addFolders_iff.mp hfolder with hthere | ⟨hne, hpre⟩
    · rw [h.oneKind p hp] at hthere
      cases hthere
    · refine Bool.false_ne_true (Eq.trans (Eq.symm ?_) hp)
      by_cases hcomp : p.components = path.components
      · rw [hasFile_congr (Path.same_iff.mpr hcomp)]
        exact hfile
      · exact clear_iff.mp hclear p (Path.isBelow_of_prefix hne hpre hcomp)
  clear p hp := by
    refine clear_iff.mpr fun f hbelow => ?_
    rw [hasFile_addFolders]
    rw [has, hasFile_addFolders, Bool.or_eq_true, hasFolder_addFolders_iff, ← or_assoc,
      ← Bool.or_eq_true] at hp
    rcases hp with hp | ⟨hne, hpre⟩
    · exact clear_iff.mp (h.clear p hp) f hbelow
    · -- what is above an ancestor of the path is above the path
      refine clear_iff.mp hclear f ?_
      by_cases hcomp : p.components = path.components
      · exact (Path.isBelow_congr (Path.same_iff.mpr hcomp)).mp hbelow
      · exact (Path.isBelow_of_prefix hne hpre hcomp).trans hbelow

/-- Folders may be made where no file is in the place of one of them. -/
theorem IsTree.addFolders_iff (h : m.IsTree) (hfile : m.hasFile path = false) :
    (m.addFolders path).IsTree ↔ m.Clear path := by
  refine ⟨fun htree a ha => Bool.eq_false_iff.mpr fun hthere => ?_, h.addFolders hfile⟩
  -- a file above the path would be one of the new folders
  have hne : a.components ≠ [] := fun hnil => by
    rw [hasFile_congr (Path.same_iff.mpr hnil : a.same ⟨""⟩ = true), h.ground] at hthere
    cases hthere
  have hpre := Path.IsBelow.prefix_components ⟨a, ha, Path.same_refl a⟩
  have hfolder := htree.oneKind a (by rw [hasFile_addFolders]; exact hthere)
  rw [hasFolder_addFolders_iff.mpr (.inr ⟨hne, hpre⟩)] at hfolder
  cases hfolder

end Memory

/-! ## 3. Calls that respect what is there -/

/-- If the call goes through, it puts no file onto a folder and none at the empty
path, and makes no folder below a file. -/
def Query.Respects (m : Memory) : Query → Prop
  | .write path _ =>
    m.hasParent path = true → path.isEmpty = false ∧ m.hasFolder path = false
  | .create path _ => m.has path = false → path.isEmpty = false
  | .makeFolders path => m.hasFile path = false → m.Clear path
  | _ => True

/-- Each call respects what the calls before it leave. -/
def Respected : Memory → List Query → Prop
  | _, [] => True
  | m, q :: more => q.Respects m ∧ Respected (Memory.answer q m).2 more

namespace Memory

variable {m : Memory}

/-- What calls leave, the first one first. -/
def after (m : Memory) (calls : List Query) : Memory :=
  calls.foldl (fun m q => (Memory.answer q m).2) m

/-- A call keeps a tree exactly if it respects what is there. -/
theorem isTree_answer_iff (h : m.IsTree) (hclosed : m.Closed) (q : Query) :
    (Memory.answer q m).2.IsTree ↔ q.Respects m := by
  cases q with
  | write path text =>
    show (m.write path text).2.IsTree ↔ (m.hasParent path = true → _)
    unfold Memory.write
    cases hparent : m.hasParent path with
    | false => exact iff_of_true h fun hp => absurd hp Bool.false_ne_true
    | true =>
      simp only [if_true, forall_const]
      exact h.put_iff hclosed hparent
  | create path text =>
    show (m.create path text).2.IsTree ↔ (m.has path = false → _)
    unfold Memory.create
    cases hhas : m.has path with
    | true => exact iff_of_true h fun hp => absurd hp.symm Bool.false_ne_true
    | false =>
      simp only [Bool.false_eq_true, if_false, forall_const]
      cases hparent : m.hasParent path with
      | false =>
        -- the empty path lies in no folder
        refine iff_of_true h (Bool.eq_false_iff.mpr fun hempty => ?_)
        obtain rfl : path = ⟨""⟩ := congrArg Path.mk (String.isEmpty_iff.mp hempty)
        cases hparent
      | true =>
        simp only [if_true]
        exact (h.put_iff hclosed hparent).trans (and_iff_left (Bool.or_eq_false_iff.mp hhas).2)
  | makeFolders path =>
    show (m.makeFolders path).2.IsTree ↔ (m.hasFile path = false → _)
    unfold Memory.makeFolders
    cases hfile : m.hasFile path with
    | true => exact iff_of_true h fun hp => absurd hp.symm Bool.false_ne_true
    | false =>
      simp only [Bool.false_eq_true, if_false, forall_const]
      exact h.addFolders_iff hfile
  | isPresent | isFolder | read | list | depth => exact iff_of_true h trivial

theorem isTree_after_iff (h : m.IsTree) (hreach : m.Reachable) (calls : List Query) :
    (∀ earlier, earlier <+: calls → (m.after earlier).IsTree) ↔ Respected m calls := by
  induction calls generalizing m with
  | nil =>
    refine iff_of_true (fun earlier hpre => ?_) trivial
    rw [List.prefix_nil.mp hpre]
    exact h
  | cons q calls ih =>
    constructor
    · intro hall
      have hfirst : (Memory.answer q m).2.IsTree := hall [q] ⟨calls, rfl⟩
      refine ⟨(isTree_answer_iff h hreach.closed q).mp hfirst,
        (ih hfirst (hreach.answer q)).mp fun earlier hpre => ?_⟩
      exact hall (q :: earlier) (List.cons_prefix_cons.mpr ⟨rfl, hpre⟩)
    · rintro ⟨hq, hmore⟩ earlier hpre
      have hfirst := (isTree_answer_iff h hreach.closed q).mpr hq
      rcases List.prefix_cons_iff.mp hpre with rfl | ⟨rest, rfl, hrest⟩
      · exact h
      · exact (ih hfirst (hreach.answer q)).mpr hmore rest hrest

/-- Whatever calls are made on an empty memory, it is like a tree all the time
exactly if every call respects what is there. -/
theorem isTree_throughout_iff (calls : List Query) :
    (∀ earlier, earlier <+: calls → (Memory.empty.after earlier).IsTree)
      ↔ Respected .empty calls :=
  isTree_after_iff isTree_empty .empty calls

/-- A file is written onto a folder, and a folder is made through a file. -/
theorem write_onto_folder :
    let m := Memory.empty.after [.makeFolders ⟨"notes"⟩, .write ⟨"notes"⟩ "x"]
    let n := Memory.empty.after [.create ⟨"notes"⟩ "x", .makeFolders ⟨"notes/2024"⟩]
    (m.hasFile ⟨"notes"⟩ = true ∧ m.hasFolder ⟨"notes"⟩ = true)
      ∧ n.hasFile ⟨"notes"⟩ = true ∧ n.hasFolder ⟨"notes"⟩ = true
      ∧ n.has ⟨"notes/2024"⟩ = true ∧ ⟨"notes"⟩ ∈ (Path.mk "notes/2024").above := by
  decide +kernel

end Memory

end Daybook.Storage
