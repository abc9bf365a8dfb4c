/-
Daybook.Proofs.Storage.Contents.Memory — a memory does as its contents tell.

A memory keeps its files and its folders in two rows of paths. As long as all of
them are paths of routes, a path is known by its names, and the rows hold what
the contents say (`Shows`). Each change of the rows is the change of the
contents, so a memory is faithful (`faithful`).
-/
import Daybook.Proofs.Storage.Closed
import Daybook.Proofs.Storage.Contents

namespace Daybook.Storage.Memory

variable {m : Memory} {c : Contents} {r : Route} {text : String}

/-- The files and folders of a memory are those of the contents. -/
structure Shows (m : Memory) (c : Contents) : Prop where
  sound : c.Sound
  file : ∀ (r : Route) (text : String),
    m.textAt? r.path = some text ↔ c r.names = some (.file text false)
  folder : ∀ r : Route, m.hasFolder r.path = true ↔ c r.names = some .folder
  routed : ∀ path ∈ m.paths, ∃ r : Route, r.path = path

/-! ## Looking -/

section Looking

theorem Shows.has (h : m.Shows c) (r : Route) : m.has r.path = (c r.names).isSome := by
  rw [Bool.eq_iff_iff, has_iff, h.folder, Option.isSome_iff_exists]
  constructor
  · rintro (⟨text, htext⟩ | hfolder)
    · exact ⟨_, (h.file r text).mp htext⟩
    · exact ⟨_, hfolder⟩
  · rintro ⟨_ | _, hentry⟩
    · have hplain := h.sound.plain hentry
      subst hplain
      exact .inl ⟨_, (h.file r _).mpr hentry⟩
    · exact .inr hentry

theorem Shows.hasFolder (h : m.Shows c) (r : Route) :
    m.hasFolder r.path = (c r.names == some .folder) := by
  rw [Bool.eq_iff_iff, beq_iff_eq]
  exact h.folder r

theorem Shows.hasFile (h : m.Shows c) (r : Route) :
    m.hasFile r.path = true ↔ ∃ text, c r.names = some (.file text false) := by
  simp only [hasFile_eq, Option.isSome_iff_exists, h.file]

theorem Shows.hasParent (h : m.Shows c) (r : Route) :
    m.hasParent r.path = true ↔ c.HasParent r.names := by
  obtain hnil | ⟨names, name, hnames⟩ := List.eq_nil_or_concat r.names
  · exact absurd hnil r.ne_nil
  · rw [List.concat_eq_append] at hnames
    have hparent : r.path.parent? = some (pathOf names) := by
      rw [Route.path, hnames, parent?_pathOf_concat (hnames ▸ r.isNames)]
    rw [Memory.hasParent, hparent, Contents.HasParent, hnames, List.dropLast_concat]
    rcases eq_or_ne names [] with rfl | hne
    · exact iff_of_true rfl h.sound.start
    · let upper := r.upTo hne (hnames ▸ List.prefix_append _ _)
      show (upper.path.isEmpty || m.hasFolder upper.path) = true ↔ c upper.names = some .folder
      rw [upper.isEmpty_eq, Bool.false_or, h.folder]

theorem Shows.mem_paths (h : m.Shows c) (r : Route) :
    r.path ∈ m.paths ↔ (c r.names).isSome := by
  rw [← h.has]
  refine ⟨has_of_mem_paths, fun hhas => ?_⟩
  obtain ⟨path, hpath, hsame⟩ := exists_path_of_has hhas
  obtain ⟨r', rfl⟩ := h.routed path hpath
  rw [Route.path, ← Route.same_iff.mp hsame]
  exact hpath

/-- A route lies in the route of its names but the last. -/
theorem liesIn_iff {names : List String} {name : String} (h : ∀ n ∈ names ++ [name], Path.IsName n)
    (r : Route) : liesIn r.path (pathOf (names ++ [name])) = true ↔ names = r.names := by
  have hnames : ∀ n ∈ names, Path.IsName n := fun n hn => h n (List.mem_append_left _ hn)
  rw [liesIn, parent?_pathOf_concat h]
  show (pathOf names).same r.path = true ↔ _
  rw [Path.same_iff, components_pathOf hnames, r.components]
  exact List.map_inj_right fun _ _ => Component.name.inj

theorem Shows.finds (h : m.Shows c) (r : Route) :
    c.Finds r.names (·.length = 1) (m.entries r.path).toFinset := by
  intro path
  rw [List.mem_toFinset, mem_entries_iff]
  constructor
  · rintro ⟨hpath, hlies⟩
    obtain ⟨r', rfl⟩ := h.routed path hpath
    obtain hnil | ⟨names, name, hnames⟩ := List.eq_nil_or_concat r'.names
    · exact absurd hnil r'.ne_nil
    · rw [List.concat_eq_append] at hnames
      have hsome := (h.mem_paths r').mp hpath
      have hpathOf : r'.path = pathOf (names ++ [name]) := congrArg pathOf hnames
      rw [hpathOf, liesIn_iff (hnames ▸ r'.isNames)] at hlies
      rw [hnames, hlies] at hsome
      exact ⟨[name], rfl, hsome, hlies ▸ hpathOf⟩
  · rintro ⟨below, hone, hsome, rfl⟩
    obtain ⟨name, rfl⟩ := List.length_eq_one_iff.mp hone
    obtain ⟨r', hr'⟩ := h.sound.routed (by simp) hsome
    refine ⟨?_, (liesIn_iff (hr' ▸ r'.isNames) r).mpr rfl⟩
    rw [← hr'] at hsome ⊢
    exact (h.mem_paths r').mpr hsome

theorem Shows.length_le_depth (h : m.Shows c) {names : List String} (hsome : (c names).isSome) :
    names.length ≤ m.depth := by
  rcases eq_or_ne names [] with rfl | hne
  · exact Nat.zero_le _
  · obtain ⟨r, rfl⟩ := h.sound.routed hne hsome
    have hlength := Memory.length_le_depth ((h.mem_paths r).mpr hsome)
    rwa [r.components, List.length_map] at hlength

end Looking

/-! ## Changing -/

section Changing

theorem mem_putIn {file : Path × String} {path : Path} {files : List (Path × String)}
    (h : file ∈ putIn path text files) : file.1 = path ∨ file.1 ∈ files.map (·.1) := by
  induction files with
  | nil => exact .inl (by rw [List.mem_singleton.mp h])
  | cons first more ih =>
    unfold putIn at h
    split at h
    · rcases List.mem_cons.mp h with rfl | hmore
      · exact .inr (by simp)
      · exact .inr (List.mem_map_of_mem (List.mem_cons_of_mem _ hmore))
    · rcases List.mem_cons.mp h with rfl | hmore
      · exact .inr (by simp)
      · exact (ih hmore).imp_right (List.mem_cons_of_mem _)

theorem Shows.put (h : m.Shows c) (hparent : c.HasParent r.names)
    (hopen : c r.names ≠ some .folder) (text : String) :
    (m.put r.path text).Shows (c.put r.names (.file text false)) where
  sound := h.sound.put hparent hopen
  file r' text' := by
    rw [textAt?_put, Contents.put]
    by_cases he : r'.names = r.names
    · rw [if_pos (Route.same_iff.mpr he.symm), if_pos he]
      simp
    · rw [if_neg fun hsame => he (Route.same_iff.mp hsame).symm, if_neg he, h.file]
  folder r' := by
    rw [hasFolder_put, Contents.put, h.folder]
    by_cases he : r'.names = r.names
    · rw [if_pos he, he]
      exact iff_of_false hopen (by simp)
    · rw [if_neg he]
  routed path hpath := by
    rcases List.mem_append.mp hpath with hfolder | hfile
    · exact h.routed path (List.mem_append_left _ hfolder)
    · obtain ⟨file, hmem, rfl⟩ := List.mem_map.mp hfile
      rcases mem_putIn hmem with he | hold
      · exact ⟨r, he.symm⟩
      · exact h.routed _ (List.mem_append_right _ hold)

theorem mem_addFolders {folder path : Path} (h : path ∈ (m.addFolders folder).folders) :
    path ∈ m.folders ∨ path ∈ folder.ancestors.takeWhile fun a => !a.isEmpty := by
  unfold addFolders at h
  generalize folder.ancestors.takeWhile (fun a => !a.isEmpty) = made at h
  induction made generalizing m with
  | nil => exact .inl h
  | cons first more ih =>
    rcases ih h with hfolder | hmore
    · unfold addFolder at hfolder
      split at hfolder
      · exact .inl hfolder
      · rcases List.mem_append.mp hfolder with hold | hnew
        · exact .inl hold
        · exact .inr (List.mem_cons.mpr (.inl (List.mem_singleton.mp hnew)))
    · exact .inr (List.mem_cons_of_mem _ hmore)

theorem Shows.addFolders (h : m.Shows c) (hclear : c.Clear r.names)
    (hopen : ∀ text isProgram, c r.names ≠ some (.file text isProgram)) :
    (m.addFolders r.path).Shows (c.addFolders r.names) where
  sound := h.sound.addFolders r
  file r' text := by
    rw [textAt?_addFolders, Contents.addFolders, h.file]
    by_cases hpre : r'.names <+: r.names
    · rw [if_pos hpre]
      refine iff_of_false ?_ (by simp)
      by_cases he : r'.names = r.names
      · exact he ▸ hopen text false
      · exact hclear _ hpre he text false
    · rw [if_neg hpre]
  folder r' := by
    rw [hasFolder_addFolders, Bool.or_eq_true, Path.any_ancestor_iff, r'.components, r.components,
      List.prefix_map_iff_of_injective fun _ _ => Component.name.inj, h.folder, Contents.addFolders]
    by_cases hpre : r'.names <+: r.names
    · simp [hpre, r'.ne_nil]
    · simp [hpre]
  routed path hpath := by
    rcases List.mem_append.mp hpath with hfolder | hfile
    · rcases mem_addFolders hfolder with hold | hmade
      · exact h.routed path (List.mem_append_left _ hold)
      · obtain ⟨names, hpre, rfl⟩ := mem_ancestors_pathOf r.isNames
          ((List.takeWhile_sublist _).subset hmade)
        have hne : names ≠ [] := by
          rintro rfl
          exact absurd (List.mem_takeWhile_imp hmade) (by decide)
        exact ⟨r.upTo hne hpre, rfl⟩
    · rw [files_addFolders] at hfile
      exact h.routed path (List.mem_append_right _ hfile)

end Changing

/-! ## Calls -/

section Calls

variable (h : m.Shows c)
include h

theorem Shows.tells_read (hopen : c r.names ≠ some .folder) :
    c.Tells (.read r) ((Call.read r).work.run Memory.answer m).1 := by
  have hrun : ((Call.read r).work.run Memory.answer m).1
      = Outcome.ofText (Memory.answer (.read r.path) m).1 := rfl
  rw [hrun, Memory.answer]
  cases htext : m.textAt? r.path with
  | some text => exact (Contents.tells_read_file ((h.file r text).mp htext) _).mpr rfl
  | none =>
    have hnone : c r.names = none := by
      rw [← Option.not_isSome_iff_eq_none, ← h.has, has_iff, htext, h.folder]
      simpa using hopen
    exact (Contents.tells_read_none hnone _).mpr rfl

theorem Shows.write (hopen : c r.names ≠ some .folder) (text : String) :
    c.Tells (.write r text) (Outcome.ofChange (m.write r.path text).1)
      ∧ (m.write r.path text).2.Shows (c.after (.write r text)) := by
  simp only [Contents.Tells, Contents.after]
  by_cases hparent : c.HasParent r.names
  · rw [Memory.write, if_pos ((h.hasParent r).mpr hparent), if_pos hparent, if_pos hparent]
    exact ⟨rfl, h.put hparent hopen text⟩
  · rw [Memory.write, if_neg fun hp => hparent ((h.hasParent r).mp hp), if_neg hparent,
      if_neg hparent]
    exact ⟨rfl, h⟩

theorem Shows.create (r : Route) (text : String) :
    c.Tells (.create r text) (Outcome.ofChange (m.create r.path text).1)
      ∧ (m.create r.path text).2.Shows (c.after (.create r text)) := by
  simp only [Contents.Tells, Contents.after]
  rw [Memory.create, h.has]
  cases hentry : c r.names with
  | some entry => exact ⟨rfl, by simpa using h⟩
  | none =>
    by_cases hparent : c.HasParent r.names
    · simp only [(h.hasParent r).mpr hparent, hparent, Option.isSome_none, Option.isNone_none,
        Bool.false_eq_true, if_true, if_false, and_self]
      exact ⟨rfl, h.put hparent (by simp [hentry]) text⟩
    · have hgone : m.hasParent r.path = false := by
        rw [← Bool.not_eq_true, h.hasParent]
        exact hparent
      simp only [hgone, hparent, Option.isSome_none, Bool.false_eq_true, if_false, and_false]
      exact ⟨rfl, h⟩

theorem Shows.makeFolders (hclear : c.Clear r.names) :
    c.Tells (.makeFolders r) (Outcome.ofChange (m.makeFolders r.path).1)
      ∧ (m.makeFolders r.path).2.Shows (c.after (.makeFolders r)) := by
  by_cases hfile : m.hasFile r.path = true
  · obtain ⟨text, htext⟩ := (h.hasFile r).mp hfile
    rw [Contents.tells_makeFolders_file htext, Contents.after_makeFolders_file htext,
      Memory.makeFolders, if_pos hfile]
    exact ⟨rfl, h⟩
  · have hopen : ∀ text isProgram, c r.names ≠ some (.file text isProgram) := by
      intro text isProgram hentry
      obtain rfl := h.sound.plain hentry
      exact hfile ((h.hasFile r).mpr ⟨text, hentry⟩)
    rw [Contents.tells_makeFolders_open hopen, Contents.after_makeFolders_open hopen,
      Memory.makeFolders, if_neg hfile]
    exact ⟨rfl, h.addFolders hclear hopen⟩

theorem Shows.walk (hclear : c.Clear r.names) :
    c.Tells (.walk r) ((Call.walk r).work.run Memory.answer m).1
      ∧ ((Call.walk r).work.run Memory.answer m).2 = m :=
  Contents.tells_walk h.sound (fun r _ => h.finds r) (fun r _ => h.hasFolder r)
    (fun _ => rfl) (fun _ => rfl) rfl (fun _ => h.length_le_depth) hclear

end Calls

/-- A memory does as its contents tell. -/
theorem faithful : Faithful Memory.answer Shows := by
  intro m c h call hfits
  cases call with
  | isPresent r => exact ⟨congrArg Outcome.truth (h.has r), h⟩
  | isFolder r => exact ⟨congrArg Outcome.truth (h.hasFolder r), h⟩
  | read r => exact ⟨h.tells_read (hfits.2 rfl), h⟩
  | list r => exact ⟨⟨_, rfl, h.finds r⟩, h⟩
  | walk r =>
    have hclear : c.Clear r.names := hfits.1
    obtain ⟨htells, hsame⟩ := h.walk hclear
    refine ⟨htells, ?_⟩
    rw [hsame]
    exact h
  | write r text => exact h.write (hfits.2 rfl) text
  | create r text => exact h.create r text
  | makeFolders r => exact h.makeFolders hfits.1

end Daybook.Storage.Memory
