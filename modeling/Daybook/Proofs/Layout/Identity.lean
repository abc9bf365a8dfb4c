/-
Daybook.Proofs.Layout.Identity — one identifier and one file for each period.

Nothing stands between the parts of an identifier, so that no two periods have
one is a matter of its characters. A month's identifier begins with a letter,
which the others have not; the identifier of a day is longer than that of any
year, whatever the signs and the zeros (`Day.yearId_ne_dayId`). So a note is
known by its identifier alone, as it is by its file, and the identifier is what
the stem of the file gives back (`fileStem?_file`).

A note and the folders above it, up to the root, lie directly in one another
(`Path.ChildOf`). `one_place_per_period` puts all of this together. Last come the
two facts that keep the usual template file out of the way of notes and folders.
-/
import Daybook.Proofs.Layout.Places

namespace Daybook

open Calendar (Date Day)

namespace Path

/-! ## 1. Lying directly in a folder -/

/-- The path leads to what has this name directly in the folder. -/
structure ChildOf (path folder : Path) (name : String) : Prop where
  parent : ∃ parent, path.parent? = some parent ∧ parent.same folder = true
  fileName : path.fileName? = some name

theorem join_childOf (base : Path) {part : String} (h : IsName part) :
    (base.join part).ChildOf base part where
  parent := by
    obtain ⟨parent, hparent, hcomp⟩ := parent?_join base h
    exact ⟨parent, hparent, same_iff.mpr hcomp⟩
  fileName := by
    unfold fileName?
    rw [components_join base h]
    simp

/-- The stem of a Markdown file is its name without the ending. -/
theorem fileStem?_eq {p : Path} {id : String} (hname : p.fileName? = some (id ++ ".md"))
    (hid : id ≠ "") : p.fileStem? = some id := by
  unfold fileStem?
  simp [hname, hid, Text.cut?]

end Path

namespace Layout

/-! ## 2. Files and folders -/

theorem noteId_ne_empty (period : Period) (d : Day) : noteId period d ≠ "" := by
  intro h
  have htext : (noteId period d).toList = [] := by simp [h]
  cases period with
  | year => exact Text.padded_ne_nil 0 d.year htext
  | month =>
    obtain ⟨c, cs, hcs, _⟩ := d.head_monthId
    exact List.cons_ne_nil c cs (hcs.symm.trans htext)
  | day =>
    have hlen := Text.le_length_padded 2 d.day
    simp only [noteId, Day.dayId, String.toList_append, List.append_eq_nil_iff] at htext
    simp [htext.2] at hlen

theorem file_childOf (layout : Layout) (period : Period) (d : Day) :
    (layout.locate period d).file.ChildOf (layout.folder period d) (noteId period d ++ ".md") :=
  Path.join_childOf _ (isName_fileName period d)

/-- The stem of a note's file is the identifier of the note. -/
theorem fileStem?_file (layout : Layout) (period : Period) (d : Day) :
    (layout.locate period d).file.fileStem? = some (noteId period d) :=
  Path.fileStem?_eq (layout.file_childOf period d).fileName (noteId_ne_empty period d)

/-- Two notes whose files have one stem have one file. -/
theorem file_same_of_fileStem? (layout : Layout) {p q : Period} {a b : Date}
    (h : (layout.locate p a.toDay).file.fileStem? = (layout.locate q b.toDay).file.fileStem?) :
    (layout.locate p a.toDay).file.same (layout.locate q b.toDay).file = true := by
  rw [fileStem?_file, fileStem?_file, Option.some.injEq, noteId_eq_iff a.isReal b.isReal] at h
  exact (layout.file_same_iff a.isReal b.isReal).mpr h

/-- Whatever the root is, the identifiers of two notes are the same exactly when
their files are, and that is when they are notes of one period and their dates
agree in it. A note lies directly in its folder, and no folder of a note is a
note. The folder of a day is the folder of its month; it lies directly in the
folder of the year, which lies directly in the root. -/
theorem one_place_per_period (layout : Layout) (p q : Period) (a b : Date) :
    let here := layout.locate p a.toDay
    let there := layout.locate q b.toDay
    (here.id = there.id ↔ here.file.same there.file = true)
    ∧ (here.file.same there.file = true ↔ p = q ∧ p.Agree a.toDay b.toDay)
    ∧ here.file.ChildOf here.folder (here.id ++ ".md")
    ∧ here.folder.same there.file = false
    ∧ (layout.locate .day a.toDay).folder = (layout.locate .month a.toDay).folder
    ∧ (layout.locate .month a.toDay).folder.ChildOf (layout.locate .year a.toDay).folder a.monthId
    ∧ (layout.locate .year a.toDay).folder.ChildOf layout.root a.yearId := by
  intro here there
  have hfile : here.file.same there.file = true ↔ p = q ∧ p.Agree a.toDay b.toDay :=
    layout.file_same_iff a.isReal b.isReal
  have hid : here.id = there.id ↔ p = q ∧ p.Agree a.toDay b.toDay :=
    noteId_eq_iff a.isReal b.isReal
  refine ⟨hid.trans hfile.symm, hfile, layout.file_childOf p a.toDay, ?_, rfl, ?_, ?_⟩
  · -- a folder is the nearest of its ancestors
    exact layout.not_same_of_ancestor (p := p) (a := a.toDay) List.mem_cons_self
  · exact Path.join_childOf _ (isName_monthId a.toDay)
  · exact Path.join_childOf _ (isName_yearId a.toDay)

example :
    let layout : Layout := .under ⟨"a//./b/.."⟩
    (layout.locate .year ⟨-262143, 1, 1⟩).file.fileStem? = some "-262143"
      ∧ (layout.locate .day ⟨-5, 1, 1⟩).file.fileStem? = some "-0050101" := by
  decide +kernel

/-! ## 3. The template -/

theorem components_templatePath {layout : Layout} (h : layout.templateFile = defaultTemplateFile) :
    layout.templatePath.components = layout.root.components ++ [.name defaultTemplateFile] := by
  have hname : Path.IsName defaultTemplateFile :=
    ⟨by decide, by decide, by decide, by decide⟩
  have hpath : layout.templatePath = layout.root.join defaultTemplateFile := by
    rw [templatePath, h]
    rfl
  rw [hpath, Path.components_join _ hname]

/-- The usual template file is no note. -/
theorem file_not_template {layout : Layout} (h : layout.templateFile = defaultTemplateFile)
    (period : Period) (d : Day) :
    (layout.locate period d).file.same layout.templatePath = false := by
  rw [← Bool.not_eq_true]
  intro hsame
  rw [Path.same_iff, components_file, components_templatePath h, List.append_cancel_left_eq] at hsame
  have hlen := congrArg List.length hsame
  cases period <;> simp [folderNames] at hlen

/-- Neither the folder of a note nor a folder above it is in the place of the
usual template file. -/
theorem not_template_of_ancestor {layout : Layout}
    (h : layout.templateFile = defaultTemplateFile) {period : Period} {d : Day} {above : Path}
    (habove : above ∈ (layout.folder period d).ancestors) :
    above.same layout.templatePath = false := by
  rw [← Bool.not_eq_true]
  intro hsame
  have hpre := Path.components_ancestor habove
  have hfirst : [defaultTemplateFile] <+: folderNames period d := by
    rwa [Path.same_iff.mp hsame, components_templatePath h, components_folder,
      List.prefix_append_right_inj, ← List.map_singleton, List.prefix_map_iff_of_injective
        (fun x y hxy => Component.name.inj hxy)] at hpre
  have hyear : defaultTemplateFile = d.yearId := by
    cases period with
    | year => exact (List.cons_prefix_cons.mp hfirst).1
    | month | day => exact (List.cons_prefix_cons.mp hfirst).1
  have hletter : 'T' ∈ d.yearId.toList := by
    rw [← hyear]
    decide
  exact absurd (Day.isNumeral_yearId hletter) (by decide)

end Layout

end Daybook
