/-
Daybook.Proofs.Config.Confined — no name that the user chooses leads out of the vault.

The root folder and the template file are texts of the user's, and any text is
taken for them: it may be empty, start at the root of the file tree, or hold
dots and slashes in any number. The root folder is joined below the vault, the
template below the root folder, and both by `Path.joinBelow`, which keeps what
is joined from replacing what it is joined to. Folders and notes of a date only
add names to that. So all these places start with the components of the vault
(`stays_in_vault`), and they step up only where the vault or the user does.
-/
import Daybook.Config.Basic
import Daybook.Proofs.Layout.Places
import Daybook.Proofs.Path.Joined

namespace Daybook

open Calendar (Date Day)

namespace Path

/-! ## 1. Going down -/

variable {path middle base : Path} {part : String}

/-- The path starts with all components of the base and has more. -/
def Extends (path base : Path) : Prop :=
  base.components <+: path.components ∧ base.components ≠ path.components

/-- The path starts with all components of the base, and behind them nothing steps up. -/
def Descends (path base : Path) : Prop :=
  ∃ rest, path.components = base.components ++ rest ∧ Component.up ∉ rest

theorem Descends.refl (base : Path) : base.Descends base :=
  ⟨[], (List.append_nil _).symm, List.not_mem_nil⟩

theorem Descends.trans (h : path.Descends middle) (h' : middle.Descends base) :
    path.Descends base := by
  obtain ⟨rest, hpath, hrest⟩ := h
  obtain ⟨rest', hmiddle, hrest'⟩ := h'
  refine ⟨rest' ++ rest, by rw [hpath, hmiddle, List.append_assoc], ?_⟩
  rw [List.mem_append]
  exact not_or.mpr ⟨hrest', hrest⟩

theorem prefix_joinBelow (base : Path) (part : String) :
    base.components <+: (base.joinBelow part).components := by
  obtain ⟨lead, _, hcomp⟩ := base.components_joinBelow part
  exact ⟨_, hcomp.symm⟩

theorem descends_joinBelow (base : Path) (h : Component.up ∉ (Path.mk part).components) :
    (base.joinBelow part).Descends base := by
  obtain ⟨lead, hlead, hcomp⟩ := base.components_joinBelow part
  refine ⟨_, hcomp, ?_⟩
  rw [List.mem_append]
  exact not_or.mpr ⟨hlead, fun hup => h ((up_mem_components_iff ⟨part⟩).mpr hup)⟩

/-- A path with more names behind the components of the base. -/
theorem extends_names {names : List String} (hne : names ≠ [])
    (h : path.components = base.components ++ names.map .name) : path.Extends base := by
  refine ⟨⟨_, h.symm⟩, fun he => hne ?_⟩
  exact List.map_eq_nil_iff.mp (List.self_eq_append_right.mp (he.trans h))

theorem descends_names {names : List String}
    (h : path.components = base.components ++ names.map .name) : path.Descends base :=
  ⟨names.map .name, h, by simp⟩

end Path

namespace Layout

/-! ## 2. The places of a layout -/

variable {layout : Layout}

/-- The root folder and the template, and the folders and files of the notes around a
day. -/
def places (layout : Layout) (day : Day) : List Path :=
  layout.root :: layout.templatePath :: Period.all.flatMap fun period =>
    [layout.folder period day, (layout.locate period day).file]

theorem forall_places {p : Path → Prop} {day : Day} :
    (∀ path ∈ layout.places day, p path)
      ↔ p layout.root ∧ p layout.templatePath
        ∧ ∀ period, p (layout.folder period day) ∧ p (layout.locate period day).file := by
  have hall : ∀ q : Period → Prop, (∀ period ∈ Period.all, q period) ↔ ∀ period, q period :=
    fun q => ⟨fun h period => h period (by cases period <;> decide), fun h period _ => h period⟩
  unfold places
  rw [List.forall_mem_cons, List.forall_mem_cons, List.forall_mem_flatMap, hall]
  simp

theorem folder_extends (layout : Layout) (period : Period) (d : Day) :
    (layout.folder period d).Extends layout.root :=
  Path.extends_names (by cases period <;> simp [folderNames])
    (layout.components_folder period d)

theorem file_extends (layout : Layout) (period : Period) (d : Day) :
    (layout.locate period d).file.Extends layout.root :=
  Path.extends_names (by simp) (layout.components_file period d)

theorem isAbsolute_folder (layout : Layout) (period : Period) (d : Day) :
    (layout.folder period d).isAbsolute = layout.root.isAbsolute := by
  have hyear := layout.root.isAbsolute_join (isName_yearId d).relative
  cases period with
  | year => exact hyear
  | month | day =>
    exact ((layout.root.join d.yearId).isAbsolute_join (isName_monthId d).relative).trans hyear

theorem isAbsolute_file (layout : Layout) (period : Period) (d : Day) :
    (layout.locate period d).file.isAbsolute = layout.root.isAbsolute :=
  ((layout.folder period d).isAbsolute_join (isName_fileName period d).relative).trans
    (layout.isAbsolute_folder period d)

theorem isAbsolute_places (layout : Layout) (day : Day) :
    ∀ path ∈ layout.places day, path.isAbsolute = layout.root.isAbsolute := by
  rw [forall_places]
  exact ⟨rfl, layout.root.isAbsolute_joinBelow layout.templateFile, fun period =>
    ⟨layout.isAbsolute_folder period day, layout.isAbsolute_file period day⟩⟩

theorem descends_places (h : Component.up ∉ (Path.mk layout.templateFile).components)
    (day : Day) : ∀ path ∈ layout.places day, path.Descends layout.root := by
  rw [forall_places]
  exact ⟨Path.Descends.refl _, layout.root.descends_joinBelow h, fun period =>
    ⟨Path.descends_names (layout.components_folder period day),
      Path.descends_names (layout.components_file period day)⟩⟩

end Layout

namespace Config

/-! ## 3. The places of the user's choice -/

theorem root_layout (config : Config) : config.layout.root = config.root := by
  rw [layout]

theorem templateFile_layout (config : Config) : config.layout.templateFile = config.templateFile := by
  rw [layout]

/-- Whatever texts are chosen, the root folder is in the vault, the template in the root
folder, and the folders and notes of a date are below the root folder. None of these
paths starts at the root of the file tree unless the vault does. If the chosen texts do
not step up, the paths do so only in the vault's own steps. -/
theorem stays_in_vault (config : Config) (date : Date) :
    config.vault.components <+: config.root.components
    ∧ config.root.components <+: config.layout.templatePath.components
    ∧ (∀ period, (config.layout.locate period date.toDay).folder.Extends config.root
      ∧ (config.layout.locate period date.toDay).file.Extends config.root)
    ∧ (∀ path ∈ config.layout.places date.toDay, path.isAbsolute = config.vault.isAbsolute)
    ∧ (Component.up ∉ (Path.mk config.rootFolder).components →
      Component.up ∉ (Path.mk config.templateFile).components →
      ∀ path ∈ config.layout.places date.toDay, path.Descends config.vault) := by
  have hroot : config.layout.root = config.vault.joinBelow config.rootFolder := by
    rw [root_layout, root]
  rw [← config.root_layout, ← config.templateFile_layout]
  refine ⟨?_, ?_, fun period => ⟨?_, ?_⟩, ?_, ?_⟩
  · rw [hroot]
    exact config.vault.prefix_joinBelow config.rootFolder
  · exact config.layout.root.prefix_joinBelow config.layout.templateFile
  · exact config.layout.folder_extends period date.toDay
  · exact config.layout.file_extends period date.toDay
  · intro path hpath
    rw [config.layout.isAbsolute_places date.toDay path hpath, hroot]
    exact config.vault.isAbsolute_joinBelow config.rootFolder
  · intro hfolder htemplate path hpath
    have hbelow := config.layout.descends_places htemplate date.toDay path hpath
    rw [hroot] at hbelow
    exact hbelow.trans (config.vault.descends_joinBelow hfolder)

/-- Slashes in front and dots, of which two begin a file name, lead nowhere else; the
vault's own step up is kept. -/
theorem stays_in_vault_dots :
    let config : Config :=
      { forVault ⟨"/home/../vault"⟩ with rootFolder := "//./notes", templateFile := "/..day" }
    let date : Date := ⟨⟨2024, 3, 7⟩, by decide⟩
    let path := config.layout.templatePath
    Component.up ∉ (Path.mk config.rootFolder).components
      ∧ Component.up ∉ (Path.mk config.templateFile).components
      ∧ path ∈ config.layout.places date.toDay ∧ path = ⟨"/home/../vault/./notes/..day"⟩
      ∧ path.isAbsolute = config.vault.isAbsolute ∧ path.Descends config.vault := by
  intro config date path
  have hfolder : Component.up ∉ (Path.mk config.rootFolder).components := by decide +kernel
  have htemplate : Component.up ∉ (Path.mk config.templateFile).components := by decide +kernel
  have hpath : path ∈ config.layout.places date.toDay :=
    List.mem_cons_of_mem _ List.mem_cons_self
  obtain ⟨_, _, _, habsolute, hdescends⟩ := config.stays_in_vault date
  exact ⟨hfolder, htemplate, hpath, by decide +kernel, habsolute path hpath,
    hdescends hfolder htemplate path hpath⟩

end Config

end Daybook
