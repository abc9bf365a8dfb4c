/-
Daybook.Proofs.Config.RoundTrip — settings that were saved are loaded again.

The text that is written for some choices is a page: a line for each key, and
below a header a line for each switch (`readsPage_write`). So it is read as a
table with those entries, and the table holds the choices. Keys of choices that
were not made are left out and come back from the standard choices, which do
not make them either (`parse_write`).

In a memory, with any faults, saving either goes through and puts that text in
its place or leaves all files alone (`saved_save`). Both together are
`save_load`.
-/
import Daybook.Proofs.Config.Settings
import Daybook.Proofs.Procedure.Log
import Daybook.Proofs.Storage.Growth

namespace Daybook.Config

open Storage (Backend Faults Memory seen)
open Toml (IsKey ReadsPage ReadsValue Table Value assignments)

/-! ## The page of some choices -/

/-- The switches as entries of a table. -/
def switches (toggles : Toggles) : Table :=
  Section.all.map fun s => (s.key, .boolean (toggles.get s))

/-- The entry for a choice that was made. -/
def entryIfAny (key : String) (text : Option String) : Table :=
  text.toList.map fun text => (key, .text text)

/-- The choices as entries of a table, all but the switches. -/
def entries (config : Config) : Table :=
  [("vault_dir", .text config.vault.text), ("root_folder", .text config.rootFolder),
    ("body_style", .text config.bodyStyle.name), ("template_file", .text config.templateFile)]
  ++ entryIfAny "editor" config.editor
  ++ [("refresh_interval_secs", .integer config.refreshSeconds.toNat)]
  ++ entryIfAny "library_dir" (config.libraryFolder.map Path.text)

section Page

variable (key : String) {value : String} {v : Value}

theorem readsPage_line (hkey : IsKey key) (hv : ReadsValue value.toList v) :
    ReadsPage (line key value).toList (assignments [(key, v)]) := by
  have htext : (line key value).toList = key.toList ++ " = ".toList ++ value.toList ++ ['\n'] := by
    simp [line]
  rw [htext]
  exact (Toml.readsLine_assign hkey hv).page

theorem readsPage_textLine (hkey : IsKey key) (text : String) :
    ReadsPage (line key (Toml.writtenText text)).toList (assignments [(key, .text text)]) :=
  readsPage_line key hkey (Toml.readsValue_text text)

theorem readsPage_lineIfAny (hkey : IsKey key) (text : Option String) :
    ReadsPage (lineIfAny key text).toList (assignments (entryIfAny key text)) := by
  cases text with
  | none => exact .nil
  | some text => exact readsPage_textLine key hkey text

theorem readsPage_header :
    ReadsPage "\n[sections]\n".toList [Toml.Statement.table ["sections"]] :=
  .feed (Toml.readsLine_header (show IsKey "sections" by decide)).page

theorem isKey_key (s : Section) : IsKey s.key := by
  cases s <;> decide

theorem readsPage_sectionLines (toggles : Toggles) :
    ReadsPage (sectionLines toggles).toList (assignments (switches toggles)) := by
  unfold sectionLines switches
  induction Section.all with
  | nil => exact .nil
  | cons s sections ih =>
    have hvalue : ReadsValue (booleanText (toggles.get s)).toList (.boolean (toggles.get s)) := by
      unfold booleanText
      cases toggles.get s with
      | true => exact Toml.readsValue_boolean true
      | false => exact Toml.readsValue_boolean false
    rw [List.map_cons, List.map_cons, String.join_cons, String.toList_append]
    exact (readsPage_line s.key (isKey_key s) hvalue).append ih

end Page

/-- The text of some choices is a page with their entries. -/
theorem readsPage_write (config : Config) :
    ReadsPage config.write.toList (assignments config.entries
      ++ ([Toml.Statement.table ["sections"]] ++ assignments (switches config.sections))) := by
  have hnumber : ReadsValue (toString config.refreshSeconds.toNat).toList
      (.integer config.refreshSeconds.toNat) := by
    have hsmall := config.refreshSeconds.toNat_lt
    have hdigits := Toml.readsValue_number (n := config.refreshSeconds.toNat) (by omega)
    simpa using hdigits
  have hvault := readsPage_textLine "vault_dir" (by decide) config.vault.text
  have hroot := readsPage_textLine "root_folder" (by decide) config.rootFolder
  have hstyle := readsPage_textLine "body_style" (by decide) config.bodyStyle.name
  have htemplate := readsPage_textLine "template_file" (by decide) config.templateFile
  have heditor := readsPage_lineIfAny "editor" (by decide) config.editor
  have hseconds := readsPage_line "refresh_interval_secs" (by decide) hnumber
  have hlibrary := readsPage_lineIfAny "library_dir" (by decide)
    (config.libraryFolder.map Path.text)
  have hpage := ((((((((hvault.append hroot).append hstyle).append htemplate).append heditor).append
    hseconds).append hlibrary).append readsPage_header).append (readsPage_sectionLines config.sections))
  simpa [write, entries, assignments] using hpage

/-! ## What is read -/

/-- The table of some choices. -/
def table (config : Config) : Table :=
  config.entries ++ [("sections", .table .header (switches config.sections))]

theorem entries_eq (config : Config) :
    config.entries = config.entriesOf (fun _ => true) Setting.top := by
  cases heditor : config.editor <;> cases hlibrary : config.libraryFolder <;>
    simp [entries, entryIfAny, entriesOf, Setting.top, Setting.key, valueGiven?, valueAt?, heditor,
      hlibrary]

theorem switches_eq (config : Config) :
    switches config.sections = config.entriesOf (fun _ => true) Setting.switches := rfl

/-- The table of some choices is the one in which all of them are given. -/
theorem table_eq (config : Config) : config.table = config.tableOf fun _ => true := by
  rw [table, entries_eq]
  rfl

/-- What was written is read as the table of the choices. -/
theorem parse?_write (config : Config) : Toml.parse? config.write = some config.table := by
  have hmark : config.write.toList.head? ≠ some '\uFEFF' := by
    simp [write, line]
  have hkeys : config.table.keys.Nodup := by
    rw [table, entries_eq]
    exact nodup_keys_concat config _ _
  have hswitches : (switches config.sections).keys.Nodup := by
    rw [switches_eq]
    exact nodup_keys_entriesOf (by decide)
  rw [Toml.parse?_page config.readsPage_write hmark,
    Table.ofStatements?_assignments hkeys hswitches]
  rfl

/-- What was written is read as the same choices, if the standard choices
leave open what can be left out. -/
theorem parse_write {standard : Config} (hnoEditor : standard.editor = none)
    (hnoLibrary : standard.libraryFolder = none) (hallOn : standard.sections = .allOn)
    (config : Config) : parse standard config.write = .ok config := by
  have hholds : config.Holds (fun _ => true) config.table :=
    table_eq config ▸ holds_tableOf config fun _ => true
  rw [parse, parse?_write]
  exact ofTable_holds hnoEditor hnoLibrary hallOn hholds

/-! ## Files -/

/-- The last part of saving, when the folder is there. -/
def putText (config : Config) (path : Path) : Storage.Try Unit := do
  if let .error cause ← Storage.write path config.write then throw (.fileWrite path cause)

section Steps

variable {σ : Type} {answer : Backend σ} {config : Config} {path folder : Path} {s s' : σ}
  {cause : StorageError} {text : String}

/-- Loading is reading a text and parsing it. -/
theorem run_load_text (standard : Config) (h : answer (.read path) s = (Except.ok text, s')) :
    (load standard path).run.run answer s = ((parse standard text).mapError .settingsParse, s') := by
  have hread : (Storage.read path).run answer s = (.ok text, s') := h
  have hrun : (load standard path).run.run answer s = _ :=
    Procedure.run_lift_attempt _ (Storage.read path) s
  rw [hrun, hread]
  dsimp only
  cases parse standard text <;> rfl

theorem run_loadOrStandard_present (standard : Config)
    (h : answer (.isPresent path) s = (true, s')) :
    (loadOrStandard standard path).run.run answer s = (load standard path).run.run answer s' := by
  have hpresent : (Storage.isPresent path).run answer s = (true, s') := h
  have hrun : (loadOrStandard standard path).run.run answer s = _ :=
    Procedure.run_lift_attempt _ (Storage.isPresent path) s
  rw [hrun, hpresent]
  rfl

theorem run_loadOrStandard_absent (standard : Config)
    (h : answer (.isPresent path) s = (false, s')) :
    (loadOrStandard standard path).run.run answer s = (.ok standard, s') := by
  have hpresent : (Storage.isPresent path).run answer s = (false, s') := h
  have hrun : (loadOrStandard standard path).run.run answer s = _ :=
    Procedure.run_lift_attempt _ (Storage.isPresent path) s
  rw [hrun, hpresent]
  rfl

theorem run_putText_ok (h : answer (.write path config.write) s = (Except.ok (), s')) :
    (config.putText path).run.run answer s = (.ok (), s') := by
  have hwrite : (Storage.write path config.write).run answer s = (.ok (), s') := h
  have hrun : (config.putText path).run.run answer s = _ :=
    Procedure.run_lift_attempt _ (Storage.write path config.write) s
  rw [hrun, hwrite]
  rfl

theorem run_putText_error (h : answer (.write path config.write) s = (Except.error cause, s')) :
    (config.putText path).run.run answer s = (.error (.fileWrite path cause), s') := by
  have hwrite : (Storage.write path config.write).run answer s = (.error cause, s') := h
  have hrun : (config.putText path).run.run answer s = _ :=
    Procedure.run_lift_attempt _ (Storage.write path config.write) s
  rw [hrun, hwrite]
  rfl

/-- No folder is needed at the root and at the place where relative paths start. -/
theorem save_eq_putText (h : ∀ folder, path.parent? = some folder → folder.isEmpty = true) :
    config.save path = config.putText path := by
  unfold save
  cases hparent : path.parent? with
  | none => rfl
  | some folder =>
    simp only [h folder hparent, if_true]
    rfl

theorem run_save_ok (hparent : path.parent? = some folder) (hempty : folder.isEmpty = false)
    (h : answer (.makeFolders folder) s = (Except.ok (), s')) :
    (config.save path).run.run answer s = (config.putText path).run.run answer s' := by
  have hmake : (Storage.makeFolders folder).run answer s = (.ok (), s') := h
  unfold save
  rw [hparent]
  simp only [hempty, Bool.false_eq_true, if_false]
  refine (Procedure.run_lift_attempt _ (Storage.makeFolders folder) s).trans ?_
  rw [hmake]
  rfl

theorem run_save_error (hparent : path.parent? = some folder) (hempty : folder.isEmpty = false)
    (h : answer (.makeFolders folder) s = (Except.error cause, s')) :
    (config.save path).run.run answer s = (.error (.createFolder folder cause), s') := by
  have hmake : (Storage.makeFolders folder).run answer s = (.error cause, s') := h
  unfold save
  rw [hparent]
  simp only [hempty, Bool.false_eq_true, if_false]
  refine (Procedure.run_lift_attempt _ (Storage.makeFolders folder) s).trans ?_
  rw [hmake]
  rfl

/-- Whether saving needs a folder, and which. -/
theorem folder_cases (path : Path) :
    (∀ folder, path.parent? = some folder → folder.isEmpty = true)
      ∨ ∃ folder, path.parent? = some folder ∧ folder.isEmpty = false := by
  cases path.parent? with
  | none => exact .inl fun _ he => nomatch he
  | some folder =>
    cases hempty : folder.isEmpty with
    | true => exact .inl fun _ he => Option.some.inj he ▸ hempty
    | false => exact .inr ⟨folder, rfl, hempty⟩

end Steps

/-- How saving can end, and what it leaves of a memory: it failed and left all
files alone, or it put the text in its place. There may be more folders. -/
inductive Saved (config : Config) (path : Path) (m : Memory) :
    Except JournalError Unit × Memory → Prop where
  | failed (e : JournalError) {m' : Memory} (h : m'.files = m.files) :
      Saved config path m (.error e, m')
  | put {m' : Memory} (h : m'.files = m.files) :
      Saved config path m (.ok (), m'.put path config.write)

section Files

variable (faults : Faults) (config : Config) (path : Path) {m m' : Memory}

theorem saved_putText (h : m'.files = m.files) :
    Saved config path m ((config.putText path).run.run (seen faults) m') := by
  rcases Storage.write_cases faults m' path config.write with he | ⟨_, he⟩ | ⟨_, he⟩
  · rw [run_putText_error he]
    exact .failed _ h
  · rw [run_putText_error he]
    exact .failed _ h
  · rw [run_putText_ok he]
    exact .put h

theorem saved_save (m : Memory) :
    Saved config path m ((config.save path).run.run (seen faults) m) := by
  rcases folder_cases path with hnone | ⟨folder, hparent, hempty⟩
  · rw [save_eq_putText hnone]
    exact saved_putText faults config path rfl
  · rcases Storage.makeFolders_cases faults m folder with he | ⟨_, he⟩ | ⟨_, he⟩
    · rw [run_save_error hparent hempty he]
      exact .failed _ rfl
    · rw [run_save_error hparent hempty he]
      exact .failed _ rfl
    · rw [run_save_ok hparent hempty he]
      exact saved_putText faults config path (m.files_addFolders folder)

variable {config path} {standard : Config} {text : String}

theorem run_load (htext : m.textAt? path = some text) (hparse : parse standard text = .ok config) :
    (load standard path).run.run Memory.answer m = (.ok config, m) := by
  have hread : Memory.answer (.read path) m = (Except.ok text, m) := by
    rw [Memory.answer, htext]
    rfl
  rw [run_load_text standard hread, hparse]
  rfl

/-- Where there is a file it is loaded. -/
theorem run_loadOrStandard (htext : m.textAt? path = some text) :
    (loadOrStandard standard path).run.run Memory.answer m
      = (load standard path).run.run Memory.answer m := by
  have hhas : m.has path = true := by simp [Memory.has_iff, htext]
  have hpresent : Memory.answer (.isPresent path) m = (true, m) := by
    rw [Memory.answer, hhas]
    rfl
  exact run_loadOrStandard_present standard hpresent

end Files

/-- Choices that were saved in a memory are loaded from it again, by either way
of loading, and no other file has changed. If saving failed, under any faults,
no file has changed at all. -/
theorem save_load (config : Config) (home path : Path) (faults : Faults) (m : Memory) :
    match (config.save path).run.run (seen faults) m with
    | (.ok (), m') =>
      (load (standard home) path).run.run Memory.answer m' = (.ok config, m')
        ∧ (loadOrStandard (standard home) path).run.run Memory.answer m' = (.ok config, m')
        ∧ ∀ p, path.same p = false → m'.textAt? p = m.textAt? p
    | (.error _, m') => m'.files = m.files := by
  have hsaved := saved_save faults config path m
  generalize (config.save path).run.run (seen faults) m = r at hsaved
  cases hsaved with
  | failed e h => exact h
  | @put m' h =>
    have htext : (m'.put path config.write).textAt? path = some config.write := by
      simp [Memory.textAt?_put]
    have hparse : parse (standard home) config.write = .ok config := parse_write rfl rfl rfl config
    have hload := run_load htext hparse
    refine ⟨hload, (run_loadOrStandard htext).trans hload, fun p hp => ?_⟩
    rw [Memory.textAt?_put, hp, if_neg Bool.false_ne_true, Memory.textAt?, Memory.textAt?, h]

end Daybook.Config
