/-
Daybook.Proofs.Config.Settings — settings as keys with values.

A settings file gives values to keys. Here the settings are told apart one by one
(`Setting`): which key each has, what is written for it (`valueAt?`), and where a
table keeps it (`valueIn?`), since the switches are in a table of their own.

A table *holds* some of the settings when it has their keys with those values and
the key of no other setting (`Holds`). It may have other keys, at the top and among
the switches. Such a table is read as the standard settings with the given ones in
their place (`ofTable_holds`): every key that is left out is as if nothing had been
chosen, also each of the switches.
-/
import Daybook.Config.File
import Daybook.Proofs.Toml.Page
import Mathlib.Data.List.Nodup

namespace Daybook

open Toml (Table Value)

/-- What has a key in a settings file. -/
inductive Setting where
  | vault
  | rootFolder
  | bodyStyle
  | templateFile
  | editor
  | refreshSeconds
  | libraryFolder
  /-- The switch of a section. -/
  | switch (s : Section)
deriving DecidableEq, Repr

namespace Setting

def key : Setting → String
  | vault => "vault_dir"
  | rootFolder => "root_folder"
  | bodyStyle => "body_style"
  | templateFile => "template_file"
  | editor => "editor"
  | refreshSeconds => "refresh_interval_secs"
  | libraryFolder => "library_dir"
  | switch s => s.key

/-- The settings that are at the top of a table, in the order in which they are written. -/
def top : List Setting :=
  [vault, rootFolder, bodyStyle, templateFile, editor, refreshSeconds, libraryFolder]

def switches : List Setting := Section.all.map switch

/-- The value that a table has for a setting. The switches are in a table in it. -/
def valueIn? (t : Table) : Setting → Option Value
  | switch s =>
    match t.get? "sections" with
    | some (.table _ u) => Table.get? u s.key
    | _ => none
  | setting => t.get? setting.key

end Setting

namespace Config

/-! ## 1. Settings one by one -/

/-- What is written for a setting, if it was chosen. -/
def valueAt? (config : Config) : Setting → Option Value
  | .vault => some (.text config.vault.text)
  | .rootFolder => some (.text config.rootFolder)
  | .bodyStyle => some (.text config.bodyStyle.name)
  | .templateFile => some (.text config.templateFile)
  | .editor => config.editor.map .text
  | .refreshSeconds => some (.integer config.refreshSeconds.toNat)
  | .libraryFolder => config.libraryFolder.map fun folder => .text folder.text
  | .switch s => some (.boolean (config.sections.get s))

/-- What is written for a setting, if it is given and was chosen. -/
def valueGiven? (config : Config) (given : Setting → Bool) (s : Setting) : Option Value :=
  if given s then config.valueAt? s else none

/-- The standard settings with those that are given in their place. -/
def mergedOver (config standard : Config) (given : Setting → Bool) : Config where
  vault := if given .vault then config.vault else standard.vault
  rootFolder := if given .rootFolder then config.rootFolder else standard.rootFolder
  bodyStyle := if given .bodyStyle then config.bodyStyle else standard.bodyStyle
  templateFile := if given .templateFile then config.templateFile else standard.templateFile
  editor := if given .editor then config.editor else standard.editor
  refreshSeconds := if given .refreshSeconds then config.refreshSeconds else standard.refreshSeconds
  libraryFolder := if given .libraryFolder then config.libraryFolder else standard.libraryFolder
  sections :=
    { quote := if given (.switch .quote) then config.sections.quote else standard.sections.quote
      morning :=
        if given (.switch .morning) then config.sections.morning else standard.sections.morning
      evening :=
        if given (.switch .evening) then config.sections.evening else standard.sections.evening
      practice :=
        if given (.switch .practice) then config.sections.practice
        else standard.sections.practice }

variable {config standard : Config} {given : Setting → Bool}

/-- The two have the same choice for a setting. -/
def Agrees (a b : Config) : Setting → Prop
  | .vault => a.vault = b.vault
  | .rootFolder => a.rootFolder = b.rootFolder
  | .bodyStyle => a.bodyStyle = b.bodyStyle
  | .templateFile => a.templateFile = b.templateFile
  | .editor => a.editor = b.editor
  | .refreshSeconds => a.refreshSeconds = b.refreshSeconds
  | .libraryFolder => a.libraryFolder = b.libraryFolder
  | .switch s => a.sections.get s = b.sections.get s

theorem Agrees.symm {a b : Config} {s : Setting} (h : a.Agrees b s) : b.Agrees a s := by
  cases s <;> exact Eq.symm h

theorem Agrees.trans {a b c : Config} {s : Setting} (h : a.Agrees b s) (h' : b.Agrees c s) :
    a.Agrees c s := by
  cases s <;> exact Eq.trans h h'

/-- A setting that is not given is as in the standard ones. -/
theorem agrees_mergedOver {s : Setting} (h : given s = false) :
    (config.mergedOver standard given).Agrees standard s := by
  cases s with
  | switch s => cases s <;> simp [Agrees, mergedOver, Toggles.get, h]
  | _ => simp [Agrees, mergedOver, h]

/-! ## 2. Tables -/

/-- The table has exactly the given settings of some, each with its value. -/
structure Holds (config : Config) (given : Setting → Bool) (t : Table) : Prop where
  exactly : ∀ s : Setting, s.valueIn? t = config.valueGiven? given s
  /-- What is found under `sections` is a table. -/
  sections : ∀ v, t.get? "sections" = some v → ∃ origin u, v = .table origin u

variable {t : Table}

/-- The entries for those of a row of settings that are given. -/
def entriesOf (config : Config) (given : Setting → Bool) (settings : List Setting) : Table :=
  settings.filterMap fun s => (config.valueGiven? given s).map fun v => (s.key, v)

/-- A table with the given settings and nothing else, and no table of switches if
no switch is given. -/
def tableOf (config : Config) (given : Setting → Bool) : Table :=
  config.entriesOf given Setting.top
    ++ match config.entriesOf given Setting.switches with
      | [] => []
      | u => [("sections", .table .header u)]

theorem keys_entriesOf (config : Config) (given : Setting → Bool) (settings : List Setting) :
    (config.entriesOf given settings).keys.Sublist (settings.map Setting.key) := by
  induction settings with
  | nil => exact .slnil
  | cons s settings ih =>
    rw [entriesOf, List.filterMap_cons]
    cases config.valueGiven? given s with
    | none => exact ih.cons _
    | some v => exact ih.cons_cons _

theorem mem_entriesOf {settings : List Setting} {e : String × Value} :
    e ∈ config.entriesOf given settings
      ↔ ∃ s ∈ settings, config.valueGiven? given s = some e.2 ∧ s.key = e.1 := by
  obtain ⟨key, v⟩ := e
  simp [entriesOf, List.mem_filterMap, Option.map_eq_some_iff]

theorem nodup_keys_entriesOf {settings : List Setting} (h : (settings.map Setting.key).Nodup) :
    (config.entriesOf given settings).keys.Nodup :=
  (keys_entriesOf config given settings).nodup h

theorem get?_entriesOf {settings : List Setting} (hkeys : (settings.map Setting.key).Nodup)
    {s : Setting} (hs : s ∈ settings) :
    (config.entriesOf given settings).get? s.key = config.valueGiven? given s := by
  have hnodup : (config.entriesOf given settings).keys.Nodup := nodup_keys_entriesOf hkeys
  cases hvalue : config.valueGiven? given s with
  | some v => exact Table.get?_of_mem hnodup (mem_entriesOf.mpr ⟨s, hs, hvalue, rfl⟩)
  | none =>
    refine Table.get?_eq_none_iff.mpr fun hmem => ?_
    obtain ⟨e, he, hkey⟩ := List.mem_map.mp hmem
    obtain ⟨s', hs', hvalue', hkey'⟩ := mem_entriesOf.mp he
    obtain rfl : s' = s := List.inj_on_of_nodup_map hkeys hs' hs (hkey'.trans hkey)
    rw [hvalue] at hvalue'
    cases hvalue'

theorem get?_append (t u : Table) (key : String) :
    Table.get? (t ++ u : Table) key = (t.get? key).or (u.get? key) :=
  List.lookup_append

theorem sections_not_mem_keys (config : Config) (given : Setting → Bool) :
    "sections" ∉ (config.entriesOf given Setting.top).keys := fun hmem =>
  absurd ((keys_entriesOf config given Setting.top).subset hmem) (by decide)

/-- A table of switches below the settings at the top repeats no key. -/
theorem nodup_keys_concat (config : Config) (given : Setting → Bool) (v : Value) :
    (config.entriesOf given Setting.top ++ [("sections", v)] : Table).keys.Nodup := by
  have htop : (config.entriesOf given Setting.top).keys.Nodup := nodup_keys_entriesOf (by decide)
  have hsections := sections_not_mem_keys config given
  simp only [Table.keys, List.map_append, List.map_cons, List.map_nil] at htop hsections ⊢
  exact List.nodup_append.mpr ⟨htop, List.nodup_singleton _, fun key hkey key' hkey' he =>
    hsections (List.mem_singleton.mp hkey' ▸ he ▸ hkey)⟩

theorem get?_tableOf_sections (config : Config) (given : Setting → Bool) :
    (config.tableOf given).get? "sections"
      = match config.entriesOf given Setting.switches with
        | [] => none
        | u => some (.table .header u) := by
  have htop := Table.get?_eq_none_iff.mpr (sections_not_mem_keys config given)
  rw [tableOf, get?_append, htop]
  split <;> rfl

/-- The table with the given settings holds them. -/
theorem holds_tableOf (config : Config) (given : Setting → Bool) :
    config.Holds given (config.tableOf given) where
  exactly s := by
    have htop : ∀ {s : Setting}, s ∈ Setting.top →
        (config.tableOf given).get? s.key = config.valueGiven? given s := by
      intro s hs
      have hother : Table.get? (match config.entriesOf given Setting.switches with
          | [] => []
          | u => [("sections", Value.table .header u)] : Table) s.key = none := by
        refine Table.get?_eq_none_iff.mpr ?_
        split
        · exact List.not_mem_nil
        · have hne : ∀ s ∈ Setting.top, s.key ≠ "sections" := by decide
          exact fun hmem => hne s hs (List.mem_singleton.mp hmem)
      rw [tableOf, get?_append, get?_entriesOf (by decide) hs, hother, Option.or_none]
    cases s with
    | switch s =>
      have hmem : Setting.switch s ∈ Setting.switches := by cases s <;> decide
      have hentry : (config.entriesOf given Setting.switches).get? (Setting.switch s).key
          = config.valueGiven? given (.switch s) := get?_entriesOf (by decide) hmem
      rw [← hentry, Setting.valueIn?, get?_tableOf_sections]
      cases config.entriesOf given Setting.switches <;> rfl
    | vault | rootFolder | bodyStyle | templateFile | editor | refreshSeconds | libraryFolder =>
      exact htop (by decide)
  sections v hv := by
    rw [get?_tableOf_sections] at hv
    split at hv
    · cases hv
    · exact ⟨_, _, (Option.some.inj hv).symm⟩

/-! ## 3. Reading -/

theorem secondsOf?_toNat (seconds : UInt64) :
    secondsOf? (.integer seconds.toNat) = some seconds := by
  have hlt : (seconds.toNat : Int) < UInt64.size := by exact_mod_cast seconds.toNat_lt
  rw [secondsOf?, if_pos ⟨Int.natCast_nonneg _, hlt⟩, Int.toNat_natCast, UInt64.ofNat_toNat]

theorem styleOf?_name (style : BodyStyle) : styleOf? (.text style.name) = some style := by
  cases style <;> decide

/-- An entry that is there only if the setting is given. -/
theorem readEntry_given {α : Type} {read : Value → Option α} {entry : Option Value} {a other : α}
    {s : Setting} (hentry : entry = config.valueGiven? given s)
    (hread : ∀ v, config.valueAt? s = some v → read v = some a)
    (hnone : config.valueAt? s = none → a = other) :
    readEntry read other entry = some (if given s then a else other) := by
  rw [hentry, valueGiven?]
  cases given s with
  | false => rfl
  | true =>
    simp only [if_true]
    cases hvalue : config.valueAt? s with
    | none => exact congrArg some (hnone hvalue).symm
    | some v => exact hread v hvalue

theorem choice_of_readEntry {α : Type} {key : String} {read : Value → Option α} {a other : α}
    (h : readEntry read other (t.get? key) = some a) : choice t key read other = .ok a := by
  rw [choice, h]

/-- The switches that are left out are on, as they are in the standard settings. -/
theorem togglesOf?_given {origin : Toml.Origin} {u : Table} (hallOn : standard.sections = .allOn)
    (h : ∀ s : Section, u.get? s.key = config.valueGiven? given (.switch s)) :
    togglesOf? (.table origin u) = some (config.mergedOver standard given).sections := by
  have hswitch : ∀ s : Section, readEntry booleanOf? true (u.get? s.key)
      = some (if given (.switch s) then config.sections.get s else true) := fun s =>
    readEntry_given (h s) (fun v hv => by cases hv; rfl) (fun he => nomatch he)
  simp only [togglesOf?, hswitch, Option.bind_eq_bind, Option.bind_some, mergedOver, hallOn,
    Toggles.get, Toggles.allOn]
  rfl

namespace Holds

variable (h : config.Holds given t)
include h

/-- A setting at the top that is always chosen. -/
theorem choice_top {α : Type} {read : Value → Option α} {a : α} {v : Value} (s : Setting)
    (hplace : s.valueIn? t = t.get? s.key) (hvalue : config.valueAt? s = some v)
    (hread : read v = some a) (other : α) :
    choice t s.key read other = .ok (if given s then a else other) := by
  refine choice_of_readEntry (readEntry_given (hplace ▸ h.exactly s) (fun v' hv' => ?_) ?_)
  · obtain rfl : v = v' := Option.some.inj (hvalue.symm.trans hv')
    exact hread
  · rw [hvalue]
    exact fun he => nomatch he

/-- A setting at the top that need not be chosen, and is not in the standard ones. -/
theorem choice_top_ifAny {β : Type} {wrap : String → β} {text : β → String} {chosen : Option β}
    (s : Setting) (hplace : s.valueIn? t = t.get? s.key)
    (hvalue : config.valueAt? s = chosen.map fun b => .text (text b))
    (hwrap : ∀ b, wrap (text b) = b) :
    choice t s.key (fun v => (textOf? v).map fun x => some (wrap x)) none
      = .ok (if given s then chosen else none) := by
  refine choice_of_readEntry (readEntry_given (hplace ▸ h.exactly s) (fun v hv => ?_) fun he => ?_)
  · rw [hvalue] at hv
    obtain ⟨b, hb, rfl⟩ := Option.map_eq_some_iff.mp hv
    simp only [textOf?, Option.map_some, hwrap, hb]
  · rw [hvalue] at he
    exact Option.map_eq_none_iff.mp he

/-- Where there is no table of switches none of them is given. -/
theorem no_switch (hnone : t.get? "sections" = none) (s : Section) :
    given (.switch s) = false := by
  have hexactly := h.exactly (.switch s)
  simp only [Setting.valueIn?, hnone, valueGiven?] at hexactly
  cases hgiven : given (.switch s) with
  | false => rfl
  | true =>
    rw [hgiven] at hexactly
    cases hexactly

theorem choice_sections (hallOn : standard.sections = .allOn) :
    choice t "sections" togglesOf? standard.sections
      = .ok (config.mergedOver standard given).sections := by
  cases hentry : t.get? "sections" with
  | none =>
    have hsame : (config.mergedOver standard given).sections = standard.sections := by
      simp only [mergedOver, h.no_switch hentry]
      rfl
    exact choice_of_readEntry (by rw [hentry, hsame]; rfl)
  | some v =>
    obtain ⟨origin, u, rfl⟩ := h.sections v hentry
    have hswitches : ∀ s : Section,
        Table.get? u s.key = config.valueGiven? given (.switch s) := fun s => by
      rw [← h.exactly (.switch s), Setting.valueIn?, hentry]
    have htoggles : togglesOf? (.table origin u)
        = some (config.mergedOver standard given).sections :=
      togglesOf?_given hallOn hswitches
    exact choice_of_readEntry (by rw [hentry]; exact htoggles)

end Holds

/-- A table that holds some of the settings is read as the standard ones with these
in their place. -/
theorem ofTable_holds (hnoEditor : standard.editor = none)
    (hnoLibrary : standard.libraryFolder = none) (hallOn : standard.sections = .allOn)
    (h : config.Holds given t) : ofTable standard t = .ok (config.mergedOver standard given) := by
  have hvault : choice t "vault_dir" (fun v => (textOf? v).map Path.mk) standard.vault
      = .ok (if given .vault then config.vault else standard.vault) :=
    h.choice_top .vault rfl rfl (by rfl) _
  have hroot : choice t "root_folder" textOf? standard.rootFolder
      = .ok (if given .rootFolder then config.rootFolder else standard.rootFolder) :=
    h.choice_top .rootFolder rfl rfl (by rfl) _
  have hstyle : choice t "body_style" styleOf? standard.bodyStyle
      = .ok (if given .bodyStyle then config.bodyStyle else standard.bodyStyle) :=
    h.choice_top .bodyStyle rfl rfl (styleOf?_name _) _
  have htemplate : choice t "template_file" textOf? standard.templateFile
      = .ok (if given .templateFile then config.templateFile else standard.templateFile) :=
    h.choice_top .templateFile rfl rfl (by rfl) _
  have heditor : choice t "editor" (fun v => (textOf? v).map some) standard.editor
      = .ok (if given .editor then config.editor else standard.editor) := by
    rw [hnoEditor]
    exact h.choice_top_ifAny .editor rfl rfl fun _ => rfl
  have hseconds : choice t "refresh_interval_secs" secondsOf? standard.refreshSeconds
      = .ok (if given .refreshSeconds then config.refreshSeconds else standard.refreshSeconds) :=
    h.choice_top .refreshSeconds rfl rfl (secondsOf?_toNat _) _
  have hlibrary : choice t "library_dir" (fun v => (textOf? v).map fun s => some (Path.mk s))
      standard.libraryFolder
      = .ok (if given .libraryFolder then config.libraryFolder else standard.libraryFolder) := by
    rw [hnoLibrary]
    exact h.choice_top_ifAny .libraryFolder rfl rfl fun _ => rfl
  simp only [ofTable, hvault, hroot, hstyle, htemplate, heditor, hseconds, hlibrary,
    h.choice_sections hallOn]
  rfl

end Config

end Daybook
