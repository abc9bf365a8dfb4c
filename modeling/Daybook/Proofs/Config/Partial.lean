/-
Daybook.Proofs.Config.Partial — a settings file with only some of the keys.

A settings file need not have all keys. What it has is loaded as it stands there,
and every key that it leaves out is as if nothing had been chosen
(`partial_file_merges`). Keys that are no settings count for nothing. So what two
files load to can differ only in the settings that are in one of them.

A text gives some of the settings if the table that it is read as holds them. How
the text is laid out does not matter: not the order of the keys, nor comments, nor
whether the switches stand below a header, in braces or behind dotted keys. Any
settings can be given together (`exists_gives`).
-/
import Daybook.Proofs.Config.RoundTrip

namespace Daybook.Config

open Storage (Memory)
open Toml (IsKey ReadsPage ReadsValue Table Value assignments)

variable {config : Config} {given : Setting → Bool} {text : String}

/-- The text has exactly the given settings of some, each with its value. -/
def Gives (config : Config) (given : Setting → Bool) (text : String) : Prop :=
  ∃ t, Toml.parse? text = some t ∧ config.Holds given t

/-! ## 1. Texts that give settings -/

theorem isKey_setting (s : Setting) : IsKey s.key := by
  cases s with
  | switch s => exact isKey_key s
  | _ => decide

/-- What is written for a setting can be read. -/
theorem exists_readsValue {s : Setting} {v : Value} (h : config.valueAt? s = some v) :
    ∃ written, ReadsValue written v := by
  cases s with
  | switch s =>
    cases h
    exact ⟨_, Toml.readsValue_boolean _⟩
  | refreshSeconds =>
    cases h
    have hsmall := config.refreshSeconds.toNat_lt
    exact ⟨_, Toml.readsValue_number (by omega)⟩
  | editor =>
    obtain ⟨_, _, rfl⟩ := Option.map_eq_some_iff.mp h
    exact ⟨_, Toml.readsValue_text _⟩
  | libraryFolder =>
    obtain ⟨_, _, rfl⟩ := Option.map_eq_some_iff.mp h
    exact ⟨_, Toml.readsValue_text _⟩
  | vault | rootFolder | bodyStyle | templateFile =>
    cases h
    exact ⟨_, Toml.readsValue_text _⟩

theorem exists_readsPage (config : Config) (given : Setting → Bool) (settings : List Setting) :
    ∃ cs, ReadsPage cs (assignments (config.entriesOf given settings)) := by
  induction settings with
  | nil => exact ⟨[], .nil⟩
  | cons s settings ih =>
    obtain ⟨cs, hcs⟩ := ih
    rw [entriesOf, List.filterMap_cons]
    cases hvalue : config.valueGiven? given s with
    | none => exact ⟨cs, hcs⟩
    | some v =>
      have hchosen : config.valueAt? s = some v := by
        unfold valueGiven? at hvalue
        split at hvalue
        · exact hvalue
        · cases hvalue
      obtain ⟨written, hwritten⟩ := exists_readsValue hchosen
      exact ⟨_, (Toml.readsLine_assign (isKey_setting s) hwritten).page.append hcs⟩

/-- Whichever settings are to be given, there is a text that gives them. -/
theorem exists_gives (config : Config) (given : Setting → Bool) :
    ∃ text, config.Gives given text := by
  obtain ⟨top, htop⟩ := exists_readsPage config given Setting.top
  obtain ⟨below, hbelow⟩ := exists_readsPage config given Setting.switches
  -- no mark can stand before the page when it starts with an empty line
  have hparse : ∀ {cs ss}, ReadsPage cs ss →
      Toml.parse? (.ofList ('\n' :: cs)) = Table.ofStatements? ss := fun h =>
    Toml.parse?_page (by rw [String.toList_ofList]; exact .feed h) (by simp)
  have hholds := holds_tableOf config given
  rw [tableOf] at hholds
  split at hholds
  · rw [List.append_nil] at hholds
    exact ⟨_, _, (hparse htop).trans (Table.ofStatements?_top (nodup_keys_entriesOf (by decide))),
      hholds⟩
  · exact ⟨_, _, (hparse (htop.append (readsPage_header.append hbelow))).trans
      (Table.ofStatements?_assignments (nodup_keys_concat _ _ _)
        (nodup_keys_entriesOf (by decide))), hholds⟩

/-! ## 2. Loading -/

theorem parse_gives (home : Path) (h : config.Gives given text) :
    parse (standard home) text = .ok (config.mergedOver (standard home) given) := by
  obtain ⟨t, hparse, hholds⟩ := h
  rw [parse, hparse]
  exact ofTable_holds rfl rfl rfl hholds

/-- What a file loads to when it has exactly the given settings, among keys that are
none: the standard settings with the given ones in their place. Any settings can be
given so, and where two files leave a setting out, they load to the same choice. -/
theorem partial_file_merges (config : Config) (given : Setting → Bool) (home : Path) :
    (∃ text, config.Gives given text)
    ∧ ∀ text, config.Gives given text → ∀ path (m : Memory), m.textAt? path = some text →
      (load (standard home) path).run.run Memory.answer m
        = (.ok (config.mergedOver (standard home) given), m)
      ∧ ∀ config' given' text', Gives config' given' text' → ∀ path' (m' : Memory),
        m'.textAt? path' = some text' →
        ∃ a b, (load (standard home) path).run.run Memory.answer m = (.ok a, m)
          ∧ (load (standard home) path').run.run Memory.answer m' = (.ok b, m')
          ∧ ∀ s, given s = false → given' s = false → a.Agrees b s := by
  refine ⟨exists_gives config given, fun text hgives path m htext => ?_⟩
  have hload := run_load htext (parse_gives home hgives)
  refine ⟨hload, fun config' given' text' hgives' path' m' htext' => ?_⟩
  refine ⟨_, _, hload, run_load htext' (parse_gives home hgives'), fun s hs hs' => ?_⟩
  exact (agrees_mergedOver hs).trans (agrees_mergedOver hs').symm

theorem partial_file_merges_dark :
    let config : Config :=
      { forVault ⟨"/vault"⟩ with sections := { Toggles.allOn with evening := false } }
    let given (s : Setting) : Bool := s = .vault ∨ s = .switch .evening
    let text := "theme = \"dark\"\nvault_dir = \"/vault\"\n\n[sections]\nshow_evening_note = false\n"
    let m := Memory.empty.withFile ⟨"settings.toml"⟩ text
    config.Gives given text
      ∧ (load (standard ⟨"/home/me"⟩) ⟨"settings.toml"⟩).run.run Memory.answer m
        = (.ok config, m) := by
  intro config given text m
  have hlines : text = line "theme" (Toml.writtenText "dark")
      ++ line "vault_dir" (Toml.writtenText "/vault") ++ "\n[sections]\n"
      ++ line "show_evening_note" (booleanText false) := by decide +kernel
  have htheme := readsPage_textLine "theme" (by decide) "dark"
  have hvault := readsPage_textLine "vault_dir" (by decide) "/vault"
  have hevening : ReadsPage (line "show_evening_note" (booleanText false)).toList
      (assignments [("show_evening_note", .boolean false)]) :=
    readsPage_line "show_evening_note" (by decide) (Toml.readsValue_boolean false)
  have hpage : ReadsPage text.toList (assignments [("theme", .text "dark"),
      ("vault_dir", .text "/vault")] ++ ([Toml.Statement.table ["sections"]]
        ++ assignments [("show_evening_note", .boolean false)])) := by
    have hall := ((htheme.append hvault).append readsPage_header).append hevening
    rw [hlines]
    simpa [assignments] using hall
  have hgives : config.Gives given text := by
    refine ⟨[("theme", .text "dark"), ("vault_dir", .text "/vault"),
      ("sections", .table .header [("show_evening_note", .boolean false)])], ?_, ?_, ?_⟩
    · rw [Toml.parse?_page hpage (by decide), Table.ofStatements?_assignments (by decide) (by decide)]
      rfl
    · intro s
      cases s with
      | switch s => cases s <;> rfl
      | _ => rfl
    · intro v hv
      exact ⟨_, _, (Option.some.inj hv).symm⟩
  have htext : m.textAt? ⟨"settings.toml"⟩ = some text := by decide +kernel
  refine ⟨hgives, ?_⟩
  exact ((partial_file_merges config given ⟨"/home/me"⟩).2 text hgives _ m htext).1

end Daybook.Config
