/-
Daybook.Proofs.Command.SettingsEdits — what a row of settings commands comes to.

Every command that edits the settings loads all of them, changes one thing and
saves all of them again. An edit *means* a change if its words do (`Edit.Means`);
one that means none fails and leaves the file as it was (`Keeps.takes_edit`).

Between two command lines the file gives the settings that the lines so far
have made of the first ones (`Between`), and a line keeps that true. In those
settings every switch, and the style, is as the last edit has set it that is
about it (`LastSet`), and all else is as it was at first (`Edited`).
-/
import Daybook.Command.Run
import Daybook.Proofs.Command.SettingsFile

namespace Daybook.Command

/-! ## Edits and what they mean -/

/-- An edit of the settings as it is typed. -/
inductive Edit where
  | toggle (name value : String)
  | style (name : String)
deriving DecidableEq, Repr

def Edit.task : Edit → Task
  | .toggle name value => .setToggle name value
  | .style name => .setStyle name

/-- A change of the settings. -/
inductive Change where
  | toggle (s : Section) (value : Bool)
  | style (chosen : BodyStyle)
deriving DecidableEq, Repr

def Change.applyTo : Change → Config → Config
  | .toggle s value, config => { config with sections := config.sections.set s value }
  | .style chosen, config => { config with bodyStyle := chosen }

/-- A typed name as keys are written: without surrounding blanks, in lower
case, with underscores for hyphens. -/
def keyForm (typed : String) : String :=
  (Text.plain typed).map fun c => if c = '-' then '_' else c

/-- The typed name is the key of a switch, or the key without its `show_`. -/
def Names (typed : String) (s : Section) : Prop :=
  keyForm typed = s.key ∨ "show_" ++ keyForm typed = s.key

instance (typed : String) (s : Section) : Decidable (Names typed s) :=
  inferInstanceAs (Decidable (_ ∨ _))

def truthWords : Bool → List String
  | true => ["true", "on", "yes", "y", "1"]
  | false => ["false", "off", "no", "n", "0"]

def styleWords : BodyStyle → List String
  | .sections => ["section", "sections"]
  | .template => ["template"]

/-- What an edit means by its words. -/
inductive Edit.Means : Edit → Change → Prop where
  | toggle {name value : String} {s : Section} {b : Bool} (hname : Names name s)
      (hvalue : Text.plain value ∈ truthWords b) : Means (.toggle name value) (.toggle s b)
  | style {name : String} {chosen : BodyStyle} (hname : Text.plain name ∈ styleWords chosen) :
      Means (.style name) (.style chosen)

/-- The change that is made for an edit, if any is. -/
def Edit.change? : Edit → Option Change
  | .toggle name value =>
    match truthValue? value, Section.named? name with
    | some b, some s => some (.toggle s b)
    | _, _ => none
  | .style name => (BodyStyle.parse name).toOption.map .style

/-! ## Understanding words -/

theorem truthValue?_iff {typed : String} {b : Bool} :
    truthValue? typed = some b ↔ Text.plain typed ∈ truthWords b := by
  have hapart : ∀ word ∈ truthWords true, word ∉ truthWords false := by decide
  have hvalue : truthValue? typed = if Text.plain typed ∈ truthWords true then some true
      else if Text.plain typed ∈ truthWords false then some false else none := rfl
  rw [hvalue]
  cases b <;> split <;> grind

theorem parse_style_iff {typed : String} {style : BodyStyle} :
    BodyStyle.parse typed = .ok style ↔ Text.plain typed ∈ styleWords style := by
  unfold BodyStyle.parse
  cases style <;> simp only [styleWords, List.mem_cons, List.not_mem_nil, or_false] <;> grind

/-- The name of a switch without what all keys start with. -/
def shortKey (s : Section) : List Char :=
  Section.withoutStart s.key.toList

theorem key_eq (s : Section) : s.key.toList = Section.keyStart ++ shortKey s := by
  cases s <;> rfl

theorem withoutStart_shortKey (s : Section) :
    Section.withoutStart (shortKey s) = shortKey s := by
  cases s <;> rfl

theorem withoutStart_append (cs : List Char) :
    Section.withoutStart (Section.keyStart ++ cs) = cs := by
  have hstart : Section.keyStart.isPrefixOf (Section.keyStart ++ cs) = true :=
    List.isPrefixOf_iff_prefix.mpr (List.prefix_append _ cs)
  rw [Section.withoutStart, if_pos hstart, List.drop_left]

theorem withoutStart_eq_shortKey {cs : List Char} {s : Section} :
    Section.withoutStart cs = shortKey s ↔
      cs = s.key.toList ∨ Section.keyStart ++ cs = s.key.toList := by
  rw [key_eq]
  constructor
  · intro h
    by_cases hstart : Section.keyStart.isPrefixOf cs = true
    · obtain ⟨rest, rfl⟩ := List.isPrefixOf_iff_prefix.mp hstart
      rw [withoutStart_append] at h
      exact .inl (h ▸ rfl)
    · rw [Section.withoutStart, if_neg hstart] at h
      exact .inr (h ▸ rfl)
  · rintro (rfl | h)
    · exact withoutStart_append _
    · rw [List.append_cancel_left h]
      exact withoutStart_shortKey s

theorem named?_iff {typed : String} {s : Section} :
    Section.named? typed = some s ↔ Names typed s := by
  have hform : Section.normalised typed = (keyForm typed).toList := by
    simp [Section.normalised, keyForm]
  have hstart : Section.keyStart ++ (keyForm typed).toList = ("show_" ++ keyForm typed).toList := by
    simp [Section.keyStart]
  have hfind : ∀ cs, Section.all.find? (fun s => shortKey s == cs) = some s ↔ cs = shortKey s := by
    intro cs
    constructor
    · intro h
      have := List.find?_some h
      exact (eq_of_beq this).symm
    · rintro rfl
      cases s <;> decide
  have hnames : Names typed s ↔ Section.withoutStart (keyForm typed).toList = shortKey s := by
    rw [withoutStart_eq_shortKey, hstart, String.toList_inj, String.toList_inj, Names]
  rw [hnames, Section.named?, hform]
  exact hfind _

/-- A change is made for an edit just if it is what the edit means. -/
theorem Edit.change?_iff {e : Edit} {c : Change} : e.change? = some c ↔ e.Means c := by
  cases e with
  | toggle name value =>
    have hchange : (Edit.toggle name value).change? = match truthValue? value, Section.named? name with
        | some b, some s => some (.toggle s b)
        | _, _ => none := rfl
    rw [hchange]
    constructor
    · intro h
      split at h
      next b s hvalue hname =>
        cases h
        exact .toggle (named?_iff.mp hname) (truthValue?_iff.mp hvalue)
      next => cases h
    · intro h
      cases h with
      | toggle hname hvalue => rw [truthValue?_iff.mpr hvalue, named?_iff.mpr hname]
  | style name =>
    have hchange : (Edit.style name).change? = (BodyStyle.parse name).toOption.map .style := rfl
    rw [hchange]
    constructor
    · intro h
      cases hparse : BodyStyle.parse name with
      | error e =>
        rw [hparse] at h
        cases h
      | ok chosen =>
        rw [hparse] at h
        cases h
        exact .style (parse_style_iff.mp hparse)
    · intro h
      cases h with
      | style hname =>
        rw [parse_style_iff.mpr hname]
        rfl

/-! ## The last edit counts -/

/-- The value `final` was set by the last edit that sets any; without one it is
the first one. -/
def LastSet {α : Type} (sets : Edit → α → Prop) (edits : List Edit) (first final : α) : Prop :=
  (∃ before e later, edits = before ++ e :: later ∧ sets e final ∧ ∀ e' ∈ later, ∀ a, ¬ sets e' a)
    ∨ ((∀ e ∈ edits, ∀ a, ¬ sets e a) ∧ final = first)

section LastSet

variable {α : Type} {sets : Edit → α → Prop} {edits : List Edit} {first final a : α} {e : Edit}

theorem LastSet.nil (sets : Edit → α → Prop) (first : α) : LastSet sets [] first first :=
  .inr ⟨fun _ he => (nomatch he), rfl⟩

theorem LastSet.set (h : sets e a) : LastSet sets (edits ++ [e]) first a :=
  .inl ⟨edits, e, [], rfl, h, fun _ he => nomatch he⟩

theorem LastSet.skip (hlast : LastSet sets edits first final) (h : ∀ a, ¬ sets e a) :
    LastSet sets (edits ++ [e]) first final := by
  rcases hlast with ⟨before, e', later, rfl, hset, hlater⟩ | ⟨hnone, rfl⟩
  · refine .inl ⟨before, e', later ++ [e], by simp, hset, ?_⟩
    intro e'' he''
    rcases List.mem_append.mp he'' with hmem | hmem
    · exact hlater e'' hmem
    · exact List.mem_singleton.mp hmem ▸ h
  · refine .inr ⟨?_, rfl⟩
    intro e'' he''
    rcases List.mem_append.mp he'' with hmem | hmem
    · exact hnone e'' hmem
    · exact List.mem_singleton.mp hmem ▸ h

end LastSet

/-- The settings after some edits: as before, but for the switches and the
style that an edit has set. -/
structure Edited (config : Config) (edits : List Edit) (config' : Config) : Prop where
  others : config' = { config with sections := config'.sections, bodyStyle := config'.bodyStyle }
  toggle (s : Section) : LastSet (fun e b => e.Means (.toggle s b)) edits
    (config.sections.get s) (config'.sections.get s)
  style : LastSet (fun e chosen => e.Means (.style chosen)) edits config.bodyStyle config'.bodyStyle

section Edited

variable {config config' : Config} {edits : List Edit} {e : Edit} {c : Change}

theorem Edited.nil (config : Config) : Edited config [] config :=
  ⟨rfl, fun _ => .nil _ _, .nil _ _⟩

/-- An edit that means nothing changes nothing. -/
theorem Edited.skip (h : Edited config edits config') (he : ∀ c, ¬ e.Means c) :
    Edited config (edits ++ [e]) config' :=
  ⟨h.others, fun s => (h.toggle s).skip fun b => he (.toggle s b),
    h.style.skip fun chosen => he (.style chosen)⟩

/-- An edit changes what it means, and that alone. -/
theorem Edited.step (h : Edited config edits config') (he : e.Means c) :
    Edited config (edits ++ [e]) (c.applyTo config') := by
  have honly : ∀ c', e.Means c' → c' = c := by
    intro c' he'
    have hsome := Edit.change?_iff.mpr he'
    rw [Edit.change?_iff.mpr he] at hsome
    exact (Option.some.inj hsome).symm
  have hothers := h.others
  cases c with
  | toggle s b =>
    refine ⟨?_, ?_, ?_⟩
    · rw [Change.applyTo, hothers]
    · intro s'
      rw [Change.applyTo, Toggles.get_set]
      by_cases hs : s' = s
      · rw [if_pos hs, hs]
        exact .set he
      · rw [if_neg hs]
        refine (h.toggle s').skip fun b' he' => hs ?_
        cases honly _ he'
        rfl
    · exact h.style.skip fun chosen he' => nomatch honly _ he'
  | style chosen =>
    refine ⟨?_, ?_, .set he⟩
    · rw [Change.applyTo, hothers]
    · intro s
      exact (h.toggle s).skip fun b he' => nomatch honly _ he'

end Edited

/-! ## Command lines -/

/-- The words ask for an edit of the settings in the file at the path, or they
are refused for want of a command that they could be. -/
inductive Asks (path : Path) (words : List String) : Option Edit → Prop where
  | edit {e : Edit} (h : Invocation.parse words = .ok ⟨some path, .task e.task⟩) :
      Asks path words (some e)
  | refused (h : Invocation.parse words = .error .usage) : Asks path words none

/-- A command line that should edit the settings in the file at a path. -/
structure Line (path : Path) where
  words : List String
  edit? : Option Edit
  asks : Asks path words edit?

/-- The change that a line makes, if it makes any. -/
def Line.change? {path : Path} (line : Line path) : Option Change :=
  line.edit?.bind Edit.change?

theorem Line.changes_iff {path : Path} (line : Line path) :
    line.change?.isSome = true ↔ ∃ e ∈ line.edit?, ∃ c, e.Means c := by
  rw [Option.isSome_iff_exists, Line.change?]
  constructor
  · rintro ⟨c, hc⟩
    obtain ⟨e, he, hchange⟩ := Option.bind_eq_some_iff.mp hc
    exact ⟨e, he, c, Edit.change?_iff.mp hchange⟩
  · rintro ⟨e, he, c, hmeans⟩
    exact ⟨c, Option.bind_eq_some_iff.mpr ⟨e, he, Edit.change?_iff.mpr hmeans⟩⟩

/-- The words of an edit. None of those behind `--` is taken for a flag. -/
def Edit.words (path : Path) : Edit → List String
  | .toggle name value => ["--config=" ++ path.text, "config", "set", "--", name, value]
  | .style name => ["--config=" ++ path.text, "config", "style", "--", name]

theorem read_config {path : Path} (hpath : path.isEmpty = false) (words : List String) :
    Found.start.read none (("--config=" ++ path.text) :: words)
      = Found.read ⟨.top, [⟨.top, .config, path.text⟩], []⟩ none words := by
  have hchars : ("--config=" ++ path.text).toList
      = '-' :: '-' :: ("config=".toList ++ path.text.toList) := by simp
  have hword : ¬ "--config=" ++ path.text = "--" := by
    intro h
    rw [h] at hchars
    simp at hchars
  have hlong : Found.start.addLong ("config=".toList ++ path.text.toList)
      = .ok (⟨.top, [⟨.top, .config, path.text⟩], []⟩, none) := by
    have haccepts : Flag.config.accepts path.text = true := by
      simpa [Flag.accepts, Path.isEmpty] using hpath
    have hadd : Found.start.add .config path.text
        = .ok ⟨.top, [⟨.top, .config, path.text⟩], []⟩ := by
      simp [Found.add, Found.start, haccepts]
    show (Found.start.add .config (.ofList path.text.toList)).map (·, none) = _
    rw [String.ofList_toList, hadd]
    rfl
  rw [Found.read, if_neg hword, Found.addAny, hchars]
  simp only [hlong]
  rfl

/-- Every edit can be asked for, whatever its words are. -/
theorem asks_words {path : Path} (hpath : path.isEmpty = false) (e : Edit) :
    Asks path (e.words path) (some e) := by
  refine .edit ?_
  cases e with
  | toggle name value =>
    rw [Edit.words, Invocation.parse, read_config hpath]
    rfl
  | style name =>
    rw [Edit.words, Invocation.parse, read_config hpath]
    rfl

def Edit.line (path : Path) (hpath : path.isEmpty = false) (e : Edit) : Line path :=
  ⟨e.words path, some e, asks_words hpath e⟩

/-- The state after some command lines, one after the other. -/
def afterLines {σ : Type} {path : Path} (answer : (q : Query) → σ → q.Reply × σ)
    (lines : List (Line path)) (s : σ) : σ :=
  lines.foldl (fun s line => ((run line.words).run answer s).2) s

/-- What a file with a text that gives these settings holds after a change. -/
def textAfter (text : Option String) (config : Config) : Option Change → Option String
  | some c => some (c.applyTo config).write
  | none => text

section Lines

variable {σ : Type} {answer : (q : Query) → σ → q.Reply × σ} {path : Path}
  {homeFolder : Option String} {ready : σ → Prop} {text : Option String} {config : Config}
  (k : Keeps answer path homeFolder ready)
include k

theorem Keeps.takes_setToggle (name value : String) (config : Config) :
    Takes answer path ready (setToggle (some path) name value config) text
      (Edit.toggle name value).change?.isSome
      (textAfter text config (Edit.toggle name value).change?) := by
  have hchange : (Edit.toggle name value).change? = match truthValue? value, Section.named? name with
      | some b, some s => some (.toggle s b)
      | _, _ => none := rfl
  rw [hchange]
  unfold setToggle
  cases truthValue? value with
  | none => exact k.takes_fail _
  | some b =>
    unfold Config.setToggle Toggles.setNamed Section.parse
    cases Section.named? name with
    | none => exact k.takes_fail _
    | some s => exact k.takes_saveChange _ _

theorem Keeps.takes_setStyle (name : String) (config : Config) :
    Takes answer path ready (setStyle (some path) name config) text
      (Edit.style name).change?.isSome (textAfter text config (Edit.style name).change?) := by
  have hchange : (Edit.style name).change? = (BodyStyle.parse name).toOption.map .style := rfl
  rw [hchange]
  unfold setStyle
  cases BodyStyle.parse name with
  | error e => exact k.takes_fail _
  | ok chosen => exact k.takes_saveChange _ _

/-- An edit that means a change is carried out on the settings in the file,
and they are saved; any other fails and spares the file. -/
theorem Keeps.takes_edit (h : settingsIn? homeFolder text = some config) (e : Edit) :
    Takes answer path ready (e.task.perform (some path)) text e.change?.isSome
      (textAfter text config e.change?) := by
  cases e with
  | toggle name value => exact k.takes_withConfig h (k.takes_setToggle name value config)
  | style name => exact k.takes_withConfig h (k.takes_setStyle name config)

/-- A command line ends well just if its edit means a change. -/
theorem Keeps.takes_line (h : settingsIn? homeFolder text = some config) (line : Line path) :
    ∃ code, (code = 0 ↔ line.change?.isSome = true) ∧
      Takes answer path ready (run line.words) text (.ended code)
        (textAfter text config line.change?) := by
  obtain ⟨words, edit?, hasks⟩ := line
  cases hasks with
  | @edit e hparse =>
    refine ⟨exitCode e.change?.isSome, ?_, ?_⟩
    · have hcode : ∀ succeeded, exitCode succeeded = 0 ↔ succeeded = true := by decide
      exact hcode e.change?.isSome
    · unfold run
      rw [hparse]
      exact (k.takes_edit h e).bind (.done _ _)
  | refused hparse =>
    have hcode : usageCode = 0 ↔ (none : Option Change).isSome = true := by decide
    refine ⟨usageCode, hcode, ?_⟩
    unfold run
    rw [hparse]
    exact (k.takes_complain _).bind (.done _ _)

end Lines

/-! ## A row of command lines -/

section Row

variable {σ : Type} {answer : (q : Query) → σ → q.Reply × σ} {path : Path}
  {homeFolder : Option String} {ready : σ → Prop} {config : Config}

/-- What holds between two command lines: the file gives the settings that
the lines so far have made of the first ones. -/
structure Between (answer : (q : Query) → σ → q.Reply × σ) (path : Path) (homeFolder : Option String)
    (ready : σ → Prop) (config : Config) (edits : List Edit) (s : σ) : Prop where
  isReady : ready s
  gives : ∃ config', settingsIn? homeFolder (fileText answer path s) = some config' ∧
    Edited config edits config'

theorem Keeps.between_line (k : Keeps answer path homeFolder ready) {edits : List Edit} {s : σ}
    (h : Between answer path homeFolder ready config edits s) (line : Line path) :
    Between answer path homeFolder ready config (edits ++ line.edit?.toList)
      ((run line.words).run answer s).2 := by
  obtain ⟨config', hgives, hedited⟩ := h.gives
  obtain ⟨code, -, htakes⟩ := k.takes_line hgives line
  obtain ⟨-, hready, htext⟩ := htakes s h.isReady rfl
  refine ⟨hready, ?_⟩
  rw [htext]
  cases hedit : line.edit? with
  | none =>
    have hnone : line.change? = none := by rw [Line.change?, hedit]; rfl
    rw [hnone, Option.toList, List.append_nil]
    exact ⟨config', hgives, hedited⟩
  | some e =>
    have hchange : line.change? = e.change? := by rw [Line.change?, hedit]; rfl
    rw [hchange]
    cases hc : e.change? with
    | none =>
      refine ⟨config', hgives, hedited.skip fun c he => ?_⟩
      rw [Edit.change?_iff.mpr he] at hc
      cases hc
    | some c =>
      exact ⟨_, settingsIn?_write homeFolder _, hedited.step (Edit.change?_iff.mp hc)⟩

theorem Keeps.between_lines (k : Keeps answer path homeFolder ready) {edits : List Edit} {s : σ}
    (h : Between answer path homeFolder ready config edits s) (lines : List (Line path)) :
    Between answer path homeFolder ready config (edits ++ lines.filterMap Line.edit?)
      (afterLines answer lines s) := by
  induction lines generalizing edits s with
  | nil =>
    rw [List.filterMap_nil, List.append_nil]
    exact h
  | cons line more ih =>
    have hline := ih (k.between_line h line)
    have hedits : (line :: more).filterMap Line.edit?
        = line.edit?.toList ++ more.filterMap Line.edit? := by
      rw [List.filterMap_cons]
      cases line.edit? <;> rfl
    rw [List.append_assoc, ← hedits] at hline
    exact hline

/-- Settings commands with a file of their own add up. After any row of them
the settings can be loaded, and every switch and the style is as the last edit
has set it that means a change of it; all else is as it was. A line ends well
just if its edit means a change, and one that fails leaves the file alone. -/
theorem settings_edits_add_up (k : Keeps answer path homeFolder ready) {s : σ} (hready : ready s)
    (hload : ((loadConfig (some path)).run answer s).1 = some config) (lines : List (Line path)) :
    (∃ config', ((loadConfig (some path)).run answer (afterLines answer lines s)).1 = some config' ∧
      Edited config (lines.filterMap Line.edit?) config') ∧
    ∀ before line later, lines = before ++ line :: later →
      let here := afterLines answer before s
      let ended := (run line.words).run answer here
      (ended.1 = .ended 0 ↔ ∃ e ∈ line.edit?, ∃ c, e.Means c) ∧
      (ended.1 ≠ .ended 0 → fileText answer path ended.2 = fileText answer path here) := by
  have hfirst : Between answer path homeFolder ready config [] s := by
    refine ⟨hready, config, ?_, .nil config⟩
    rw [← (k.takes_loadConfig s hready rfl).1, hload]
  constructor
  · obtain ⟨hready', config', hgives, hedited⟩ := k.between_lines hfirst lines
    refine ⟨config', ?_, hedited⟩
    rw [(k.takes_loadConfig _ hready' rfl).1, hgives]
  · rintro before line later -
    obtain ⟨hready', config', hgives, -⟩ := k.between_lines hfirst before
    obtain ⟨code, hcode, htakes⟩ := k.takes_line hgives line
    obtain ⟨hended, -, htext⟩ := htakes _ hready' rfl
    have hends : Outcome.ended code = .ended 0 ↔ code = 0 := by simp
    refine ⟨?_, ?_⟩
    · rw [hended, hends, hcode, line.changes_iff]
    · intro hfails
      have hnone : line.change? = none := by
        rw [← Option.not_isSome_iff_eq_none, ← hcode, ← hends, ← hended]
        exact hfails
      rw [htext, hnone]
      rfl

end Row

theorem settings_edits_add_up_four_lines :
    let path : Path := ⟨"settings.toml"⟩
    let text := "editor = 'vim'\n[sections]\nshow_quote = false\n"
    let moment : Calendar.Moment := ⟨⟨⟨2024, 5, 31⟩, by decide⟩, 0⟩
    let machine : Machine :=
      ⟨⟨[(["home"], .folder), (["home", "settings.toml"], .file text false)], ["home"]⟩,
        [("HOME", "/home")], moment, 0, "", "", .start, [], true⟩
    let edits : List Edit := [.toggle " Evening-Note " "OFF", .toggle "evening" "on",
      .style "Template", .toggle "SHOW_QUOTE" "yes"]
    let ended := afterLines Machine.answer (edits.map (Edit.line path rfl)) machine
    machine.environment.lookup "HOME" = some "/home" ∧ machine.tree.Admits path ∧
      ∃ config config', ((loadConfig (some path)).run Machine.answer machine).1 = some config ∧
        ((loadConfig (some path)).run Machine.answer ended).1 = some config' ∧
        Edited config edits config' := by
  intro path text moment machine edits ended
  have hadmits : machine.tree.Admits path := by
    have hleads : (machine.tree.locate path).toOption
        = some (.found ["home", "settings.toml"] (.file text false)) := by decide +kernel
    have hparent : path.parent? = some ⟨""⟩ := by decide +kernel
    cases hlocate : machine.tree.locate path with
    | error cause =>
      rw [hlocate] at hleads
      cases hleads
    | ok target =>
      rw [hlocate] at hleads
      cases hleads
      refine ⟨by decide +kernel, ⟨_, hlocate, by simp [Storage.Target.entry?]⟩, ?_⟩
      intro folder hfolder hempty
      rw [hparent] at hfolder
      cases hfolder
      cases hempty
  have hloads : ((loadConfig (some path)).run Machine.answer machine).1.isSome = true := by
    decide +kernel
  obtain ⟨config, hload⟩ := Option.isSome_iff_exists.mp hloads
  have hhome : machine.environment.lookup "HOME" = some "/home" := rfl
  obtain ⟨⟨config', hload', hedited⟩, -⟩ := settings_edits_add_up (machine_keeps path (some "/home"))
    ⟨hhome, hadmits⟩ hload (edits.map (Edit.line path rfl))
  exact ⟨hhome, hadmits, config, config', hload, hload', hedited⟩

end Daybook.Command
