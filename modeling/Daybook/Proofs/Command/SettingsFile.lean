/-
Daybook.Proofs.Command.SettingsFile — loading and saving the settings file.

A command that is given the settings file asks little about it: whether it is
there, its text, and to write it in a folder that is made if need be. `Keeps`
says what surroundings do that have such a file at hand: reads and writes of it
succeed, a read gives what was last written, and nothing else changes it. What
the file holds is what can be read (`fileText`).

Over such surroundings a command is told by what it does to the text of the
file (`Takes`), one command after the other. Loading gives what the text says
and leaves it (`Keeps.takes_loadConfig`), saving replaces it
(`Keeps.takes_saveConfig`).

A machine keeps every file that its tree admits (`machine_keeps`).
-/
import Daybook.Command.Config
import Daybook.Machine.Basic
import Daybook.Proofs.Config.RoundTrip
import Daybook.Proofs.Storage.Tree

namespace Daybook.Command

variable {σ α β : Type}

/-! ## A file and its surroundings -/

/-- The storage in the surroundings. -/
def storageOf (answer : (q : Query) → σ → q.Reply × σ) : Storage.Backend σ :=
  fun q s => answer (.storage q) s

section Views

variable (answer : (q : Query) → σ → q.Reply × σ) (path : Path) (s : σ)

/-- Whether a file or folder is reported at the path. -/
def presence : Bool :=
  (answer (.storage (.isPresent path)) s).1

/-- What reading the file gives. -/
def reading : Except StorageError String :=
  (answer (.storage (.read path)) s).1

/-- The text of the file; none if there is no file. -/
def fileText : Option String :=
  if presence answer path s then (reading answer path s).toOption else none

end Views

/-- The questions of commands about settings that leave the file as it is. -/
inductive Spares (path : Path) : Query → Prop where
  | isPresent : Spares path (.storage (.isPresent path))
  | read : Spares path (.storage (.read path))
  | makeFolders {folder : Path} (hparent : path.parent? = some folder)
      (hempty : folder.isEmpty = false) : Spares path (.storage (.makeFolders folder))
  | home : Spares path (.environment "HOME")
  | print (text : String) : Spares path (.print text)
  | complain (text : String) : Spares path (.complain text)

/-- Once they are ready, the surroundings let a file be read and written, and
they know the user's home folder. -/
structure Keeps (answer : (q : Query) → σ → q.Reply × σ) (path : Path) (homeFolder : Option String)
    (ready : σ → Prop) : Prop where
  home {s : σ} (hs : ready s) : (answer (.environment "HOME") s).1 = homeFolder
  read {s : σ} (hs : ready s) (h : presence answer path s = true) :
    ∃ text, reading answer path s = .ok text
  makeFolders {s : σ} (hs : ready s) {folder : Path} (hparent : path.parent? = some folder)
    (hempty : folder.isEmpty = false) : (answer (.storage (.makeFolders folder)) s).1 = Except.ok ()
  write {s : σ} (hs : ready s) (text : String) :
    (answer (.storage (.write path text)) s).1 = Except.ok () ∧
      ready (answer (.storage (.write path text)) s).2 ∧
      fileText answer path (answer (.storage (.write path text)) s).2 = some text
  spare {s : σ} (hs : ready s) {q : Query} (hq : Spares path q) :
    ready (answer q s).2 ∧ fileText answer path (answer q s).2 = fileText answer path s

/-- From every ready state in which the file holds `text` the work ends in `a`
and in a ready state in which the file holds `text'`. -/
def Takes (answer : (q : Query) → σ → q.Reply × σ) (path : Path) (ready : σ → Prop) (work : Work α)
    (text : Option String) (a : α) (text' : Option String) : Prop :=
  ∀ s, ready s → fileText answer path s = text →
    (work.run answer s).1 = a ∧ ready (work.run answer s).2 ∧
      fileText answer path (work.run answer s).2 = text'

/-! ## Work step by step -/

section Steps

variable {answer : (q : Query) → σ → q.Reply × σ} {path : Path} {homeFolder : Option String}
  {ready : σ → Prop} {text text' text'' : Option String} {a : α} {b : β}

theorem Takes.done (text : Option String) (a : α) :
    Takes answer path ready (.done a) text a text :=
  fun _ hs ht => ⟨rfl, hs, ht⟩

theorem Takes.bind {work : Work α} {next : α → Work β}
    (hwork : Takes answer path ready work text a text')
    (hnext : Takes answer path ready (next a) text' b text'') :
    Takes answer path ready (work >>= next) text b text'' := by
  intro s hs ht
  obtain ⟨ha, hs', ht'⟩ := hwork s hs ht
  have hrun : (work >>= next).run answer s = _ := Procedure.run_bind answer work next s
  rw [hrun, ha]
  exact hnext _ hs' ht'

theorem run_onStorage (work : Storage.Work α) (s : σ) :
    (onStorage work).run answer s = work.run (storageOf answer) s := by
  unfold onStorage
  induction work generalizing s with
  | done a => rfl
  | ask q next ih => exact ih _ _

theorem eq_some_of_fileText {s : σ} {t : String} (h : fileText answer path s = some t) :
    presence answer path s = true ∧ reading answer path s = .ok t := by
  unfold fileText at h
  split at h
  next hpresent =>
    refine ⟨hpresent, ?_⟩
    cases hreading : reading answer path s with
    | ok t' =>
      rw [hreading] at h
      exact congrArg Except.ok (Option.some.inj h)
    | error e =>
      rw [hreading] at h
      cases h
  next => cases h

variable (k : Keeps answer path homeFolder ready)
include k

theorem Keeps.presence_eq {s : σ} (hs : ready s) :
    presence answer path s = (fileText answer path s).isSome := by
  unfold fileText
  split
  next hpresent =>
    obtain ⟨t, ht⟩ := k.read hs hpresent
    rw [hpresent, ht]
    rfl
  next hpresent => exact Bool.eq_false_iff.mpr hpresent

/-- A question that spares the file. -/
theorem Keeps.takes_ask {q : Query} (hq : Spares path q) {reply : q.Reply}
    (h : ∀ s, ready s → (answer q s).1 = reply) :
    Takes answer path ready (.ask q .done) text reply text := by
  intro s hs ht
  obtain ⟨hs', ht'⟩ := k.spare hs hq
  exact ⟨h s hs, hs', ht'.trans ht⟩

theorem Keeps.takes_print (line : String) : Takes answer path ready (print line) text () text :=
  k.takes_ask (.print _) fun _ _ => rfl

theorem Keeps.takes_complain (line : String) :
    Takes answer path ready (complain line) text () text :=
  k.takes_ask (.complain _) fun _ _ => rfl

theorem Keeps.takes_prints (lines : List String) :
    Takes answer path ready (lines.forM print) text () text := by
  induction lines with
  | nil => exact .done text ()
  | cons line more ih => exact (k.takes_print line).bind ih

theorem Keeps.takes_fail (line : String) : Takes answer path ready (fail line) text false text :=
  (k.takes_complain _).bind (.done text false)

theorem Keeps.takes_standardConfig :
    Takes answer path ready standardConfig text (.standard ⟨homeFolder.getD "/"⟩) text := by
  have hhome : Takes answer path ready Command.home text ⟨homeFolder.getD "/"⟩ text :=
    (k.takes_ask .home fun _ hs => k.home hs).bind (.done text _)
  exact hhome.bind (.done text _)

end Steps

/-! ## Loading and saving -/

/-- The settings that the text of a settings file gives, none if it cannot be
understood. Without a file they are the standard ones. -/
def settingsIn? (homeFolder : Option String) : Option String → Option Config
  | none => some (.standard ⟨homeFolder.getD "/"⟩)
  | some text => (Config.parse (.standard ⟨homeFolder.getD "/"⟩) text).toOption

/-- Saved settings are in the text that they are saved as. -/
theorem settingsIn?_write (homeFolder : Option String) (config : Config) :
    settingsIn? homeFolder (some config.write) = some config := by
  rw [settingsIn?, Config.parse_write rfl rfl rfl config]
  rfl

section Settings

variable {answer : (q : Query) → σ → q.Reply × σ} {path : Path} {homeFolder : Option String}
  {ready : σ → Prop} {text text' : Option String} {config : Config}
  (k : Keeps answer path homeFolder ready)
include k

theorem Keeps.takes_loadOrStandard (standard : Config) :
    Takes answer path ready (tryOnStorage (Config.loadOrStandard standard path)) text
      (match text with
        | none => .ok standard
        | some text => (Config.parse standard text).mapError .settingsParse) text := by
  intro s hs ht
  have hpresent := k.presence_eq hs
  have hspare := k.spare hs .isPresent
  rw [ht] at hpresent hspare
  have hrun : (tryOnStorage (Config.loadOrStandard standard path)).run answer s = _ :=
    run_onStorage (Config.loadOrStandard standard path).run s
  rw [hrun]
  cases text with
  | none =>
    have hanswer : storageOf answer (.isPresent path) s
        = (false, (storageOf answer (.isPresent path) s).2) := Prod.ext hpresent rfl
    rw [Config.run_loadOrStandard_absent standard hanswer]
    exact ⟨rfl, hspare⟩
  | some t =>
    have hanswer : storageOf answer (.isPresent path) s
        = (true, (storageOf answer (.isPresent path) s).2) := Prod.ext hpresent rfl
    rw [Config.run_loadOrStandard_present standard hanswer]
    obtain ⟨s₁, hs₁⟩ : ∃ s₁, (storageOf answer (.isPresent path) s).2 = s₁ := ⟨_, rfl⟩
    obtain ⟨hready, ht₁⟩ : ready s₁ ∧ fileText answer path s₁ = some t := hs₁ ▸ hspare
    obtain ⟨hready', ht₂⟩ := k.spare hready .read
    have hread : storageOf answer (.read path) s₁
        = (Except.ok t, (storageOf answer (.read path) s₁).2) :=
      Prod.ext (eq_some_of_fileText ht₁).2 rfl
    rw [hs₁, Config.run_load_text standard hread]
    exact ⟨rfl, hready', ht₂.trans ht₁⟩

/-- Loading gives the settings in the file and leaves the file. -/
theorem Keeps.takes_loadConfig :
    Takes answer path ready (loadConfig (some path)) text (settingsIn? homeFolder text) text := by
  refine k.takes_standardConfig.bind (.bind (.done text path) ((k.takes_loadOrStandard _).bind ?_))
  cases text with
  | none => exact .done none _
  | some t =>
    unfold settingsIn?
    dsimp only
    cases Config.parse (.standard ⟨homeFolder.getD "/"⟩) t with
    | ok config => exact .done _ _
    | error fault => exact (k.takes_complain _).bind ((k.takes_complain _).bind (.done _ _))

theorem Keeps.takes_putText (config : Config) :
    Takes answer path ready (tryOnStorage (config.putText path)) text (.ok ())
      (some config.write) := by
  intro s hs _
  obtain ⟨hreply, hkept⟩ := k.write hs config.write
  have hanswer : storageOf answer (.write path config.write) s
      = (Except.ok (), (storageOf answer (.write path config.write) s).2) := Prod.ext hreply rfl
  have hrun : (tryOnStorage (config.putText path)).run answer s = _ :=
    run_onStorage (config.putText path).run s
  rw [hrun, Config.run_putText_ok hanswer]
  exact ⟨rfl, hkept⟩

theorem Keeps.takes_save (config : Config) :
    Takes answer path ready (tryOnStorage (config.save path)) text (.ok ()) (some config.write) := by
  rcases Config.folder_cases path with hnone | ⟨folder, hparent, hempty⟩
  · rw [Config.save_eq_putText hnone]
    exact k.takes_putText config
  · intro s hs _
    have hanswer : storageOf answer (.makeFolders folder) s
        = (Except.ok (), (storageOf answer (.makeFolders folder) s).2) :=
      Prod.ext (k.makeFolders hs hparent hempty) rfl
    have hrun : (tryOnStorage (config.save path)).run answer s
        = (tryOnStorage (config.putText path)).run answer
          (storageOf answer (.makeFolders folder) s).2 :=
      (run_onStorage (config.save path).run s).trans
        ((Config.run_save_ok hparent hempty hanswer).trans
          (run_onStorage (config.putText path).run _).symm)
    rw [hrun]
    exact k.takes_putText config _ (k.spare hs (.makeFolders hparent hempty)).1 rfl

/-- Saving puts the settings into the file, whatever was in it. -/
theorem Keeps.takes_saveConfig (config : Config) :
    Takes answer path ready (saveConfig config (some path)) text (.ok ()) (some config.write) :=
  .bind (.done text path) (k.takes_save config)

theorem Keeps.takes_withConfig {act : Config → Work Bool} {succeeded : Bool}
    (h : settingsIn? homeFolder text = some config)
    (hact : Takes answer path ready (act config) text succeeded text') :
    Takes answer path ready (withConfig (some path) act) text succeeded text' := by
  refine k.takes_loadConfig.bind ?_
  rw [h]
  exact hact

theorem Keeps.takes_saveChange (config : Config) (lines : List String) :
    Takes answer path ready (saveChange (some path) config lines) text true (some config.write) :=
  (k.takes_saveConfig config).bind ((k.takes_prints lines).bind (.done _ true))

end Settings

/-! ## On a machine -/

theorem answer_storage {m : Machine} {q : Storage.Query} {reply : q.Reply} {tree : Storage.Tree}
    (h : Storage.Tree.answer q m.tree = (reply, tree)) :
    Machine.answer (.storage q) m = (reply, { m with tree }) := by
  have hanswer : Machine.answer (.storage q) m
      = ((Storage.Tree.answer q m.tree).1,
        { m with tree := (Storage.Tree.answer q m.tree).2 }) := rfl
  rw [hanswer, h]

theorem fileText_machine (path : Path) (m : Machine) :
    fileText Machine.answer path m
      = if m.tree.isPresent path then (m.tree.read path).toOption else none := rfl

/-- A machine keeps the settings in any file that its tree admits. -/
theorem machine_keeps (path : Path) (homeFolder : Option String) :
    Keeps Machine.answer path homeFolder fun m =>
      m.environment.lookup "HOME" = homeFolder ∧ m.tree.Admits path where
  home hs := hs.1
  read hs hpresent := hs.2.read hpresent
  makeFolders {m} hs folder hparent hempty := by
    have hmake := Storage.Tree.makeFolders_of_isFolder hempty (hs.2.inFolder folder hparent hempty)
    rw [answer_storage (q := .makeFolders folder) hmake]
  write {m} hs text := by
    obtain ⟨tree, hwrite, hadmits, hpresent, hread⟩ := hs.2.write text
    rw [answer_storage (q := .write path text) hwrite, fileText_machine]
    refine ⟨rfl, ⟨hs.1, hadmits⟩, ?_⟩
    rw [hpresent, hread]
    rfl
  spare {m} hs q hq := by
    cases hq with
    | isPresent | read | home | print | complain => exact ⟨hs, rfl⟩
    | @makeFolders folder hparent hempty =>
      have hmake := Storage.Tree.makeFolders_of_isFolder hempty
        (hs.2.inFolder folder hparent hempty)
      rw [answer_storage (q := .makeFolders folder) hmake]
      exact ⟨hs, rfl⟩

end Daybook.Command
