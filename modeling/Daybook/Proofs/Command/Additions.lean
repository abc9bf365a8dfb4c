/-
Daybook.Proofs.Command.Additions — the commands only add files.

A command that starts no other program has to do with files in one of three
ways. It looks at them; or it writes the settings file; or it creates a template
or notes where nothing is. `Task.Writes` tells which texts may come into the
settings file, and `Task.Creates` which files may come to be. Both start from the
settings that the command loads, and these may have changed from one command to
the next.

What a command may ask bounds what it does to the files, wherever it stops
(`Machine.adds_run`). So all that is looked at in a command are its questions
(`adds_perform`), and what holds of one command line holds of a row of them,
since additions add up (`adds_row`). `commands_only_add` puts it together.
-/
import Daybook.Proofs.Command.Asked
import Daybook.Proofs.Command.SettingsFile
import Daybook.Proofs.Journal.Calls
import Daybook.Proofs.Storage.Additions

namespace Daybook

open Procedure (Asks)
open Storage (Tree)

/-! ## Work on a machine -/

/-- The question may be asked where only these files may be written and created. -/
def Command.Permits (writes creates : Path → String → Prop) : Command.Query → Prop
  | .storage q => Tree.Permits writes creates q
  | _ => True

namespace Machine

open Command (Looks Permits Work)

/-- Nothing has changed between the two that decides what a command does to files. -/
structure Alike (m m' : Machine) : Prop where
  tree : m'.tree = m.tree
  environment : m'.environment = m.environment
  now : m'.now = m.now

section

variable {α β : Type} {work : Work α} {writes creates : Path → String → Prop}

theorem Alike.trans {m m' m'' : Machine} (h : m.Alike m') (h' : m'.Alike m'') : m.Alike m'' :=
  ⟨h'.tree.trans h.tree, h'.environment.trans h.environment, h'.now.trans h.now⟩

theorem alike_answer {q : Command.Query} (h : Looks q) (m : Machine) :
    m.Alike (Machine.answer q m).2 := by
  cases q with
  | storage q => exact ⟨Tree.answer_of_looks h m.tree, rfl, rfl⟩
  | launch program argument =>
    dsimp only [Machine.answer]
    split <;> exact ⟨rfl, rfl, rfl⟩
  | probe program argument =>
    dsimp only [Machine.answer]
    split <;> exact ⟨rfl, rfl, rfl⟩
  | _ => exact ⟨rfl, rfl, rfl⟩

theorem alike_run (h : work.Asks Looks) (m : Machine) :
    m.Alike (work.run Machine.answer m).2 := by
  induction work generalizing m with
  | done a => exact ⟨rfl, rfl, rfl⟩
  | ask q next ih => exact (alike_answer h.1 m).trans (ih _ (h.2 _) _)

theorem Alike.adds {m m' : Machine} (h : m.Alike m') : Tree.Adds writes creates m.tree m'.tree := by
  rw [h.tree]
  exact .refl m.tree

theorem adds_answer {q : Command.Query} (h : Permits writes creates q) (m : Machine) :
    Tree.Adds writes creates m.tree (Machine.answer q m).2.tree := by
  cases q with
  | storage q => exact Tree.adds_answer h m.tree
  | _ =>
    refine (alike_answer ?_ m).adds
    exact trivial

/-- What is permitted bounds what is done to the files. -/
theorem adds_run (h : work.Asks (Permits writes creates)) (m : Machine) :
    Tree.Adds writes creates m.tree (work.run Machine.answer m).2.tree := by
  induction work generalizing m with
  | done a => exact .refl m.tree
  | ask q next ih => exact (adds_answer h.1 m).trans (ih _ (h.2 _) _)

/-- After a look, what is done depends on what was seen. -/
theorem adds_after {next : α → Work β} {m : Machine} (hwork : work.Asks Looks)
    (hnext : ∀ a m', work.run Machine.answer m = (a, m') → m.Alike m' →
      Tree.Adds writes creates m'.tree ((next a).run Machine.answer m').2.tree) :
    Tree.Adds writes creates m.tree ((work >>= next).run Machine.answer m).2.tree := by
  have halike := alike_run hwork m
  have hrun : (work >>= next).run Machine.answer m = _ :=
    Procedure.run_bind Machine.answer work next m
  rw [hrun]
  exact halike.adds.trans (hnext _ _ rfl halike)

end

end Machine

namespace Command

section Permits

variable {writes creates : Path → String → Prop}

theorem permits_talks : Talks (Permits writes creates) := ⟨fun _ => trivial, fun _ => trivial⟩

theorem permits_of_looks {q : Query} (h : Looks q) : Permits writes creates q := by
  cases q with
  | storage q => exact Tree.permits_of_looks h
  | _ => exact trivial

/-! ## The questions of the commands that change files -/

theorem save_permits {config : Config} {path : Path} (hwrites : writes path config.write) :
    (config.save path).run.Asks (Tree.Permits writes creates) := by
  have hput : (config.putText path).run.Asks (Tree.Permits writes creates) := by
    refine ⟨hwrites, fun (put : Except StorageError Unit) => ?_⟩
    cases put <;> exact trivial
  rcases Config.folder_cases path with hnone | ⟨folder, hparent, hempty⟩
  · rw [Config.save_eq_putText hnone]
    exact hput
  · unfold Config.save
    rw [hparent]
    simp only [hempty, Bool.false_eq_true, if_false]
    refine ⟨trivial, fun (made : Except StorageError Unit) => ?_⟩
    cases made with
    | error cause => exact trivial
    | ok => exact hput

theorem saveConfig_permits {config : Config} {path : Path} (hwrites : writes path config.write) :
    (saveConfig config (some path)).Asks (Permits writes creates) :=
  onStorage_asks (save_permits hwrites)

theorem saveChange_permits {config : Config} {path : Path} (lines : List String)
    (hwrites : writes path config.write) :
    (saveChange (some path) config lines).Asks (Permits writes creates) := by
  refine (saveConfig_permits hwrites).bind fun saved => ?_
  cases saved with
  | error e => exact permits_talks.fail_asks _
  | ok => exact (permits_talks.prints_asks lines).bind fun _ => trivial

theorem setToggle_permits {config : Config} {path : Path} {name typed : String}
    (hwrites : ∀ value s changed, truthValue? typed = some value →
      config.setToggle name value = .ok (s, changed) → writes path changed.write) :
    (setToggle (some path) name typed config).Asks (Permits writes creates) := by
  unfold setToggle
  cases hvalue : truthValue? typed with
  | none => exact permits_talks.fail_asks _
  | some value =>
    dsimp only
    cases hset : config.setToggle name value with
    | error e => exact permits_talks.fail_asks _
    | ok result => exact saveChange_permits _ (hwrites value _ _ hvalue hset)

theorem setStyle_permits {config : Config} {path : Path} {typed : String}
    (hwrites : ∀ style, BodyStyle.parse typed = .ok style →
      writes path ({ config with bodyStyle := style } : Config).write) :
    (setStyle (some path) typed config).Asks (Permits writes creates) := by
  unfold setStyle
  cases hstyle : BodyStyle.parse typed with
  | error e => exact permits_talks.fail_asks _
  | ok style => exact saveChange_permits _ (hwrites style hstyle)

theorem init_permits {vault path : Path} {rootFolder : Option String}
    (hwrites : writes path ({ Config.forVault vault with
      rootFolder := rootFolder.getD (Config.forVault vault).rootFolder } : Config).write) :
    (init (some path) (some vault) rootFolder).Asks (Permits writes creates) := by
  refine (saveConfig_permits hwrites).bind fun saved => ?_
  cases saved with
  | error e => exact permits_talks.fail_asks _
  | ok =>
    refine ⟨trivial, fun (made : Except StorageError Unit) => ?_⟩
    cases made with
    | error cause => exact permits_talks.fail_asks _
    | ok =>
      iterate 5 refine (permits_talks.print_asks _).bind fun _ => ?_
      exact trivial

/-- The end of making the template, with its folder there. -/
theorem createTemplate_permits {path : Path} (hcreates : creates path Template.defaultDay) :
    (do
      match ← onStorage (Storage.create path Template.defaultDay) with
      | .ok () =>
        print ("✓ Created template: " ++ path.text)
        print "  Set 'stoic-daily config style template' to use it."
        return true
      | .error cause =>
        fail ("Error creating template '" ++ path.text ++ "': " ++ cause.message) :
      Work Bool).Asks (Permits writes creates) := by
  refine ⟨hcreates, fun (made : Except StorageError Unit) => ?_⟩
  cases made with
  | error cause => exact permits_talks.fail_asks _
  | ok =>
    iterate 2 refine (permits_talks.print_asks _).bind fun _ => ?_
    exact trivial

theorem initTemplate_permits {config : Config}
    (hcreates : creates config.layout.templatePath Template.defaultDay) :
    (initTemplate config).Asks (Permits writes creates) := by
  refine ⟨trivial, fun (there : Bool) => ?_⟩
  cases there with
  | true => exact (permits_talks.print_asks _).bind fun _ => trivial
  | false =>
    dsimp only
    cases config.layout.templatePath.parent? with
    | none => exact createTemplate_permits hcreates
    | some folder =>
      refine ⟨trivial, fun (made : Except StorageError Unit) => ?_⟩
      cases made with
      | error cause => exact (permits_talks.fail_asks _).bind fun _ => trivial
      | ok => exact createTemplate_permits hcreates

/-- Once its mark is taken, a journal creates notes of its day. -/
theorem createAndOpen_permits {journal : Journal} {day : Calendar.Day} (selector : Selector)
    (hcreates : ∀ period text, creates (journal.layout.locate period day).file text) :
    (perform Viewer.printing.host (journal.createAndOpen day) (.start selector)).Asks
      (Permits writes creates) := by
  have hobeys : (journal.createAndOpen day).run.Obeys (Journal.MayCall journal day)
      (fun _ _ => True) [] := Journal.createAndOpen_obeys (by simp [Journal.Untried]) (by simp)
  have hasks : (journal.createAndOpen day).run.Asks
      fun q => ∃ past, Journal.MayCall journal day past q := hobeys.asks fun past q h => ⟨past, h⟩
  refine hasks.interpret (fun q s hq => ?_) _
  obtain ⟨past, hq⟩ := hq
  cases q with
  | openNote path => exact (permits_talks.print_asks _).bind fun _ => trivial
  | keep q => exact (permits_talks.warnAll_asks _).bind fun _ => trivial
  | storage q =>
    refine ⟨?_, fun _ => trivial⟩
    cases q with
    | write path text => cases hq.not_overwrites
    | create path text =>
      obtain ⟨_, period, rfl, _⟩ := hq.create_inv
      exact hcreates period text
    | _ => exact trivial

end Permits

end Command

/-! ## What a task may do to files -/

namespace Machine

/-- The settings that a command loads from this file. There are none if the file
cannot be understood. -/
def settings (m : Machine) (path : Path) : Option Config :=
  ((Command.loadConfig (some path)).run Machine.answer m).1

/-- The settings that are made anew. -/
def newSettings (m : Machine) (vault : Option Path) (rootFolder : Option String) : Config :=
  let config := match vault with
    | some vault => Config.forVault vault
    | none => .standard ⟨(m.environment.lookup "HOME").getD "/"⟩
  { config with rootFolder := rootFolder.getD config.rootFolder }

/-- The date that the user means. -/
def date? (m : Machine) : Option String → Option Calendar.Date
  | none => some m.now.date
  | some typed => Calendar.Date.parse? m.now typed

theorem Alike.date? {m m' : Machine} (h : m.Alike m') (typed : Option String) :
    m'.date? typed = m.date? typed := by
  cases typed <;> simp only [Machine.date?, h.now]

end Machine

namespace Command

/-- The texts that a task may write into the settings file. -/
inductive Task.Writes (path : Path) (m : Machine) : Task → String → Prop where
  | init (vault : Option Path) (rootFolder : Option String) :
    Task.Writes path m (.init vault rootFolder) (m.newSettings vault rootFolder).write
  | setToggle {name typed : String} {config changed : Config} {value : Bool} {s : Section}
      (hload : m.settings path = some config) (hvalue : truthValue? typed = some value)
      (hset : config.setToggle name value = .ok (s, changed)) :
    Task.Writes path m (.setToggle name typed) changed.write
  | setStyle {typed : String} {config : Config} {style : BodyStyle}
      (hload : m.settings path = some config) (hstyle : BodyStyle.parse typed = .ok style) :
    Task.Writes path m (.setStyle typed) ({ config with bodyStyle := style } : Config).write

/-- The files that a task may create, with their texts. -/
inductive Task.Creates (path : Path) (m : Machine) : Task → Path → String → Prop where
  | template {config : Config} (hload : m.settings path = some config) :
    Task.Creates path m .initTemplate config.layout.templatePath Template.defaultDay
  | note {config : Config} {typed : Option String} {date : Calendar.Date}
      (hload : m.settings path = some config) (hdate : m.date? typed = some date)
      (period : Period) (text : String) :
    Task.Creates path m (.today typed true) (config.layout.locate period date.toDay).file text

/-- The task starts no other program. -/
def Task.isAlone : Task → Bool
  | .today _ noOpen => noOpen
  | .editTemplate => false
  | _ => true

section Tasks

variable {writes creates : Path → String → Prop} {path : Path} {m : Machine}

theorem adds_withConfig {act : Config → Work Bool}
    (h : ∀ config m', m.settings path = some config → m.Alike m' →
      Tree.Adds writes creates m'.tree ((act config).run Machine.answer m').2.tree) :
    Tree.Adds writes creates m.tree ((withConfig (some path) act).run Machine.answer m).2.tree := by
  refine Machine.adds_after (loadConfig_looks (some path)) fun loaded m' hloaded halike => ?_
  cases loaded with
  | none => exact .refl _
  | some config => exact h config m' (congrArg Prod.fst hloaded) halike

theorem run_chosenDate (typed : Option String) (m : Machine) :
    (chosenDate typed).run Machine.answer m = (match m.date? typed with
      | some date => .ok date
      | none => .error (.invalidDate (typed.getD "")), m) := by
  cases typed with
  | none => rfl
  | some text =>
    have hrun : (chosenDate (some text)).run Machine.answer m
        = (Calendar.Date.parse m.now text, m) := rfl
    rw [hrun]
    unfold Machine.date? Calendar.Date.parse
    dsimp only
    cases Calendar.Date.parse? m.now text <;> rfl

theorem adds_today {config : Config} {typed : Option String}
    (hcreates : ∀ date period text, m.date? typed = some date →
      creates (config.layout.locate period date.toDay).file text) :
    Tree.Adds writes creates m.tree ((today typed true config).run Machine.answer m).2.tree := by
  refine Machine.adds_after (chosenDate_looks typed) fun chosen m' hchosen _ => ?_
  rw [run_chosenDate] at hchosen
  cases hdate : m.date? typed with
  | none =>
    rw [hdate] at hchosen
    cases hchosen
    exact Machine.adds_run (permits_talks.fail_asks _) m
  | some date =>
    rw [hdate] at hchosen
    cases hchosen
    refine Machine.adds_after (onStorage_asks config.journal_looks) fun made m' hmade _ => ?_
    rw [tryOnStorage, run_onStorage] at hmade
    refine Machine.adds_run ?_ m'
    cases made with
    | error e => exact permits_talks.fail_asks _
    | ok journal =>
      rw [← Config.layout_of_journal (congrArg Prod.fst hmade)] at hcreates
      refine (freshSelector_looks.mono fun _ => permits_of_looks).bind fun selector => ?_
      refine (createAndOpen_permits selector fun period text =>
        hcreates date period text hdate).bind fun (run, _) => ?_
      rcases run with e | report | _
      · exact permits_talks.fail_asks _
      · exact (permits_talks.printReport_asks report).bind fun _ => trivial
      · exact permits_talks.fail_asks _

/-- What a task does to the files, however it ends. -/
theorem adds_perform {task : Task} (h : task.isAlone = true) :
    Tree.Adds (fun p text => p = path ∧ task.Writes path m text) (task.Creates path m) m.tree
      ((task.perform (some path)).run Machine.answer m).2.tree := by
  cases task with
  | init vault rootFolder =>
    cases vault with
    | some vault => exact Machine.adds_run (init_permits ⟨rfl, .init (some vault) rootFolder⟩) m
    | none =>
      have hstandard : (init (some path) none rootFolder).run Machine.answer m
          = (init (some path) (some (Path.join ⟨(m.environment.lookup "HOME").getD "/"⟩ "notes"))
            rootFolder).run Machine.answer m := rfl
      show Tree.Adds _ _ m.tree ((init (some path) none rootFolder).run Machine.answer m).2.tree
      rw [hstandard]
      exact Machine.adds_run (init_permits ⟨rfl, .init none rootFolder⟩) m
  | setToggle name typed =>
    refine adds_withConfig fun config m' hload _ => Machine.adds_run (setToggle_permits ?_) m'
    exact fun value s changed hvalue hset => ⟨rfl, .setToggle hload hvalue hset⟩
  | setStyle typed =>
    refine adds_withConfig fun config m' hload _ => Machine.adds_run (setStyle_permits ?_) m'
    exact fun style hstyle => ⟨rfl, .setStyle hload hstyle⟩
  | initTemplate =>
    refine adds_withConfig fun config m' hload _ => Machine.adds_run (initTemplate_permits ?_) m'
    exact .template hload
  | today typed noOpen =>
    obtain rfl : noOpen = true := h
    refine adds_withConfig fun config m' hload halike => adds_today fun date period text hdate => ?_
    exact .note hload ((halike.date? typed).symm.trans hdate) period text
  | editTemplate => cases h
  | _ => exact (Machine.alike_run (perform_looks (some path) rfl) m).adds

end Tasks

/-! ## One command line after the other -/

/-- A command line, and the machine on which it is typed. Its files are not those
of this machine but those that the command lines before it have left. -/
structure Typed where
  words : List String
  machine : Machine

def Typed.on (typed : Typed) (t : Tree) : Machine :=
  { typed.machine with tree := t }

/-- The files that a command line leaves. -/
def filesAfter (t : Tree) (typed : Typed) : Tree :=
  ((run typed.words).run Machine.answer (typed.on t)).2.tree

section Row

variable (path : Path) (t : Tree)

/-- The words ask for a task that starts no other program and name this settings
file, unless they cannot be understood. -/
def Typed.Uses (typed : Typed) : Prop :=
  ∀ invocation, Invocation.parse typed.words = .ok invocation →
    ∃ task, invocation = ⟨some path, .task task⟩ ∧ task.isAlone = true

/-- The words ask for a task that looks, if for any. -/
def Typed.Looks (typed : Typed) : Prop :=
  ∀ task, Invocation.parse typed.words = .ok ⟨some path, .task task⟩ → task.looks = true

/-- The texts that a command line may write into the settings file. -/
def Typed.Writes (typed : Typed) (text : String) : Prop :=
  ∃ task, Invocation.parse typed.words = .ok ⟨some path, .task task⟩
    ∧ task.Writes path (typed.on t) text

/-- The files that a command line may create. -/
def Typed.Creates (typed : Typed) (file : Path) (text : String) : Prop :=
  ∃ task, Invocation.parse typed.words = .ok ⟨some path, .task task⟩
    ∧ task.Creates path (typed.on t) file text

/-- The files that some command line of a row may create. -/
def CreatesInRow (row : List Typed) (file : Path) (text : String) : Prop :=
  ∃ before typed later, row = before ++ typed :: later
    ∧ typed.Creates path (before.foldl filesAfter t) file text

variable {path t} {typed : Typed}

theorem filesAfter_task {task : Task}
    (h : Invocation.parse typed.words = .ok ⟨some path, .task task⟩) :
    filesAfter t typed = ((task.perform (some path)).run Machine.answer (typed.on t)).2.tree := by
  unfold filesAfter run
  rw [h]
  have hrun : (Invocation.perform ⟨some path, .task task⟩).run Machine.answer (typed.on t) = _ :=
    Procedure.run_bind Machine.answer (task.perform (some path)) _ (typed.on t)
  dsimp only
  rw [hrun]
  rfl

/-- Words that cannot be understood change nothing. -/
theorem filesAfter_refused {stop : Stop} (h : Invocation.parse typed.words = .error stop) :
    filesAfter t typed = t := by
  unfold filesAfter run
  rw [h]
  cases stop <;> rfl

/-- What one command line does to the files. -/
theorem adds_filesAfter (h : typed.Uses path) :
    Tree.Adds (fun p text => p = path ∧ typed.Writes path t text) (typed.Creates path t) t
      (filesAfter t typed) := by
  cases hparse : Invocation.parse typed.words with
  | error stop =>
    rw [filesAfter_refused hparse]
    exact .refl t
  | ok invocation =>
    obtain ⟨task, rfl, halone⟩ := h invocation hparse
    rw [filesAfter_task hparse]
    have hperform : Tree.Adds (fun p text => p = path ∧ task.Writes path (typed.on t) text)
        (task.Creates path (typed.on t)) t _ := adds_perform halone
    exact hperform.mono (fun p text ⟨hp, hwrites⟩ => ⟨hp, task, hparse, hwrites⟩)
      fun file text hcreates => ⟨task, hparse, hcreates⟩

theorem filesAfter_looks (h : typed.Uses path) (hlooks : typed.Looks path) :
    filesAfter t typed = t := by
  cases hparse : Invocation.parse typed.words with
  | error stop => exact filesAfter_refused hparse
  | ok invocation =>
    obtain ⟨task, rfl, _⟩ := h invocation hparse
    rw [filesAfter_task hparse]
    exact (Machine.alike_run (perform_looks (some path) (hlooks task hparse)) _).tree

/-- What a row of command lines does to the files. -/
theorem adds_row {row : List Typed} (hrow : ∀ typed ∈ row, typed.Uses path) :
    Tree.Adds (fun p _ => p = path) (CreatesInRow path t row) t (row.foldl filesAfter t) := by
  induction row generalizing t with
  | nil => exact .refl t
  | cons typed row ih =>
    have hfirst : Tree.Adds (fun p _ => p = path) (CreatesInRow path t (typed :: row)) t
        (filesAfter t typed) :=
      (adds_filesAfter (hrow typed List.mem_cons_self)).mono (fun p text h => h.1)
        fun file text h => ⟨[], typed, row, rfl, h⟩
    refine hfirst.trans ((ih fun typed h => hrow typed (List.mem_cons_of_mem _ h)).mono
      (fun p text h => h) ?_)
    rintro file text ⟨before, later, rest, rfl, h⟩
    exact ⟨typed :: before, later, rest, rfl, h⟩

end Row

/-- Whatever is typed, with the same settings file all the time, and however each
of the commands ends: a file that is not the settings file stays as it is, and a
new file is the settings file, or a template or a note that one of the commands
may create. What one command makes of the settings file is what `Task.Writes` has
for it, and a command that only looks or cannot be understood changes nothing.

Where a path leads is asked at the end, because a folder on the way to a file may
have been missing before. A settings file that was there is never made a template
or a note. One that was missing is, if its path leads to the same place as that of
the template or the note that a command creates, and in no other case. -/
theorem commands_only_add (path : Path) (t : Tree) (row : List Typed)
    (hrow : ∀ typed ∈ row, typed.Uses path) :
    (∀ place text isProgram, t.at? place = some (.file text isProgram) →
      ¬ (row.foldl filesAfter t).Reaches path place →
      (row.foldl filesAfter t).at? place = some (.file text isProgram))
    ∧ (∀ place text isProgram, (row.foldl filesAfter t).at? place = some (.file text isProgram) →
      t.at? place = some (.file text isProgram) ∨ (row.foldl filesAfter t).Reaches path place
        ∨ t.at? place = none ∧ ∃ file, CreatesInRow path t row file text
          ∧ (row.foldl filesAfter t).Reaches file place)
    ∧ ∀ before typed later, row = before ++ typed :: later →
      let s := before.foldl filesAfter t
      (∀ place text isProgram, s.at? place = some (.file text isProgram) →
        (filesAfter s typed).at? place = some (.file text isProgram)
          ∨ ∃ text' isProgram', (filesAfter s typed).at? place = some (.file text' isProgram')
            ∧ (filesAfter s typed).Reaches path place ∧ typed.Writes path s text')
      ∧ (∀ place text isProgram, s.at? place = none →
        (filesAfter s typed).at? place = some (.file text isProgram) →
        (filesAfter s typed).Reaches path place → typed.Writes path s text
          ∨ ∃ file, typed.Creates path s file text ∧ (filesAfter s typed).Reaches file place)
      ∧ (typed.Looks path → filesAfter s typed = s) := by
  have hadds := adds_row (t := t) hrow
  refine ⟨fun place text isProgram hfile hplace => ?_, fun place text isProgram hfile => ?_, ?_⟩
  · obtain hsame | ⟨text', isProgram', ⟨p, rfl, hreaches⟩, _⟩ := (hadds.becomes place).of_file hfile
    · rw [hsame, hfile]
    · exact absurd hreaches hplace
  · obtain hsame | ⟨p, rfl, hreaches⟩ | ⟨hfree, file, hcreates, hreaches⟩ :=
      (hadds.becomes place).to_file hfile
    · exact .inl hsame
    · exact .inr (.inl hreaches)
    · exact .inr (.inr ⟨hfree, file, hcreates, hreaches⟩)
  · rintro before typed later rfl s
    have huses : typed.Uses path := hrow typed (by simp)
    have hline := adds_filesAfter (t := s) huses
    refine ⟨fun place text isProgram hfile => ?_, ?_, filesAfter_looks huses⟩
    · obtain hsame | ⟨text', isProgram', ⟨p, ⟨rfl, hwrites⟩, hreaches⟩, hfile'⟩ :=
        (hline.becomes place).of_file hfile
      · exact .inl (hsame.trans hfile)
      · exact .inr ⟨text', isProgram', hfile', hreaches, hwrites⟩
    · intro place text isProgram hfree hfile hpath
      obtain hsame | ⟨p, ⟨rfl, hwrites⟩, _⟩ | ⟨_, file, hcreates, hreaches⟩ :=
        (hline.becomes place).to_file hfile
      · rw [hfree] at hsame
        cases hsame
      · exact .inl hwrites
      · exact .inr ⟨file, hcreates, hreaches⟩

/-- The settings file is missing and has the path of the template. Making the template
makes the settings file, in which the command may write nothing. -/
theorem settings_file_made_template :
    let path : Path := ⟨"home/notes/stoic-daily/TEMPLATE.md"⟩
    let moment : Calendar.Moment := ⟨⟨⟨2024, 3, 7⟩, by decide⟩, 0⟩
    let machine : Machine := ⟨⟨[], []⟩, [("HOME", "home")], moment, 0, "", "", .start, [], true⟩
    let t : Tree := ⟨[], []⟩
    let typed : Typed := ⟨["-c", "home/notes/stoic-daily/TEMPLATE.md", "template", "init"], machine⟩
    let place : Storage.Place := ["home", "notes", "stoic-daily", "TEMPLATE.md"]
    typed.Uses path ∧ t.at? place = none ∧ (filesAfter t typed).Reaches path place
      ∧ (filesAfter t typed).at? place = some (.file Template.defaultDay false)
      ∧ ∀ text, ¬ typed.Writes path t text := by
  intro path moment machine t typed place
  have hparse : Invocation.parse typed.words = .ok ⟨some path, .task .initTemplate⟩ := by
    decide +kernel
  obtain ⟨hreaches, hfile⟩ : (filesAfter t typed).Reaches path place
      ∧ (filesAfter t typed).at? place = some (.file Template.defaultDay false) := by
    decide +kernel
  refine ⟨fun invocation hinvocation => ?_, rfl, hreaches, hfile, ?_⟩
  · cases hparse.symm.trans hinvocation
    exact ⟨.initTemplate, rfl, rfl⟩
  · rintro text ⟨task, htask, hwrites⟩
    cases hparse.symm.trans htask
    cases hwrites

theorem commands_only_add_new_template :
    let path : Path := ⟨"cfg"⟩
    let moment : Calendar.Moment := ⟨⟨⟨2024, 5, 1⟩, by decide⟩, 0⟩
    let machine : Machine := ⟨⟨[], []⟩, [("HOME", "/")], moment, 0, "", "", .start, [], true⟩
    let t : Tree := ⟨[(["old.md"], .file "kept" false)], []⟩
    let row : List Typed := [⟨["template", "init", "--config=cfg"], machine⟩,
      ⟨["-c", "cfg", "today", "-d", "never", "--no-open"], machine⟩,
      ⟨["-c", "cfg", "config", "style", "template"], machine⟩]
    let place : Storage.Place := ["notes", "stoic-daily", "TEMPLATE.md"]
    let last := row.foldl filesAfter t
    (∀ typed ∈ row, typed.Uses path) ∧ last.at? ["old.md"] = some (.file "kept" false)
      ∧ last.at? place = some (.file Template.defaultDay false)
      ∧ ∃ file, CreatesInRow path t row file Template.defaultDay ∧ last.Reaches file place := by
  intro path moment machine t row place last
  have hrow : ∀ typed ∈ row, typed.Uses path := by
    have huses : ∀ {words task}, Invocation.parse words = .ok ⟨some path, .task task⟩ →
        task.isAlone = true → (⟨words, machine⟩ : Typed).Uses path := by
      intro words task hparse halone invocation hinvocation
      cases hparse.symm.trans hinvocation
      exact ⟨task, rfl, halone⟩
    have htemplate : Invocation.parse ["template", "init", "--config=cfg"]
        = .ok ⟨some ⟨"cfg"⟩, .task .initTemplate⟩ := by decide +kernel
    have htoday : Invocation.parse ["-c", "cfg", "today", "-d", "never", "--no-open"]
        = .ok ⟨some ⟨"cfg"⟩, .task (.today (some "never") true)⟩ := by decide +kernel
    have hstyle : Invocation.parse ["-c", "cfg", "config", "style", "template"]
        = .ok ⟨some ⟨"cfg"⟩, .task (.setStyle "template")⟩ := by decide +kernel
    simp only [row, List.forall_mem_cons]
    exact ⟨huses htemplate rfl, huses htoday rfl, huses hstyle rfl, List.forall_mem_nil _⟩
  obtain ⟨hold, hnew, hother⟩ : ¬ last.Reaches path ["old.md"]
      ∧ last.at? place = some (.file Template.defaultDay false) ∧ ¬ last.Reaches path place := by
    decide +kernel
  obtain ⟨hkeeps, hadds, _⟩ := commands_only_add path t row hrow
  refine ⟨hrow, hkeeps _ _ _ rfl hold, hnew, ?_⟩
  rcases hadds _ _ _ hnew with hsame | hsettings | ⟨_, hcreates⟩
  · cases hsame
  · exact absurd hsettings hother
  · exact hcreates

end Command

end Daybook
