/-
Daybook.Proofs.Command.Preview — what is shown of a template is what is
written.

The text of a day note comes from the user's template twice over. A run of
the journal makes the notes of the year and the month first, and then expands
the template as it finds it. The preview loads the library anew, looks for
unknown tokens before it expands anything, and writes nothing. Both are
compared with `dayTextIn`, the text that a memory has for a day: the preview
comes to it (`reads_preview`), and so does a run as far as the notes that it
makes on the way do not bear on the template (`ensureFor_template`).

`preview_eq_written` puts the two together, errors and all.
-/
import Daybook.Command.Template
import Daybook.Proofs.Command.SettingsFile
import Daybook.Proofs.Journal.Retry
import Daybook.Proofs.Library.Loaded
import Daybook.Proofs.Template.Tokens

namespace Daybook

open Calendar (Date Day)
open Storage (Memory)

/-! ## The template in a memory -/

namespace BodyBuilder

/-- The template that a memory holds, or the built-in one. -/
def templateIn (layout : Layout) (m : Memory) : Except JournalError (String × List Warning) :=
  if m.has layout.templatePath then
    match m.textAt? layout.templatePath with
    | some text => .ok (text, [])
    | none => .error (.fileRead layout.templatePath (.noFile layout.templatePath))
  else .ok (Template.defaultDay, [.noTemplate layout.templatePath])

theorem readTemplate_run (path : Path) :
    (readTemplate path).run = .ask (.isPresent path) fun (there : Bool) =>
      if there then .ask (.read path) fun read => .done (match read with
        | .ok text => .ok (some text)
        | .error cause => .error (.fileRead path cause))
      else .done (.ok none) := by
  refine congrArg (@Procedure.ask Storage.interface _ (.isPresent path)) (funext fun there => ?_)
  cases (there : Bool) with
  | false => rfl
  | true =>
    refine congrArg (@Procedure.ask Storage.interface _ (.read path)) (funext fun read => ?_)
    cases (read : Except StorageError String) <;> rfl

theorem run_loadTemplate (layout : Layout) (m : Memory) :
    (loadTemplate layout).run.run Memory.answer m = (templateIn layout m, m) := by
  have hlook : Memory.answer (.isPresent layout.templatePath) m
      = (m.has layout.templatePath, m) := rfl
  unfold templateIn
  cases hhas : m.has layout.templatePath with
  | false =>
    refine Procedure.run_attempt_ok _ (a := none) ?_
    rw [readTemplate_run]
    exact (Journal.run_ask hlook).trans (by rw [hhas]; rfl)
  | true =>
    have hread : Memory.answer (.read layout.templatePath) m
        = (match m.textAt? layout.templatePath with
          | some text => Except.ok text
          | none => Except.error (.noFile layout.templatePath), m) := rfl
    cases htext : m.textAt? layout.templatePath with
    | none =>
      rw [htext] at hread
      refine Procedure.run_attempt_error _ ?_
      rw [readTemplate_run]
      refine (Journal.run_ask hlook).trans ?_
      rw [hhas]
      exact Journal.run_ask hread
    | some text =>
      rw [htext] at hread
      refine Procedure.run_attempt_ok _ (a := some text) ?_
      rw [readTemplate_run]
      refine (Journal.run_ask hlook).trans ?_
      rw [hhas]
      exact Journal.run_ask hread

end BodyBuilder

namespace Storage.Memory

variable {m : Memory} {location : Location} {p : Path}

/-- What is there stays as it is when a note is made, and so does what is
apart from the note. -/
theorem withNote_keeps (text : String) (h : m.has p = true
      ∨ (∀ a ∈ location.folder.ancestors, a.same p = false) ∧ location.file.same p = false) :
    (m.withNote location text).has p = m.has p
      ∧ (m.withNote location text).textAt? p = m.textAt? p := by
  rw [textAt?_withNote]
  rcases h with hhas | ⟨hfolder, hfile⟩
  · refine ⟨(has_withNote_of_has hhas).trans hhas.symm, if_neg ?_⟩
    rintro ⟨hfree, hsame⟩
    rw [has_congr hsame, has_withFolder_of_has hhas] at hfree
    cases hfree
  · exact ⟨has_withNote_apart hfolder hfile, if_neg fun h => by simp [hfile] at h⟩

end Storage.Memory

namespace Journal

/-! ## A run with a template -/

/-- The text that a memory has for a day. -/
def dayTextIn (layout : Layout) (library : Library) (day : Day) (selector : Selector)
    (m : Memory) : Except JournalError String :=
  match BodyBuilder.templateIn layout m with
  | .error e => .error e
  | .ok (source, _) => (Template.Registry.builtin.render ⟨day, library⟩ source selector).outcome

/-- The paths that a run for a day would make: its notes, their folders, and the
folders above these. -/
def pathsOfRun (layout : Layout) (day : Day) : List Path :=
  Period.all.flatMap fun period =>
    (layout.locate period day).file :: (layout.locate period day).folder.ancestors

/-- A run for the day would not come upon the template: it is there, or it is
none of the paths that the run makes. -/
def SparesTemplate (layout : Layout) (day : Day) (m : Memory) : Prop :=
  m.has layout.templatePath = true
    ∨ ∀ path ∈ pathsOfRun layout day, path.same layout.templatePath = false

/-- Work failed as expected, or it came to something good and left the expected
text in a file. -/
def Brings {α : Type} (file : Path) (good : α → Prop) (expected : Except JournalError String)
    (ended : Except JournalError α × World Memory) : Prop :=
  match expected with
  | .error e => ended.1 = .error e
  | .ok text => ∃ a, ended.1 = .ok a ∧ good a ∧ ended.2.outside.textAt? file = some text

theorem Brings.map {α β : Type} {file : Path} {good : α → Prop} {good' : β → Prop}
    {expected : Except JournalError String} {ended : Except JournalError α × World Memory}
    {f : α → β} {w : World Memory} (h : Brings file good expected ended)
    (hgood : ∀ a, good a → good' (f a)) (hw : w.outside = ended.2.outside) :
    Brings file good' expected (ended.1.map f, w) := by
  obtain ⟨r, v⟩ := ended
  cases expected with
  | error e =>
    obtain rfl : r = .error e := h
    rfl
  | ok text =>
    obtain ⟨a, rfl, ha, htext⟩ := h
    exact ⟨f a, rfl, hgood a ha, hw ▸ htext⟩

theorem Brings.error_iff {α : Type} {file : Path} {good : α → Prop}
    {expected : Except JournalError String} {ended : Except JournalError α × World Memory}
    (h : Brings file good expected ended) (e : JournalError) :
    expected = .error e ↔ ended.1 = .error e := by
  cases expected with
  | error e' =>
    rw [show ended.1 = .error e' from h]
    simp
  | ok text =>
    obtain ⟨a, ha, _⟩ := h
    rw [ha]
    simp

section Run

variable {journal : Journal} (host : Host Memory) {day : Day} {m : Memory}

theorem templateIn_withNote {layout : Layout} (h : SparesTemplate layout day m) (period : Period)
    (text : String) :
    BodyBuilder.templateIn layout (m.withNote (layout.locate period day) text)
        = BodyBuilder.templateIn layout m
      ∧ SparesTemplate layout day (m.withNote (layout.locate period day) text) := by
  have hkeeps : m.has layout.templatePath = true
      ∨ (∀ a ∈ (layout.locate period day).folder.ancestors, a.same layout.templatePath = false)
        ∧ (layout.locate period day).file.same layout.templatePath = false := by
    refine h.imp_right fun hapart => ?_
    have hmem : ∀ path ∈ (layout.locate period day).file
        :: (layout.locate period day).folder.ancestors, path ∈ pathsOfRun layout day :=
      fun path hpath => List.mem_flatMap.mpr ⟨period, by cases period <;> simp [Period.all], hpath⟩
    exact ⟨fun a ha => hapart a (hmem a (List.mem_cons_of_mem _ ha)),
      hapart _ (hmem _ List.mem_cons_self)⟩
  obtain ⟨hhas, htext⟩ := Memory.withNote_keeps text hkeeps
  refine ⟨?_, h.imp_left hhas.trans⟩
  simp only [BodyBuilder.templateIn, hhas, htext]

/-- A note is never made in the place of a folder for notes. -/
theorem hasFile_withNote_folder (layout : Layout) (p q : Period) (day : Day) (text : String) :
    (m.withNote (layout.locate p day) text).hasFile (layout.locate q day).folder
      = m.hasFile (layout.locate q day).folder := by
  have hapart : (layout.locate p day).file.same (layout.locate q day).folder = false := by
    rw [Path.same_comm]
    exact layout.folder_apart q p day day _ List.mem_cons_self
  rw [Memory.hasFile_eq, Memory.hasFile_eq, Memory.textAt?_withNote, if_neg]
  simp [hapart]

theorem perform_dayText_template (hbuilder : journal.builder = .template .builtin) (day : Day)
    (m : Memory) (s : Session) :
    ∃ s', World.perform Memory.answer host (journal.dayText day) ⟨m, s⟩
      = (dayTextIn journal.layout journal.library day s.selector m, ⟨m, s'⟩) := by
  have hload := BodyBuilder.run_loadTemplate journal.layout m
  unfold dayTextIn dayText
  rw [hbuilder]
  cases htemplate : BodyBuilder.templateIn journal.layout m with
  | error e =>
    rw [htemplate] at hload
    have hprepare : (BodyBuilder.prepare (.template .builtin) journal.layout
        ⟨day, journal.library⟩).run.run Memory.answer m = (.error e, m) :=
      Procedure.run_attempt_error _ hload
    refine ⟨s, World.perform_error _ ?_⟩
    rw [perform_tryOnStorage, hprepare]
  | ok template =>
    obtain ⟨source, warnings⟩ := template
    rw [htemplate] at hload
    let rendering : Selector → Rendering Selector := fun selector =>
      BodyBuilder.warnedBefore warnings
        (Template.Registry.builtin.render ⟨day, journal.library⟩ source selector)
    have hprepare : (BodyBuilder.prepare (.template .builtin) journal.layout
        ⟨day, journal.library⟩).run.run Memory.answer m = (.ok rendering, m) :=
      Procedure.run_attempt_ok _ hload
    have hasked : World.perform Memory.answer host (tryOnStorage (BodyBuilder.prepare
        (.template .builtin) journal.layout ⟨day, journal.library⟩)) ⟨m, s⟩
          = (.ok rendering, ⟨m, s⟩) := by
      rw [perform_tryOnStorage, hprepare]
    exact ⟨(s.answer (.render rendering)).2, (World.perform_ok _ hasked).trans rfl⟩

/-- A note that is missing is created, with its text. -/
theorem run_ensureAt_missing (layout : Layout) (period : Period) (day : Day) (text : String)
    (hclear : m.hasFile (layout.locate period day).folder = false)
    (habsent : m.has (layout.locate period day).file = false) :
    (ensureAt (layout.locate period day) text).run.run Memory.answer m
        = (.ok .created, m.withNote (layout.locate period day) text)
      ∧ (m.withNote (layout.locate period day) text).textAt? (layout.locate period day).file
        = some text := by
  have hfree : (m.withFolder (layout.locate period day).folder).has (layout.locate period day).file
      = false :=
    (Memory.has_withFolder_apart (layout.folder_apart period period day day)).trans habsent
  obtain ⟨done, hrun⟩ := run_ensureAt m (layout.locate_fits period day) text hclear
  constructor
  · have hcreated : done = .created := by
      have hreply := congrArg Prod.fst hrun
      rw [run_ensureAt_eq, run_ensureFile, if_neg (by simp [hfree])] at hreply
      split at hreply
      · cases hreply
        rfl
      · cases hreply
    rw [hrun, hcreated]
  · rw [Memory.textAt?_withNote, if_pos ⟨hfree, Path.same_refl _⟩]

theorem ensureDay_template (hbuilder : journal.builder = .template .builtin) (s : Session)
    (hclear : m.hasFile (journal.layout.locate .day day).folder = false)
    (habsent : m.has (journal.layout.locate .day day).file = false) :
    Brings (journal.layout.locate .day day).file (· = .created)
      (dayTextIn journal.layout journal.library day s.selector m)
      (World.perform Memory.answer host (journal.ensureDay day) ⟨m, s⟩) := by
  have hlook : World.perform Memory.answer host (onStorage (Storage.isPresent
      (journal.layout.locate .day day).file)).always ⟨m, s⟩ = (.ok false, ⟨m, s⟩) := by
    rw [perform_isPresent, ← habsent]
    rfl
  obtain ⟨s', hdayText⟩ := perform_dayText_template host hbuilder day m s
  rw [ensureDay_eq, World.perform_ok _ hlook]
  cases htext : dayTextIn journal.layout journal.library day s.selector m with
  | error e =>
    rw [htext] at hdayText
    exact congrArg Prod.fst (World.perform_error _ hdayText)
  | ok text =>
    rw [htext] at hdayText
    obtain ⟨hmade, hthere⟩ := run_ensureAt_missing journal.layout .day day text hclear habsent
    simp only
    rw [World.perform_ok _ hdayText, perform_tryOnStorage, hmade]
    exact ⟨.created, rfl, rfl, hthere⟩

/-- The run completed and created the day note. -/
def CreatedDay (run : Run) : Prop :=
  ∃ report, run = .completed report ∧ report.dayNote = .created

/-- With a template a run makes the notes of the year and the month. Then it
comes to what the memory from before has for the day. -/
theorem ensureFor_template (w : World Memory) (date : Date)
    (hbuilder : journal.builder = .template .builtin) (hfree : w.session.busy = false)
    (habsent : w.outside.has (journal.layout.locate .day date.toDay).file = false)
    (hclear : ∀ period, w.outside.hasFile (journal.layout.locate period date.toDay).folder = false)
    (hspares : SparesTemplate journal.layout date.toDay w.outside) :
    Brings (journal.layout.locate .day date.toDay).file CreatedDay
      (dayTextIn journal.layout journal.library date.toDay w.session.selector w.outside)
      (World.perform Memory.answer host (journal.ensureFor date.toDay) w) := by
  obtain ⟨m, s⟩ := w
  let s' : Session := { s with busy := true }
  have hfits := fun p => journal.layout.locate_fits p date.toDay
  -- the notes of the year and the month
  have hgoesYear := run_ensureAt m (hfits .year) Note.yearText (hclear .year)
  have hgoesMonth := run_ensureAt (journal.withYear date.toDay m) (hfits .month)
    (Note.monthText date.toDay) ((hasFile_withNote_folder ..).trans (hclear .month))
  obtain ⟨yearNote, hyear⟩ := Goes.perform host s' hgoesYear
  obtain ⟨monthNote, hmonth⟩ := Goes.perform host s' hgoesMonth
  -- they leave the day and the template as they were
  let m₂ := journal.withMonth date.toDay (journal.withYear date.toDay m)
  have hstopped : Stopped journal date.toDay m m₂ := .month hgoesYear hgoesMonth
  obtain ⟨htemplate, hspares'⟩ := templateIn_withNote hspares .year Note.yearText
  have htext : dayTextIn journal.layout journal.library date.toDay s.selector m₂
      = dayTextIn journal.layout journal.library date.toDay s.selector m := by
    rw [dayTextIn, dayTextIn, ← htemplate,
      ← (templateIn_withNote hspares' .month (Note.monthText date.toDay)).1]
    rfl
  have hday : Brings _ _ (dayTextIn journal.layout journal.library date.toDay s.selector m₂)
      (World.perform Memory.answer host (journal.ensureDay date.toDay) ⟨m₂, s'⟩) :=
    ensureDay_template host hbuilder s'
      ((hasFile_withNote_folder ..).trans ((hasFile_withNote_folder ..).trans (hclear .day)))
      ((hstopped.dayNote date.isReal).1.trans habsent)
  rw [htext] at hday
  have hmade : World.perform Memory.answer host (journal.materialize date.toDay) ⟨m, s'⟩ = _ :=
    (World.perform_ok _ hyear).trans ((World.perform_ok _ hmonth).trans
      (World.perform_bind_pure _ _ _ (journal.ensureDay date.toDay) _))
  have hreport : Brings (journal.layout.locate .day date.toDay).file
      (fun report : Report => report.dayNote = .created)
      (dayTextIn journal.layout journal.library date.toDay s.selector m)
      (World.perform Memory.answer host (journal.materialize date.toDay) ⟨m, s'⟩) := by
    rw [hmade]
    exact hday.map (fun _ hcreated => hcreated) rfl
  rw [ensureFor, perform_alone _ _ hfree]
  exact hreport.map (fun report hcreated => ⟨report, rfl, hcreated⟩) rfl

end Run

end Journal

/-! ## Work that only looks -/

/-- Looking changes nothing. -/
theorem Storage.Memory.run_looks {α : Type} {p : Storage.Work α}
    (h : p.Asks fun q => Storage.Query.looks q = true) (m : Memory) :
    p.run answer m = ((p.run answer m).1, m) := by
  refine h.run_same (fun q m hq => ?_) m
  rw [← Storage.seen_none]
  exact Storage.answer_looks Storage.Faults.none hq m

namespace Command

variable {σ α β : Type}

/-- The surroundings hold a memory, which answers what is asked of the storage.
Complaints do not bear on it. -/
structure Holds (answer : (q : Query) → σ → q.Reply × σ) (memory : σ → Memory) : Prop where
  storage (q : Storage.Query) (s : σ) :
    Memory.answer q (memory s) = ((storageOf answer q s).1, memory (storageOf answer q s).2)
  complain (text : String) (s : σ) : memory (answer (.complain text) s).2 = memory s

/-- Wherever the surroundings hold the memory, the work comes to `a` and leaves
the memory as it is. -/
def Reads (answer : (q : Query) → σ → q.Reply × σ) (memory : σ → Memory) (m : Memory)
    (work : Work α) (a : α) : Prop :=
  ∀ s, memory s = m → (work.run answer s).1 = a ∧ memory (work.run answer s).2 = m

/-- The question is a complaint. -/
def Complains : Query → Prop
  | .complain _ => True
  | _ => False

section Reading

variable {answer : (q : Query) → σ → q.Reply × σ} {memory : σ → Memory} {m : Memory}

theorem Reads.done (a : α) : Reads answer memory m (.done a) a :=
  fun _ hs => ⟨rfl, hs⟩

theorem Reads.bind {work : Work α} {next : α → Work β} {a : α} {b : β}
    (hwork : Reads answer memory m work a) (hnext : Reads answer memory m (next a) b) :
    Reads answer memory m (work >>= next) b := by
  intro s hs
  obtain ⟨ha, hs'⟩ := hwork s hs
  have hrun : (work >>= next).run answer s = _ := Procedure.run_bind answer work next s
  rw [hrun, ha]
  exact hnext _ hs'

variable (holds : Holds answer memory)
include holds

theorem Holds.reads {x : Storage.Try α} {r : Except JournalError α}
    (h : x.run.run Memory.answer m = (r, m)) : Reads answer memory m (tryOnStorage x) r := by
  intro s hs
  have hrun := Procedure.run_map holds.storage x.run s
  rw [hs, h, Prod.mk.injEq] at hrun
  rw [tryOnStorage, run_onStorage]
  exact ⟨hrun.1.symm, hrun.2.symm⟩

theorem Holds.reads_complaints {work : Work PUnit} (h : work.Asks Complains) :
    Reads answer memory m work ⟨⟩ := by
  induction work with
  | done a => exact .done _
  | ask q next ih =>
    cases q with
    | complain text =>
      intro s hs
      exact ih _ (h.2 _) _ ((holds.complain text s).trans hs)
    | _ => exact absurd h.1 id

end Reading

/-! ## The preview -/

section Preview

variable {answer : (q : Query) → σ → q.Reply × σ} {memory : σ → Memory} {m : Memory}
  (holds : Holds answer memory)
include holds

theorem Holds.reads_warnAll (warnings : List Warning) :
    Reads answer memory m (warnAll warnings) () := by
  have hwarn : ∀ warning, (warn warning).Asks Complains :=
    fun _ => ⟨trivial, fun _ => trivial⟩
  exact holds.reads_complaints (Procedure.Asks.forM hwarn warnings)

/-- Whether there are unknown tokens is found out first, but that fails only
where expanding fails. -/
theorem Holds.reads_expandFor (config : Config) {library : Library} (hfull : library.Full)
    (day : Day) (selector : Selector) :
    Reads answer memory m (expandFor config library day (.done selector))
      (Journal.dayTextIn config.layout library day selector m) := by
  unfold expandFor Journal.dayTextIn
  refine (holds.reads (BodyBuilder.run_loadTemplate config.layout m)).bind ?_
  cases BodyBuilder.templateIn config.layout m with
  | error e => exact .done _
  | ok template =>
    obtain ⟨source, warnings⟩ := template
    refine (holds.reads_warnAll warnings).bind ?_
    have hfails := Template.Registry.error_render_iff hfull day source selector
    cases hunknown : Template.Registry.builtin.unknownTokens source with
    | error e =>
      simp only [(hfails e).mpr hunknown]
      exact .done _
    | ok unknown =>
      refine (holds.reads_complaints (Procedure.Asks.forIn (fun name _ => ?_) unknown _)).bind ?_
      · exact ⟨trivial, fun _ => trivial⟩
      · exact (holds.reads_warnAll _).bind (.done _)

/-- The preview comes to the text that the memory has for the day. -/
theorem Holds.reads_preview (config : Config) (day : Day) (selector : Selector) :
    Reads answer memory m (preview config day (.done selector))
      (((Library.loadChosen config.libraryFolder).run.run Memory.answer m).1.bind fun library =>
        Journal.dayTextIn config.layout library day selector m) := by
  refine (holds.reads (Memory.run_looks (Library.loadChosen_looks _) m)).bind ?_
  cases hlibrary : ((Library.loadChosen config.libraryFolder).run.run Memory.answer m).1 with
  | error e => exact .done _
  | ok library => exact holds.reads_expandFor config (Library.full_of_loadChosen hlibrary) day _

end Preview

/-- The journal of the settings makes the notes of a day. -/
def writeNotes (config : Config) (day : Day) : Journal.Try Journal.Run := do
  (← Journal.tryOnStorage config.journal).ensureFor day

theorem perform_writeNotes (config : Config) (day : Day) (host : Journal.Host Memory) (m : Memory)
    (session : Journal.Session) :
    Journal.World.perform Memory.answer host (writeNotes config day) ⟨m, session⟩
      = match ((Library.loadChosen config.libraryFolder).run.run Memory.answer m).1 with
        | .error e => (.error e, ⟨m, session⟩)
        | .ok library => Journal.World.perform Memory.answer host
            (Journal.ensureFor ⟨config.layout, library, config.builder⟩ day) ⟨m, session⟩ := by
  have hlooked := Memory.run_looks (Library.loadChosen_looks config.libraryFolder) m
  have hjournal := Config.run_journal Memory.answer config m
  cases hresult : ((Library.loadChosen config.libraryFolder).run.run Memory.answer m).1 with
  | error e =>
    refine Journal.World.perform_error _ ?_
    rw [Journal.perform_tryOnStorage, hjournal, hlooked, hresult]
    rfl
  | ok library =>
    refine Journal.World.perform_ok _ ?_
    rw [Journal.perform_tryOnStorage, hjournal, hlooked, hresult]
    rfl

/-- For settings with a template and a day without a note: the preview fails
just as the journal of the settings fails with the same source of chance, and
with the same error; its text is the text of the note that the journal
creates; and it changes nothing. The folders of the day must not be files, and
the template must be there or be none of the paths that the journal makes. -/
theorem preview_eq_written {answer : (q : Query) → σ → q.Reply × σ} {memory : σ → Memory}
    (holds : Holds answer memory) {config : Config} (hstyle : config.bodyStyle = .template)
    (date : Date) (host : Journal.Host Memory) {session : Journal.Session}
    (hfree : session.busy = false) (s : σ)
    (habsent : (memory s).has (config.layout.locate .day date.toDay).file = false)
    (hclear : ∀ period, (memory s).hasFile (config.layout.locate period date.toDay).folder = false)
    (htemplate : (memory s).hasFile config.layout.templatePath = true
      ∨ ∀ path ∈ Journal.pathsOfRun config.layout date.toDay,
        path.same config.layout.templatePath = false) :
    let previewed := (preview config date.toDay (.done session.selector)).run answer s
    let written := Journal.World.perform Memory.answer host (writeNotes config date.toDay)
      ⟨memory s, session⟩
    memory previewed.2 = memory s
      ∧ (∀ e, previewed.1 = .error e ↔ written.1 = .error e)
      ∧ ∀ text, previewed.1 = .ok text → ∃ report, written.1 = .ok (.completed report)
        ∧ report.dayNote = .created
        ∧ written.2.outside.textAt? (config.layout.locate .day date.toDay).file = some text := by
  intro previewed written
  obtain ⟨hpreviewed, hspared⟩ := holds.reads_preview config date.toDay session.selector s rfl
  have hspares : Journal.SparesTemplate config.layout date.toDay (memory s) :=
    htemplate.imp_left fun hfile => by rw [Memory.has, hfile, Bool.true_or]
  have hbuilder : config.builder = .template .builtin := by rw [Config.builder, hstyle]
  have hloaded : ∀ loaded : Except JournalError Library,
      Journal.Brings (config.layout.locate .day date.toDay).file Journal.CreatedDay
        (loaded.bind fun library =>
          Journal.dayTextIn config.layout library date.toDay session.selector (memory s))
        (match loaded with
          | .error e => (.error e, ⟨memory s, session⟩)
          | .ok library => Journal.World.perform Memory.answer host
              (Journal.ensureFor ⟨config.layout, library, config.builder⟩ date.toDay)
              ⟨memory s, session⟩) := by
    intro loaded
    cases loaded with
    | error e => rfl
    | ok library =>
      let journal : Journal := ⟨config.layout, library, config.builder⟩
      have hjournal : journal.builder = .template .builtin := hbuilder
      have hrun := Journal.ensureFor_template host ⟨memory s, session⟩ date hjournal hfree habsent
        hclear hspares
      show Journal.Brings (config.layout.locate .day date.toDay).file Journal.CreatedDay
        (Journal.dayTextIn config.layout library date.toDay session.selector (memory s)) _
      exact hrun
  have hwritten : written = _ := perform_writeNotes config date.toDay host (memory s) session
  have hbrings : Journal.Brings (config.layout.locate .day date.toDay).file Journal.CreatedDay
      previewed.1 written := by
    rw [hwritten, hpreviewed]
    exact hloaded _
  refine ⟨hspared, hbrings.error_iff, fun text htext => ?_⟩
  rw [htext] at hbrings
  obtain ⟨run, hrun, ⟨report, rfl, hcreated⟩, hthere⟩ := hbrings
  exact ⟨report, hrun, hcreated, hthere⟩

theorem preview_eq_written_unknown_token :
    let answer : (q : Query) → Memory → q.Reply × Memory := fun
      | .storage q, m => Memory.answer q m
      | .print _, m | .complain _, m => ((), m)
      | .launch .., m => (.error .denied, m)
      | .probe .., m | .requestLine, m => (false, m)
      | .environment _, m => (none, m)
      | .now, m => (⟨⟨⟨2024, 5, 1⟩, by decide⟩, 0⟩, m)
      | .seed, m => ((7 : UInt64), m)
    let config : Config := { Config.forVault ⟨"vault"⟩ with bodyStyle := .template }
    let date : Calendar.Date := ⟨⟨2024, 5, 1⟩, by decide⟩
    let memory : Memory := ⟨[(⟨"vault/stoic-daily/TEMPLATE.md"⟩, "# %MONTH_LINK%%LATER%\n")],
      [⟨"vault"⟩, ⟨"vault/stoic-daily"⟩]⟩
    let session : Journal.Session := .start (.seeded 7)
    let host : Journal.Host Memory := fun _ w => (.ok (), w)
    let previewed := (preview config date.toDay (.done session.selector)).run answer memory
    Holds answer (fun m => m) ∧ config.bodyStyle = .template ∧ session.busy = false
      ∧ memory.has (config.layout.locate .day date.toDay).file = false
      ∧ (∀ period, memory.hasFile (config.layout.locate period date.toDay).folder = false)
      ∧ memory.hasFile config.layout.templatePath = true
      ∧ previewed.1 = .ok "# Month: [[May2024]]\n"
      ∧ ∃ report later, Journal.World.perform Memory.answer host (writeNotes config date.toDay)
          ⟨memory, session⟩ = (.ok (.completed report), later)
        ∧ later.outside.textAt? (config.layout.locate .day date.toDay).file
          = some "# Month: [[May2024]]\n" := by
  intro answer config date memory session host previewed
  have holds : Holds answer (fun m => m) := ⟨fun _ _ => rfl, fun _ _ => rfl⟩
  have habsent : memory.has (config.layout.locate .day date.toDay).file = false := by
    decide +kernel
  have hclear : ∀ period,
      memory.hasFile (config.layout.locate period date.toDay).folder = false := by
    intro period
    cases period <;> decide +kernel
  have htemplate : memory.hasFile config.layout.templatePath = true := by decide +kernel
  have htext : previewed.1 = .ok "# Month: [[May2024]]\n" := by decide +kernel
  have hstyle : config.bodyStyle = .template := rfl
  have hfree : session.busy = false := rfl
  obtain ⟨_, _, hwritten⟩ := preview_eq_written holds hstyle date host hfree memory habsent hclear
    (.inl htemplate)
  obtain ⟨report, hrun, _, hthere⟩ := hwritten _ htext
  have hlater : ∀ {run : Except JournalError Journal.Run × Journal.World Memory}
      {text : Option String}, run.1 = .ok (.completed report) →
      run.2.outside.textAt? (config.layout.locate .day date.toDay).file = text →
      ∃ later, run = (.ok (.completed report), later) ∧
        later.outside.textAt? (config.layout.locate .day date.toDay).file = text :=
    fun hrun hthere => ⟨_, Prod.ext hrun rfl, hthere⟩
  exact ⟨holds, hstyle, hfree, habsent, hclear, htemplate, htext, report, hlater hrun hthere⟩

end Command

end Daybook
