/-
Daybook.Proofs.Journal.Conduct — what a run of the journal asks, and why.

Everything that a run can do to a storage is said here once, by the rule
`MayAsk`: it looks; it makes the folders of its own notes; and it creates
its own notes, each with its own text and only after it has seen that the
notes above it and the folder are there. `materialize_obeys` proves that a
run keeps to the rule whatever it is told, and says what its report and its
errors have to do with what was asked.

The rule is about one run, and it speaks of replies, not of the storage that
gives them. What comes of it for a faulty storage or for one that many runs
share is worked out where it is needed, from `MayAsk` and never from the
definition of a run; the last section has what all of that rests on, that
what a run was shown is there and stays there (`Present`).
-/
import Daybook.Journal.Run
import Daybook.Proofs.Layout.Places
import Daybook.Proofs.Procedure.Log
import Daybook.Proofs.Storage.Growth

namespace Daybook.Journal

open Calendar (Day)
open Procedure (Obeys Since)

/-- What was asked and told so far, the oldest first. -/
abbrev Past := List (Exchange interface)

/-! ## Reading the past -/

/-- The exchange shows that something is at a path. -/
def Shows (path : Path) : Exchange interface → Prop
  | ⟨.storage q, reply⟩ => q.shows path reply
  | _ => False

/-- The file that was created in an exchange, and its text. -/
def made? : Exchange interface → Option (Path × String)
  | ⟨.storage q, reply⟩ => q.made? reply
  | _ => none

/-- A text was put together in the exchange. -/
def Renders : Exchange interface → Prop
  | ⟨.keep (.render _), _⟩ => True
  | _ => False

/-- The storage, the source of chance or the host did not do what it was
asked. -/
def Fails : Exchange interface → Prop
  | ⟨.storage q, reply⟩ => q.fails reply
  | ⟨.keep (.render _), .error _⟩ => True
  | ⟨.openNote _, .error _⟩ => True
  | _ => False

/-- Something failed in the past. -/
def Failed (past : Past) : Prop :=
  ∃ e ∈ past, Fails e

/-- It was shown that something is at a path. -/
def Known (past : Past) (path : Path) : Prop :=
  ∃ e ∈ past, Shows path e

/-- The files that were created, and their texts. -/
def made (past : Past) : List (Path × String) :=
  past.filterMap made?

theorem Known.append_left {past : Past} {path : Path} (h : Known past path) (more : Past) :
    Known (past ++ more) path :=
  h.imp fun _ he => ⟨List.mem_append_left _ he.1, he.2⟩

theorem Known.append_right {past : Past} {path : Path} (h : Known past path) (before : Past) :
    Known (before ++ past) path :=
  h.imp fun _ he => ⟨List.mem_append_right _ he.1, he.2⟩

theorem Failed.append_right {past : Past} (h : Failed past) (before : Past) :
    Failed (before ++ past) :=
  h.imp fun _ he => ⟨List.mem_append_right _ he.1, he.2⟩

@[simp] theorem made_append (past more : Past) : made (past ++ more) = made past ++ made more :=
  List.filterMap_append

/-! ## The rule of a run -/

/-- The periods that are longer than a period. -/
def above : Period → List Period
  | .year => []
  | .month => [.year]
  | .day => [.year, .month]

/-- The builder was at work in these exchanges, and this is the text that it
gave for the day. -/
def Built (journal : Journal) (day : Day) (past : Past) (text : String) : Prop :=
  ∃ before during after, past = before ++ during ++ after
    ∧ (journal.dayText day).run.Ends during (.ok text)

/-- The text is the one that a run writes into the note of a period. -/
def TextOf (journal : Journal) (day : Day) (past : Past) : Period → String → Prop
  | .year, text => text = Note.yearText
  | .month, text => text = Note.monthText day
  | .day, text => Built journal day past text

theorem TextOf.append {journal : Journal} {day : Day} {past : Past} {period : Period}
    {text : String} (h : TextOf journal day past period text) (more : Past) :
    TextOf journal day (past ++ more) period text := by
  cases period with
  | year => exact h
  | month => exact h
  | day =>
    obtain ⟨before, during, after, rfl, hends⟩ := h
    exact ⟨before, during, after ++ more, by simp, hends⟩

/-- The builder has just prepared this rendering of the day note. -/
def Prepared (journal : Journal) (day : Day) (past : Past)
    (rendering : Selector → Rendering Selector) : Prop :=
  ∃ before during, past = before ++ during
    ∧ (tryOnStorage (journal.builder.prepare journal.layout ⟨day, journal.library⟩)).run.Ends
        during (.ok rendering)

/-- What a run for a day may ask after what it asked and was told before. -/
inductive MayAsk (journal : Journal) (day : Day) (past : Past) : Query → Prop where
  /-- It may look whether something is there. -/
  | isPresent (path : Path) : MayAsk journal day past (.storage (.isPresent path))
  /-- It may read the template that it is to use. -/
  | readTemplate (registry : Template.Registry) (h : journal.builder = .template registry) :
      MayAsk journal day past (.storage (.read journal.layout.templatePath))
  /-- It may make the folders of its own notes. -/
  | makeFolders (period : Period) :
      MayAsk journal day past (.storage (.makeFolders (journal.layout.folder period day)))
  /-- It may create its own notes, from the longest period to the shortest. -/
  | create (period : Period) (text : String)
      (hfolder : Known past (journal.layout.folder period day))
      (habove : ∀ p ∈ above period, Known past (journal.layout.locate p day).file)
      (htext : TextOf journal day past period text) :
      MayAsk journal day past
        (.storage (.create (journal.layout.locate period day).file text))
  /-- It may draw for the text of the day note, and only once. -/
  | render (rendering : Selector → Rendering Selector)
      (hprepared : Prepared journal day past rendering) (honce : ∀ e ∈ past, ¬ Renders e) :
      MayAsk journal day past (.keep (.render rendering))

/-! ## Work on the storage -/

theorem onStorage_bind {α β : Type} (p : Storage.Work α) (f : α → Storage.Work β) :
    onStorage (p.bind f) = (onStorage p).bind fun a => onStorage (f a) := by
  induction p with
  | done a => rfl
  | ask q next ih =>
    simp only [onStorage, Procedure.bind_ask, Procedure.relay] at ih ⊢
    exact congrArg _ (funext ih)

theorem tryOnStorage_bind {α β : Type} (x : Storage.Try α) (f : α → Storage.Try β) :
    tryOnStorage (x >>= f) = tryOnStorage x >>= fun a => tryOnStorage (f a) := by
  apply ExceptT.ext
  simp only [tryOnStorage, ExceptT.run_mk, ExceptT.run_bind, Procedure.bind_eq, onStorage_bind]
  congr 1
  funext r
  cases r <;> rfl

/-! ## Making sure of one note -/

/-- What comes of making sure of a folder. -/
def FolderGoal (folder : Path) (new : Past) (r : Except JournalError Unit) : Prop :=
  made new = [] ∧ (∀ e ∈ new, ¬ Renders e) ∧
    match r with
    | .ok () => Known new folder
    | .error _ => Failed new

/-- The files that making sure of one has created. -/
def filesOf (done : Ensured) (file : Path) (text : String) : List (Path × String) :=
  match done with
  | .created => [(file, text)]
  | .present => []

theorem mem_filesOf {done : Ensured} {file : Path} {text : String} {f : Path × String} :
    f ∈ filesOf done file text ↔ done = .created ∧ f = (file, text) := by
  cases done <;> simp [filesOf]

/-- What comes of making sure of a file. -/
def FileGoal (file : Path) (text : String) (new : Past) (r : Except JournalError Ensured) : Prop :=
  (∀ e ∈ new, ¬ Renders e) ∧
    match r with
    | .ok done => made new = filesOf done file text ∧ Known new file
    | .error _ => made new = [] ∧ Failed new

variable {rule : Past → Query → Prop} {past : Past}

theorem ensureFolder_obeys {folder : Path} (hempty : folder.isEmpty = false)
    (hlook : ∀ past path, rule past (.storage (.isPresent path)))
    (hmake : ∀ past, rule past (.storage (.makeFolders folder))) :
    (tryOnStorage (ensureFolder folder)).run.Obeys rule (Since past (FolderGoal folder)) past := by
  refine ⟨hlook _ _, fun there => ?_⟩
  cases (there : Bool) with
  | true =>
    refine ⟨[⟨.storage (.isPresent folder), true⟩], rfl, rfl, by simp [Renders], ?_⟩
    exact ⟨_, List.mem_cons_self, rfl, rfl⟩
  | false =>
    refine ⟨hmake _, fun reply => ?_⟩
    cases (reply : Except StorageError Unit) with
    | ok u =>
      refine ⟨[⟨.storage (.isPresent folder), false⟩, ⟨.storage (.makeFolders folder), .ok ()⟩],
        by simp, rfl, by simp [Renders], ?_⟩
      exact ⟨_, List.mem_cons_of_mem _ List.mem_cons_self, hempty, rfl⟩
    | error cause =>
      refine ⟨[⟨.storage (.isPresent folder), false⟩,
        ⟨.storage (.makeFolders folder), .error cause⟩], by simp, rfl, by simp [Renders], ?_⟩
      exact ⟨_, List.mem_cons_of_mem _ List.mem_cons_self, trivial⟩

theorem ensureFile_obeys {file : Path} {text : String}
    (hlook : ∀ past path, rule past (.storage (.isPresent path)))
    (hcreate : ∀ new, rule (past ++ new) (.storage (.create file text))) :
    (tryOnStorage (ensureFile file text)).run.Obeys rule (Since past (FileGoal file text))
      past := by
  refine ⟨hlook _ _, fun there => ?_⟩
  cases (there : Bool) with
  | true =>
    refine ⟨[⟨.storage (.isPresent file), true⟩], rfl, by simp [Renders], rfl, ?_⟩
    exact ⟨_, List.mem_cons_self, rfl, rfl⟩
  | false =>
    refine ⟨hcreate _, fun reply => ?_⟩
    cases (reply : Except StorageError Unit) with
    | ok u =>
      refine ⟨[⟨.storage (.isPresent file), false⟩, ⟨.storage (.create file text), .ok ()⟩],
        by simp, by simp [Renders], rfl, ?_⟩
      exact ⟨_, List.mem_cons_of_mem _ List.mem_cons_self, rfl⟩
    | error cause =>
      show (onStorage (ExceptT.run (if cause.kind = .alreadyExists
        then (pure .present : Storage.Try Ensured) else throw (.fileWrite file cause)))).Obeys _ _ _
      by_cases hkind : cause.kind = .alreadyExists
      · -- somebody else was faster
        rw [if_pos hkind]
        refine ⟨[⟨.storage (.isPresent file), false⟩,
          ⟨.storage (.create file text), .error cause⟩], by simp, by simp [Renders], rfl, ?_⟩
        exact ⟨_, List.mem_cons_of_mem _ List.mem_cons_self, hkind, rfl⟩
      · rw [if_neg hkind]
        refine ⟨[⟨.storage (.isPresent file), false⟩,
          ⟨.storage (.create file text), .error cause⟩], by simp, by simp [Renders], rfl, ?_⟩
        exact ⟨_, List.mem_cons_of_mem _ List.mem_cons_self, hkind⟩

/-- A note is created only after its folder was seen. -/
theorem ensureAt_obeys {location : Location} {text : String}
    (hempty : location.folder.isEmpty = false)
    (hlook : ∀ past path, rule past (.storage (.isPresent path)))
    (hmake : ∀ past, rule past (.storage (.makeFolders location.folder)))
    (hcreate : ∀ new, Known new location.folder →
      rule (past ++ new) (.storage (.create location.file text))) :
    (tryOnStorage (ensureAt location text)).run.Obeys rule
      (Since past (FileGoal location.file text)) past := by
  rw [ensureAt, ensure, tryOnStorage_bind]
  refine (ensureFolder_obeys hempty hlook hmake).andThen
    (fun _ _ => FileGoal location.file text) ?_ ?_ ?_
  · rintro new ⟨⟩ ⟨_, _, hknown⟩
    refine ensureFile_obeys hlook fun more => ?_
    rw [List.append_assoc]
    exact hcreate _ (hknown.append_left more)
  · rintro new ⟨⟩ more r ⟨hmade, hrender, _⟩ ⟨hrender', hr⟩
    refine ⟨by simpa [or_imp, forall_and] using ⟨hrender, hrender'⟩, ?_⟩
    cases r with
    | ok done => exact ⟨by simp [hmade, hr.1], hr.2.append_right new⟩
    | error e =>
      obtain ⟨hmade', hfail⟩ := hr
      exact ⟨by simp [hmade, hmade'], hfail.append_right new⟩
  · rintro new e ⟨hmade, hrender, hfail⟩
    exact ⟨hrender, hmade, hfail⟩

/-! ## Putting the text together -/

/-- What comes of preparing a text. -/
def PreparedGoal {α : Type} (new : Past) (r : Except JournalError α) : Prop :=
  made new = [] ∧ (∀ e ∈ new, ¬ Renders e) ∧
    match r with
    | .ok _ => True
    | .error _ => Failed new

/-- What comes of putting the text of a day note together. -/
def TextGoal (journal : Journal) (day : Day) (new : Past) (r : Except JournalError String) : Prop :=
  (journal.dayText day).run.Ends new r ∧ made new = [] ∧
    match r with
    | .ok _ => True
    | .error _ => Failed new

theorem prepare_obeys {journal : Journal} {day : Day}
    (hlook : ∀ past path, rule past (.storage (.isPresent path)))
    (hread : ∀ past registry, journal.builder = .template registry →
      rule past (.storage (.read journal.layout.templatePath))) :
    (tryOnStorage (journal.builder.prepare journal.layout ⟨day, journal.library⟩)).run.Obeys rule
      (Since past PreparedGoal) past := by
  cases hbuilder : journal.builder with
  | sections toggles => exact ⟨[], by simp, rfl, by simp, trivial⟩
  | template registry =>
    refine ⟨hlook _ _, fun there => ?_⟩
    cases (there : Bool) with
    | false =>
      exact ⟨[⟨.storage (.isPresent journal.layout.templatePath), false⟩], rfl, rfl,
        by simp [Renders], trivial⟩
    | true =>
      refine ⟨hread _ registry hbuilder, fun reply => ?_⟩
      cases (reply : Except StorageError String) with
      | ok text =>
        exact ⟨[⟨.storage (.isPresent journal.layout.templatePath), true⟩,
          ⟨.storage (.read journal.layout.templatePath), .ok text⟩], by simp, rfl,
          by simp [Renders], trivial⟩
      | error cause =>
        refine ⟨[⟨.storage (.isPresent journal.layout.templatePath), true⟩,
          ⟨.storage (.read journal.layout.templatePath), .error cause⟩], by simp, rfl,
          by simp [Renders], ?_⟩
        exact ⟨_, List.mem_cons_of_mem _ List.mem_cons_self, trivial⟩

theorem dayText_obeys {journal : Journal} {day : Day} (honce : ∀ e ∈ past, ¬ Renders e) :
    (journal.dayText day).run.Obeys (MayAsk journal day) (Since past (TextGoal journal day))
      past := by
  refine Obeys.ends ?_
  refine (prepare_obeys (fun _ => .isPresent) fun _ => .readTemplate).ends.andThen
    (fun _ _ new r => made new = [] ∧ match r with
      | .ok _ => True
      | .error _ => Failed new) ?_ ?_ ?_
  · rintro new rendering ⟨hends, _, hrender, _⟩
    refine ⟨.render rendering ⟨past, new, rfl, hends⟩ ?_, fun reply => ?_⟩
    · rintro e he
      exact (List.mem_append.mp he).elim (honce e) (hrender e)
    · refine ⟨[⟨.keep (.render rendering), reply⟩], rfl, rfl, ?_⟩
      cases (reply : Except JournalError String) with
      | ok text => exact trivial
      | error e => exact ⟨_, List.mem_cons_self, trivial⟩
  · rintro new rendering more r ⟨_, hmade, _⟩ ⟨hmade', hr⟩
    refine ⟨by simp [hmade, hmade'], ?_⟩
    cases r with
    | ok text => exact trivial
    | error e => exact hr.append_right _
  · rintro new e ⟨_, hmade, _, hfail⟩
    exact ⟨hmade, hfail⟩

/-! ## A whole run -/

/-- What comes of making sure of the day note. -/
def DayGoal (journal : Journal) (day : Day) (new : Past) (r : Except JournalError Ensured) : Prop :=
  match r with
  | .ok done => Known new (journal.layout.locate .day day).file
      ∧ ∃ text, made new = filesOf done (journal.layout.locate .day day).file text
  | .error _ => Failed new

/-- What comes of a run: it went through and knows of each of its notes, or
something failed on the way. -/
def RunGoal (journal : Journal) (day : Day) (new : Past) (r : Except JournalError Report) : Prop :=
  match r with
  | .ok report => report.day = day ∧ report.note = (journal.layout.locate .day day).file
      ∧ (∀ p, Known new (journal.layout.locate p day).file)
      ∧ ∃ text, made new
        = filesOf report.yearNote (journal.layout.locate .year day).file Note.yearText
          ++ filesOf report.monthNote (journal.layout.locate .month day).file (Note.monthText day)
          ++ filesOf report.dayNote (journal.layout.locate .day day).file text
  | .error _ => Failed new

theorem ensureDay_obeys {journal : Journal} {day : Day} (honce : ∀ e ∈ past, ¬ Renders e)
    (habove : ∀ p ∈ above .day, Known past (journal.layout.locate p day).file) :
    (journal.ensureDay day).run.Obeys (MayAsk journal day) (Since past (DayGoal journal day))
      past := by
  refine ⟨.isPresent _, fun there => ?_⟩
  cases (there : Bool) with
  | true =>
    refine ⟨[⟨.storage (.isPresent (journal.layout.locate .day day).file), true⟩], rfl, ?_⟩
    exact ⟨⟨_, List.mem_cons_self, rfl, rfl⟩, "", rfl⟩
  | false =>
    -- the look that found nothing is counted in what the day came to
    refine Obeys.since
      ([⟨.storage (.isPresent (journal.layout.locate .day day).file), false⟩] : Past) ?_
    refine (dayText_obeys ?_).andThen
      (fun _ text => FileGoal (journal.layout.locate .day day).file text) ?_ ?_ ?_
    · simpa [or_imp, forall_and, Renders] using honce
    · rintro new text ⟨hends, hmade, _⟩
      refine ensureAt_obeys (Layout.folder_not_empty _ _ _) (fun _ => .isPresent)
        (fun _ => .makeFolders .day) fun more hfolder => ?_
      refine .create .day text (hfolder.append_right _) (fun p hp => ?_) ?_
      · simpa using (habove p hp).append_left _
      · exact ⟨_, new, more, rfl, hends⟩
    · rintro new text more r ⟨_, hmade, _⟩ ⟨_, hr⟩
      cases r with
      | ok done =>
        obtain ⟨hmade', hknown⟩ := hr
        refine ⟨(hknown.append_right new).append_right _, text, ?_⟩
        rw [made_append, made_append, hmade, hmade']
        rfl
      | error e =>
        obtain ⟨_, hfail⟩ := hr
        exact (hfail.append_right new).append_right _
    · rintro new e ⟨_, _, hfail⟩
      exact hfail.append_right _

/-- Whatever it is told, a run keeps to its rule. When it goes through, it
knows of all its notes and has created what it reports; when it does not,
something has failed. -/
theorem materialize_obeys {journal : Journal} {day : Day} (honce : ∀ e ∈ past, ¬ Renders e) :
    (journal.materialize day).run.Obeys (MayAsk journal day) (Since past (RunGoal journal day))
      past := by
  have hnote : ∀ (p : Period) (text : String) (past : Past),
      (∀ q ∈ above p, Known past (journal.layout.locate q day).file) →
      (∀ new, TextOf journal day (past ++ new) p text) →
      (tryOnStorage (ensureAt (journal.layout.locate p day) text)).run.Obeys (MayAsk journal day)
        (Since past (FileGoal (journal.layout.locate p day).file text)) past := by
    intro p text past habove htext
    refine ensureAt_obeys (Layout.folder_not_empty _ _ _) (fun _ => .isPresent)
      (fun _ => .makeFolders p) fun new hfolder => ?_
    exact .create p text (hfolder.append_right _) (fun q hq => (habove q hq).append_left _)
      (htext new)
  -- from the year to the day, each note is handed what is known of those above it
  refine (hnote .year Note.yearText past (by simp [above]) fun _ => rfl).andThen
    (fun newYear yearNote more r => match r with
      | .ok report => RunGoal journal day (newYear ++ more) (.ok report)
      | .error _ => Failed more) ?_ ?_ ?_
  · rintro newYear yearNote ⟨honceYear, hmadeYear, hyear⟩
    refine (hnote .month (Note.monthText day) (past ++ newYear) ?_ fun _ => rfl).andThen
      (fun newMonth monthNote more r => match r with
        | .ok report => RunGoal journal day (newYear ++ newMonth ++ more) (.ok report)
        | .error _ => Failed more) ?_ ?_ ?_
    · simpa [above] using hyear.append_right past
    · rintro newMonth monthNote ⟨honceMonth, hmadeMonth, hmonth⟩
      refine (ensureDay_obeys ?_ ?_).andThen
        (fun _ dayNote more r => more = [] ∧ r = .ok ⟨day, yearNote, monthNote, dayNote,
          (journal.layout.locate .day day).file⟩) ?_ ?_ ?_
      · simp only [List.mem_append]
        rintro e ((he | he) | he)
        · exact honce e he
        · exact honceYear e he
        · exact honceMonth e he
      · simp only [above, List.forall_mem_cons]
        exact ⟨(hyear.append_right past).append_left _, hmonth.append_right _, by simp⟩
      · exact fun _ _ _ => ⟨[], by simp, rfl, rfl⟩
      · rintro newDay dayNote _ _ ⟨hday, text, hmadeDay⟩ ⟨rfl, rfl⟩
        rw [List.append_nil]
        refine ⟨rfl, rfl, fun p => ?_, text, ?_⟩
        · cases p with
          | year => exact (hyear.append_left _).append_left _
          | month => exact (hmonth.append_right _).append_left _
          | day => exact hday.append_right _
        · rw [made_append, made_append, hmadeYear, hmadeMonth, hmadeDay]
      · exact fun _ _ h => h
    · rintro newMonth monthNote more r - hr
      cases r with
      | ok report => simpa using hr
      | error e => exact hr.append_right _
    · rintro newMonth e ⟨_, _, hfail⟩
      exact hfail
  · rintro newYear yearNote more r - hr
    cases r with
    | ok report => exact hr
    | error e => exact hr.append_right _
  · rintro newYear e ⟨_, _, hfail⟩
    exact hfail

/-- What a run reports of the note of a period. -/
def Report.ensured (report : Report) : Period → Ensured
  | .year => report.yearNote
  | .month => report.monthNote
  | .day => report.dayNote

/-- A run that goes through reports exactly the notes that it created. -/
theorem ensured_eq_created {journal : Journal} {day : Day} {new : Past} {report : Report}
    (h : RunGoal journal day new (.ok report)) (hday : day.IsReal) (p : Period) :
    report.ensured p = .created
      ↔ ∃ f ∈ made new, f.1.same (journal.layout.locate p day).file = true := by
  obtain ⟨_, _, _, text, hmade⟩ := h
  have hsame : ∀ q,
      (journal.layout.locate q day).file.same (journal.layout.locate p day).file = true
        ↔ q = p := by
    intro q
    rw [Layout.file_same_iff _ hday hday]
    cases q <;> simp [Period.Agree]
  simp only [hmade, List.mem_append, mem_filesOf]
  constructor
  · intro hp
    cases p with
    | year => exact ⟨_, .inl (.inl ⟨hp, rfl⟩), Path.same_refl _⟩
    | month => exact ⟨_, .inl (.inr ⟨hp, rfl⟩), Path.same_refl _⟩
    | day => exact ⟨_, .inr ⟨hp, rfl⟩, Path.same_refl _⟩
  · rintro ⟨f, (⟨hdone, rfl⟩ | ⟨hdone, rfl⟩) | ⟨hdone, rfl⟩, hf⟩
    · rw [← (hsame .year).mp hf]
      exact hdone
    · rw [← (hsame .month).mp hf]
      exact hdone
    · rw [← (hsame .day).mp hf]
      exact hdone

/-! ## What was shown is there -/

/-- Everything that was shown to be there is there. -/
def Present (past : Past) (m : Storage.Memory) : Prop :=
  ∀ path, Known past path → m.has path = true

section Present

variable {m : Storage.Memory} (faults : Storage.Faults)

/-- What a call knows stays true, also when others are answered. -/
theorem Present.answer (h : Present past m) (q : Storage.Query) :
    Present past (Storage.seen faults q m).2 :=
  fun path hknown => Storage.has_answer faults q (h path hknown)

theorem Present.told (h : Present past m) (q : Storage.Query) :
    Present (past ++ [⟨.storage q, (Storage.seen faults q m).1⟩]) (Storage.seen faults q m).2 := by
  rintro path ⟨e, he, hshows⟩
  rcases List.mem_append.mp he with he | he
  · exact h.answer faults q path ⟨e, he, hshows⟩
  · rw [List.mem_singleton.mp he] at hshows
    exact Storage.has_of_shows faults hshows

/-- An exchange that shows nothing adds nothing. -/
theorem Present.silent (h : Present past m) {e : Exchange interface}
    (he : ∀ path, ¬ Shows path e) : Present (past ++ [e]) m := by
  rintro path ⟨e', he', hshows⟩
  rcases List.mem_append.mp he' with he' | he'
  · exact h path ⟨e', he', hshows⟩
  · rw [List.mem_singleton.mp he'] at hshows
    exact absurd hshows (he path)

end Present

end Daybook.Journal
