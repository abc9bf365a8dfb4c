/-
Daybook.Proofs.Journal.Backfill — notes of many dates, made in any order.

Runs for different dates share the notes of years and months and the folders
above them, and which run makes them depends on the order. What there is in
the end does not. A memory is `Filled` with some notes when it has, besides
what was there before, exactly the notes and the folders that they need; to
make a note leads from one filled memory to another (`Filled.step`). Two
memories that are filled with the same notes have the same paths and the same
texts, except where a text was drawn (`Filled.hasFile_eq`, `Filled.textAt?_eq`).
Nothing counts of a list of dates but which dates are in it.
-/
import Daybook.Proofs.Journal.Ensure
import Daybook.Proofs.Journal.Performed
import Daybook.Proofs.Note.Composed

namespace Daybook.Journal

open Calendar (Date Day)
open Storage (Memory)

/-! ## Memories that were filled -/

/-- The texts that a note can be made with. -/
def NoteText (toggles : Toggles) (library : Library) : Period → Day → String → Prop
  | .year, _, text => text = Note.yearText
  | .month, day, text => text = Note.monthText day
  | .day, day, text => ∃ selector,
    (BodyBuilder.renderSections toggles ⟨day, library⟩ selector).outcome = .ok text

/-- A note: its period and a date in it. -/
abbrev Place := Period × Date

section Filled

variable (layout : Layout) (may : Period → Day → String → Prop) (before : Memory)

/-- Where a note is kept. -/
def Place.location (place : Place) : Location :=
  layout.locate place.1 place.2.toDay

/-- The memory has what was there before and the notes of some places, and no
more than they need. -/
structure Filled (places : List Place) (now : Memory) : Prop where
  /-- A folder that was missing is one for a note or above it. -/
  folder : ∀ path, now.hasFolder path = true ↔ before.hasFolder path = true
    ∨ ∃ place ∈ places, before.hasFolder (place.location layout).folder = false
      ∧ path.components ≠ [] ∧ path.components <+: (place.location layout).folder.components
  /-- What was there is as it was. -/
  old : ∀ path, before.has path = true → now.textAt? path = before.textAt? path
  /-- A file that was missing is a note. -/
  new : ∀ path text, before.has path = false → now.textAt? path = some text →
    ∃ place ∈ places, (place.location layout).file.same path = true
      ∧ may place.1 place.2.toDay text
  there : ∀ place ∈ places, now.has (place.location layout).file = true

end Filled

variable {layout : Layout} {may : Period → Day → String → Prop} {before now : Memory}
  {places : List Place}

theorem Filled.start (before : Memory) : Filled layout may before [] before where
  folder path := by simp
  old _ _ := rfl
  new path text hfree htext := by
    rw [Memory.textAt?_eq_none hfree] at htext
    cases htext
  there place hplace := by simp at hplace

/-- No folder for notes or above one is in the place of a note. -/
theorem file_not_above (layout : Layout) (place other : Place) {path : Path}
    (hpath : (place.location layout).file.same path = true) (hne : path.components ≠ []) :
    ¬ path.components <+: (other.location layout).folder.components := by
  intro hpre
  obtain ⟨a, ha, hcomp⟩ := Path.exists_ancestor hne hpre
  have hapart := layout.folder_apart other.1 place.1 other.2.toDay place.2.toDay a
    ((List.takeWhile_sublist _).subset ha)
  have hsame : a.same (place.location layout).file = true :=
    Path.same_iff.mpr (hcomp.trans (Path.same_iff.mp hpath).symm)
  exact Bool.false_ne_true (hapart.symm.trans hsame)

/-- No file comes into the place of a folder. -/
theorem Filled.hasFile_folder (h : Filled layout may before places now) (place : Place)
    (hclear : before.hasFile (place.location layout).folder = false) :
    now.hasFile (place.location layout).folder = false := by
  rw [Memory.hasFile_eq] at hclear ⊢
  cases htext : now.textAt? (place.location layout).folder with
  | none => rfl
  | some text =>
    cases hbefore : before.has (place.location layout).folder with
    | true =>
      rw [h.old _ hbefore] at htext
      rw [htext] at hclear
      cases hclear
    | false =>
      obtain ⟨other, _, hsame, _⟩ := h.new _ text hbefore htext
      have hne : (place.location layout).folder.components ≠ [] := by
        rw [Ne, ← Path.isEmpty_iff, Bool.not_eq_true]
        exact layout.folder_not_empty _ _
      exact absurd (List.prefix_refl _) (file_not_above layout other place hsame hne)

theorem Filled.has_of_has (h : Filled layout may before places now) {path : Path}
    (hpath : before.has path = true) : now.has path = true := by
  have htext := h.old path hpath
  rw [Memory.has_iff] at hpath ⊢
  rcases hpath with ⟨text, hbefore⟩ | hfolder
  · exact .inl ⟨text, htext.trans hbefore⟩
  · exact .inr ((h.folder path).mpr (.inl hfolder))

/-- One more note. -/
theorem Filled.step (h : Filled layout may before places now) (place : Place) (text : String)
    (hclear : before.hasFile (place.location layout).folder = false)
    (hmay : may place.1 place.2.toDay text) :
    Filled layout may before (place :: places)
      (now.withNote (place.location layout) text) where
  folder path := by
    have hhas : now.has (place.location layout).folder
        = now.hasFolder (place.location layout).folder := by
      rw [Memory.has, h.hasFile_folder place hclear, Bool.false_or]
    rw [Memory.hasFolder_withNote, Memory.hasFolder_withFolder_iff, hhas, h.folder path]
    simp only [List.mem_cons, exists_eq_or_imp]
    constructor
    · rintro ((hold | hother) | ⟨hmissing, hpath⟩)
      · exact .inl hold
      · exact .inr (.inr hother)
      · refine .inr (.inl ⟨?_, hpath⟩)
        rw [← Bool.not_eq_true] at hmissing ⊢
        exact fun hbefore => hmissing ((h.folder _).mpr (.inl hbefore))
    · rintro (hold | ⟨hmissing, hne, hpre⟩ | hother)
      · exact .inl (.inl hold)
      · cases hnow : now.hasFolder (place.location layout).folder with
        | false => exact .inr ⟨rfl, hne, hpre⟩
        | true =>
          -- another note has brought the folder about, and all above it
          rcases (h.folder _).mp hnow with hbefore | ⟨other, hmem, hfree, _, hother⟩
          · rw [hmissing] at hbefore
            cases hbefore
          · exact .inl (.inr ⟨other, hmem, hfree, hne, hpre.trans hother⟩)
      · exact .inl (.inr hother)
  old path hpath := by
    rw [Memory.textAt?_withNote, if_neg, h.old path hpath]
    rintro ⟨hfree, hsame⟩
    rw [Memory.has_congr hsame, Memory.has_withFolder_of_has (h.has_of_has hpath)] at hfree
    cases hfree
  new path text' hfree htext := by
    rw [Memory.textAt?_withNote] at htext
    split at htext
    · rename_i hcreated
      cases htext
      exact ⟨place, List.mem_cons_self, hcreated.2, hmay⟩
    · obtain ⟨other, hmem, hsame, hother⟩ := h.new path text' hfree htext
      exact ⟨other, List.mem_cons_of_mem _ hmem, hsame, hother⟩
  there other hother := by
    rcases List.mem_cons.mp hother with rfl | hother
    · exact Memory.has_withNote_file
    · exact Memory.has_withNote_of_has (h.there other hother)

/-! ## Filled with the same notes -/

section Same

variable {now' : Memory} {places' : List Place} (h : Filled layout may before places now)
  (h' : Filled layout may before places' now') (hsame : ∀ place, place ∈ places ↔ place ∈ places')

include h in
/-- There is a file where one was, and where a note was missing. -/
theorem Filled.hasFile_iff {path : Path} : now.hasFile path = true ↔ before.hasFile path = true
    ∨ before.has path = false
      ∧ ∃ place ∈ places, (place.location layout).file.same path = true := by
  cases hbefore : before.has path with
  | true =>
    rw [Memory.hasFile_eq, Memory.hasFile_eq, h.old path hbefore]
    simp
  | false =>
    have hnone : before.hasFile path = false := (Bool.or_eq_false_iff.mp hbefore).1
    have hfolder : before.hasFolder path = false := (Bool.or_eq_false_iff.mp hbefore).2
    rw [hnone]
    constructor
    · intro hnow
      rw [Memory.hasFile_eq, Option.isSome_iff_exists] at hnow
      obtain ⟨text, htext⟩ := hnow
      obtain ⟨place, hmem, hplace, _⟩ := h.new path text hbefore htext
      exact .inr ⟨rfl, place, hmem, hplace⟩
    · rintro (hfalse | ⟨_, place, hmem, hplace⟩)
      · cases hfalse
      · have hhas := h.there place hmem
        rw [Memory.has_congr hplace, Memory.has, Bool.or_eq_true] at hhas
        refine hhas.resolve_right fun hnow => ?_
        rcases (h.folder path).mp hnow with hold | ⟨other, _, _, hne, hpre⟩
        · rw [hfolder] at hold
          cases hold
        · exact file_not_above layout place other hplace hne hpre

include h h' hsame

theorem Filled.hasFolder_eq (path : Path) : now.hasFolder path = now'.hasFolder path := by
  rw [Bool.eq_iff_iff, h.folder, h'.folder]
  simp only [hsame]

theorem Filled.hasFile_eq (path : Path) : now.hasFile path = now'.hasFile path := by
  rw [Bool.eq_iff_iff, h.hasFile_iff, h'.hasFile_iff]
  simp only [hsame]

/-- Where a note can have but one text, it has it. -/
theorem Filled.textAt?_eq {path : Path}
    (hfixed : ∀ place ∈ places, ∀ other ∈ places, ∀ text text',
      (place.location layout).file.same path = true →
      (other.location layout).file.same path = true →
      may place.1 place.2.toDay text → may other.1 other.2.toDay text' → text = text') :
    now.textAt? path = now'.textAt? path := by
  cases hbefore : before.has path with
  | true => rw [h.old path hbefore, h'.old path hbefore]
  | false =>
    have hfile := h.hasFile_eq h' hsame path
    rw [Memory.hasFile_eq, Memory.hasFile_eq] at hfile
    cases htext : now.textAt? path with
    | none =>
      rw [htext] at hfile
      exact (Option.isSome_eq_false_iff.mp hfile.symm |> Option.isNone_iff_eq_none.mp).symm
    | some text =>
      rw [htext] at hfile
      obtain ⟨text', htext'⟩ := Option.isSome_iff_exists.mp hfile.symm
      obtain ⟨place, hmem, hplace, hmay⟩ := h.new path text hbefore htext
      obtain ⟨other, hmem', hother, hmay'⟩ := h'.new path text' hbefore htext'
      rw [htext', hfixed place hmem other ((hsame other).mpr hmem') text text' hplace hother hmay
        hmay']

end Same

/-! ## One run -/

section Runs

variable {journal : Journal} {toggles : Toggles} {w : World Memory} {date : Date} (host : Host Memory)

/-- With sections the text of a day note is only drawn for. -/
theorem perform_dayText (hbuilder : journal.builder = .sections toggles)
    (hfull : journal.library.Full) (day : Day) (w : World Memory) :
    ∃ text session, World.perform Memory.answer host (journal.dayText day) w
        = (.ok text, { w with session })
      ∧ NoteText toggles journal.library .day day text := by
  obtain ⟨layout, library, builder⟩ := journal
  obtain rfl : builder = .sections toggles := hbuilder
  obtain ⟨text, htext⟩ := BodyBuilder.renderSections_ok toggles day hfull w.session.selector
  refine ⟨text, (w.session.answer
    (.render (BodyBuilder.renderSections toggles ⟨day, library⟩))).2, ?_, w.session.selector, htext⟩
  refine Prod.ext (Eq.trans ?_ htext) rfl
  rfl

/-- A note with a text of its own comes to be there. -/
theorem perform_note {m : Memory} (period : Period) (text : String) (s : Session)
    (hclear : before.hasFile (journal.layout.locate period date.toDay).folder = false)
    (hmay : may period date.toDay text) (h : Filled journal.layout may before places m) :
    ∃ done m', World.perform Memory.answer host
        (tryOnStorage (ensureAt (journal.layout.locate period date.toDay) text)) ⟨m, s⟩
          = (.ok done, ⟨m', s⟩)
      ∧ m'.has (journal.layout.locate period date.toDay).folder = true
      ∧ Filled journal.layout may before ((period, date) :: places) m' := by
  have hfits := journal.layout.locate_fits period date.toDay
  obtain ⟨done, hrun⟩ := run_ensureAt m hfits text (h.hasFile_folder (period, date) hclear)
  refine ⟨done, m.withNote (journal.layout.locate period date.toDay) text, ?_,
    Memory.has_withNote_folder hfits.folder, h.step (period, date) text hclear hmay⟩
  rw [perform_tryOnStorage, hrun]

/-- The day note comes to be there with a text that may be drawn for it. -/
theorem perform_dayNote (hbuilder : journal.builder = .sections toggles)
    (hfull : journal.library.Full) {m : Memory} (s : Session)
    (hclear : before.hasFile (journal.layout.locate .day date.toDay).folder = false)
    (hthere : m.has (journal.layout.locate .day date.toDay).folder = true)
    (h : Filled journal.layout (NoteText toggles journal.library) before places m) :
    ∃ done w', World.perform Memory.answer host (journal.ensureDay date.toDay) ⟨m, s⟩
        = (.ok done, w')
      ∧ Filled journal.layout (NoteText toggles journal.library) before ((.day, date) :: places)
        w'.outside := by
  have hlook : World.perform Memory.answer host
      (onStorage (Storage.isPresent (journal.layout.locate .day date.toDay).file)).always ⟨m, s⟩
        = (.ok (m.has (journal.layout.locate .day date.toDay).file), ⟨m, s⟩) := rfl
  rw [ensureDay_eq]
  cases hhas : m.has (journal.layout.locate .day date.toDay).file with
  | true =>
    rw [hhas] at hlook
    refine ⟨.present, ⟨m, s⟩, World.perform_ok _ hlook, ?_⟩
    -- to make a note that is there is to do nothing
    obtain ⟨text, htext⟩ := BodyBuilder.renderSections_ok toggles date.toDay hfull s.selector
    have hfolder := Memory.withFolder_of_has hthere
    have hnote : (m.withFolder (journal.layout.locate .day date.toDay).folder).has
        (journal.layout.locate .day date.toDay).file = true := by
      rw [hfolder]
      exact hhas
    have hsame : m.withNote (journal.layout.locate .day date.toDay) text = m :=
      (Memory.withNote_of_has hnote).trans hfolder
    have hstep := h.step (.day, date) text hclear ⟨s.selector, htext⟩
    exact hsame ▸ hstep
  | false =>
    rw [hhas] at hlook
    obtain ⟨text, session, htext, hmay⟩ := perform_dayText host hbuilder hfull date.toDay ⟨m, s⟩
    obtain ⟨done, m', hdone, _, hfilled⟩ := perform_note host .day text session hclear hmay h
    refine ⟨done, ⟨m', session⟩, ?_, hfilled⟩
    rw [World.perform_ok _ hlook]
    exact (World.perform_ok _ htext).trans hdone

/-- The notes of a date. -/
def placesOf (date : Date) : List Place :=
  [(.day, date), (.month, date), (.year, date)]

/-- A run completes and makes the notes of its date. -/
theorem ensureFor_fills (hbuilder : journal.builder = .sections toggles)
    (hfull : journal.library.Full) (hfree : w.session.busy = false)
    (hclear : ∀ period, before.hasFile (journal.layout.locate period date.toDay).folder = false)
    (h : Filled journal.layout (NoteText toggles journal.library) before places w.outside) :
    ∃ report w', World.perform Memory.answer host (journal.ensureFor date.toDay) w
        = (.ok (.completed report), w')
      ∧ w'.session.busy = false
      ∧ Filled journal.layout (NoteText toggles journal.library) before (placesOf date ++ places)
        w'.outside := by
  obtain ⟨yearNote, m₁, hyear, _, hfilled⟩ := perform_note host .year Note.yearText
    (w.marked true).session (hclear .year) rfl h
  obtain ⟨monthNote, m₂, hmonth, hfolder, hfilled⟩ := perform_note host .month
    (Note.monthText date.toDay) (w.marked true).session (hclear .month) rfl hfilled
  obtain ⟨dayNote, w₃, hday, hfilled⟩ := perform_dayNote host hbuilder hfull
    (w.marked true).session (hclear .day) hfolder hfilled
  obtain ⟨report, hmade⟩ : ∃ report,
      World.perform Memory.answer host (journal.materialize date.toDay) (w.marked true)
        = (.ok report, w₃) := by
    refine ⟨⟨date.toDay, yearNote, monthNote, dayNote,
      (journal.layout.locate .day date.toDay).file⟩, (World.perform_ok _ hyear).trans ?_⟩
    rw [World.perform_ok _ hmonth, World.perform_ok _ hday]
    rfl
  refine ⟨report, w₃.marked false, ?_, rfl, hfilled⟩
  rw [ensureFor, perform_alone _ _ hfree, hmade]
  rfl

end Runs

/-! ## Many runs -/

/-- The notes of dates are made, one date after another, in the same
surroundings. -/
def backfill (m : Moment Memory) (dates : List Date) : List (Event Memory) :=
  dates.map fun date => { m with call := .ensureFor date }

theorem Filled.congr {places' : List Place} (h : Filled layout may before places now)
    (hsame : ∀ place, place ∈ places ↔ place ∈ places') :
    Filled layout may before places' now where
  folder path := by simpa only [hsame] using h.folder path
  old := h.old
  new path text hfree htext := by simpa only [hsame] using h.new path text hfree htext
  there place hplace := h.there place ((hsame place).mpr hplace)

section Backfill

variable {journal : Journal} {toggles : Toggles} {m : Moment Memory} {w : World Memory}

/-- Every run completes, and in the end the memory has the notes of all dates. -/
theorem backfill_fills (hbuilder : journal.builder = .sections toggles)
    (hfull : journal.library.Full) (hm : m.backend = Memory.answer) {dates : List Date}
    (hclear : ∀ date ∈ dates, ∀ period,
      before.hasFile (journal.layout.locate period date.toDay).folder = false)
    (hfree : w.session.busy = false)
    (h : Filled journal.layout (NoteText toggles journal.library) before places w.outside) :
    (∀ earlier date later, dates = earlier ++ date :: later → ∃ report,
      m.outcome journal (.ensureFor date) (afterAll journal (backfill m earlier) w)
        = .ok (.completed report))
    ∧ Filled journal.layout (NoteText toggles journal.library) before
      (dates.flatMap placesOf ++ places) (afterAll journal (backfill m dates) w).outside := by
  induction dates generalizing w places with
  | nil => exact ⟨fun earlier date later hdates => by simp at hdates, h⟩
  | cons date dates ih =>
    obtain ⟨report, w', hrun, hfree', hfilled⟩ := ensureFor_fills m.host hbuilder hfull hfree
      (hclear date List.mem_cons_self) h
    rw [← hm] at hrun
    have hafter : Event.after journal { m with call := .ensureFor date } w = w' :=
      congrArg Prod.snd hrun
    obtain ⟨hcompleted, hfilled⟩ :=
      ih (fun date hdate => hclear date (List.mem_cons_of_mem _ hdate)) hfree' hfilled
    constructor
    · intro earlier date' later hdates
      cases earlier with
      | nil =>
        obtain ⟨rfl, _⟩ := List.cons.inj hdates
        exact ⟨report, congrArg Prod.fst hrun⟩
      | cons first earlier =>
        obtain ⟨rfl, hrest⟩ := List.cons.inj hdates
        rw [backfill, List.map_cons, afterAll_cons, hafter]
        exact hcompleted earlier date' later hrest
    · rw [backfill, List.map_cons, afterAll_cons, hafter]
      refine hfilled.congr fun place => ?_
      simp only [List.flatMap_cons, List.mem_append]
      rw [← or_assoc, or_comm (a := place ∈ dates.flatMap placesOf)]

theorem mem_places {dates : List Date} {place : Place} :
    place ∈ dates.flatMap placesOf ↔ place.2 ∈ dates := by
  rw [List.mem_flatMap]
  constructor
  · rintro ⟨date, hdate, hplace⟩
    simp only [placesOf, List.mem_cons, List.not_mem_nil, or_false] at hplace
    rcases hplace with rfl | rfl | rfl <;> exact hdate
  · obtain ⟨period, date⟩ := place
    exact fun hdate => ⟨date, hdate, by cases period <;> simp [placesOf]⟩

/-- In one place there is but one text, unless it was drawn. -/
theorem noteText_fixed {library : Library} {place other : Place} {text text' : String}
    (hsame : (place.location layout).file.same (other.location layout).file = true)
    (hday : place.1 = .day → library.Steady toggles)
    (h : NoteText toggles library place.1 place.2.toDay text)
    (h' : NoteText toggles library other.1 other.2.toDay text') : text = text' := by
  obtain ⟨period, a⟩ := place
  obtain ⟨period', b⟩ := other
  obtain ⟨hperiod, hagree⟩ := (layout.file_same_iff a.isReal b.isReal).mp hsame
  obtain rfl : period = period' := hperiod
  cases period with
  | year => exact Eq.trans h (Eq.symm h')
  | month =>
    have hmonth : Note.monthText a.toDay = Note.monthText b.toDay := by
      simp only [Note.monthText, Note.yearLink, Day.yearId, hagree.1]
    exact (Eq.trans h hmonth).trans (Eq.symm h')
  | day =>
    obtain ⟨fixed, hfixed⟩ := BodyBuilder.renderSections_steady (hday rfl) a.toDay
    obtain ⟨selector, h⟩ := h
    obtain ⟨selector', h'⟩ := h'
    have hsameDay : a.toDay = b.toDay := hagree
    rw [hsameDay] at hfixed
    have htext : fixed = text := Except.ok.inj ((hfixed selector).symm.trans (hsameDay ▸ h))
    exact htext.symm.trans (Except.ok.inj ((hfixed selector').symm.trans h'))

end Backfill

/-- Runs for many dates, without faults and with notes composed of sections, all
complete. In which order and how often the dates come does not matter for the
paths that there are in the end, nor for the texts of the notes of years and
months; and if no section that is turned on has a choice, it does not matter
for any text. All that is asked of the storage is that no file is in the place
of a folder that the dates need. -/
theorem backfill_any_order (journal : Journal) {toggles : Toggles}
    (hbuilder : journal.builder = .sections toggles) (hfull : journal.library.Full)
    (m : Moment Memory) (hm : m.backend = Memory.answer) {dates dates' : List Date}
    (hsame : ∀ date, date ∈ dates ↔ date ∈ dates') {w w' : World Memory}
    (hout : w'.outside = w.outside) (hfree : w.session.busy = false)
    (hfree' : w'.session.busy = false)
    (hclear : ∀ date ∈ dates, ∀ period,
      w.outside.hasFile (journal.layout.locate period date.toDay).folder = false) :
    let ended := (afterAll journal (backfill m dates) w).outside
    let ended' := (afterAll journal (backfill m dates') w').outside
    (∀ earlier date later, dates = earlier ++ date :: later → ∃ report,
      m.outcome journal (.ensureFor date) (afterAll journal (backfill m earlier) w)
        = .ok (.completed report))
    ∧ (∀ path, ended.hasFile path = ended'.hasFile path
      ∧ ended.hasFolder path = ended'.hasFolder path)
    ∧ (∀ (date : Date) (period : Period), period ≠ .day →
      ended.textAt? (journal.layout.locate period date.toDay).file
        = ended'.textAt? (journal.layout.locate period date.toDay).file)
    ∧ (journal.library.Steady toggles → ∀ path, ended.textAt? path = ended'.textAt? path) := by
  intro ended ended'
  have hstart : Filled journal.layout (NoteText toggles journal.library) w.outside [] w.outside :=
    .start _
  obtain ⟨hcompleted, h⟩ := backfill_fills hbuilder hfull hm hclear hfree hstart
  have hstart' : Filled journal.layout (NoteText toggles journal.library) w.outside [] w'.outside :=
    hout ▸ hstart
  obtain ⟨_, h'⟩ := backfill_fills hbuilder hfull hm
    (fun date hdate => hclear date ((hsame date).mpr hdate)) hfree' hstart'
  have hplaces : ∀ place, place ∈ dates.flatMap placesOf ++ []
      ↔ place ∈ dates'.flatMap placesOf ++ [] := by
    intro place
    rw [List.append_nil, List.append_nil, mem_places, mem_places, hsame]
  refine ⟨hcompleted, fun path => ⟨h.hasFile_eq h' hplaces path, h.hasFolder_eq h' hplaces path⟩,
    ?_, ?_⟩
  · intro date period hperiod
    refine h.textAt?_eq h' hplaces fun place _ other _ text text' hplace hother hmay hmay' => ?_
    refine noteText_fixed (Path.same_trans hplace ?_) (fun hday => ?_) hmay hmay'
    · rw [Path.same_comm]
      exact hother
    · have hplace' := (journal.layout.file_same_iff place.2.isReal date.isReal).mp hplace
      exact absurd (hplace'.1.symm.trans hday) hperiod
  · intro hsteady path
    refine h.textAt?_eq h' hplaces fun place _ other _ text text' hplace hother hmay hmay' => ?_
    refine noteText_fixed (Path.same_trans hplace ?_) (fun _ => hsteady) hmay hmay'
    rw [Path.same_comm]
    exact hother

theorem backfill_any_order_two_dates :
    let journal : Journal :=
      ⟨.under ⟨"notes"⟩, ⟨[⟨"Begin.", "Seneca"⟩], [⟨"Breathe."⟩]⟩, .sections .allOn⟩
    let may : Date := ⟨⟨2024, 5, 31⟩, by decide⟩
    let june : Date := ⟨⟨2024, 6, 1⟩, by decide⟩
    let moment : Moment Memory := ⟨june, Memory.answer, fun _ _ => .ok ()⟩
    let memory : Memory := ⟨[(⟨"notes/2024/2024.md"⟩, "my year")], [⟨"notes"⟩, ⟨"notes/2024"⟩]⟩
    let w : World Memory := ⟨memory, .start (.seeded 7)⟩
    let w' : World Memory := ⟨memory, .start (.seeded 9)⟩
    let ended := (afterAll journal (backfill moment [may, june, may]) w).outside
    let ended' := (afterAll journal (backfill moment [june, may]) w').outside
    (∀ date, date ∈ [may, june, may] ↔ date ∈ [june, may]) ∧ journal.library.Full
      ∧ (∀ date ∈ [may, june, may], ∀ period,
        memory.hasFile (journal.layout.locate period date.toDay).folder = false)
      ∧ w'.outside = w.outside ∧ w.session.busy = false ∧ w'.session.busy = false
      ∧ ended.textAt? ⟨"notes/2024/May2024/20240531.md"⟩
        = ended'.textAt? ⟨"notes/2024/May2024/20240531.md"⟩ := by
  intro journal may june moment memory w w' ended ended'
  have hsame : ∀ date, date ∈ [may, june, may] ↔ date ∈ [june, may] := by
    intro date
    simp only [List.mem_cons, List.not_mem_nil, or_false]
    constructor
    · rintro (h | h | h)
      · exact .inr h
      · exact .inl h
      · exact .inr h
    · rintro (h | h)
      · exact .inr (.inl h)
      · exact .inl h
  have hfull : journal.library.Full := ⟨by simp [journal], by simp [journal]⟩
  have hclear : ∀ date ∈ [may, june, may], ∀ period,
      memory.hasFile (journal.layout.locate period date.toDay).folder = false := by
    intro date hdate period
    simp only [List.mem_cons, List.not_mem_nil, or_false] at hdate
    rcases hdate with rfl | rfl | rfl <;> cases period <;> decide +kernel
  have hsteady : journal.library.Steady .allOn :=
    ⟨fun _ => ⟨⟨"Begin.", "Seneca"⟩, rfl⟩, fun _ => ⟨⟨"Breathe."⟩, rfl⟩⟩
  have hout : w'.outside = w.outside := rfl
  have hfree : w.session.busy = false := rfl
  have hfree' : w'.session.busy = false := rfl
  refine ⟨hsame, hfull, hclear, hout, hfree, hfree', ?_⟩
  exact (backfill_any_order journal rfl hfull moment rfl hsame hout hfree hfree' hclear).2.2.2
    hsteady _

end Daybook.Journal
