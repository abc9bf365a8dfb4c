/-
Daybook.Proofs.Journal.Visits — what journals leave in a memory that was empty.

A visit is a call of a journal. From visit to visit everything may be another:
the journal, its library and its builder, what its session keeps, the faults of
the storage. Only the layout stays, and so do the places of the notes.

What the visits leave is described by `NotesOnly`: notes, each with the notes of
the longer periods above it, and the folders that they lie in. One answer to a
call keeps that (`NotesOnly.answer`), because a call makes a note only after it
was shown those above it, and because the replies that it was given are true
(`Present`, `Honest`). From there it goes to one visit by the rule of calls and
to many by induction (`notesOnly_visits`).

In such a memory there is no template, so a day note has a text that the builder
makes without one (`NoteOf`).
-/
import Daybook.Proofs.Journal.Events
import Daybook.Proofs.Journal.Ensure
import Daybook.Proofs.Layout.Identity
import Daybook.Proofs.Template.Default

namespace Daybook

open Calendar (Date Day)
open Storage (Memory seen)

/-- What the builder makes of a day where there is no template file. -/
def BodyBuilder.renderPlain (builder : BodyBuilder) (context : Template.Context)
    (selector : Selector) : Except JournalError String :=
  match builder with
  | .sections toggles => (renderSections toggles context selector).outcome
  | .template registry => (registry.render context Template.defaultDay selector).outcome

namespace Journal

/-- The text is one that the journal can give to a note where there is no
template file. -/
def NoteOf (journal : Journal) : Period → Day → String → Prop
  | .year, _, text => text = Note.yearText
  | .month, day, text => text = Note.monthText day
  | .day, day, text =>
    ∃ selector, journal.builder.renderPlain ⟨day, journal.library⟩ selector = .ok text

/-! ## 1. Replies that are true -/

/-- Every text that was put together is one that its rendering gives. -/
def Honest (past : Past) : Prop :=
  ∀ rendering reply, (⟨.keep (.render rendering), reply⟩ : Exchange interface) ∈ past →
    ∃ selector, reply = (rendering selector).outcome

theorem Honest.concat {past : Past} (h : Honest past) {q : Query} {reply : q.Reply}
    (hreply : ∀ rendering, q = .keep (.render rendering) →
      ∃ selector, HEq reply (rendering selector).outcome) : Honest (past ++ [⟨q, reply⟩]) := by
  intro rendering reply' hmem
  rcases List.mem_append.mp hmem with hmem | hmem
  · exact h rendering reply' hmem
  · cases List.mem_singleton.mp hmem
    obtain ⟨selector, heq⟩ := hreply rendering rfl
    exact ⟨selector, eq_of_heq heq⟩

/-- Where no template was shown, the text of a day note was made without one. -/
theorem noteOf_of_textOf {journal : Journal} {day : Day} {past : Past} {period : Period}
    {text : String} (htext : TextOf journal day past period text) (hhonest : Honest past)
    (hplain : ∀ registry, journal.builder = .template registry →
      ¬ Known past journal.layout.templatePath) : NoteOf journal period day text := by
  cases period with
  | year => exact htext
  | month => exact htext
  | day =>
    obtain ⟨before, during, after, rfl, hends⟩ := htext
    obtain ⟨layout, library, builder⟩ := journal
    cases builder with
    | sections toggles =>
      obtain ⟨reply, more, rfl, hdone⟩ := Procedure.reply_of_ends_ask hends
      obtain ⟨selector, hreply⟩ := hhonest _ reply (by simp)
      exact ⟨selector, hreply.symm.trans (Procedure.eq_of_ends_done hdone).2.symm⟩
    | template registry =>
      obtain ⟨there, more, rfl, hrest⟩ := Procedure.reply_of_ends_ask hends
      cases (there : Bool) with
      | true =>
        refine absurd ?_ (hplain registry rfl)
        exact ⟨⟨.storage (.isPresent layout.templatePath), true⟩, by simp, rfl, rfl⟩
      | false =>
        obtain ⟨reply, more', rfl, hdone⟩ := Procedure.reply_of_ends_ask hrest
        obtain ⟨selector, hreply⟩ := hhonest _ reply (by simp)
        exact ⟨selector, hreply.symm.trans (Procedure.eq_of_ends_done hdone).2.symm⟩

/-! ## 2. Memories with notes and nothing else -/

/-- The memory has notes, each below the notes of the longer periods, and the
folders that they need. -/
structure NotesOnly (layout : Layout) (wrote : Period → Date → String → Prop) (m : Memory) :
    Prop where
  note : ∀ file ∈ m.files, ∃ period date, file.1 = (layout.locate period date.toDay).file
    ∧ wrote period date file.2
    ∧ ∀ p ∈ above period, m.hasFile (layout.locate p date.toDay).file = true
  folder : ∀ path, m.hasFolder path = true → ∃ period, ∃ date : Date,
    ∃ a ∈ (layout.folder period date.toDay).ancestors, a.same path = true
  /-- No two files are in one place. -/
  apart : m.files.Pairwise fun a b => a.1.same b.1 = false

namespace NotesOnly

variable {layout : Layout} {wrote : Period → Date → String → Prop} {m : Memory}

theorem empty : NotesOnly layout wrote .empty where
  note _ h := absurd h List.not_mem_nil
  folder _ h := absurd h (by simp [Memory.hasFolder, Memory.empty])
  apart := .nil

section

variable (h : NotesOnly layout wrote m)
include h

/-- What is in the place of a note is a file. -/
theorem hasFile_of_has {period : Period} {date : Date}
    (hhas : m.has (layout.locate period date.toDay).file = true) :
    m.hasFile (layout.locate period date.toDay).file = true := by
  rw [Memory.has, Bool.or_eq_true] at hhas
  refine hhas.resolve_right fun hfolder => ?_
  obtain ⟨p, d, a, ha, hsame⟩ := h.folder _ hfolder
  exact Bool.false_ne_true ((layout.not_same_of_ancestor ha).symm.trans hsame)

theorem no_template (htemplate : layout.templateFile = Layout.defaultTemplateFile) :
    m.has layout.templatePath = false := by
  rw [Memory.has, Bool.or_eq_false_iff, ← Bool.not_eq_true, ← Bool.not_eq_true]
  constructor
  · intro hfile
    obtain ⟨file, hmem, hsame⟩ := List.any_eq_true.mp hfile
    obtain ⟨period, date, hpath, _⟩ := h.note file hmem
    rw [hpath] at hsame
    exact Bool.false_ne_true ((Layout.file_not_template htemplate _ _).symm.trans hsame)
  · intro hfolder
    obtain ⟨period, date, a, ha, hsame⟩ := h.folder _ hfolder
    exact Bool.false_ne_true ((Layout.not_template_of_ancestor htemplate ha).symm.trans hsame)

/-- A note is put into a free place below the notes that it belongs to. -/
theorem put {period : Period} {date : Date} {text : String}
    (hfree : m.has (layout.locate period date.toDay).file = false)
    (habove : ∀ p ∈ above period, m.has (layout.locate p date.toDay).file = true)
    (hwrote : wrote period date text) :
    NotesOnly layout wrote (m.put (layout.locate period date.toDay).file text) := by
  have hnew : m.hasFile (layout.locate period date.toDay).file = false :=
    (Bool.or_eq_false_iff.mp hfree).1
  have hfiles := Memory.files_put hnew text
  have hkept : ∀ path, m.hasFile path = true →
      (m.put (layout.locate period date.toDay).file text).hasFile path = true := by
    intro path hpath
    rw [Memory.hasFile, hfiles, List.any_append]
    exact Bool.or_eq_true_iff.mpr (.inl hpath)
  refine ⟨fun file hfile => ?_, h.folder, ?_⟩
  · rw [hfiles, List.mem_append, List.mem_singleton] at hfile
    rcases hfile with hfile | rfl
    · obtain ⟨p, d, hpath, htext, hover⟩ := h.note file hfile
      exact ⟨p, d, hpath, htext, fun q hq => hkept _ (hover q hq)⟩
    · exact ⟨period, date, rfl, hwrote, fun q hq => hkept _ (h.hasFile_of_has (habove q hq))⟩
  · rw [hfiles, List.pairwise_append]
    refine ⟨h.apart, List.pairwise_singleton _ _, fun file hfile new hmem => ?_⟩
    rw [List.mem_singleton.mp hmem]
    exact Bool.eq_false_iff.mpr fun hsame =>
      Bool.false_ne_true (hnew.symm.trans (List.any_eq_true.mpr ⟨file, hfile, hsame⟩))

theorem addFolders (period : Period) (date : Date) :
    NotesOnly layout wrote (m.addFolders (layout.folder period date.toDay)) := by
  have hfiles := m.files_addFolders (layout.folder period date.toDay)
  refine ⟨fun file hfile => ?_, fun path hpath => ?_, ?_⟩
  · rw [hfiles] at hfile
    simpa only [Memory.hasFile, hfiles] using h.note file hfile
  · rcases Memory.hasFolder_of_addFolders hpath with hpath | hpath
    · exact h.folder path hpath
    · exact ⟨period, date, hpath⟩
  · rw [hfiles]
    exact h.apart

end

/-- One answer to a call, under any faults. -/
theorem answer {journal : Journal} (h : NotesOnly journal.layout wrote m) {date : Date}
    {past : Past} {q : Storage.Query} (hq : MayCall journal date.toDay past (.storage q))
    (hpresent : Present past m) (hhonest : Honest past)
    (htemplate : ∀ registry, journal.builder = .template registry →
      journal.layout.templateFile = Layout.defaultTemplateFile)
    (hwrote : ∀ period text, NoteOf journal period date.toDay text → wrote period date text)
    (faults : Storage.Faults) : NotesOnly journal.layout wrote (seen faults q m).2 := by
  rcases Storage.answer_cases faults q m with hsame | ⟨path, text, rfl, hfree, _, hput⟩
      | ⟨folder, rfl, _, hmade⟩ | ⟨path, text, rfl, _⟩
  · rw [hsame]
    exact h
  · obtain ⟨_, period, rfl, _, habove, htext⟩ := hq.create_inv
    have hplain : ∀ registry, journal.builder = .template registry →
        ¬ Known past journal.layout.templatePath := fun registry hbuilder hknown =>
      Bool.false_ne_true
        ((h.no_template (htemplate registry hbuilder)).symm.trans (hpresent _ hknown))
    rw [hput]
    exact h.put hfree (fun p hp => hpresent _ (habove p hp))
      (hwrote period text (noteOf_of_textOf htext hhonest hplain))
  · obtain ⟨period, rfl⟩ := hq.makeFolders_inv
    rw [hmade]
    exact h.addFolders period date
  · exact absurd hq.not_overwrites (by simp [Storage.Query.overwrites])

end NotesOnly

/-! ## 3. Visits -/

/-- A call of a journal whose session is in some state. -/
structure Visit where
  journal : Journal
  session : Session
  event : Event Memory

namespace Visit

/-- The date whose notes the visit makes, if it makes any. -/
def date (v : Visit) : Date := v.event.date

/-- What the visit leaves of a memory. -/
def after (v : Visit) (m : Memory) : Memory :=
  (v.event.after v.journal ⟨m, v.session⟩).outside

/-- The visit is to a memory, through some faults, and keeps its notes in this
layout. If it makes them from a template, the file for it has the usual name and
the built-in tokens are what they are. -/
structure Over (layout : Layout) (v : Visit) : Prop where
  same : v.journal.layout = layout
  template : ∀ registry, v.journal.builder = .template registry →
    layout.templateFile = Layout.defaultTemplateFile ∧ registry.HasBuiltin
  faults : ∃ faults, v.event.backend = seen faults

end Visit

/-- What visits leave of a memory, the first one first. -/
def afterVisits (visits : List Visit) (m : Memory) : Memory :=
  visits.foldl (fun m v => v.after m) m

section Visits

variable {layout : Layout} {wrote : Period → Date → String → Prop} {m : Memory}

theorem Visit.notesOnly {v : Visit} (hv : v.Over layout) (h : NotesOnly layout wrote m)
    (hwrote : ∀ period text, NoteOf v.journal period v.date.toDay text → wrote period v.date text) :
    NotesOnly layout wrote (v.after m) := by
  obtain ⟨rfl, htemplate, faults, hfaults⟩ := hv
  have hstep : ∀ past q (w : World Memory), MayCall v.journal v.date.toDay past q →
      NotesOnly v.journal.layout wrote w.outside ∧ Present past w.outside ∧ Honest past →
      NotesOnly v.journal.layout wrote (v.event.answer q w).2.outside
        ∧ Present (past ++ [⟨q, (v.event.answer q w).1⟩]) (v.event.answer q w).2.outside
        ∧ Honest (past ++ [⟨q, (v.event.answer q w).1⟩]) := by
    rintro past q w hq ⟨hnotes, hpresent, hhonest⟩
    cases q with
    | storage q =>
      simp only [Moment.answer, World.answer, hfaults]
      refine ⟨hnotes.answer hq hpresent hhonest (fun registry hbuilder =>
        (htemplate registry hbuilder).1) hwrote faults, hpresent.told faults q, ?_⟩
      exact hhonest.concat nofun
    | openNote path => exact ⟨hnotes, hpresent.silent fun _ h => h, hhonest.concat nofun⟩
    | keep q =>
      refine ⟨hnotes, hpresent.silent fun _ h => h, hhonest.concat ?_⟩
      rintro rendering ⟨⟩
      exact ⟨w.session.selector, .rfl⟩
  have hstart : Present [] m := by
    rintro path ⟨e, he, _⟩
    cases he
  exact ((call_obeys v.journal v.event.today v.event.call).run_invariant hstep
    (s := ⟨m, v.session⟩) ⟨h, hstart, nofun⟩).1.1

/-- After any visits there are notes that they wrote and nothing else. -/
theorem notesOnly_visits {visits : List Visit} (hover : ∀ v ∈ visits, v.Over layout)
    (h : NotesOnly layout wrote m)
    (hwrote : ∀ v ∈ visits, ∀ period text, NoteOf v.journal period v.date.toDay text →
      wrote period v.date text) :
    NotesOnly layout wrote (afterVisits visits m) := by
  induction visits generalizing m with
  | nil => exact h
  | cons v visits ih =>
    rw [List.forall_mem_cons] at hover hwrote
    exact ih hover.2 (v.notesOnly hover.1 h hwrote.1) hwrote.2

end Visits

end Journal

end Daybook
