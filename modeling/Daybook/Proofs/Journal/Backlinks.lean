/-
Daybook.Proofs.Journal.Backlinks — the links between notes lead somewhere.

A day note names the note of its month and a month note the note of its year, by
identifier and not by path. So that the link can be followed, the identifier
must be the stem of a file, and of one file only. The three come from different
places: the text from the composer or from a template, the path from the layout,
and what files there are from everything that was done to the storage.

They meet in `back_links_resolve`. The text names the identifier that the date
has (`linkTargets_noteOf`); the note with that identifier was there before the
link was written (`NotesOnly.note`); and among notes the stem of a file tells the
place of the file (`Layout.file_same_of_fileStem?`), in which there is but one
(`NotesOnly.apart`).
-/
import Daybook.Proofs.Journal.Visits
import Daybook.Proofs.Note.Links

namespace Daybook

open Calendar (Date Day)
open Storage (Memory seen)

/-! ## 1. What the texts link to -/

namespace Template

/-- The default template stands for lines behind the head of a day note. -/
theorem defaultText_ensures (day : Day) (library : Library) :
    (defaultText day library).Ensures fun text => ∃ quote ∈ library.quotes,
      ∃ practice ∈ library.practices,
        text = Note.unlines (Note.dayHead day ++ defaultLines quote practice) := by
  refine (Library.pickFrom_ensures _ _).bind fun quote hquote => ?_
  refine (Library.pickFrom_ensures _ _).bind fun practice hpractice => ?_
  exact .pure ⟨quote, hquote, practice, hpractice, rfl⟩

theorem plain_defaultLines {library : Library} (h : library.OneLined) {quote : Quote}
    (hquote : quote ∈ library.quotes) {practice : Practice}
    (hpractice : practice ∈ library.practices) :
    ∀ line ∈ defaultLines quote practice, Note.Plain "Month" line := by
  have hheading : Note.Plain "Month" Note.quoteHeading := by decide +kernel
  have hempty : Note.Plain "Month" "" := by decide +kernel
  have hdelimiter : Note.Plain "Month" Note.delimiter := by decide +kernel
  simp only [defaultLines, List.mem_append, List.mem_cons, List.not_mem_nil, or_false]
  rintro line ((((rfl | hline) | rfl | rfl) | hline) | rfl)
  · exact hheading
  · exact Note.plain_quoteLines h hquote line hline
  · exact hempty
  · exact hdelimiter
  · exact Note.plain_practiceLines h hpractice line hline
  · exact hempty

end Template

/-- Without a template file the text of a day note has the head that links to the
month. -/
theorem BodyBuilder.renderPlain_head {builder : BodyBuilder} {day : Day} {library : Library}
    {selector : Selector} {text : String}
    (hbuiltin : ∀ registry, builder = .template registry → registry.HasBuiltin)
    (h : builder.renderPlain ⟨day, library⟩ selector = .ok text) :
    ∃ more, text = Note.unlines (Note.dayHead day ++ more)
      ∧ (library.OneLined → ∀ line ∈ more, Note.Plain "Month" line) := by
  cases builder with
  | sections toggles =>
    obtain ⟨blocks, htext, hblocks⟩ := Note.composeDay_ensures toggles day library selector text _
      (Prod.ext h rfl)
    exact ⟨_, htext, fun hlined => Note.plain_separated hlined hblocks⟩
  | template registry =>
    rw [renderPlain, Template.render_defaultDay (hbuiltin registry rfl)] at h
    obtain ⟨quote, hquote, practice, hpractice, htext⟩ :=
      Template.defaultText_ensures day library selector text _ (Prod.ext h rfl)
    exact ⟨_, htext, fun hlined => Template.plain_defaultLines hlined hquote hpractice⟩

namespace Journal

open Note (linkTargets)

variable {layout : Layout} {journal : Journal} {m : Memory}

/-- The first link of a day note is to its month. -/
theorem linkTargets_noteOf {day : Day} {text : String}
    (hbuiltin : ∀ registry, journal.builder = .template registry → registry.HasBuiltin)
    (h : NoteOf journal .day day text) : (linkTargets "Month" text).head? = some day.monthId
      ∧ (journal.library.OneLined → linkTargets "Month" text = [day.monthId]) := by
  obtain ⟨selector, hrender⟩ := h
  obtain ⟨more, rfl, hplain⟩ := BodyBuilder.renderPlain_head hbuiltin hrender
  rw [Note.linkTargets_dayHead]
  refine ⟨rfl, fun hlined => ?_⟩
  rw [Note.flatMap_linkTargets_of_plain (by decide) (hplain hlined)]

/-! ## 2. Where links lead -/

/-- Exactly one file has the identifier for its stem, the one at this path. -/
def Resolves (m : Memory) (id : String) (path : Path) : Prop :=
  (m.files.map (·.1)).filter (fun p => p.fileStem? == some id) = [path]

/-- Where no two elements bear with each other there is but one, if none bears
with any. -/
theorem eq_singleton_of_pairwise {α : Type} {R : α → α → Prop} {l : List α} (hl : l.Pairwise R)
    (hclash : ∀ a ∈ l, ∀ b ∈ l, ¬ R a b) {a : α} (ha : a ∈ l) : l = [a] := by
  match l, ha with
  | [b], ha => rw [List.mem_singleton.mp ha]
  | b :: c :: more, _ =>
    have hbc : R b c := (List.pairwise_cons.mp hl).1 c List.mem_cons_self
    exact absurd hbc (hclash b (by simp) c (by simp))

section

variable {wrote : Period → Date → String → Prop} (h : NotesOnly layout wrote m)
include h

/-- A note that is there is written as the layout writes it. -/
theorem NotesOnly.mem_paths {period : Period} {date : Date}
    (hthere : m.hasFile (layout.locate period date.toDay).file = true) :
    (layout.locate period date.toDay).file ∈ m.files.map (·.1) := by
  obtain ⟨file, hfile, hsame⟩ := List.any_eq_true.mp hthere
  obtain ⟨p, d, hpath, _⟩ := h.note file hfile
  rw [hpath] at hsame
  obtain ⟨rfl, hagree⟩ := (layout.file_same_iff d.isReal date.isReal).mp hsame
  rw [← layout.locate_congr hagree, ← hpath]
  exact List.mem_map_of_mem hfile

/-- The identifier of a note that is there leads to it. -/
theorem NotesOnly.resolves {period : Period} {date : Date}
    (hthere : m.hasFile (layout.locate period date.toDay).file = true) :
    Resolves m (Layout.noteId period date.toDay) (layout.locate period date.toDay).file := by
  have hapart : (m.files.map (·.1)).Pairwise fun p q => p.same q = false :=
    List.pairwise_map.mpr h.apart
  refine eq_singleton_of_pairwise (hapart.filter _) (fun p hp q hq hpq => ?_) ?_
  · -- what has the stem is a note, so it is in the place of every other that has it
    rw [List.mem_filter, beq_iff_eq] at hp hq
    obtain ⟨⟨file, hfile, rfl⟩, hstem⟩ := hp.imp_left List.mem_map.mp
    obtain ⟨⟨file', hfile', rfl⟩, hstem'⟩ := hq.imp_left List.mem_map.mp
    obtain ⟨p, d, hpath, _⟩ := h.note file hfile
    obtain ⟨p', d', hpath', _⟩ := h.note file' hfile'
    rw [hpath] at hstem hpq
    rw [hpath'] at hstem' hpq
    have hsame := layout.file_same_of_fileStem? (hstem.trans hstem'.symm)
    exact Bool.false_ne_true (hpq.symm.trans hsame)
  · rw [List.mem_filter, beq_iff_eq]
    exact ⟨h.mem_paths hthere, layout.fileStem?_file period date.toDay⟩

end

theorem liesIn_of_childOf {path folder : Path} {name : String} (h : path.ChildOf folder name) :
    Memory.liesIn folder path = true := by
  obtain ⟨parent, hparent, hsame⟩ := h.parent
  rw [Memory.liesIn, hparent]
  exact hsame

/-- After any calls of any journals that keep their notes below one root, through
any faults, all that is stored is notes, and the stem of a note is the
identifier of the place that it was made for. The first link in a day note is the
identifier of exactly one file, which is the month note in the same folder; there
is no other link to a month in it, if no text in the library runs over several
lines. The link in a month note is the identifier of exactly one file, which is
the year note in the folder above. -/
theorem back_links_resolve (layout : Layout) (visits : List Visit)
    (hover : ∀ v ∈ visits, v.Over layout) :
    let ended := afterVisits visits .empty
    ∀ note ∈ ended.files, ∃ v ∈ visits, ∃ period,
      note.1 = (layout.locate period v.date.toDay).file
      ∧ note.1.fileStem? = some (layout.locate period v.date.toDay).id
      ∧ (period = .day → ∃ id, (linkTargets "Month" note.2).head? = some id
        ∧ (v.journal.library.OneLined → linkTargets "Month" note.2 = [id])
        ∧ Resolves ended id (layout.locate .month v.date.toDay).file
        ∧ ∃ folder, Memory.liesIn folder note.1 = true
          ∧ Memory.liesIn folder (layout.locate .month v.date.toDay).file = true)
      ∧ (period = .month → ∃ id, linkTargets "Year" note.2 = [id]
        ∧ Resolves ended id (layout.locate .year v.date.toDay).file
        ∧ ∃ folder upper, Memory.liesIn folder note.1 = true ∧ Memory.liesIn upper folder = true
          ∧ Memory.liesIn upper (layout.locate .year v.date.toDay).file = true) := by
  intro ended note hnote
  let wrote : Period → Date → String → Prop := fun period date text =>
    ∃ v ∈ visits, v.date = date ∧ NoteOf v.journal period date.toDay text
  have h : NotesOnly layout wrote ended :=
    notesOnly_visits hover .empty fun v hv period text htext => ⟨v, hv, rfl, htext⟩
  obtain ⟨period, date, hpath, ⟨v, hv, rfl, htext⟩, habove⟩ := h.note note hnote
  refine ⟨v, hv, period, hpath, ?_, ?_, ?_⟩
  · rw [hpath]
    exact layout.fileStem?_file period v.date.toDay
  · rintro rfl
    obtain ⟨hfirst, honly⟩ := linkTargets_noteOf
      (fun registry hbuilder => ((hover v hv).template registry hbuilder).2) htext
    have hchild := layout.file_childOf .day v.date.toDay
    have hchild' := layout.file_childOf .month v.date.toDay
    rw [← hpath] at hchild
    exact ⟨_, hfirst, honly, h.resolves (habove .month (by simp [above])), _,
      liesIn_of_childOf hchild, liesIn_of_childOf hchild'⟩
  · rintro rfl
    have htext : note.2 = Note.monthText v.date.toDay := htext
    have hchild := layout.file_childOf .month v.date.toDay
    have hchild' := layout.file_childOf .year v.date.toDay
    have hfolder : (layout.folder .month v.date.toDay).ChildOf (layout.folder .year v.date.toDay)
        v.date.toDay.monthId := Path.join_childOf _ (Layout.isName_monthId _)
    rw [← hpath] at hchild
    rw [htext]
    exact ⟨_, Note.linkTargets_monthText _, h.resolves (habove .year (by simp [above])), _, _,
      liesIn_of_childOf hchild, liesIn_of_childOf hfolder, liesIn_of_childOf hchild'⟩

theorem back_links_resolve_two_journals :
    let layout : Layout := .under ⟨"notes/"⟩
    let library : Library := ⟨[⟨"Begin.\nMonth: [[Never]]", "Seneca"⟩], [⟨"Breathe."⟩]⟩
    let calls (builder : BodyBuilder) (date : Date) : Visit :=
      ⟨⟨layout, library, builder⟩, .start (.seeded 7),
        ⟨⟨date, seen Storage.Faults.none, fun _ _ => .ok ()⟩, .ensureFor date⟩⟩
    let visits := [calls (.sections ⟨false, true, true, false⟩) ⟨⟨-5, 1, 1⟩, by decide⟩,
      calls (.template .builtin) ⟨⟨12024, 2, 29⟩, by decide⟩]
    (∀ v ∈ visits, v.Over layout)
      ∧ ∃ note ∈ (afterVisits visits .empty).files,
        note.1 = ⟨"notes/12024/February12024/120240229.md"⟩
        ∧ note.1.fileStem? = some "120240229"
        ∧ ∃ id, (linkTargets "Month" note.2).head? = some id
          ∧ Resolves (afterVisits visits .empty) id ⟨"notes/12024/February12024/February12024.md"⟩ := by
  intro layout library calls visits
  have hover : ∀ v ∈ visits, v.Over layout := by
    simp only [visits, List.forall_mem_cons, List.not_mem_nil, false_imp_iff, implies_true,
      and_true]
    refine ⟨⟨rfl, nofun, _, rfl⟩, rfl, ?_, _, rfl⟩
    rintro registry ⟨⟩
    exact ⟨rfl, Template.Registry.hasBuiltin_builtin⟩
  have hthere : ∃ note ∈ (afterVisits visits .empty).files,
      note.1 = ⟨"notes/12024/February12024/120240229.md"⟩ := by decide +kernel
  obtain ⟨note, hnote, hpath⟩ := hthere
  obtain ⟨v, hv, period, hplace, hstem, hmonth, _⟩ :=
    back_links_resolve layout visits hover note hnote
  rw [hpath] at hplace
  -- only the day note of the second visit is at this path
  have hday : period = .day ∧ v.date.toDay = ⟨12024, 2, 29⟩ := by
    simp only [visits, List.mem_cons, List.not_mem_nil, or_false] at hv
    rcases hv with rfl | rfl <;> cases period
    case inr.day => exact ⟨rfl, rfl⟩
    all_goals exact absurd hplace (by decide +kernel)
  obtain ⟨rfl, hdate⟩ := hday
  rw [hdate] at hstem hmonth
  obtain ⟨id, hlink, _, hresolves, _⟩ := hmonth rfl
  have hfile : (layout.locate .month ⟨12024, 2, 29⟩).file
      = ⟨"notes/12024/February12024/February12024.md"⟩ := by decide +kernel
  rw [hfile] at hresolves
  exact ⟨hover, note, hnote, hpath, hstem.trans (by decide +kernel), id, hlink, hresolves⟩

end Journal

end Daybook
