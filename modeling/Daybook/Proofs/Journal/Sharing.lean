/-
Daybook.Proofs.Journal.Sharing — journals that share one storage.

Any number of journals keep their notes below one root, each with a session
of its own, and each makes sure of the notes of some date. Their questions
are answered in any order. Nothing goes wrong, no creation is lost and none
happens twice: `shared_notes`.

The invariant is `Sharing`. It goes back and forth between the memory and
what the journals were told: what was created is there with its text, what
is there and was not there at the start was created, and no two journals
created one note. The storage decides who comes first, when it creates a
file; everybody else finds the note.
-/
import Daybook.Journal.Session
import Daybook.Proofs.Journal.Calls
import Daybook.Proofs.Note.Composed
import Daybook.Proofs.Procedure.Pool

namespace Daybook.Journal

open Calendar (Date Day)
open Procedure (Since)
open Storage (Faults Memory seen)

/-! ## The journals -/

/-- A journal that composes its notes of sections, and a date. -/
structure Sharer where
  templateFile : String
  library : Library
  full : library.Full
  toggles : Toggles
  /-- The source of chance at the start. -/
  selector : Selector
  date : Date

namespace Sharer

def journal (root : Path) (s : Sharer) : Journal :=
  ⟨⟨root, s.templateFile⟩, s.library, .sections s.toggles⟩

/-- The file of the note of a period, the same for all template files. -/
def file (root : Path) (s : Sharer) (period : Period) : Path :=
  ((Layout.under root).locate period s.date.toDay).file

/-- The folder of the note of a period. -/
def folder (root : Path) (s : Sharer) (period : Period) : Path :=
  (Layout.under root).folder period s.date.toDay

/-- What the sections come to. -/
def body (s : Sharer) : Except JournalError String :=
  (BodyBuilder.renderSections s.toggles ⟨s.date.toDay, s.library⟩ s.selector).outcome

/-- The text that the journal has for the note of a period. -/
def text (s : Sharer) : Period → Except JournalError String
  | .year => .ok Note.yearText
  | .month => .ok (Note.monthText s.date.toDay)
  | .day => s.body

/-- What the journal does. -/
def work (root : Path) (s : Sharer) : Work (Except JournalError Run) :=
  ((s.journal root).ensureFor s.date.toDay).run

/-- What the journal may ask. -/
abbrev May (root : Path) (s : Sharer) : Past → Query → Prop :=
  MayRun (s.journal root) s.date.toDay

end Sharer

/-- How the questions of journals over one memory are answered, each with a
session of its own. -/
def together (host : Host Memory) : Pool.Answer interface Memory Session :=
  fun q s =>
    let r := World.answer Memory.answer host q ⟨s.1, s.2⟩
    (r.1, r.2.outside, r.2.session)

/-! ## The sessions -/

/-- What a session has done for a journal. -/
structure Served (s : Sharer) (past : Past) (session : Session) : Prop where
  free : Untried past → session.busy = false
  entered : (⟨.keep .enter, false⟩ : Exchange interface) ∉ past
  selector : (∀ e ∈ past, ¬ Renders e) → session.selector = s.selector
  drawn : ∀ rendering reply,
    (⟨.keep (.render rendering), reply⟩ : Exchange interface) ∈ past → reply = s.body

variable {root : Path} {s : Sharer} {past : Past} {session : Session}

/-- With sections there is only one rendering. -/
theorem rendering_of_prepared {rendering : Selector → Rendering Selector}
    (h : Prepared (s.journal root) s.date.toDay past rendering) :
    rendering = BodyBuilder.renderSections s.toggles ⟨s.date.toDay, s.library⟩ := by
  obtain ⟨_, during, _, hends⟩ := h
  have hdone : (Procedure.done (.ok (BodyBuilder.renderSections s.toggles
    ⟨s.date.toDay, s.library⟩)) : Work (Except JournalError _)).Ends during (.ok rendering) := hends
  exact Except.ok.inj (Procedure.eq_of_ends_done hdone).2

theorem Served.append (h : Served s past session) {e : Exchange interface} {session' : Session}
    (hfree : Untried (past ++ [e]) → session'.busy = false)
    (hentered : e ≠ ⟨.keep .enter, false⟩) (hrender : ¬ Renders e)
    (hselector : session'.selector = session.selector) : Served s (past ++ [e]) session' where
  free := hfree
  entered := by
    simp only [List.mem_append, List.mem_singleton, not_or]
    exact ⟨h.entered, hentered.symm⟩
  selector honce := by
    rw [hselector]
    exact h.selector fun e' he' => honce e' (List.mem_append_left _ he')
  drawn rendering reply hmem := by
    rcases List.mem_append.mp hmem with hmem | hmem
    · exact h.drawn rendering reply hmem
    · rw [← List.mem_singleton.mp hmem] at hrender
      exact absurd trivial hrender

/-- One answer to the journal whose session it is. -/
theorem Served.answer (h : Served s past session) {q : Query} (hq : s.May root past q)
    (host : Host Memory) (m : Memory) :
    Served s (past ++ [⟨q, (World.answer Memory.answer host q ⟨m, session⟩).1⟩])
      (World.answer Memory.answer host q ⟨m, session⟩).2.session := by
  have huntried : ∀ e, Untried (past ++ [e]) → Untried past := fun e h e' he' =>
    h e' (List.mem_append_left _ he')
  cases hq with
  | enter hfirst =>
    have hfree := h.free hfirst
    refine h.append (fun hnone => ?_) ?_ (fun h => h) rfl
    · exact absurd rfl (hnone _ (List.mem_append_right _ List.mem_cons_self))
    · show (⟨.keep .enter, !session.busy⟩ : Exchange interface) ≠ _
      rw [hfree]
      nofun
  | leave => exact h.append (fun _ => rfl) nofun (fun h => h) rfl
  | inside hentered hq =>
    have hnever : ∀ e, ¬ Untried (past ++ [e]) := fun e hnone =>
      hnone _ (List.mem_append_left _ hentered) rfl
    cases hq with
    | isPresent path => exact h.append (fun hn => absurd hn (hnever _)) nofun (fun h => h) rfl
    | readTemplate registry hbuilder => cases hbuilder
    | makeFolders period => exact h.append (fun hn => absurd hn (hnever _)) nofun (fun h => h) rfl
    | create period text => exact h.append (fun hn => absurd hn (hnever _)) nofun (fun h => h) rfl
    | render rendering hprepared honce =>
      have hreply : (rendering session.selector).outcome = s.body := by
        rw [rendering_of_prepared hprepared, h.selector honce, Sharer.body]
      refine ⟨fun hn => absurd hn (hnever _), ?_, fun hnone => ?_, fun r reply hmem => ?_⟩
      · simp only [List.mem_append, List.mem_singleton, not_or]
        exact ⟨h.entered, nofun⟩
      · exact absurd trivial (hnone _ (List.mem_append_right _ List.mem_cons_self))
      · rcases List.mem_append.mp hmem with hmem | hmem
        · exact h.drawn r reply hmem
        · cases List.mem_singleton.mp hmem
          exact hreply

/-- The text of a note that is created is the one that the journal has for it. -/
theorem text_of_textOf (h : Served s past session) {p : Period} {text : String}
    (htext : TextOf (s.journal root) s.date.toDay past p text) : s.text p = .ok text := by
  cases p with
  | year => exact congrArg Except.ok htext.symm
  | month => exact congrArg Except.ok htext.symm
  | day =>
    obtain ⟨before, during, after, rfl, hends⟩ := htext
    obtain ⟨reply, more, rfl, hdone⟩ := Procedure.reply_of_ends_ask hends
    have hreply := h.drawn _ reply (by simp)
    rw [Sharer.text, ← hreply]
    exact (Procedure.eq_of_ends_done hdone).2.symm

/-! ## The memory -/

section Memory

variable {ι : Type} {sharers : ι → Sharer} {m₀ m m' : Memory}
  {pasts : ι → Past} {sessions : ι → Session}

/-- What journals that share a memory have done to it since it was `m₀`. -/
structure Sharing (root : Path) (sharers : ι → Sharer) (m₀ : Memory) (pasts : ι → Past)
    (m : Memory) (sessions : ι → Session) : Prop where
  served : ∀ i, Served (sharers i) (pasts i) (sessions i)
  /-- What was shown to be there is there. -/
  present : ∀ i, Present (pasts i) m
  /-- Nothing failed. -/
  fine : ∀ i, ∀ e ∈ pasts i, ¬ Fails e
  /-- What was there at the start is as it was. -/
  old : ∀ path, m₀.has path = true → m.has path = true ∧ m.textAt? path = m₀.textAt? path
  /-- No folder of a note is a file. -/
  folders : ∀ i p, m.hasFile ((sharers i).folder root p) = false
  /-- No note has become a folder. -/
  notes : ∀ i p, m.hasFolder ((sharers i).file root p) = m₀.hasFolder ((sharers i).file root p)
  /-- What was created was not there at the start, and is there with its text. -/
  created : ∀ i, ∀ f ∈ made (pasts i), m₀.has f.1 = false ∧ m.textAt? f.1 = some f.2
    ∧ ∃ p, f.1 = (sharers i).file root p ∧ (sharers i).text p = .ok f.2
  /-- No two journals created one file. -/
  once : ∀ i j, ∀ f ∈ made (pasts i), ∀ g ∈ made (pasts j), f.1.same g.1 = true → i = j
  /-- A file that is new was created. -/
  new : ∀ path text, m.textAt? path = some text → m₀.textAt? path = some text
    ∨ ∃ i, ∃ f ∈ made (pasts i), f.1.same path = true ∧ f.2 = text

/-- A journal that was shown the folder of a note can create the note. -/
theorem Sharing.hasParent (h : Sharing root sharers m₀ pasts m sessions) {i : ι} {p : Period}
    (hfolder : Known (pasts i) ((sharers i).folder root p)) :
    m.hasParent ((sharers i).file root p) = true := by
  have hthere : m.hasFolder ((sharers i).folder root p) = true := by
    have hhas := h.present i _ hfolder
    rwa [Memory.has, h.folders i p, Bool.false_or] at hhas
  obtain ⟨parent, hparent, hsame⟩ :=
    Layout.parent?_file (.under root) p (sharers i).date.toDay
  rw [Memory.hasParent, Sharer.file, hparent]
  rw [Sharer.folder, ← Memory.hasFolder_congr hsame] at hthere
  simp [hthere]

/-- Where no folder is a file, no question to the memory fails. -/
theorem Sharing.not_fails (h : Sharing root sharers m₀ pasts m sessions) {i : ι}
    {q : Storage.Query} (hq : (sharers i).May root (pasts i) (.storage q)) :
    ¬ q.fails (Memory.answer q m).1 := by
  cases hq with
  | inside _ hq =>
    cases hq with
    | isPresent path => exact id
    | readTemplate registry hbuilder => cases hbuilder
    | makeFolders p =>
      have hmake : (m.makeFolders ((sharers i).folder root p)).1 = .ok () := by
        rw [Memory.makeFolders, h.folders i p]
        rfl
      show ¬ (Storage.Query.makeFolders ((sharers i).folder root p)).fails
        (m.makeFolders ((sharers i).folder root p)).1
      rw [hmake]
      exact id
    | create p text hfolder =>
      show ¬ (Storage.Query.create ((sharers i).file root p) text).fails
        (m.create ((sharers i).file root p) text).1
      rw [Memory.create, h.hasParent hfolder]
      split
      · exact fun hkind => hkind rfl
      · exact id

/-- A new file is no folder of a note. -/
theorem Sharing.folders_answer (h : Sharing root sharers m₀ pasts m sessions) {i : ι}
    {q : Storage.Query} (hq : (sharers i).May root (pasts i) (.storage q)) (j : ι) (p : Period) :
    (seen Faults.none q m).2.hasFile ((sharers j).folder root p) = false := by
  have hcall := MayCall.run hq
  have hnone : m.textAt? ((sharers j).folder root p) = none := by
    simpa [Memory.hasFile_eq] using h.folders j p
  rw [Memory.hasFile_eq]
  cases htext : (seen Faults.none q m).2.textAt? ((sharers j).folder root p) with
  | none => rfl
  | some text =>
    rcases Storage.textAt?_of_answer _ hcall.not_overwrites htext with
      hold | ⟨path, rfl, _, hsame, _⟩
    · rw [hnone] at hold
      cases hold
    · obtain ⟨_, period, rfl, _⟩ := hcall.create_inv
      have hself : (sharers j).folder root p ∈ ((sharers j).folder root p).ancestors := by
        simp [Path.ancestors]
      rw [Path.same_comm] at hsame
      have hnever : ((sharers j).folder root p).same ((sharers i).file root period) = false :=
        Layout.not_same_of_ancestor _ hself
      exact absurd (hsame.symm.trans hnever) (by simp)

/-- A new folder is no note. -/
theorem Sharing.notes_answer {i : ι} {q : Storage.Query}
    (hq : (sharers i).May root (pasts i) (.storage q)) (j : ι) (p : Period) :
    (seen Faults.none q m).2.hasFolder ((sharers j).file root p)
      = m.hasFolder ((sharers j).file root p) := by
  rw [Bool.eq_iff_iff]
  refine ⟨fun hnew => ?_, Storage.hasFolder_answer _ q⟩
  rcases Storage.hasFolder_of_answer _ hnew with hold | ⟨folder, rfl, a, ha, hsame⟩
  · exact hold
  · obtain ⟨period, rfl⟩ := (MayCall.run hq).makeFolders_inv
    have hnever : a.same ((sharers j).file root p) = false := Layout.not_same_of_ancestor _ ha
    exact absurd (hsame.symm.trans hnever) (by simp)

variable [DecidableEq ι]

theorem mem_made_update {i j : ι} {e : Exchange interface} {f : Path × String} :
    f ∈ made (Function.update pasts i (pasts i ++ [e]) j)
      ↔ f ∈ made (pasts j) ∨ j = i ∧ made? e = some f := by
  by_cases hj : j = i
  · subst hj
    rw [Function.update_self, made_append, List.mem_append]
    simp [made]
  · rw [Function.update_of_ne hj]
    simp [hj]

/-- One exchange. It keeps the invariant if it does what an exchange with a
memory does that only grows. -/
theorem Sharing.step (h : Sharing root sharers m₀ pasts m sessions) {i : ι}
    {e : Exchange interface} {session : Session}
    (hserved : Served (sharers i) (pasts i ++ [e]) session)
    (hpresent : ∀ j, Present (pasts j) m') (htold : Present (pasts i ++ [e]) m')
    (hfine : ¬ Fails e)
    (hold : ∀ path, m.has path = true → m'.has path = true ∧ m'.textAt? path = m.textAt? path)
    (hfolders : ∀ j p, m'.hasFile ((sharers j).folder root p) = false)
    (hnotes : ∀ j p, m'.hasFolder ((sharers j).file root p) = m.hasFolder ((sharers j).file root p))
    (hmade : ∀ f, made? e = some f → m.has f.1 = false ∧ m'.textAt? f.1 = some f.2
      ∧ ∃ p, f.1 = (sharers i).file root p ∧ (sharers i).text p = .ok f.2)
    (hnew : ∀ path text, m'.textAt? path = some text → m.textAt? path = some text
      ∨ ∃ f, made? e = some f ∧ f.1.same path = true ∧ f.2 = text) :
    Sharing root sharers m₀ (Function.update pasts i (pasts i ++ [e])) m'
      (Function.update sessions i session) where
  served j := by
    by_cases hj : j = i
    · subst hj
      rw [Function.update_self, Function.update_self]
      exact hserved
    · rw [Function.update_of_ne hj, Function.update_of_ne hj]
      exact h.served j
  present := by
    rw [Function.forall_update_iff pasts fun _ past => Present past m']
    exact ⟨htold, fun j _ => hpresent j⟩
  fine := by
    rw [Function.forall_update_iff pasts fun _ past => ∀ e ∈ past, ¬ Fails e]
    refine ⟨fun e' he' => ?_, fun j _ => h.fine j⟩
    rcases List.mem_append.mp he' with he' | he'
    · exact h.fine i e' he'
    · exact List.mem_singleton.mp he' ▸ hfine
  old path hhas := by
    obtain ⟨hthere, htext⟩ := h.old path hhas
    obtain ⟨hthere', htext'⟩ := hold path hthere
    exact ⟨hthere', htext'.trans htext⟩
  folders := hfolders
  notes j p := (hnotes j p).trans (h.notes j p)
  created j f hf := by
    rcases mem_made_update.mp hf with hbefore | ⟨rfl, hnow⟩
    · obtain ⟨hfree, htext, hown⟩ := h.created j f hbefore
      have hthere : m.has f.1 = true := Storage.Memory.has_iff.mpr (.inl ⟨_, htext⟩)
      exact ⟨hfree, (hold _ hthere).2.trans htext, hown⟩
    · obtain ⟨hfree, htext, hown⟩ := hmade f hnow
      refine ⟨?_, htext, hown⟩
      cases hbefore : m₀.has f.1 with
      | false => rfl
      | true => rw [(h.old _ hbefore).1] at hfree; cases hfree
  once j k f hf g hg hsame := by
    -- a file that was created before is in the way of a new one
    have hway : ∀ f g, made? e = some f → (∃ j, g ∈ made (pasts j)) →
        f.1.same g.1 = true → False := by
      rintro f g hf ⟨j, hg⟩ hsame
      have hfree := (hmade f hf).1
      have hthere : m.has g.1 = true :=
        Storage.Memory.has_iff.mpr (.inl ⟨_, (h.created j g hg).2.1⟩)
      rw [Storage.Memory.has_congr hsame, hthere] at hfree
      cases hfree
    rcases mem_made_update.mp hf with hbefore | ⟨hj, hnow⟩ <;>
      rcases mem_made_update.mp hg with hbefore' | ⟨hk, hnow'⟩
    · exact h.once j k f hbefore g hbefore' hsame
    · rw [Path.same_comm] at hsame
      exact (hway g f hnow' ⟨j, hbefore⟩ hsame).elim
    · exact (hway f g hnow ⟨k, hbefore'⟩ hsame).elim
    · exact hj.trans hk.symm
  new path text htext := by
    rcases hnew path text htext with htext | ⟨f, hf, hsame, htext⟩
    · rcases h.new path text htext with htext | ⟨j, f, hf, hsame, htext⟩
      · exact .inl htext
      · exact .inr ⟨j, f, mem_made_update.mpr (.inl hf), hsame, htext⟩
    · exact .inr ⟨i, f, mem_made_update.mpr (.inr ⟨rfl, hf⟩), hsame, htext⟩

theorem sharing_kept (root : Path) (sharers : ι → Sharer) (m₀ : Memory) (host : Host Memory) :
    Pool.Keeps (fun i => (sharers i).May root) (Sharing root sharers m₀) (together host) := by
  intro pasts m sessions i q hq h
  have hserved := (h.served i).answer hq host m
  cases q with
  | storage q =>
    have hwrites : q.overwrites = false := (MayCall.run hq).not_overwrites
    have hfails := h.not_fails hq
    show Sharing root sharers m₀
      (Function.update pasts i (pasts i ++ [⟨.storage q, (Memory.answer q m).1⟩]))
      (Memory.answer q m).2 (Function.update sessions i (sessions i))
    rw [← Storage.seen_none] at hfails ⊢
    refine h.step ?_ (fun j => (h.present j).answer _ q) ((h.present i).told _ q) hfails
      (fun path hhas => ⟨Storage.has_answer _ q hhas, Storage.textAt?_of_has _ hwrites hhas⟩)
      (h.folders_answer hq) (fun j p => Sharing.notes_answer hq j p) ?_ ?_
    · rw [Storage.seen_none]
      exact hserved
    · rintro ⟨path, text⟩ hmade
      obtain ⟨hfree, htext, rfl⟩ := Storage.textAt?_of_made _ hmade
      obtain ⟨_, period, rfl, _, _, htextOf⟩ := (MayCall.run hq).create_inv
      exact ⟨hfree, htext, period, rfl, text_of_textOf (h.served i) htextOf⟩
    · intro path text htext
      rcases Storage.textAt?_of_answer _ hwrites htext with hold | ⟨created, _, hmade, hsame, _⟩
      · exact .inl hold
      · exact .inr ⟨_, hmade, hsame, rfl⟩
  | openNote path =>
    cases hq with
    | inside _ hq => cases hq
  | keep q =>
    refine h.step hserved h.present ((h.present i).silent fun _ h => h) ?_
      (fun path hhas => ⟨hhas, rfl⟩) h.folders (fun _ _ => rfl) nofun fun _ _ ht => .inl ht
    cases q with
    | render rendering =>
      obtain ⟨text, htext⟩ := BodyBuilder.renderSections_ok (sharers i).toggles
        (sharers i).date.toDay (sharers i).full (sharers i).selector
      have hreply : (rendering (sessions i).selector).outcome = (sharers i).body :=
        hserved.drawn rendering _ (List.mem_append_right _ List.mem_cons_self)
      rw [Sharer.body, htext] at hreply
      show ¬ Fails ⟨.keep (.render rendering), (rendering (sessions i).selector).outcome⟩
      rw [hreply]
      exact id
    | _ => exact id

end Memory

/-! ## All of them together -/

/-- The note is one that the journal makes sure of. -/
def Sharer.Needs (root : Path) (s : Sharer) (p : Period) (note : Path) : Prop :=
  (s.file root p).same note = true

section Together

variable {ι : Type} (root : Path) (sharers : ι → Sharer) (reports : ι → Report) (p : Period)
  (note : Path)

/-- One journal reports that it created the note, all others that need it
report that it was there, and the note has the text of the one. -/
def CreatedOnce (m : Memory) : Prop :=
  ∃ i, (sharers i).Needs root p note ∧ (reports i).ensured p = .created
    ∧ (∀ j, (sharers j).Needs root p note → j ≠ i → (reports j).ensured p = .present)
    ∧ ∃ text, (sharers i).text p = .ok text ∧ m.textAt? note = some text

/-- Nobody reports that it created the note, and the note is as it was. -/
def LeftAlone (m₀ m : Memory) : Prop :=
  (∀ i, (sharers i).Needs root p note → (reports i).ensured p = .present)
    ∧ m.textAt? note = m₀.textAt? note ∧ m.hasFolder note = m₀.hasFolder note

/-- The journals before the first question is answered. -/
def Sharer.pool [DecidableEq ι] (m₀ : Memory) :
    Pool interface Memory Session ι fun _ => Except JournalError Run :=
  .start m₀ (fun i => .start (sharers i).selector) fun i => (sharers i).work root

end Together

section Results

variable {ι : Type} {root : Path} {sharers : ι → Sharer} {m₀ m : Memory} {pasts : ι → Past}
  {sessions : ι → Session}

theorem sharing_start (hfolders : ∀ i p, m₀.hasFile ((sharers i).folder root p) = false) :
    Sharing root sharers m₀ (fun _ => []) m₀ fun i => .start (sharers i).selector where
  served i := ⟨fun _ => rfl, by simp, fun _ => rfl, fun _ _ h => by cases h⟩
  present i path hknown := by
    obtain ⟨e, he, _⟩ := hknown
    cases he
  fine _ _ he := by cases he
  old _ h := ⟨h, rfl⟩
  folders := hfolders
  notes _ _ := rfl
  created _ _ hf := by cases hf
  once _ _ _ hf := by cases hf
  new _ _ h := .inl h

/-- What a journal is at the end of its run. -/
structure Finished (root : Path) (s : Sharer) (past : Past) (m : Memory) (report : Report) :
    Prop where
  day : report.day = s.date.toDay
  note : report.note = s.file root .day
  there : ∀ p, m.has (s.file root p) = true
  created : ∀ p, report.ensured p = .created
    ↔ ∃ f ∈ made past, f.1.same (s.file root p) = true

/-- A run that has ended went through. -/
theorem Sharing.finished (h : Sharing root sharers m₀ pasts m sessions) {i : ι}
    {r : Except JournalError Run}
    (hgoal : Since [] (AloneGoal (RunGoal ((sharers i).journal root) (sharers i).date.toDay))
      (pasts i) r) :
    ∃ report, r = .ok (.completed report) ∧ Finished root (sharers i) (pasts i) m report := by
  obtain ⟨new, hnew, hgoal⟩ := hgoal
  rw [List.nil_append] at hnew
  cases r with
  | error cause =>
    obtain ⟨during, hduring, e, he, hfail⟩ := hgoal
    refine absurd hfail (h.fine i e ?_)
    rw [hnew, hduring]
    simp [he]
  | ok run =>
    cases run with
    | busy =>
      refine absurd ?_ (h.served i).entered
      have hbusy : new = [⟨.keep .enter, false⟩] := hgoal
      rw [hnew, hbusy]
      exact List.mem_cons_self
    | completed report =>
      obtain ⟨during, hduring, hrun⟩ := hgoal
      have hpast : pasts i = [⟨.keep .enter, true⟩] ++ during ++ [⟨.keep .leave, ()⟩] :=
        hnew.trans hduring
      have hmade : made (pasts i) = made during := by
        rw [hpast, made_append]
        exact List.append_nil _
      refine ⟨report, rfl, hrun.1, hrun.2.1, fun p => ?_, fun p => ?_⟩
      · refine h.present i _ ?_
        rw [hpast]
        exact ((hrun.2.2.1 p).append_right _).append_left _
      · rw [hmade]
        exact ensured_eq_created hrun (sharers i).date.isReal p

/-- A note that was not there is created once. -/
theorem Sharing.createdOnce (h : Sharing root sharers m₀ pasts m sessions)
    {reports : ι → Report}
    (hreports : ∀ i, Finished root (sharers i) (pasts i) m (reports i)) (i : ι) (p : Period)
    (hfree : m₀.has ((sharers i).file root p) = false) :
    CreatedOnce root sharers reports p ((sharers i).file root p) m := by
  have hbefore : m₀.textAt? ((sharers i).file root p) = none := Memory.textAt?_eq_none hfree
  have hfolder : m.hasFolder ((sharers i).file root p) = false := by
    rw [h.notes i p]
    exact (Bool.or_eq_false_iff.mp hfree).2
  have hthere := Memory.has_iff.mp ((hreports i).there p)
  rw [hfolder] at hthere
  obtain ⟨text, htext⟩ := hthere.resolve_right nofun
  -- the file is new, so it was created
  rcases h.new _ text htext with hold | ⟨j, f, hf, hsame, rfl⟩
  · rw [hbefore] at hold
    cases hold
  · obtain ⟨_, _, q, hfile, hown⟩ := h.created j f hf
    rw [hfile] at hsame
    obtain ⟨rfl, _⟩ := (Layout.file_same_iff (.under root) (sharers j).date.isReal
      (sharers i).date.isReal).mp hsame
    refine ⟨j, hsame, ((hreports j).created q).mpr ⟨f, hf, Path.same_iff.mpr (by rw [hfile])⟩,
      fun k hneeds hne => ?_, f.2, hown, htext⟩
    cases hdone : (reports k).ensured q with
    | present => rfl
    | created =>
      -- two journals would have created one file
      obtain ⟨g, hg, hsame'⟩ := ((hreports k).created q).mp hdone
      rw [Path.same_comm, ← hfile] at hsame
      have hboth := Path.same_trans (Path.same_trans hsame' hneeds) hsame
      exact absurd (h.once k j g hg f hf hboth) hne

/-- A note that was there is left alone. -/
theorem Sharing.leftAlone (h : Sharing root sharers m₀ pasts m sessions)
    {reports : ι → Report}
    (hreports : ∀ i, Finished root (sharers i) (pasts i) m (reports i)) (i : ι) (p : Period)
    (hthere : m₀.has ((sharers i).file root p) = true) :
    LeftAlone root sharers reports p ((sharers i).file root p) m₀ m := by
  refine ⟨fun j hneeds => ?_, (h.old _ hthere).2, h.notes i p⟩
  cases hdone : (reports j).ensured p with
  | present => rfl
  | created =>
    obtain ⟨f, hf, hsame⟩ := ((hreports j).created p).mp hdone
    have hfree := (h.created j f hf).1
    rw [Memory.has_congr (Path.same_trans hsame hneeds), hthere] at hfree
    cases hfree

end Results

/-- Journals that share a storage lose no creation and make none twice. Every
run that ends has gone through, and every run ends once it has been answered
often enough. In the end, whatever the order of the answers was, a note that
was not there at the start was created by exactly one of the journals that
need it and has the text of this one, and a note that was there is as it was. -/
theorem shared_notes {ι : Type} [DecidableEq ι] (root : Path) (sharers : ι → Sharer)
    (host : Host Memory) (m₀ : Memory)
    (hfolders : ∀ i p, m₀.hasFile ((sharers i).folder root p) = false) (schedule : List ι) :
    let pool := (Sharer.pool root sharers m₀).play
      (schedule.map fun i => (i, together host))
    (∀ i r, pool.rest i = .done r →
        ∃ report, r = .ok (.completed report) ∧ report.day = (sharers i).date.toDay)
      ∧ (∀ i, 18 ≤ schedule.count i → ∃ r, pool.rest i = .done r)
      ∧ ∀ reports : ι → Report, (∀ i, pool.rest i = .done (.ok (.completed (reports i)))) →
        ∀ i p, (m₀.has ((sharers i).file root p) = false →
            CreatedOnce root sharers reports p ((sharers i).file root p) pool.shared)
          ∧ (m₀.has ((sharers i).file root p) = true →
            LeftAlone root sharers reports p ((sharers i).file root p) m₀ pool.shared) := by
  intro pool
  have hkeeps : ∀ move ∈ schedule.map fun i => (i, together host),
      Pool.Keeps (fun i => (sharers i).May root) (Sharing root sharers m₀) move.2 := by
    rw [List.forall_mem_map]
    exact fun i _ => sharing_kept root sharers m₀ host
  have hobey : (Sharer.pool root sharers m₀).Obey (fun i => (sharers i).May root)
      fun i => Since [] (AloneGoal (RunGoal ((sharers i).journal root) (sharers i).date.toDay)) :=
    fun i => ensureFor_obeys (by simp [Untried]) (by simp)
  obtain ⟨hobeys, hsharing⟩ := Pool.play_invariant hkeeps hobey (sharing_start hfolders)
  have hdone : ∀ i r, pool.rest i = .done r → ∃ report, r = .ok (.completed report)
      ∧ Finished root (sharers i) (pool.past i) pool.shared report := by
    intro i r hrest
    have hgoal := hobeys i
    rw [hrest] at hgoal
    exact hsharing.finished hgoal
  refine ⟨fun i r hrest => ?_, fun i hcount => ?_, fun reports hall i p => ?_⟩
  · obtain ⟨report, hr, hfinished⟩ := hdone i r hrest
    exact ⟨report, hr, hfinished.day⟩
  · have hwithin : ((Sharer.pool root sharers m₀).rest i).Within 18 := ensureFor_within _ _
    refine Pool.done_of_within hwithin ?_
    have hmap : (schedule.map fun i => (i, together host)).map (·.1) = schedule := by
      rw [List.map_map]
      exact List.map_id schedule
    rw [hmap]
    exact hcount
  · have hreports : ∀ i, Finished root (sharers i) (pool.past i) pool.shared (reports i) := by
      intro i
      obtain ⟨report, hr, hfinished⟩ := hdone i _ (hall i)
      cases hr
      exact hfinished
    exact ⟨hsharing.createdOnce hreports i p, hsharing.leftAlone hreports i p⟩

theorem shared_notes_two_journals :
    let sharer (seed : UInt64) (date : Date) : Sharer :=
      { templateFile := "TEMPLATE.md"
        library := ⟨[⟨"Begin.", "Seneca"⟩], [⟨"Breathe."⟩]⟩
        full := Library.full_of_ofLists
          (rfl : Library.ofLists [⟨"Begin.", "Seneca"⟩] [⟨"Breathe."⟩] = _)
        toggles := .allOn
        selector := .seeded seed
        date := date }
    let sharers (first : Bool) : Sharer :=
      if first then sharer 1 ⟨⟨2024, 2, 28⟩, by decide⟩ else sharer 2 ⟨⟨2024, 2, 29⟩, by decide⟩
    let memory : Memory := ⟨[(⟨"notes/2024/2024.md"⟩, "my year")], [⟨"notes"⟩, ⟨"notes/2024"⟩]⟩
    let schedule := (List.replicate 18 [true, false]).flatten
    (∀ i p, memory.hasFile ((sharers i).folder ⟨"notes"⟩ p) = false)
      ∧ ∃ reports : Bool → Report,
        LeftAlone ⟨"notes"⟩ sharers reports .year ((sharers true).file ⟨"notes"⟩ .year) memory
          ((Sharer.pool ⟨"notes"⟩ sharers memory).play
            (schedule.map fun i => (i, together fun _ w => (.ok (), w)))).shared
        ∧ CreatedOnce ⟨"notes"⟩ sharers reports .month ((sharers true).file ⟨"notes"⟩ .month)
          ((Sharer.pool ⟨"notes"⟩ sharers memory).play
            (schedule.map fun i => (i, together fun _ w => (.ok (), w)))).shared := by
  intro sharer sharers memory schedule
  have hfolders : ∀ i p, memory.hasFile ((sharers i).folder ⟨"notes"⟩ p) = false := by
    intro i p
    cases i <;> cases p <;> decide +kernel
  obtain ⟨hcompleted, hends, hnotes⟩ := shared_notes ⟨"notes"⟩ sharers
    (fun _ w => (.ok (), w)) memory hfolders schedule
  have hreport : ∀ i, ∃ report, ((Sharer.pool ⟨"notes"⟩ sharers memory).play
      (schedule.map fun i => (i, together fun _ w => (.ok (), w)))).rest i
        = .done (.ok (.completed report)) := by
    intro i
    obtain ⟨r, hr⟩ := hends i (by cases i <;> decide)
    obtain ⟨report, hr', _⟩ := hcompleted i r hr
    exact ⟨report, hr.trans (congrArg _ hr')⟩
  obtain ⟨reports, hreports⟩ := Classical.axiomOfChoice hreport
  exact ⟨hfolders, reports, (hnotes reports hreports true .year).2 (by decide +kernel),
    (hnotes reports hreports true .month).1 (by decide +kernel)⟩

end Daybook.Journal
