/-
Daybook.Proofs.Journal.Preserved — a journal never writes over a note.

However many calls are made, whatever the clock shows, whatever the storage
refuses or hides and whatever the host says, every file keeps its text, and
every new file is a note of a day that some call ran for, with the text that
belongs in it (`notes_preserved`). The look before the deed is no part of
the reason: a storage may be blind. What counts is that a call never writes
but only creates, and that is what its rule `MayCall` says.
-/
import Daybook.Proofs.Journal.Events

namespace Daybook.Journal

open Storage (Memory seen)

/-- The file is a note of the day that a call ran for, with its own text. -/
def Written (journal : Journal) (day : Calendar.Day) (log : Past) (path : Path)
    (text : String) : Prop :=
  Entered log ∧ ∃ period, (journal.layout.locate period day).file.same path = true
    ∧ TextOf journal day log period text

theorem Written.append {journal : Journal} {day : Calendar.Day} {log : Past} {path : Path}
    {text : String} (h : Written journal day log path text) (more : Past) :
    Written journal day (log ++ more) path text := by
  obtain ⟨hentered, period, hsame, htext⟩ := h
  exact ⟨List.mem_append_left _ hentered, period, hsame, htext.append more⟩

/-- What a call has done to the files of a memory so far. -/
structure Kept (journal : Journal) (day : Calendar.Day) (before : Memory) (log : Past)
    (now : Memory) : Prop where
  /-- Every file keeps its text. -/
  old : ∀ path text, before.textAt? path = some text → now.textAt? path = some text
  /-- Every other file is one that the call wrote. -/
  new : ∀ path text, now.textAt? path = some text →
    before.textAt? path = some text ∨ Written journal day log path text

variable {journal : Journal} {day : Calendar.Day} {before now : Memory} {log : Past}

theorem Kept.refl (before : Memory) : Kept journal day before log before where
  old _ _ h := h
  new _ _ h := .inl h

/-- Exchanges that do not concern the memory change nothing. -/
theorem Kept.append (h : Kept journal day before log now) (more : Past) :
    Kept journal day before (log ++ more) now where
  old := h.old
  new path text ht := (h.new path text ht).imp_right fun hw => hw.append more

/-- One answer of the storage, under any faults. -/
theorem Kept.answer (h : Kept journal day before log now) (faults : Storage.Faults)
    {q : Storage.Query} (hq : MayCall journal day log (.storage q)) (more : Past) :
    Kept journal day before (log ++ more) (seen faults q now).2 where
  old path text ht := Storage.textAt?_answer faults hq.not_overwrites (h.old path text ht)
  new path text ht := by
    rcases Storage.textAt?_of_answer faults hq.not_overwrites ht with
      ht | ⟨created, rfl, _, hsame, _⟩
    · exact (h.new path text ht).imp_right fun hw => hw.append more
    · obtain ⟨hentered, period, rfl, _, _, htext⟩ := hq.create_inv
      have hwritten : Written journal day log path text := ⟨hentered, period, hsame, htext⟩
      exact .inr (hwritten.append more)

/-- One call, under any faults. -/
theorem Event.kept (journal : Journal) {e : Event Memory} {faults : Storage.Faults}
    (he : e.backend = seen faults) (w : World Memory) :
    Kept journal e.date.toDay w.outside (e.log journal w) (e.after journal w).outside := by
  have hstep : ∀ past q (w' : World Memory), MayCall journal e.date.toDay past q →
      Kept journal e.date.toDay w.outside past w'.outside →
      Kept journal e.date.toDay w.outside (past ++ [⟨q, (e.answer q w').1⟩])
        (e.answer q w').2.outside := by
    intro past q w' hq hkept
    cases q with
    | storage q =>
      simp only [Moment.answer, World.answer, he]
      exact hkept.answer faults hq _
    | openNote path => exact hkept.append _
    | keep q => exact hkept.append _
  exact ((call_obeys journal e.today e.call).run_invariant hstep (.refl w.outside)).1

/-- No run of the journal, however it ends, changes a file that is there, and
every file that a sequence of calls leaves behind was there before or is the
note of a day that one of the calls ran for: with the text of its year or
month, or the text that the builder gave in that call. -/
theorem notes_preserved (journal : Journal) (events : List (Event Memory))
    (hfaults : ∀ e ∈ events, ∃ faults, e.backend = seen faults) (w : World Memory) :
    (∀ path text, w.outside.textAt? path = some text →
      (afterAll journal events w).outside.textAt? path = some text)
    ∧ ∀ path text, (afterAll journal events w).outside.textAt? path = some text →
      w.outside.textAt? path = none →
      ∃ earlier e later, events = earlier ++ e :: later
        ∧ Written journal e.date.toDay (e.log journal (afterAll journal earlier w)) path text := by
  induction events generalizing w with
  | nil =>
    refine ⟨fun _ _ h => h, fun path text h hnone => ?_⟩
    rw [afterAll_nil, hnone] at h
    cases h
  | cons e events ih =>
    obtain ⟨faults, he⟩ := hfaults e List.mem_cons_self
    have hkept := Event.kept journal he w
    obtain ⟨hold, hnew⟩ := ih (fun e' he' => hfaults e' (List.mem_cons_of_mem _ he'))
      (e.after journal w)
    refine ⟨fun path text h => hold path text (hkept.old path text h), ?_⟩
    intro path text h hnone
    cases hmiddle : (e.after journal w).outside.textAt? path with
    | none =>
      -- one of the later calls wrote it
      obtain ⟨earlier, e', later, hevents, hwritten⟩ := hnew path text h hmiddle
      exact ⟨e :: earlier, e', later, by rw [hevents]; rfl, hwritten⟩
    | some text' =>
      -- the first call wrote it, and the others kept it
      have htext : text' = text := by
        have := hold path text' hmiddle
        rw [afterAll_cons] at h
        exact Option.some.inj (this.symm.trans h)
      rcases hkept.new path text' hmiddle with hold' | hwritten
      · rw [hnone] at hold'
        cases hold'
      · exact ⟨[], e, events, rfl, htext ▸ hwritten⟩

theorem notes_preserved_own_year_note :
    let journal : Journal :=
      ⟨.under ⟨"notes"⟩, ⟨[⟨"Begin.", "Seneca"⟩], [⟨"Breathe."⟩]⟩, .sections .allOn⟩
    let memory : Memory := ⟨[(⟨"notes/2024/2024.md"⟩, "my year")], [⟨"notes"⟩, ⟨"notes/2024"⟩]⟩
    let blind : Event Memory :=
      { call := .activate
        today := ⟨⟨2024, 5, 1⟩, by decide⟩
        backend := seen { Storage.Faults.none with blind := true }
        shows := fun _ _ => .ok () }
    let full : Event Memory :=
      { call := .tick
        today := ⟨⟨2024, 5, 2⟩, by decide⟩
        backend := seen { Storage.Faults.none with writes := true }
        shows := fun _ _ => .ok () }
    (∃ faults, blind.backend = seen faults) ∧ (∃ faults, full.backend = seen faults)
      ∧ (afterAll journal [blind, full] ⟨memory, .start (.seeded 7)⟩).outside.textAt?
          ⟨"notes/./2024//2024.md"⟩ = some "my year" := by
  intro journal memory blind full
  have hblind : ∃ faults, blind.backend = seen faults := ⟨_, rfl⟩
  have hfull : ∃ faults, full.backend = seen faults := ⟨_, rfl⟩
  refine ⟨hblind, hfull, ?_⟩
  refine (notes_preserved journal [blind, full] ?_ ⟨memory, .start (.seeded 7)⟩).1 _ _ ?_
  · simpa using ⟨hblind, hfull⟩
  · decide +kernel

end Daybook.Journal
