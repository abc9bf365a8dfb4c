/-
Daybook.Proofs.Journal.Nesting — every note has the notes above it.

A storage is well nested when no day note is there without its month note
and no month note without its year note. `nesting_kept`: a well-nested
storage stays so after every single step, however many calls of however many
journals are interleaved and whatever goes wrong in any of them.

The induction carries one thing more, that what a call was shown is there.
A day note is created only by a call that was shown the notes above it, and
nothing is ever taken away; and no folder that is made is a note.
-/
import Daybook.Proofs.Journal.Calls
import Daybook.Proofs.Procedure.Pool

namespace Daybook.Journal

open Calendar (Date Day)
open Storage (Faults Memory seen)

/-- No note is there without the notes above it. -/
def WellNested (layout : Layout) (m : Memory) : Prop :=
  ∀ date : Date,
    (m.has (layout.locate .day date.toDay).file = true →
      m.has (layout.locate .month date.toDay).file = true)
    ∧ (m.has (layout.locate .month date.toDay).file = true →
      m.has (layout.locate .year date.toDay).file = true)

/-! ## One step -/

section Steps

variable {journal : Journal} {day : Day} {past : Past} {m : Memory} {q : Storage.Query}
  (faults : Faults)

/-- A note that is new was created by a call for a day in the same span, and
that call was shown the notes above it. -/
theorem MayCall.new_note (hq : MayCall journal day past (.storage q)) (hday : day.IsReal)
    {p : Period} (date : Date)
    (h : (seen faults q m).2.has (journal.layout.locate p date.toDay).file = true) :
    m.has (journal.layout.locate p date.toDay).file = true
      ∨ p.Agree day date.toDay ∧ ∀ r ∈ above p, Known past (journal.layout.locate r day).file := by
  rcases Storage.has_of_answer faults hq.not_overwrites h with hold | ⟨path, text, rfl, hsame⟩
      | ⟨folder, rfl, a, ha, hsame⟩
  · exact .inl hold
  · obtain ⟨_, period, rfl, _, habove, _⟩ := hq.create_inv
    obtain ⟨rfl, hagree⟩ := (Layout.file_same_iff _ hday date.isReal).mp hsame
    exact .inr ⟨hagree, habove⟩
  · obtain ⟨period, rfl⟩ := hq.makeFolders_inv
    rw [Layout.not_same_of_ancestor _ ha] at hsame
    cases hsame

theorem WellNested.answer {layout : Layout} (hnested : WellNested layout m)
    (hlayout : journal.layout = layout) (hpresent : Present past m)
    (hq : MayCall journal day past (.storage q)) (hday : day.IsReal) :
    WellNested layout (seen faults q m).2 := by
  subst hlayout
  -- a note next above a new one is there, under the name that the other day gives it
  have hstep : ∀ (p r : Period) (date : Date), r ∈ above p → (p.Agree day date.toDay →
        r.Agree day date.toDay) →
      (m.has (journal.layout.locate p date.toDay).file = true →
        m.has (journal.layout.locate r date.toDay).file = true) →
      (seen faults q m).2.has (journal.layout.locate p date.toDay).file = true →
      (seen faults q m).2.has (journal.layout.locate r date.toDay).file = true := by
    intro p r date hr hagrees hbefore h
    refine Storage.has_answer faults q ?_
    rcases hq.new_note faults hday date h with hold | ⟨hagree, habove⟩
    · exact hbefore hold
    · rw [← Storage.Memory.has_congr ((Layout.file_same_iff _ hday date.isReal).mpr
        ⟨rfl, hagrees hagree⟩)]
      exact hpresent _ (habove r hr)
  intro date
  refine ⟨hstep .day .month date (by simp [above]) ?_ (hnested date).1,
    hstep .month .year date (by simp [above]) And.left (hnested date).2⟩
  rintro rfl
  exact ⟨rfl, rfl⟩

end Steps

/-! ## Any interleaving -/

/-- A call of a journal over a layout, at some moment. -/
structure Client where
  library : Library
  builder : BodyBuilder
  call : Call
  /-- What the clock shows. -/
  today : Date

namespace Client

def journal (layout : Layout) (c : Client) : Journal := ⟨layout, c.library, c.builder⟩

/-- The date whose notes the call makes, if it makes any. -/
def date (c : Client) : Date := c.call.date c.today

/-- What the call does. -/
def work (layout : Layout) (c : Client) : Work (Except JournalError c.call.Result) :=
  (c.call.work (c.journal layout) c.today).run

end Client

/-- How one question is answered. Nothing is assumed of the faults of the
storage, of what comes of showing a note, and of what a journal has kept. -/
structure Surroundings where
  faults : Faults
  shows : Path → Except JournalError Unit
  keeps : (q : Keep) → q.Reply

/-- The answers over a shared memory. -/
def Surroundings.answer (s : Surroundings) : Pool.Answer interface Memory Unit
  | .storage q, (m, u) =>
    let (reply, m) := seen s.faults q m
    (reply, m, u)
  | .openNote path, r => (s.shows path, r)
  | .keep q, r => (s.keeps q, r)

theorem Surroundings.keeps_nesting {ι : Type} [DecidableEq ι] (s : Surroundings)
    (layout : Layout) (clients : ι → Client) :
    Pool.Keeps (fun i => MayCall ((clients i).journal layout) (clients i).date.toDay)
      (fun past m _ => WellNested layout m ∧ ∀ i, Present (past i) m) s.answer := by
  rintro past m own i q hq ⟨hnested, hpresent⟩
  cases q with
  | storage q =>
    refine ⟨hnested.answer s.faults rfl (hpresent i) hq (clients i).date.isReal, ?_⟩
    rw [Function.forall_update_iff past fun _ past => Present past _]
    exact ⟨(hpresent i).told s.faults q, fun j _ => (hpresent j).answer s.faults q⟩
  | openNote path =>
    refine ⟨hnested, ?_⟩
    rw [Function.forall_update_iff past fun _ past => Present past _]
    exact ⟨(hpresent i).silent fun _ h => h, fun j _ => hpresent j⟩
  | keep q =>
    refine ⟨hnested, ?_⟩
    rw [Function.forall_update_iff past fun _ past => Present past _]
    exact ⟨(hpresent i).silent fun _ h => h, fun j _ => hpresent j⟩

/-- Well-nestedness holds after any interleaving of any calls, and so after
each single step of it. -/
theorem nesting_kept {ι : Type} [DecidableEq ι] (layout : Layout) (clients : ι → Client)
    (m : Memory) (h : WellNested layout m) (schedule : List (ι × Surroundings)) :
    WellNested layout ((Pool.start m (fun _ => ()) fun i => (clients i).work layout).play
      (schedule.map fun turn => (turn.1, turn.2.answer))).shared := by
  have hkeeps : ∀ move ∈ schedule.map fun turn => (turn.1, turn.2.answer),
      Pool.Keeps (fun i => MayCall ((clients i).journal layout) (clients i).date.toDay)
        (fun past m _ => WellNested layout m ∧ ∀ i, Present (past i) m) move.2 := by
    rw [List.forall_mem_map]
    exact fun turn _ => turn.2.keeps_nesting layout clients
  have hobey : (Pool.start m (fun _ => ()) fun i => (clients i).work layout).Obey
      (fun i => MayCall ((clients i).journal layout) (clients i).date.toDay)
      (fun _ _ _ => True) := fun i => call_obeys _ _ _
  refine (Pool.play_invariant hkeeps hobey ⟨h, fun i path hknown => ?_⟩).2.1
  obtain ⟨e, he, _⟩ := hknown
  cases he

theorem nesting_kept_two_clients :
    let client (date : Date) (builder : BodyBuilder) : Client :=
      ⟨⟨[⟨"Begin.", "Seneca"⟩], [⟨"Breathe."⟩]⟩, builder, .ensureFor date, date⟩
    let clients (first : Bool) : Client :=
      if first then client ⟨⟨2024, 2, 29⟩, by decide⟩ (.sections .allOn)
      else client ⟨⟨2024, 2, 28⟩, by decide⟩ (.template .empty)
    let blind : Surroundings :=
      ⟨{ Faults.none with blind := true }, fun _ => .ok (), fun
        | .enter | .markActivated => true
        | .leave | .remember _ => ()
        | .render _ => .error (.emptyLibrary .quotes)
        | .lastOpened => none⟩
    let schedule := (List.replicate 9 [(true, blind), (false, blind)]).flatten
    WellNested (.under ⟨"notes"⟩) .empty
      ∧ WellNested (.under ⟨"notes"⟩)
          ((Pool.start .empty (fun _ => ()) fun i => (clients i).work (.under ⟨"notes"⟩)).play
            (schedule.map fun turn => (turn.1, turn.2.answer))).shared := by
  intro client clients blind schedule
  have hempty : WellNested (.under ⟨"notes"⟩) .empty := by
    intro date
    simp [Memory.has, Memory.hasFile, Memory.hasFolder, Memory.empty]
  exact ⟨hempty, nesting_kept _ clients _ hempty schedule⟩

end Daybook.Journal
