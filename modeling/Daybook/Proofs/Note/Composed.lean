/-
Daybook.Proofs.Note.Composed — a day note can always be composed.

A library has something on both of its shelves. Then every section has its
lines, whatever is drawn, and so has the note. Where there is no choice, the
note is the same whatever is drawn (`renderSections_steady`).

Whether or not there is a text, what stands in it comes from the library: the
last part says which lines the sections can have (`composeDay_ensures`).
-/
import Daybook.Journal.Body
import Daybook.Proofs.Random.Choice

namespace Daybook

/-- There is something on both shelves. -/
structure Library.Full (library : Library) : Prop where
  quotes : library.quotes ≠ []
  practices : library.practices ≠ []

/-- Every library that is accepted is full. -/
theorem Library.full_of_ofLists {quotes : List Quote} {practices : List Practice}
    {library : Library} (h : ofLists quotes practices = .ok library) : library.Full := by
  rw [ofLists] at h
  split at h
  · cases h
  · split at h
    · cases h
    · cases h
      exact ⟨by simpa using ‹¬ quotes.isEmpty›, by simpa using ‹¬ practices.isEmpty›⟩

theorem Draw.run_pure {α : Type} (a : α) (selector : Selector) :
    (pure a : Draw α).run.run selector = (.ok a, selector) := rfl

section Steps

variable {α β : Type} {x : Draw α} (f : α → Draw β) {selector selector' : Selector}

theorem Draw.run_bind_ok {a : α} (h : x.run.run selector = (.ok a, selector')) :
    (x >>= f : Draw β).run.run selector = (f a).run.run selector' := by
  rw [ExceptT.run_bind, StateT.run_bind, h]
  rfl

theorem Draw.run_bind_error {e : JournalError} (h : x.run.run selector = (.error e, selector')) :
    (x >>= f : Draw β).run.run selector = (.error e, selector') := by
  rw [ExceptT.run_bind, StateT.run_bind, h]
  rfl

/-- To make something of what was drawn draws nothing more. -/
theorem Draw.run_bind_pure (x : Draw α) (f : α → β) (selector : Selector) :
    (x >>= fun a => pure (f a) : Draw β).run.run selector
      = ((x.run.run selector).1.map f, (x.run.run selector).2) := by
  rcases h : x.run.run selector with ⟨e | a, selector'⟩
  · exact Draw.run_bind_error _ h
  · exact Draw.run_bind_ok _ h

end Steps

/-- The draw gives something, whatever the state of the selector. -/
def Draw.Succeeds {α : Type} (draw : Draw α) : Prop :=
  ∀ selector, ∃ a selector', draw.run.run selector = (.ok a, selector')

namespace Draw.Succeeds

variable {α β : Type}

theorem pure (a : α) : Draw.Succeeds (Pure.pure a : Draw α) :=
  fun selector => ⟨a, selector, rfl⟩

theorem bind {x : Draw α} {f : α → Draw β} (hx : Draw.Succeeds x)
    (hf : ∀ a, Draw.Succeeds (f a)) : Draw.Succeeds (x >>= f) := by
  intro selector
  obtain ⟨a, selector', h⟩ := hx selector
  obtain ⟨b, selector'', h'⟩ := hf a selector'
  exact ⟨b, selector'', (Draw.run_bind_ok f h).trans h'⟩

theorem mapM {f : α → Draw β} (hf : ∀ a, Draw.Succeeds (f a)) (as : List α) :
    Draw.Succeeds (as.mapM f) := by
  induction as with
  | nil => exact pure []
  | cons a as ih =>
    rw [List.mapM_cons]
    exact (hf a).bind fun b => ih.bind fun bs => pure (b :: bs)

end Draw.Succeeds

theorem Library.pickFrom_succeeds {α : Type} (shelf : Shelf) {xs : List α} (hne : xs ≠ []) :
    Draw.Succeeds (Library.pickFrom shelf xs) := by
  intro selector
  obtain ⟨x, selector', hpick, _⟩ := Selector.exists_pick hne selector
  refine ⟨x, selector', ?_⟩
  show Library.pickFrom shelf xs selector = _
  rw [Library.pickFrom, hpick]

namespace Note

theorem sectionLines_succeeds {library : Library} (h : library.Full) (s : Section) :
    Draw.Succeeds (sectionLines library s) := by
  cases s with
  | quote => exact (Library.pickFrom_succeeds _ h.quotes).bind fun _ => .pure _
  | practice => exact (Library.pickFrom_succeeds _ h.practices).bind fun _ => .pure _
  | morning => exact .pure _
  | evening => exact .pure _

theorem composeDay_succeeds (toggles : Toggles) (day : Calendar.Day) {library : Library}
    (h : library.Full) : Draw.Succeeds (composeDay toggles day library) :=
  .bind (.mapM (fun s => (sectionLines_succeeds h s).bind fun _ => .pure _) _) fun _ => .pure _

end Note

/-- From a full library the sections give a text, whatever is drawn. -/
theorem BodyBuilder.renderSections_ok (toggles : Toggles) (day : Calendar.Day) {library : Library}
    (h : library.Full) (selector : Selector) :
    ∃ text, (renderSections toggles ⟨day, library⟩ selector).outcome = .ok text := by
  obtain ⟨text, selector', hrun⟩ := Note.composeDay_succeeds toggles day h selector
  refine ⟨text, ?_⟩
  rw [renderSections, hrun]

/-! ## Without a choice -/

/-- The draw gives this, whatever the state of the selector. -/
def Draw.Gives {α : Type} (draw : Draw α) (a : α) : Prop :=
  ∀ selector, ∃ selector', draw.run.run selector = (.ok a, selector')

namespace Draw.Gives

variable {α β : Type}

theorem pure (a : α) : Draw.Gives (Pure.pure a : Draw α) a :=
  fun selector => ⟨selector, rfl⟩

theorem bind {x : Draw α} {f : α → Draw β} {a : α} {b : β} (hx : Draw.Gives x a)
    (hf : Draw.Gives (f a) b) : Draw.Gives (x >>= f) b := by
  intro selector
  obtain ⟨selector', h⟩ := hx selector
  obtain ⟨selector'', h'⟩ := hf selector'
  exact ⟨selector'', (Draw.run_bind_ok f h).trans h'⟩

theorem mapM {f : α → Draw β} {as : List α} (hf : ∀ a ∈ as, ∃ b, Draw.Gives (f a) b) :
    ∃ bs, Draw.Gives (as.mapM f) bs := by
  induction as with
  | nil => exact ⟨[], pure []⟩
  | cons a as ih =>
    obtain ⟨b, hb⟩ := hf a List.mem_cons_self
    obtain ⟨bs, hbs⟩ := ih fun a' ha' => hf a' (List.mem_cons_of_mem _ ha')
    refine ⟨b :: bs, ?_⟩
    rw [List.mapM_cons]
    exact hb.bind (hbs.bind (pure (b :: bs)))

end Draw.Gives

/-- No section that is turned on has a choice. -/
structure Library.Steady (library : Library) (toggles : Toggles) : Prop where
  quote : toggles.quote = true → ∃ quote, library.quotes = [quote]
  practice : toggles.practice = true → ∃ practice, library.practices = [practice]

/-- Of one thing that one is picked. -/
theorem Library.pickFrom_gives {α : Type} (shelf : Shelf) {xs : List α} {x : α} (h : xs = [x]) :
    Draw.Gives (Library.pickFrom shelf xs) x := by
  intro selector
  have hne : xs ≠ [] := by simp [h]
  obtain ⟨x', selector', hpick, hmem⟩ := Selector.exists_pick hne selector
  rw [h, List.mem_singleton] at hmem
  refine ⟨selector', ?_⟩
  show Library.pickFrom shelf xs selector = _
  rw [Library.pickFrom, hpick, hmem]

theorem Note.sectionLines_gives {toggles : Toggles} {library : Library}
    (h : library.Steady toggles) {s : Section} (hon : toggles.get s = true) :
    ∃ lines, Draw.Gives (sectionLines library s) lines := by
  cases s with
  | quote =>
    obtain ⟨quote, hquote⟩ := h.quote hon
    exact ⟨quoteLines quote, .bind (Library.pickFrom_gives _ hquote) (.pure _)⟩
  | practice =>
    obtain ⟨practice, hpractice⟩ := h.practice hon
    exact ⟨practiceLines practice, .bind (Library.pickFrom_gives _ hpractice) (.pure _)⟩
  | morning => exact ⟨morningLines, .pure _⟩
  | evening => exact ⟨eveningLines, .pure _⟩

theorem Note.composeDay_gives {toggles : Toggles} {library : Library} (h : library.Steady toggles)
    (day : Calendar.Day) : ∃ text, Draw.Gives (composeDay toggles day library) text := by
  have hblock : ∀ s ∈ toggles.enabled, ∃ block,
      Draw.Gives (do return (s, ← sectionLines library s)) block := by
    intro s hs
    obtain ⟨lines, hlines⟩ := Note.sectionLines_gives h (List.mem_filter.mp hs).2
    exact ⟨(s, lines), hlines.bind (.pure _)⟩
  obtain ⟨blocks, hblocks⟩ := Draw.Gives.mapM hblock
  exact ⟨unlines (dayHead day ++ separated blocks), hblocks.bind (.pure _)⟩

/-- Where there is no choice, the sections give the same text for a day
whatever is drawn. -/
theorem BodyBuilder.renderSections_steady {toggles : Toggles} {library : Library}
    (h : library.Steady toggles) (day : Calendar.Day) :
    ∃ text, ∀ selector, (renderSections toggles ⟨day, library⟩ selector).outcome = .ok text := by
  obtain ⟨text, hgives⟩ := Note.composeDay_gives h day
  refine ⟨text, fun selector => ?_⟩
  obtain ⟨selector', hrun⟩ := hgives selector
  rw [renderSections, hrun]

/-! ## What is drawn -/

/-- Whatever the draw gives has the property. It may also fail. -/
def Draw.Ensures {α : Type} (draw : Draw α) (P : α → Prop) : Prop :=
  ∀ selector a selector', draw.run.run selector = (.ok a, selector') → P a

namespace Draw.Ensures

variable {α β : Type} {P : α → Prop} {Q : β → Prop}

theorem pure {a : α} (h : P a) : Draw.Ensures (Pure.pure a) P := by
  intro selector b selector' hrun
  cases hrun
  exact h

theorem bind {x : Draw α} {f : α → Draw β} (hx : x.Ensures P) (hf : ∀ a, P a → (f a).Ensures Q) :
    Draw.Ensures (x >>= f) Q := by
  intro selector b selector' hrun
  rcases h : x.run.run selector with ⟨e | a, middle⟩
  · rw [Draw.run_bind_error f h] at hrun
    cases hrun
  · rw [Draw.run_bind_ok f h] at hrun
    exact hf a (hx selector a middle h) middle b selector' hrun

theorem mapM {f : α → Draw β} {as : List α} (hf : ∀ a ∈ as, (f a).Ensures Q) :
    Draw.Ensures (as.mapM f) fun bs => ∀ b ∈ bs, Q b := by
  induction as with
  | nil => exact pure (by simp)
  | cons a as ih =>
    rw [List.mapM_cons]
    refine (hf a List.mem_cons_self).bind fun b hb => ?_
    refine (ih fun a' ha' => hf a' (List.mem_cons_of_mem a ha')).bind fun bs hbs => ?_
    exact pure (List.forall_mem_cons.mpr ⟨hb, hbs⟩)

end Draw.Ensures

theorem Library.pickFrom_ensures {α : Type} (shelf : Shelf) (xs : List α) :
    (Library.pickFrom shelf xs).Ensures (· ∈ xs) := by
  intro selector x selector' hrun
  have hpick : Library.pickFrom shelf xs selector = (.ok x, selector') := hrun
  by_cases hne : xs = []
  · rw [hne] at hpick
    cases hpick
  · obtain ⟨y, selector'', hchosen, hmem⟩ := Selector.exists_pick hne selector
    rw [Library.pickFrom, hchosen] at hpick
    cases hpick
    exact hmem

namespace Note

/-- The lines that a section can have. -/
def LinesFor (library : Library) : Section → List String → Prop
  | .quote, lines => ∃ quote ∈ library.quotes, lines = quoteLines quote
  | .morning, lines => lines = morningLines
  | .evening, lines => lines = eveningLines
  | .practice, lines => ∃ practice ∈ library.practices, lines = practiceLines practice

theorem sectionLines_ensures (library : Library) (s : Section) :
    (sectionLines library s).Ensures (LinesFor library s) := by
  cases s with
  | quote =>
    exact (Library.pickFrom_ensures _ _).bind fun quote h => .pure ⟨quote, h, rfl⟩
  | practice =>
    exact (Library.pickFrom_ensures _ _).bind fun practice h => .pure ⟨practice, h, rfl⟩
  | morning => exact .pure rfl
  | evening => exact .pure rfl

/-- A text that is composed has the lines of sections behind its head. -/
theorem composeDay_ensures (toggles : Toggles) (day : Calendar.Day) (library : Library) :
    (composeDay toggles day library).Ensures fun text =>
      ∃ blocks : List (Section × List String), text = unlines (dayHead day ++ separated blocks)
        ∧ ∀ block ∈ blocks, LinesFor library block.1 block.2 := by
  refine (Draw.Ensures.mapM fun s _ => ?_).bind fun blocks hblocks => .pure ⟨blocks, rfl, hblocks⟩
  exact (sectionLines_ensures library s).bind fun lines hlines => .pure hlines

theorem mem_separated {blocks : List (Section × List String)} {line : String}
    (h : line ∈ separated blocks) :
    line = "" ∨ line = delimiter ∨ ∃ block ∈ blocks, line ∈ block.2 := by
  fun_induction separated blocks with
  | case1 => simp at h
  | case2 s lines => exact .inr (.inr ⟨(s, lines), List.mem_cons_self, h⟩)
  | case3 s lines more _ ih =>
    simp only [List.mem_append] at h
    rcases h with (h | h) | h
    · exact .inr (.inr ⟨(s, lines), List.mem_cons_self, h⟩)
    · unfold separator at h
      split at h <;> simp at h
      · exact h.imp_right .inl
      · exact .inr (.inl h)
    · refine (ih h).imp_right (Or.imp_right ?_)
      rintro ⟨block, hblock, hline⟩
      exact ⟨block, List.mem_cons_of_mem _ hblock, hline⟩

end Note

end Daybook
