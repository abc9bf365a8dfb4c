/-
Daybook.Proofs.Note.Drawn — what the sections of a day note draw.

Of the sections only the quote and the practice are drawn for, in this order,
and neither is if it is turned off. So a quote and a practice are all that chance
decides about the text (`composed`), and all that it costs is one draw for each of
the two that is there (`composeDay_draws`).

The default template has its tokens for a quote and a practice in the same order.
From the same state it draws the same two, and leaves the state that the sections
leave (`template_draws_alike`).
-/
import Daybook.Proofs.Template.Default

namespace Daybook

open Calendar (Day)

/-! ## 1. Rows of draws -/

section Rows

variable {α β : Type} {f : α → Draw β} {as as' : List α} {bs bs' : List β}
  {selector middle last : Selector}

theorem Draw.run_mapM_append (h : (as.mapM f).run.run selector = (.ok bs, middle))
    (h' : (as'.mapM f).run.run middle = (.ok bs', last)) :
    ((as ++ as').mapM f).run.run selector = (.ok (bs ++ bs'), last) := by
  rw [List.mapM_append, Draw.run_bind_ok _ h, Draw.run_bind_ok _ h', Draw.run_pure]

theorem Draw.run_mapM_singleton {a : α} {b : β}
    (h : (f a).run.run selector = (.ok b, last)) :
    ([a].mapM f).run.run selector = (.ok [b], last) := by
  rw [List.mapM_cons, Draw.run_bind_ok _ h, List.mapM_nil, Draw.run_bind_ok _ (Draw.run_pure _ _),
    Draw.run_pure]

/-- What draws for nothing leaves the selector alone. -/
theorem Draw.run_mapM_pure {g : α → β} (h : ∀ a ∈ as, f a = pure (g a)) (selector : Selector) :
    (as.mapM f).run.run selector = (.ok (as.map g), selector) := by
  induction as with
  | nil => rfl
  | cons a as ih =>
    obtain ⟨ha, has⟩ := List.forall_mem_cons.mp h
    rw [List.mapM_cons, ha, pure_bind, Draw.run_bind_ok _ (ih has), Draw.run_pure, List.map_cons]

end Rows

namespace Note

/-! ## 2. The sections -/

/-- The lines of a section with this quote and this practice. -/
def linesWith (quote : Quote) (practice : Practice) : Section → List String
  | .quote => quoteLines quote
  | .morning => morningLines
  | .evening => eveningLines
  | .practice => practiceLines practice

/-- The sections that are turned on, each with its lines. -/
def blocksWith (toggles : Toggles) (quote : Quote) (practice : Practice) :
    List (Section × List String) :=
  toggles.enabled.map fun s => (s, linesWith quote practice s)

/-- The text of a day note with this quote and this practice. -/
def composed (toggles : Toggles) (day : Day) (quote : Quote) (practice : Practice) : String :=
  unlines (dayHead day ++ separated (blocksWith toggles quote practice))

/-- A draw that is made only if it is turned on. -/
def DrawnIf {α : Type} (on : Bool) (draw : Draw α) (selector : Selector) (a : α)
    (selector' : Selector) : Prop :=
  if on then draw.run.run selector = (.ok a, selector') else selector' = selector

theorem DrawnIf.on {α : Type} {draw : Draw α} {selector selector' : Selector} {a : α}
    (h : draw.run.run selector = (.ok a, selector')) : DrawnIf true draw selector a selector' := h

theorem DrawnIf.off {α : Type} (draw : Draw α) (selector : Selector) (a : α) :
    DrawnIf false draw selector a selector := rfl

theorem DrawnIf.map {α β : Type} {on : Bool} {draw : Draw α} {selector selector' : Selector} {a : α}
    (h : DrawnIf on draw selector a selector') (g : α → β) :
    DrawnIf on (draw >>= fun a => pure (g a)) selector (g a) selector' := by
  cases on with
  | true => exact (Draw.run_bind_ok _ h).trans (Draw.run_pure _ _)
  | false => exact h

theorem exists_drawnIf {α : Type} (on : Bool) {draw : Draw α} {P : α → Prop} (h : draw.Succeeds)
    (hP : draw.Ensures P) (selector : Selector) :
    ∃ a selector', P a ∧ DrawnIf on draw selector a selector' := by
  obtain ⟨a, selector', hrun⟩ := h selector
  cases on with
  | true => exact ⟨a, selector', hP _ _ _ hrun, hrun⟩
  | false => exact ⟨a, selector, hP _ _ _ hrun, rfl⟩

/-- One section that is drawn for, or not. -/
theorem run_mapM_filter {α : Type} {f : Section → Draw α} {g : Section → α} {toggles : Toggles}
    {s : Section} {selector selector' : Selector}
    (h : DrawnIf (toggles.get s) (f s) selector (g s) selector') :
    (([s].filter toggles.get).mapM f).run.run selector
      = (.ok (([s].filter toggles.get).map g), selector') := by
  cases hon : toggles.get s with
  | true =>
    rw [hon] at h
    rw [List.filter_cons_of_pos hon]
    exact Draw.run_mapM_singleton h
  | false =>
    rw [hon] at h
    rw [List.filter_cons_of_neg (by simp [hon])]
    obtain rfl : selector' = selector := h
    rfl

section Draws

variable {toggles : Toggles} {library : Library} {selector middle last : Selector} {quote : Quote}
  {practice : Practice}

/-- The quote is drawn first and then the practice, each if it is turned on. -/
theorem composeDay_draws (hquote : DrawnIf toggles.quote library.randomQuote selector quote middle)
    (hpractice : DrawnIf toggles.practice library.randomPractice middle practice last)
    (day : Day) :
    (composeDay toggles day library).run.run selector
      = (.ok (composed toggles day quote practice), last) := by
  have hsections : toggles.enabled = [.quote].filter toggles.get
      ++ ([.morning, .evening].filter toggles.get ++ [.practice].filter toggles.get) := by
    rw [← List.filter_append, ← List.filter_append]
    rfl
  have hblocks : (toggles.enabled.mapM fun s => do
      return (s, ← sectionLines library s) : Draw _).run.run selector
      = (.ok (blocksWith toggles quote practice), last) := by
    rw [blocksWith, hsections, List.map_append, List.map_append]
    refine Draw.run_mapM_append (run_mapM_filter ?_)
      (Draw.run_mapM_append (Draw.run_mapM_pure ?_ middle) (run_mapM_filter ?_))
    · exact (hquote.map quoteLines).map (Prod.mk Section.quote)
    · intro s hs
      have hquiet : s = .morning ∨ s = .evening := by simpa using (List.mem_filter.mp hs).1
      rcases hquiet with rfl | rfl <;> rfl
    · exact (hpractice.map practiceLines).map (Prod.mk Section.practice)
  rw [composeDay, Draw.run_bind_ok _ hblocks]
  rfl

end Draws

/-! ## 3. The default template -/

/-- From a full library the default template and the sections draw alike: a quote,
and then a practice from the state that the quote leaves. Sections that are turned
off are not drawn for, and where neither is on no library is needed. -/
theorem template_draws_alike {library : Library} (h : library.Full) (day : Day)
    (selector : Selector) :
    ∃ quote middle practice last,
      library.randomQuote.run.run selector = (.ok quote, middle)
      ∧ library.randomPractice.run.run middle = (.ok practice, last)
      ∧ Template.Registry.builtin.render ⟨day, library⟩ Template.defaultDay selector
        = ⟨.ok (unlines (dayHead day ++ Template.defaultLines quote practice)), last, []⟩
      ∧ ∀ morning evening,
        (composeDay ⟨true, morning, evening, true⟩ day library).run.run selector
          = (.ok (composed ⟨true, morning, evening, true⟩ day quote practice), last)
        ∧ (∀ unused, (composeDay ⟨true, morning, evening, false⟩ day library).run.run selector
          = (.ok (composed ⟨true, morning, evening, false⟩ day quote unused), middle))
        ∧ (∃ practice' last', library.randomPractice.run.run selector = (.ok practice', last')
          ∧ ∀ unused, (composeDay ⟨false, morning, evening, true⟩ day library).run.run selector
            = (.ok (composed ⟨false, morning, evening, true⟩ day unused practice'), last'))
        ∧ ∀ (library : Library) (unused : Quote) (unused' : Practice),
          (composeDay ⟨false, morning, evening, false⟩ day library).run.run selector
            = (.ok (composed ⟨false, morning, evening, false⟩ day unused unused'), selector) := by
  have hquotes : library.randomQuote.Succeeds := Library.pickFrom_succeeds _ h.quotes
  have hpractices : library.randomPractice.Succeeds := Library.pickFrom_succeeds _ h.practices
  obtain ⟨quote, middle, hquote⟩ := hquotes selector
  obtain ⟨practice, last, hpractice⟩ := hpractices middle
  obtain ⟨practice', last', hpractice'⟩ := hpractices selector
  have hdraw : (Template.defaultText day library).run.run selector
      = (.ok (unlines (dayHead day ++ Template.defaultLines quote practice)), last) := by
    rw [Template.defaultText, Draw.run_bind_ok _ hquote, Draw.run_bind_ok _ hpractice,
      Draw.run_pure]
  refine ⟨quote, middle, practice, last, hquote, hpractice, ?_, fun morning evening =>
    ⟨?_, fun unused => ?_, ⟨practice', last', hpractice', fun unused => ?_⟩,
      fun library unused unused' => ?_⟩⟩
  · rw [Template.render_defaultDay Template.Registry.hasBuiltin_builtin, hdraw]
  · exact composeDay_draws (.on hquote) (.on hpractice) day
  · exact composeDay_draws (.on hquote) (.off _ _ unused) day
  · exact composeDay_draws (.off _ _ unused) (.on hpractice') day
  · exact composeDay_draws (.off _ _ unused) (.off _ _ unused') day

/-- With this seed three numbers are made for the two picks, because one of them is
passed over. -/
theorem template_draws_alike_three_quotes :
    let library : Library :=
      ⟨[⟨"Begin.", "Seneca"⟩, ⟨"Endure.", "Epictetus"⟩, ⟨"Accept.", "Marcus"⟩],
        [⟨"Breathe."⟩, ⟨"Walk."⟩]⟩
    let day : Day := ⟨2024, 3, 7⟩
    library.Full ∧ ∃ quote practice last, last.drawn = 3
      ∧ Template.Registry.builtin.render ⟨day, library⟩ Template.defaultDay (.seeded 7)
        = ⟨.ok (unlines (dayHead day ++ Template.defaultLines quote practice)), last, []⟩
      ∧ (composeDay .allOn day library).run.run (.seeded 7)
        = (.ok (composed .allOn day quote practice), last) := by
  intro library day
  have hfull : library.Full := ⟨by decide, by decide⟩
  have hdrawn : (library.randomPractice.run.run
      (library.randomQuote.run.run (.seeded 7)).2).2.drawn = 3 := by decide +kernel
  obtain ⟨quote, middle, practice, last, hquote, hpractice, hrender, hcompose⟩ :=
    template_draws_alike hfull day (.seeded 7)
  rw [hquote, hpractice] at hdrawn
  exact ⟨hfull, quote, practice, last, hdrawn, hrender, (hcompose true true).1⟩

end Note

end Daybook
