/-
Daybook.Proofs.Template.Default — what the default template stands for.

A registry may have tokens of its own beside the built-in ones. The default
template uses none but those, so it stands for the same text everywhere: the head
that every day note has, a quote and a practice (`render_defaultDay`). The quote
is drawn first, and if there is none the practice is not drawn for.
-/
import Daybook.Proofs.Note.Composed
import Daybook.Proofs.Template.Grammar
import Daybook.Template.Registry

namespace Daybook

open Calendar (Day)

namespace Template

variable {registry : Registry} {context : Context} {selector : Selector}

/-! ## Tokens -/

namespace Registry

/-- The registry has the built-in tokens, perhaps among others. -/
def HasBuiltin (registry : Registry) : Prop :=
  ∀ token ∈ builtin.tokens, registry.find? token.name = some token

theorem hasBuiltin_builtin : builtin.HasBuiltin := by
  simp [HasBuiltin, builtin, find?]

/-- How a registry answers for tokens, as a template is expanded. -/
def resolver (registry : Registry) (context : Context) : Resolver Selector :=
  fun name => (registry.resolve context name).run

theorem resolver_found {name : String} {token : Token} (h : registry.find? name = some token) :
    registry.resolver context name selector
      = (((token.text context).run.run selector).1.map some,
        ((token.text context).run.run selector).2) := by
  unfold resolver
  rw [resolve, h]
  exact Draw.run_bind_pure _ some selector

theorem run_resolve (h : registry.HasBuiltin) {token : Token} (htoken : token ∈ builtin.tokens) :
    registry.resolver context token.name selector
      = (((token.text context).run.run selector).1.map some,
        ((token.text context).run.run selector).2) :=
  resolver_found (h token htoken)

/-- A token whose text is made of something that is drawn. -/
theorem run_drawn (h : registry.HasBuiltin) {token : Token} (htoken : token ∈ builtin.tokens)
    {α : Type} {x : Draw α} {text : α → String}
    (htext : token.text context = x >>= fun a => pure (text a)) {r : Except JournalError α}
    {selector' : Selector} (hdrawn : x.run.run selector = (r, selector')) :
    registry.resolver context token.name selector = (r.map fun a => some (text a), selector') := by
  rw [run_resolve h htoken, htext, Draw.run_bind_pure, hdrawn]
  cases r <;> rfl

section Builtin

variable (context : Context) (h : registry.HasBuiltin)
include h

theorem run_frontMatter :
    registry.resolver context "META" selector = (.ok (some Note.frontMatter), selector) :=
  run_resolve h (List.getElem_mem (l := builtin.tokens) (n := 0) (by decide))

theorem run_monthLink :
    registry.resolver context "MONTH_LINK" selector
      = (.ok (some (Note.monthLink context.day)), selector) :=
  run_resolve h (List.getElem_mem (l := builtin.tokens) (n := 1) (by decide))

theorem run_quote {r : Except JournalError Quote} {selector' : Selector}
    (hquote : context.library.randomQuote.run.run selector = (r, selector')) :
    registry.resolver context "QUOTE" selector
      = (r.map fun quote => some (Note.unlines (Note.quoteHeading :: Note.quoteLines quote)),
        selector') :=
  run_drawn h (List.getElem_mem (l := builtin.tokens) (n := 2) (by decide)) rfl hquote

theorem run_practice {r : Except JournalError Practice} {selector' : Selector}
    (hpractice : context.library.randomPractice.run.run selector = (r, selector')) :
    registry.resolver context "PRACTICE" selector
      = (r.map fun practice => some (Note.unlines (Note.practiceLines practice)), selector') :=
  run_drawn h (List.getElem_mem (l := builtin.tokens) (n := 3) (by decide)) rfl hpractice

end Builtin

end Registry

/-! ## The template -/

/-- The lines that the default template puts below the head of a day note. -/
def defaultLines (quote : Quote) (practice : Practice) : List String :=
  Note.quoteHeading :: Note.quoteLines quote ++ ["", Note.delimiter]
    ++ Note.practiceLines practice ++ [""]

/-- The text that the default template stands for. -/
def defaultText (day : Day) (library : Library) : Draw String := do
  let quote ← library.randomQuote
  let practice ← library.randomPractice
  return Note.unlines (Note.dayHead day ++ defaultLines quote practice)

theorem splitOn_defaultDay : defaultDay.toList.splitOn mark
    = ["", "META", "\n", "MONTH_LINK", "\n\n", "QUOTE", "\n\n---\n", "PRACTICE", "\n"].map
      String.toList := rfl

/-- The pieces of the template with the texts of its tokens are lines. -/
theorem unlines_default (day : Day) (quote : Quote) (practice : Practice) :
    Note.frontMatter ++ ("\n" ++ Note.monthLink day
        ++ ("\n\n" ++ Note.unlines (Note.quoteHeading :: Note.quoteLines quote)
          ++ ("\n\n---\n" ++ Note.unlines (Note.practiceLines practice) ++ "\n")))
      = Note.unlines (Note.dayHead day ++ defaultLines quote practice) := by
  apply String.toList_inj.mp
  simp [Note.frontMatter, Note.frontMatterLines, Note.unlines, Note.dayHead, defaultLines,
    Note.quoteLines, Note.practiceLines, Note.delimiter, String.intercalate_cons_cons]

/-- With the built-in tokens the default template stands for its text, and all
tokens in it are known. -/
theorem render_defaultDay (h : registry.HasBuiltin) (day : Day) (library : Library)
    (selector : Selector) :
    registry.render ⟨day, library⟩ defaultDay selector
      = ⟨((defaultText day library).run.run selector).1,
        ((defaultText day library).run.run selector).2, []⟩ := by
  show expand (registry.resolver ⟨day, library⟩) defaultDay selector = _
  rw [expand, expandFrom_eq, splitOn_defaultDay]
  simp only [List.map_cons, List.map_nil]
  rw [expandPieces_found _ (Registry.run_frontMatter _ h),
    expandPieces_found _ (Registry.run_monthLink _ h)]
  unfold defaultText
  rcases hquote : library.randomQuote.run.run selector with ⟨e | quote, selector'⟩
  all_goals have hquoted := Registry.run_quote ⟨day, library⟩ h hquote
  · rw [expandPieces_failed _ hquoted, Draw.run_bind_error _ hquote]
    rfl
  · rw [expandPieces_found _ hquoted, Draw.run_bind_ok _ hquote]
    rcases hpractice : library.randomPractice.run.run selector' with ⟨e | practice, selector''⟩
    all_goals have hpracticed := Registry.run_practice ⟨day, library⟩ h hpractice
    · rw [expandPieces_failed _ hpracticed, Draw.run_bind_error _ hpractice]
      rfl
    · rw [expandPieces_found _ hpracticed, Draw.run_bind_ok _ hpractice, ← unlines_default,
        Draw.run_pure]
      simp [goOn, expandPieces, Except.map]

end Template

end Daybook
