/-
Daybook.Proofs.Template.Tokens — templates with the tokens that every template
can use.

The tokens of a template can be found without expanding it. Where no token
fails, that says beforehand whether there will be a text: finding the tokens
fails exactly when expanding does, with the same error (`error_expand_iff`).
The tokens that every template can use draw from a library, and from a full
one they never fail (`builtin_answers`).
-/
import Daybook.Proofs.Note.Composed
import Daybook.Template.Registry

namespace Daybook.Template

variable {σ : Type}

/-! ## Finding tokens -/

section Finding

variable {template before after token rest : List Char} (offset : Nat)

theorem tokensFrom_text (hopen : Text.cut? mark template = none) :
    tokensFrom offset template = .ok [] := by
  rw [tokensFrom]
  split <;> simp_all

theorem tokensFrom_unterminated (hopen : Text.cut? mark template = some (before, after))
    (hclose : Text.cut? mark after = none) :
    tokensFrom offset template
      = .error (.unterminated (offset + Text.bytes before) (.ofList after)) := by
  rw [tokensFrom]
  split
  · simp_all
  · split <;> simp_all

theorem tokensFrom_token (hopen : Text.cut? mark template = some (before, after))
    (hclose : Text.cut? mark after = some (token, rest)) :
    tokensFrom offset template
      = (tokensFrom (offset + Text.bytes before + Text.bytes token + 2) rest).map
        (String.ofList token :: ·) := by
  rw [tokensFrom]
  split
  · simp_all
  · split <;> simp_all

end Finding

theorem map_eq_error_iff {ε α β : Type} {f : α → β} {r : Except ε α} {e : ε} :
    r.map f = .error e ↔ r = .error e := by
  cases r <;> simp [Except.map]

theorem map_eq_ok_iff {ε α β : Type} {f : α → β} {r : Except ε α} {b : β} :
    r.map f = .ok b ↔ ∃ a, r = .ok a ∧ f a = b := by
  cases r <;> simp [Except.map]

/-- Every token gets an answer, whatever the state. -/
def Resolver.Answers (resolve : Resolver σ) : Prop :=
  ∀ token state, ∃ text state', resolve token state = (.ok text, state')

/-- A mark without a partner is all that can be wrong with a template. -/
theorem error_expandFrom_iff {resolve : Resolver σ} (h : resolve.Answers) (offset : Nat)
    (template : List Char) (state : σ) (e : JournalError) :
    (expandFrom resolve offset template state).outcome = .error e
      ↔ tokensFrom offset template = .error e := by
  fun_induction expandFrom resolve offset template state with
  | case1 offset template state hopen =>
    rw [tokensFrom_text offset hopen]
    simp
  | case2 offset template state before after hopen hclose =>
    rw [tokensFrom_unterminated offset hopen hclose]
    simp
  | case3 offset template state before after hopen token rest hclose e' state' hreply =>
    obtain ⟨text, state'', hanswer⟩ := h (.ofList token) state
    rw [hreply] at hanswer
    cases hanswer
  | case4 offset template state before after hopen token rest hclose text state' hreply ih =>
    rw [tokensFrom_token offset hopen hclose, map_eq_error_iff, ← ih]
    exact map_eq_error_iff

/-- Finding the tokens fails exactly when expanding does. -/
theorem error_expand_iff {resolve : Resolver σ} (h : resolve.Answers) (template : String)
    (state : σ) (e : JournalError) :
    (expand resolve template state).outcome = .error e ↔ tokens template = .error e :=
  error_expandFrom_iff h 0 template.toList state e

/-! ## The tokens that every template can use -/

namespace Registry

theorem builtin_succeeds {library : Library} (h : library.Full) (day : Calendar.Day) {token : Token}
    (htoken : token ∈ builtin.tokens) : Draw.Succeeds (token.text ⟨day, library⟩) := by
  simp only [builtin, List.mem_cons, List.not_mem_nil, or_false] at htoken
  rcases htoken with rfl | rfl | rfl | rfl
  · exact .pure _
  · exact .pure _
  · exact (Library.pickFrom_succeeds _ h.quotes).bind fun _ => .pure _
  · exact (Library.pickFrom_succeeds _ h.practices).bind fun _ => .pure _

/-- With a full library no token fails. -/
theorem builtin_answers {library : Library} (h : library.Full) (day : Calendar.Day) :
    Resolver.Answers fun name => (builtin.resolve ⟨day, library⟩ name).run := by
  intro name selector
  have hresolve : Draw.Succeeds (builtin.resolve ⟨day, library⟩ name) := by
    unfold resolve
    cases hfind : builtin.find? name with
    | none => exact .pure _
    | some token =>
      exact (builtin_succeeds h day (List.mem_of_find?_eq_some hfind)).bind fun _ => .pure _
  exact hresolve selector

theorem error_unknownTokens_iff (registry : Registry) (template : String) (e : JournalError) :
    registry.unknownTokens template = .error e ↔ Template.tokens template = .error e :=
  map_eq_error_iff

/-- The tokens of a template are all right exactly when it has an expansion. -/
theorem error_render_iff {library : Library} (h : library.Full) (day : Calendar.Day)
    (template : String) (selector : Selector) (e : JournalError) :
    (builtin.render ⟨day, library⟩ template selector).outcome = .error e
      ↔ builtin.unknownTokens template = .error e :=
  (error_expand_iff (builtin_answers h day) template selector e).trans
    (error_unknownTokens_iff builtin template e).symm

end Registry

end Daybook.Template
