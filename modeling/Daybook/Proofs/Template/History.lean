/-
Daybook.Proofs.Template.History — a registry as the row of its registrations.

A registry keeps one token for each name, and of the registrations that made it
what is left is this: where a name was registered first, and what it was registered
for last. `Records` says so of a registry and a row of registrations, and each new
registration keeps it (`Records.register`). The built-in registry is itself made by
registering its tokens, so its history starts with them.

A rendering asks for the tokens of its template and for nothing else
(`expandPieces_congr`). So two registries render a template alike if the last
registrations of those tokens have the same text, however they came to be.
-/
import Daybook.Proofs.Template.Scanned

namespace Daybook.Template

/-! ## 1. Registrations -/

/-- The latest of some registrations of a name. -/
def latest? (history : List Token) (name : String) : Option Token :=
  history.reverse.find? (·.name == name)

theorem find?_cons_name (token : Token) (more : List Token) (name : String) :
    (token :: more).find? (·.name == name)
      = if token.name = name then some token else more.find? (·.name == name) := by
  by_cases h : token.name = name
  · rw [if_pos h, List.find?_cons_of_pos (by simpa using h)]
  · rw [if_neg h, List.find?_cons_of_neg (by simpa using h)]

theorem latest?_concat (history : List Token) (token : Token) (name : String) :
    latest? (history ++ [token]) name
      = if token.name = name then some token else latest? history name := by
  rw [latest?, List.reverse_concat, find?_cons_name, latest?]

theorem latest?_eq_none_iff {history : List Token} {name : String} :
    latest? history name = none ↔ ∀ token ∈ history, token.name ≠ name := by
  simp [latest?]

namespace Registry

section Place

variable (token : Token) (tokens : List Token)

/-- A token that takes the place of another has its name. -/
theorem names_place :
    (place token tokens).map (·.name)
      = if token.name ∈ tokens.map (·.name) then tokens.map (·.name)
        else tokens.map (·.name) ++ [token.name] := by
  fun_induction place token tokens with
  | case1 => simp
  | case2 t more h => simp [h]
  | case3 t more h ih =>
    have hmem : token.name ∈ (t :: more).map (·.name) ↔ token.name ∈ more.map (·.name) := by
      simp [Ne.symm h]
    rw [List.map_cons, ih, apply_ite (t.name :: ·)]
    simp only [hmem]
    rfl

theorem find?_place (name : String) :
    (place token tokens).find? (·.name == name)
      = if token.name = name then some token else tokens.find? (·.name == name) := by
  fun_induction place token tokens with
  | case1 => exact find?_cons_name token [] name
  | case2 t more h =>
    rw [find?_cons_name, find?_cons_name, h]
    split <;> rfl
  | case3 t more h ih =>
    rw [find?_cons_name, find?_cons_name, ih]
    by_cases hname : token.name = name
    · rw [if_pos hname, if_pos hname, if_neg (hname ▸ h)]
    · rw [if_neg hname, if_neg hname]

/-- Where no name is repeated, each token is found by its name. -/
theorem find?_of_mem {tokens : List Token} (honce : (tokens.map (·.name)).Nodup)
    (hmem : token ∈ tokens) : tokens.find? (·.name == token.name) = some token := by
  induction tokens with
  | nil => cases hmem
  | cons t more ih =>
    rw [List.map_cons, List.nodup_cons] at honce
    rw [find?_cons_name]
    rcases List.mem_cons.mp hmem with rfl | hmem
    · exact if_pos rfl
    · have hother : t.name ≠ token.name := fun heq =>
        honce.1 (heq ▸ List.mem_map_of_mem hmem)
      rw [if_neg hother, ih honce.2 hmem]

end Place

/-- The registry has a token for each name of a history, at the place of the name's
first registration and as its last one has it. -/
structure Records (history : List Token) (registry : Registry) : Prop where
  names : UnknownAmong (fun _ => false) (history.map (·.name)) (registry.tokens.map (·.name))
  latest : ∀ name, registry.find? name = latest? history name

namespace Records

variable {history : List Token} {registry : Registry}

theorem empty : Records [] .empty :=
  ⟨.nil _, fun _ => rfl⟩

theorem register (h : Records history registry) (token : Token) :
    Records (history ++ [token]) (registry.register token) where
  names := by
    have hnames : (registry.register token).tokens.map (·.name) = _ :=
      names_place token registry.tokens
    rw [hnames, List.map_append, List.map_singleton]
    split
    · next hmem => exact h.names.skip (.inr hmem)
    · next hnew => exact h.names.concat rfl hnew
  latest name := by
    rw [latest?_concat, ← h.latest name]
    exact find?_place token registry.tokens name

/-- What each registration keeps, a row of them keeps. -/
theorem foldl (h : Records history registry) (more : List Token) :
    Records (history ++ more) (more.foldl .register registry) := by
  induction more generalizing history registry with
  | nil => rwa [List.append_nil]
  | cons token more ih =>
    rw [← List.singleton_append, ← List.append_assoc]
    exact ih (h.register token)

/-- The built-in registry is made by registering its tokens. -/
theorem of_start {start : Registry} (h : start = .empty ∨ start = .builtin) :
    Records start.tokens start := by
  rcases h with rfl | rfl
  · exact .empty
  · exact Records.empty.foldl Registry.builtin.tokens

/-- The token that is kept of a name is its latest registration. -/
theorem latest?_of_mem (h : Records history registry) {token : Token}
    (hmem : token ∈ registry.tokens) : latest? history token.name = some token :=
  (h.latest token.name).symm.trans (find?_of_mem token h.names.once hmem)

theorem mem_names_iff (h : Records history registry) (name : String) :
    name ∈ registry.tokens.map (·.name) ↔ ∃ token ∈ history, token.name = name := by
  rw [h.names.mem_iff, and_iff_left rfl, List.mem_map]

theorem contains_iff (h : Records history registry) (name : String) :
    registry.contains name = true ↔ ∃ token ∈ history, token.name = name := by
  rw [← Bool.not_eq_false, contains, Option.isSome_eq_false_iff, Option.isNone_iff_eq_none,
    h.latest, latest?_eq_none_iff]
  push Not
  rfl

end Records

end Registry

/-! ## 2. Renderings -/

/-- The tokens of a template. Of one that ends in a token that is never closed, they
are those before it. -/
def spans (template : String) : List String :=
  tokensAmong (template.toList.splitOn mark)

variable {σ : Type}

/-- An expansion asks for the tokens of its template only. -/
theorem expandPieces_congr {resolve resolve' : Resolver σ} (offset : Nat)
    (pieces : List (List Char)) (state : σ)
    (h : ∀ name ∈ tokensAmong pieces, resolve name = resolve' name) :
    expandPieces resolve offset pieces state = expandPieces resolve' offset pieces state := by
  fun_induction expandPieces resolve offset pieces state with
  | case1 offset text token next more state e state' hreply =>
    rw [tokensAmong, List.forall_mem_cons] at h
    rw [expandPieces, ← h.1, hreply]
  | case2 offset text token next more state found state' hreply ih =>
    rw [tokensAmong, List.forall_mem_cons] at h
    rw [expandPieces, ← h.1, hreply, ih h.2]
  | case3 | case4 | case5 => simp [expandPieces]

namespace Registry

/-- A name stands for nothing exactly if it is not registered. -/
theorem resolver_eq_none_iff {registry : Registry} {context : Context} {name : String}
    {selector : Selector} :
    (registry.resolver context name selector).1 = .ok none ↔ registry.contains name = false := by
  constructor
  · intro h
    have hreply : registry.resolver context name selector
        = (.ok none, (registry.resolver context name selector).2) := Prod.ext h rfl
    exact (isSome_of_resolver hreply).symm
  · intro h
    rw [resolver_unknown h]

/-- What stands for a token hangs on the text that it has for the day. -/
theorem resolver_congr {registry registry' : Registry} {context : Context} {name : String}
    (h : (registry.find? name).map (·.text context)
      = (registry'.find? name).map (·.text context)) :
    registry.resolver context name = registry'.resolver context name := by
  funext selector
  unfold resolver resolve
  cases hfind : registry.find? name <;> cases hfind' : registry'.find? name <;>
    simp_all

theorem render_congr {registry registry' : Registry} {context : Context} {template : String}
    (h : ∀ name ∈ spans template, (registry.find? name).map (·.text context)
      = (registry'.find? name).map (·.text context)) (selector : Selector) :
    registry.render context template selector = registry'.render context template selector := by
  show expandFrom (registry.resolver context) 0 template.toList selector
    = expandFrom (registry'.resolver context) 0 template.toList selector
  rw [expandFrom_eq, expandFrom_eq]
  exact expandPieces_congr 0 _ selector fun name hname => resolver_congr (h name hname)

end Registry

/-- What is left of a row of registrations, from nothing or from the built-in tokens on.
Each name is listed once, where it was registered first, with its latest description;
a name is answered for by its latest registration, and one that has none by nothing. So a
rendering depends on the latest texts of the tokens in its template alone, and two rows
that agree on these render it alike. -/
theorem registry_history {start : Registry} (hstart : start = .empty ∨ start = .builtin)
    (history : List Token) :
    let all := start.tokens ++ history
    let registry := history.foldl .register start
    let names := registry.tokens.map (·.name)
    (names.Nodup ∧ (∀ name, name ∈ names ↔ ∃ token ∈ all, token.name = name)
      ∧ names.Pairwise fun a b => (all.map (·.name)).idxOf a < (all.map (·.name)).idxOf b)
    ∧ (∀ token ∈ registry.tokens, latest? all token.name = some token)
    ∧ (∀ name, registry.contains name = true ↔ ∃ token ∈ all, token.name = name)
    ∧ (∀ context name selector,
      (∀ token, latest? all name = some token →
        (registry.resolve context name).run.run selector
          = (((token.text context).run.run selector).1.map some,
            ((token.text context).run.run selector).2))
      ∧ (((registry.resolve context name).run.run selector).1 = .ok none
        ↔ ∀ token ∈ all, token.name ≠ name))
    ∧ (∀ template found, tokens template = .ok found → spans template = found)
    ∧ ∀ {start' : Registry}, start' = .empty ∨ start' = .builtin →
      ∀ (history' : List Token) (context : Context) (template : String),
        (∀ name ∈ spans template, (latest? all name).map (·.text context)
          = (latest? (start'.tokens ++ history') name).map (·.text context)) →
        ∀ selector, registry.render context template selector
          = (history'.foldl Registry.register start').render context template selector := by
  intro all registry names
  have hrecords : Registry.Records all registry := (Registry.Records.of_start hstart).foldl history
  refine ⟨⟨hrecords.names.once, hrecords.mem_names_iff, hrecords.names.ordered⟩,
    fun token => hrecords.latest?_of_mem, hrecords.contains_iff,
    fun context name selector => ⟨fun token htoken => ?_, ?_⟩, fun template found h =>
      tokensAmong_of_tokensFrom h, fun hstart' history' context template hsame => ?_⟩
  · exact Registry.resolver_found ((hrecords.latest name).trans htoken)
  · have hnone : (registry.resolver context name selector).1 = .ok none
        ↔ registry.contains name = false := Registry.resolver_eq_none_iff
    rw [← Bool.not_eq_true, hrecords.contains_iff name] at hnone
    exact hnone.trans (by push Not; rfl)
  · have hrecords' := (Registry.Records.of_start hstart').foldl history'
    refine Registry.render_congr fun name hname => ?_
    rw [hrecords.latest, hrecords'.latest]
    exact hsame name hname

/-- Two rows in which two names are registered last alike, once after the built-in tokens
and once before all others. -/
theorem registry_history_reordered :
    let plain : Token := ⟨"META", "No front matter", fun _ => return ""⟩
    let calm : Token := ⟨"50%", "A mood", fun _ => return "calm"⟩
    let drawn : Token := ⟨"MOOD", "A practice", fun context => do
      return (← context.library.randomPractice).text⟩
    let early : Registry := [drawn, calm, plain].foldl .register .empty
    let late : Registry := [plain, calm, { drawn with name := "META" }, plain, drawn].foldl
      .register .builtin
    late.tokens.map (·.name) = ["META", "MONTH_LINK", "QUOTE", "PRACTICE", "50%", "MOOD"]
      ∧ late.contains "50%" = true
      ∧ ∀ context selector, early.render context "%META%%MOOD%%X%" selector
        = late.render context "%META%%MOOD%%X%" selector := by
  intro plain calm drawn early late
  obtain ⟨_, _, _, _, _, hrender⟩ := registry_history (.inl rfl) [drawn, calm, plain]
  obtain ⟨_, _, hcontains, _⟩ := registry_history (.inr rfl)
    [plain, calm, { drawn with name := "META" }, plain, drawn]
  refine ⟨rfl, (hcontains "50%").mpr ⟨calm, by simp, rfl⟩, fun context selector => ?_⟩
  refine hrender (.inr rfl) _ context _ (fun name hname => ?_) selector
  have hspans : spans "%META%%MOOD%%X%" = ["META", "MOOD", "X"] := by decide +kernel
  simp only [hspans, List.mem_cons, List.not_mem_nil, or_false] at hname
  rcases hname with rfl | rfl | rfl <;> rfl

end Daybook.Template
