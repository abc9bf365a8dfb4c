/-
Daybook.Proofs.Template.Scanned — what the tokens of a template say beforehand.

The tokens of a template are found without expanding it. `scan_predicts_render`
says how much is known then: whether the marks are paired, which tokens an
expansion will ask for, which of them a registry does not know, and so what the
warnings of a rendering will be. The unknown tokens stand for nothing, so the
template without their spans is rendered to the same text.

To take spans out of a template moves the marks behind them. They are paired as
before, because a span holds both of its marks and what stands before it holds
none (`expandFrom_append`).
-/
import Daybook.Proofs.Template.Default
import Daybook.Proofs.Template.Tokens
import Mathlib.Data.List.Basic
import Mathlib.Data.List.Induction

namespace Daybook.Template

variable {σ : Type}

/-! ## 1. The tokens that are asked for -/

section Asked

variable {resolve : Resolver σ} {offset : Nat} {template : List Char} {names : List String}

/-- The tokens that are found are those among the pieces of the template. -/
theorem tokensAmong_of_tokensFrom (h : tokensFrom offset template = .ok names) :
    tokensAmong (template.splitOn mark) = names := by
  fun_induction tokensFrom offset template generalizing names with
  | case1 offset template hopen =>
    cases h
    rw [splitOn_of_cut?_none hopen]
    rfl
  | case2 => cases h
  | case3 offset template before after hopen token rest hclose ih =>
    obtain ⟨more, hmore, rfl⟩ := map_eq_ok_iff.mp h
    obtain ⟨next, others, hrest⟩ := List.exists_cons_of_ne_nil (List.splitOn_ne_nil mark rest)
    rw [splitOn_of_cut? hopen, splitOn_of_cut? hclose, hrest, tokensAmong, ← hrest, ih hmore]

theorem answered_askAll (h : resolve.Answers) (names : List String) (state : σ) {call : Call}
    (hcall : call ∈ (resolve.askAll names state).1) : call.Answered := by
  fun_induction Resolver.askAll resolve names state with
  | case1 => cases hcall
  | case2 token more state e state' hreply =>
    obtain ⟨text, state'', hanswer⟩ := h token state
    rw [hreply] at hanswer
    cases hanswer
  | case3 token more state text state' hreply ih =>
    rcases List.mem_cons.mp hcall with rfl | hcall
    · exact ⟨text, rfl⟩
    · exact ih hcall

/-- A resolver that answers everything is asked for all of them. -/
theorem asked_expand (h : resolve.Answers) {template : String}
    (htokens : tokens template = .ok names) (state : σ) :
    (expand resolve.recording template (state, [])).state.2.map (·.token) = names := by
  have hrecord : expand resolve.recording template (state, [])
      = expandPieces resolve.recording 0 (template.toList.splitOn mark) (state, []) :=
    expandFrom_eq resolve.recording 0 template.toList (state, [])
  rw [hrecord, expandPieces_recording, tokensAmong_of_tokensFrom htokens]
  exact tokens_askAll_of_answered resolve names state fun call => answered_askAll h names state

end Asked

/-! ## 2. Unknown tokens -/

/-- Of some names these are the ones that are not known, each once, in the order
in which they first appear. -/
structure UnknownAmong (known : String → Bool) (names found : List String) : Prop where
  mem_iff : ∀ name, name ∈ found ↔ name ∈ names ∧ known name = false
  once : found.Nodup
  ordered : found.Pairwise fun a b => names.idxOf a < names.idxOf b

namespace UnknownAmong

variable {known : String → Bool} {names found : List String} {name : String}

theorem nil (known : String → Bool) : UnknownAmong known [] [] :=
  ⟨by simp, .nil, .nil⟩

/-- What appears later does not change where names appear first. -/
theorem ordered_append (h : UnknownAmong known names found) (later : List String) :
    found.Pairwise fun a b => (names ++ later).idxOf a < (names ++ later).idxOf b := by
  refine h.ordered.imp_of_mem fun ha hb hlt => ?_
  rwa [List.idxOf_append_of_mem ((h.mem_iff _).mp ha).1,
    List.idxOf_append_of_mem ((h.mem_iff _).mp hb).1]

/-- A name that is known, or that was met before, adds nothing. -/
theorem skip (h : UnknownAmong known names found) (hskip : known name = true ∨ name ∈ found) :
    UnknownAmong known (names ++ [name]) found where
  mem_iff other := by
    rw [h.mem_iff, List.mem_append, List.mem_singleton]
    constructor
    · exact fun ⟨hother, hunknown⟩ => ⟨.inl hother, hunknown⟩
    · rintro ⟨hother | rfl, hunknown⟩
      · exact ⟨hother, hunknown⟩
      · refine (h.mem_iff _).mp (hskip.resolve_left fun hknown => ?_)
        rw [hknown] at hunknown
        cases hunknown
  once := h.once
  ordered := h.ordered_append [name]

/-- Another name comes behind all that were met before. -/
theorem concat (h : UnknownAmong known names found) (hunknown : known name = false)
    (hnew : name ∉ found) : UnknownAmong known (names ++ [name]) (found ++ [name]) where
  mem_iff other := by
    rw [List.mem_append, List.mem_append, h.mem_iff, List.mem_singleton]
    constructor
    · rintro (⟨hother, hunknown⟩ | rfl)
      · exact ⟨.inl hother, hunknown⟩
      · exact ⟨.inr rfl, hunknown⟩
    · rintro ⟨hother | rfl, hunknown⟩
      · exact .inl ⟨hother, hunknown⟩
      · exact .inr rfl
  once := by
    refine List.nodup_append.mpr ⟨h.once, List.pairwise_singleton _ _, ?_⟩
    rintro a ha b hb rfl
    exact hnew (List.mem_singleton.mp hb ▸ ha)
  ordered := by
    refine List.pairwise_append.mpr ⟨h.ordered_append [name], List.pairwise_singleton _ _, ?_⟩
    intro a ha b hb
    obtain rfl := List.mem_singleton.mp hb
    have hmem := ((h.mem_iff a).mp ha).1
    have hnot : b ∉ names := fun hb => hnew ((h.mem_iff b).mpr ⟨hb, hunknown⟩)
    rw [List.idxOf_append_of_mem hmem, List.idxOf_append_of_notMem hnot]
    exact Nat.lt_of_lt_of_le (List.idxOf_lt_length_of_mem hmem) (Nat.le_add_right _ _)

end UnknownAmong

/-- Dropping repetitions from the left: the last name stays if it is new. -/
theorem eraseDups_concat (names : List String) (name : String) :
    (names ++ [name]).eraseDups
      = if name ∈ names then names.eraseDups else names.eraseDups ++ [name] := by
  rw [List.eraseDups_append, List.removeAll]
  split
  · next hmem => simp [hmem]
  · next hnew =>
    have hkept : [name].filter (fun name => !List.elem name names) = [name] := by simp [hnew]
    rw [hkept]
    rfl

/-- The names are collected one by one. The induction is on the last one. -/
theorem unknownAmong_foldl (known : String → Bool) (names : List String) :
    let found := names.foldl (fun found name =>
      if known name || found.contains name then found else found ++ [name]) []
    UnknownAmong known names found ∧ (names.filter fun name => !known name).eraseDups = found := by
  induction names using List.reverseRecOn with
  | nil => exact ⟨.nil known, rfl⟩
  | append_singleton names name ih =>
    obtain ⟨hfound, herase⟩ := ih
    rw [List.filter_append, List.foldl_concat]
    generalize names.foldl _ [] = found at hfound herase ⊢
    cases hknown : known name with
    | true =>
      rw [Bool.true_or, if_pos rfl]
      refine ⟨hfound.skip (.inl hknown), ?_⟩
      simpa [hknown] using herase
    | false =>
      have hfilter : [name].filter (fun name => !known name) = [name] := by simp [hknown]
      have hmem : name ∈ names.filter (fun name => !known name) ↔ name ∈ found := by
        rw [← herase, List.mem_eraseDups]
      rw [Bool.false_or, hfilter, eraseDups_concat, herase]
      by_cases hmet : name ∈ found
      · rw [if_pos (List.contains_iff_mem.mpr hmet), if_pos (hmem.mpr hmet)]
        exact ⟨hfound.skip (.inr hmet), rfl⟩
      · rw [if_neg (mt List.contains_iff_mem.mp hmet), if_neg (mt hmem.mp hmet)]
        exact ⟨hfound.concat hknown hmet, rfl⟩

/-! ## 3. Templates without some spans -/

/-- A template without the spans of some tokens. -/
def withoutFrom (names : List String) (template : List Char) : List Char :=
  match _opening : Text.cut? mark template with
  | none => template
  | some (before, after) =>
    match _closing : Text.cut? mark after with
    | none => template
    | some (token, rest) =>
      if names.contains (.ofList token) then before ++ withoutFrom names rest
      else before ++ mark :: token ++ mark :: withoutFrom names rest
termination_by template.length
decreasing_by
  all_goals
    have := Text.length_of_cut? _opening
    have := Text.length_of_cut? _closing
    omega

def without (names : List String) (template : String) : String :=
  .ofList (withoutFrom names template.toList)

example : without ["B"] "a%A%b%B%c" = "a%A%bc" := by decide +kernel

section Spans

variable {resolve : Resolver σ} (offset : Nat) {template before after token rest : List Char}
  {state state' : σ}

theorem rendering_ext {r r' : Rendering σ} (houtcome : r.outcome = r'.outcome)
    (hstate : r.state = r'.state) (hwarnings : r.warnings = r'.warnings) : r = r' := by
  cases r
  cases r'
  simp_all

/-- A text that stands before a rendering. -/
def textBefore (before : List Char) (r : Rendering σ) : Rendering σ :=
  { r with outcome := r.outcome.map fun more => .ofList before ++ more }

/-- What stands before the first mark is not looked at. -/
theorem expandFrom_append (hbefore : mark ∉ before) :
    expandFrom resolve offset (before ++ rest) state
      = textBefore before (expandFrom resolve (offset + Text.bytes before) rest state) := by
  obtain ⟨text, more, hpieces⟩ := List.exists_cons_of_ne_nil (List.splitOn_ne_nil mark rest)
  rw [expandFrom_eq, expandFrom_eq, Text.splitOn_append hbefore, hpieces, List.modifyHead_cons]
  match more with
  | [] => simp [expandPieces, textBefore, Except.map]
  | [token] => simp [expandPieces, textBefore, Except.map, Text.bytes_append, Nat.add_assoc]
  | token :: next :: more =>
    rw [expandPieces, expandPieces, Text.bytes_append, ← Nat.add_assoc]
    rcases resolve (.ofList token) state with ⟨e | found, state'⟩
    · rfl
    · have houtcome : ∀ r : Except JournalError String,
          r.map (fun more => .ofList (before ++ text) ++ found.getD "" ++ more)
          = (r.map fun more => .ofList text ++ found.getD "" ++ more).map
            fun more => .ofList before ++ more := fun r => by
        cases r <;> simp [Except.map, String.append_assoc]
      simp only [goOn, textBefore, houtcome]

theorem expandFrom_text (hopen : Text.cut? mark template = none) :
    expandFrom resolve offset template state = ⟨.ok (.ofList template), state, []⟩ := by
  rw [expandFrom_eq, splitOn_of_cut?_none hopen, expandPieces]

variable (hopen : Text.cut? mark template = some (before, after))

include hopen

theorem expandFrom_unterminated (hclose : Text.cut? mark after = none) :
    expandFrom resolve offset template state
      = ⟨.error (.unterminated (offset + Text.bytes before) (.ofList after)), state, []⟩ := by
  rw [expandFrom_eq, splitOn_of_cut? hopen, splitOn_of_cut?_none hclose, expandPieces]

variable (hclose : Text.cut? mark after = some (token, rest))

include hclose

theorem expandFrom_found {found : Option String}
    (hreply : resolve (.ofList token) state = (.ok found, state')) :
    expandFrom resolve offset template state
      = goOn before (.ofList token) found
        (expandFrom resolve (offset + Text.bytes before + Text.bytes token + 2) rest state') := by
  obtain ⟨next, more, hrest⟩ := List.exists_cons_of_ne_nil (List.splitOn_ne_nil mark rest)
  rw [expandFrom_eq, expandFrom_eq, splitOn_of_cut? hopen, splitOn_of_cut? hclose, hrest,
    expandPieces, hreply]

theorem expandFrom_failed {e : JournalError}
    (hreply : resolve (.ofList token) state = (.error e, state')) :
    expandFrom resolve offset template state = ⟨.error e, state', []⟩ := by
  obtain ⟨next, more, hrest⟩ := List.exists_cons_of_ne_nil (List.splitOn_ne_nil mark rest)
  rw [expandFrom_eq, splitOn_of_cut? hopen, splitOn_of_cut? hclose, hrest, expandPieces, hreply]

end Spans

/-- If some tokens stand for nothing and leave the state alone, a template that
has an expansion has it without their spans too. The induction is on the spans;
the bytes at which they stand do not matter. -/
theorem expandFrom_withoutFrom {resolve : Resolver σ} {names : List String}
    (hnone : ∀ name ∈ names, ∀ state, resolve name state = (.ok none, state))
    (offset offset' : Nat) (template : List Char) (state : σ) {text : String}
    (h : (expandFrom resolve offset template state).outcome = .ok text) :
    (expandFrom resolve offset' (withoutFrom names template) state).outcome = .ok text
      ∧ (expandFrom resolve offset' (withoutFrom names template) state).state
        = (expandFrom resolve offset template state).state
      ∧ (expandFrom resolve offset' (withoutFrom names template) state).warnings
        = (expandFrom resolve offset template state).warnings.filter
          fun warning => !(names.map Warning.unknownToken).contains warning := by
  fun_induction withoutFrom names template generalizing offset offset' state text with
  | case1 template hopen =>
    rw [expandFrom_text offset hopen] at h ⊢
    rw [expandFrom_text offset' hopen]
    exact ⟨h, rfl, rfl⟩
  | case2 template before after hopen hclose =>
    rw [expandFrom_unterminated offset hopen hclose] at h
    cases h
  | case3 template before after hopen token rest hclose hdropped ih =>
    have hreply := hnone _ (List.contains_iff_mem.mp hdropped) state
    rw [expandFrom_found offset hopen hclose hreply] at h ⊢
    rw [expandFrom_append offset' (Text.eq_of_cut? hopen).2]
    obtain ⟨more, hmore, rfl⟩ := map_eq_ok_iff.mp h
    obtain ⟨houtcome, hstate, hwarnings⟩ := ih _ (offset' + Text.bytes before) state hmore
    refine ⟨?_, hstate, ?_⟩
    · simp [textBefore, houtcome, Except.map]
    · have hnamed : (names.map Warning.unknownToken).contains (.unknownToken (.ofList token))
          = true :=
        List.contains_iff_mem.mpr (List.mem_map_of_mem (List.contains_iff_mem.mp hdropped))
      simp only [textBefore, goOn, hwarnings, List.filter_cons, hnamed, Bool.not_true,
        Bool.false_eq_true, if_false]
  | case4 template before after hopen token rest hclose hkept ih =>
    have hopen' : Text.cut? mark (before ++ mark :: token ++ mark :: withoutFrom names rest)
        = some (before, token ++ mark :: withoutFrom names rest) := by
      rw [List.append_assoc, List.cons_append]
      exact Text.cut?_append_mark (Text.eq_of_cut? hopen).2 _
    have hclose' := Text.cut?_append_mark (Text.eq_of_cut? hclose).2 (withoutFrom names rest)
    rcases hreply : resolve (.ofList token) state with ⟨e | found, state'⟩
    · rw [expandFrom_failed offset hopen hclose hreply] at h
      cases h
    · rw [expandFrom_found offset hopen hclose hreply] at h ⊢
      rw [expandFrom_found offset' hopen' hclose' hreply]
      obtain ⟨more, hmore, rfl⟩ := map_eq_ok_iff.mp h
      obtain ⟨houtcome, hstate, hwarnings⟩ :=
        ih _ (offset' + Text.bytes before + Text.bytes token + 2) state' hmore
      refine ⟨?_, hstate, ?_⟩
      · simp [goOn, houtcome, Except.map]
      · have hother : (names.map Warning.unknownToken).contains (.unknownToken (.ofList token))
            = false := by
          simpa [List.contains_iff_mem] using hkept
        cases found with
        | some text => exact hwarnings
        | none =>
          simp only [goOn, hwarnings, List.filter_cons, hother, Bool.not_false, if_true]

/-! ## 4. Renderings -/

namespace Registry

variable {registry : Registry} {context : Context} {name : String} {selector selector' : Selector}
  {found : Option String}

theorem resolver_unknown (h : registry.contains name = false) :
    registry.resolver context name selector = (.ok none, selector) := by
  rw [contains, Option.isSome_eq_false_iff, Option.isNone_iff_eq_none] at h
  rw [resolver, resolve, h]
  rfl

/-- A token stands for nothing only if it is not registered. -/
theorem isSome_of_resolver
    (hreply : registry.resolver context name selector = (.ok found, selector')) :
    found.isSome = registry.contains name := by
  cases hname : registry.contains name with
  | false =>
    rw [resolver_unknown hname] at hreply
    cases hreply
    rfl
  | true =>
    obtain ⟨token, htoken⟩ := Option.isSome_iff_exists.mp hname
    have hrun := (resolver_found htoken).symm.trans hreply
    obtain ⟨text, _, rfl⟩ := map_eq_ok_iff.mp (congrArg Prod.fst hrun)
    rfl

/-- There is a warning for each of the tokens that is not registered. -/
theorem warnings_expandFrom (offset : Nat) (template : List Char) (selector : Selector)
    {text : String}
    (h : (expandFrom (registry.resolver context) offset template selector).outcome = .ok text) :
    ∃ names, tokensFrom offset template = .ok names
      ∧ (expandFrom (registry.resolver context) offset template selector).warnings
        = (names.filter fun name => !registry.contains name).map .unknownToken := by
  fun_induction expandFrom (registry.resolver context) offset template selector
    generalizing text with
  | case1 offset template selector hopen => exact ⟨[], tokensFrom_text offset hopen, rfl⟩
  | case2 => cases h
  | case3 => cases h
  | case4 offset template selector before after hopen token rest hclose found selector' hreply ih =>
    obtain ⟨more, hmore, _⟩ := map_eq_ok_iff.mp h
    obtain ⟨names, hnames, hwarnings⟩ := ih hmore
    refine ⟨.ofList token :: names, ?_, ?_⟩
    · rw [tokensFrom_token offset hopen hclose, hnames]
      rfl
    · have hfound := isSome_of_resolver hreply
      cases found with
      | some text => simp [goOn, hwarnings, ← hfound]
      | none => simp [goOn, hwarnings, ← hfound]

theorem unknownTokens_of_tokens (registry : Registry) {template : String} {names : List String}
    (h : Template.tokens template = .ok names) :
    ∃ unknown, registry.unknownTokens template = .ok unknown
      ∧ UnknownAmong registry.contains names unknown
      ∧ (names.filter fun name => !registry.contains name).eraseDups = unknown :=
  ⟨_, congrArg (Except.map _) h, unknownAmong_foldl registry.contains names⟩

/-- Without the tokens that are not registered a template is rendered to the same
text, and nothing is left to warn of. -/
theorem render_without {template text : String} {names unknown : List String}
    (htext : (registry.render context template selector).outcome = .ok text)
    (htokens : Template.tokens template = .ok names)
    (hunknown : UnknownAmong registry.contains names unknown) :
    registry.render context (without unknown template) selector
      = ⟨.ok text, (registry.render context template selector).state, []⟩ := by
  have hnone : ∀ name ∈ unknown, ∀ selector,
      registry.resolver context name selector = (.ok none, selector) := fun name hname _ =>
    resolver_unknown ((hunknown.mem_iff name).mp hname).2
  obtain ⟨names', hnames, hwarnings⟩ := warnings_expandFrom 0 template.toList selector htext
  obtain rfl : names' = names := Except.ok.inj (hnames.symm.trans htokens)
  obtain ⟨houtcome, hstate, hkept⟩ :=
    expandFrom_withoutFrom hnone 0 0 template.toList selector htext
  -- every warning is of a token that was taken out
  have hquiet : (expandFrom (registry.resolver context) 0 (withoutFrom unknown template.toList)
      selector).warnings = [] := by
    rw [hkept, hwarnings, List.filter_eq_nil_iff]
    intro warning hwarning
    obtain ⟨name, hname, rfl⟩ := List.mem_map.mp hwarning
    obtain ⟨hmem, hnot⟩ := List.mem_filter.mp hname
    have hmember := (hunknown.mem_iff name).mpr ⟨hmem, by simpa using hnot⟩
    simpa using hmember
  have hwithout : registry.render context (without unknown template) selector
      = expandFrom (registry.resolver context) 0 (withoutFrom unknown template.toList)
        selector := by
    rw [← String.toList_ofList (l := withoutFrom unknown template.toList)]
    rfl
  rw [hwithout]
  exact rendering_ext houtcome hstate hquiet

end Registry

/-- What the tokens of a template say beforehand. Finding them fails exactly as an
expansion does whose resolver never fails, and else they are what that resolver is
asked for. A rendering warns of those that are not registered, and comes to the
same without them. -/
theorem scan_predicts_render (registry : Registry) (context : Context) (template : String)
    (selector : Selector) :
    let r := registry.render context template selector
    (∀ {σ : Type} (resolve : Resolver σ), resolve.Answers → ∀ state : σ,
      (∀ e, (expand resolve template state).outcome = .error e ↔ tokens template = .error e)
      ∧ ∀ names, tokens template = .ok names →
        (expand resolve.recording template (state, [])).state.2.map (·.token) = names)
    ∧ (∀ names, tokens template = .ok names → ∃ unknown,
      registry.unknownTokens template = .ok unknown
        ∧ UnknownAmong registry.contains names unknown)
    ∧ ∀ text, r.outcome = .ok text → ∃ unknown, ∃ warned : List String,
      registry.unknownTokens template = .ok unknown
        ∧ r.warnings = warned.map .unknownToken ∧ warned.eraseDups = unknown
        ∧ registry.render context (without unknown template) selector
          = ⟨.ok text, r.state, []⟩ := by
  intro r
  refine ⟨fun resolve hanswers state => ⟨error_expand_iff hanswers template state,
    fun names htokens => asked_expand hanswers htokens state⟩, fun names htokens => ?_,
    fun text htext => ?_⟩
  · obtain ⟨unknown, hfound, hunknown, _⟩ := registry.unknownTokens_of_tokens htokens
    exact ⟨unknown, hfound, hunknown⟩
  · obtain ⟨names, htokens, hwarnings⟩ :=
      Registry.warnings_expandFrom 0 template.toList selector htext
    obtain ⟨unknown, hfound, hunknown, herase⟩ := registry.unknownTokens_of_tokens htokens
    exact ⟨unknown, _, hfound, hwarnings, herase, Registry.render_without htext htokens hunknown⟩

/-- Of four tokens one is known, and another is used twice. -/
theorem scan_predicts_render_unknown_twice :
    let library : Library := ⟨[⟨"Begin.", "Seneca"⟩], [⟨"Breathe."⟩]⟩
    let context : Context := ⟨⟨2024, 3, 7⟩, library⟩
    let template := "%X%50%%%MONTH_LINK%%Y%%X%"
    let r := Registry.builtin.render context template (.seeded 7)
    r.outcome = .ok "50Month: [[March2024]]"
      ∧ Registry.builtin.unknownTokens template = .ok ["X", "", "Y"]
      ∧ r.warnings = [.unknownToken "X", .unknownToken "", .unknownToken "Y", .unknownToken "X"]
      ∧ Registry.builtin.render context (without ["X", "", "Y"] template) (.seeded 7)
        = ⟨.ok "50Month: [[March2024]]", r.state, []⟩ := by
  intro library context template r
  have htext : r.outcome = .ok "50Month: [[March2024]]" := by decide +kernel
  have hscan : Registry.builtin.unknownTokens template = .ok ["X", "", "Y"] := by decide +kernel
  obtain ⟨_, _, hrender⟩ := scan_predicts_render .builtin context template (.seeded 7)
  obtain ⟨unknown, warned, hunknown, _, _, hwithout⟩ := hrender _ htext
  obtain rfl : unknown = ["X", "", "Y"] := by simpa using hunknown.symm.trans hscan
  exact ⟨htext, hscan, by decide +kernel, hwithout⟩

end Daybook.Template
