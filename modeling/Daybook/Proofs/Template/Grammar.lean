/-
Daybook.Proofs.Template.Grammar — what a template stands for.

Cut a template at every mark. The pieces take turns: text, token, text, and so
on, and a last piece that is left over as a token was never closed. The
grammar `template_grammar` says that this is all there is to it: the resolver
is asked for the tokens in order until it fails on one, the texts that it gives
stand between the texts of the template, and they are not looked at again.

`expand` reads its template from the left and never has the pieces. So the
first half proves it equal to `expandPieces`, which recurses on them two at a
time; everything after that is said of rows of pieces. What is asked is made
visible by a resolver that keeps a record, and compared with `askAll`, which
knows of tokens only.
-/
import Daybook.Template.Expand

namespace Daybook

namespace Template

variable {σ : Type}

/-! ## 1. Pieces -/

theorem splitOn_of_cut?_none {cs : List Char} (h : Text.cut? mark cs = none) :
    cs.splitOn mark = [cs] :=
  List.splitOn_eq_singleton (Text.not_mem_of_cut?_eq_none h)

theorem splitOn_of_cut? {cs before after : List Char}
    (h : Text.cut? mark cs = some (before, after)) :
    cs.splitOn mark = before :: after.splitOn mark := by
  obtain ⟨rfl, hbefore⟩ := Text.eq_of_cut? h
  exact List.splitOn_append_cons_self_of_not_mem hbefore after

/-- Expands a template that was cut at its marks. -/
def expandPieces (resolve : Resolver σ) (offset : Nat) : List (List Char) → σ → Rendering σ
  | text :: token :: next :: more, state =>
    match resolve (.ofList token) state with
    | (.error e, state) => ⟨.error e, state, []⟩
    | (.ok found, state) =>
      goOn text (.ofList token) found
        (expandPieces resolve (offset + Text.bytes text + Text.bytes token + 2) (next :: more)
          state)
  | [text, token], state =>
    ⟨.error (.unterminated (offset + Text.bytes text) (.ofList token)), state, []⟩
  | [text], state => ⟨.ok (.ofList text), state, []⟩
  | [], state => ⟨.ok "", state, []⟩

section Steps

variable {resolve : Resolver σ} (offset : Nat) {token : String} {text next : List Char}
  {more : List (List Char)} {state state' : σ}

theorem expandPieces_found {found : Option String}
    (hreply : resolve token state = (.ok found, state')) :
    expandPieces resolve offset (text :: token.toList :: next :: more) state
      = goOn text token found
        (expandPieces resolve (offset + Text.bytes text + Text.bytes token.toList + 2)
          (next :: more) state') := by
  rw [expandPieces, String.ofList_toList, hreply]

theorem expandPieces_failed {e : JournalError} (hreply : resolve token state = (.error e, state')) :
    expandPieces resolve offset (text :: token.toList :: next :: more) state
      = ⟨.error e, state', []⟩ := by
  rw [expandPieces, String.ofList_toList, hreply]

end Steps

theorem expandFrom_eq (resolve : Resolver σ) (offset : Nat) (template : List Char) (state : σ) :
    expandFrom resolve offset template state
      = expandPieces resolve offset (template.splitOn mark) state := by
  fun_induction expandFrom resolve offset template state with
  | case1 offset template state hopen =>
    rw [splitOn_of_cut?_none hopen, expandPieces]
  | case2 offset template state before after hopen hclose =>
    rw [splitOn_of_cut? hopen, splitOn_of_cut?_none hclose, expandPieces]
  | case3 offset template state before after hopen token rest hclose e state' hreply =>
    obtain ⟨next, more, hrest⟩ := List.exists_cons_of_ne_nil (List.splitOn_ne_nil mark rest)
    rw [splitOn_of_cut? hopen, splitOn_of_cut? hclose, hrest, expandPieces, hreply]
  | case4 offset template state before after hopen token rest hclose text state' hreply ih =>
    obtain ⟨next, more, hrest⟩ := List.exists_cons_of_ne_nil (List.splitOn_ne_nil mark rest)
    rw [ih, splitOn_of_cut? hopen, splitOn_of_cut? hclose, hrest, expandPieces, hreply]

/-! ## 2. What a resolver is asked -/

/-- A token that a resolver was asked for, and what it replied. -/
structure Call where
  token : String
  reply : Except JournalError (Option String)

namespace Call

/-- The resolver did not fail. -/
def Answered (call : Call) : Prop := ∃ text, call.reply = .ok text

/-- What stands for the token: its text, or nothing for one that is unknown. -/
def text (call : Call) : String :=
  match call.reply with
  | .ok (some text) => text
  | _ => ""

/-- The warning that the reply gives rise to. -/
def warning? (call : Call) : Option Warning :=
  match call.reply with
  | .ok none => some (.unknownToken call.token)
  | _ => none

end Call

/-- Asks for tokens one after another until the resolver fails on one. -/
def Resolver.askAll (resolve : Resolver σ) : List String → σ → List Call × σ
  | [], state => ([], state)
  | token :: more, state =>
    match resolve token state with
    | (.error e, state) => ([⟨token, .error e⟩], state)
    | (.ok text, state) =>
      (⟨token, .ok text⟩ :: (Resolver.askAll resolve more state).1,
        (Resolver.askAll resolve more state).2)

section Asking

variable (resolve : Resolver σ) (tokens : List String) (state : σ)

/-- The tokens asked for are the first ones. -/
theorem tokens_askAll : (resolve.askAll tokens state).1.map (·.token) <+: tokens := by
  fun_induction Resolver.askAll resolve tokens state with
  | case1 => exact List.nil_prefix
  | case2 => simp
  | case3 token more state text state' hreply ih => simpa using ih

/-- Nothing is asked after a failure. -/
theorem answered_of_mem_dropLast {call : Call}
    (h : call ∈ (resolve.askAll tokens state).1.dropLast) : call.Answered := by
  fun_induction Resolver.askAll resolve tokens state with
  | case1 => simp at h
  | case2 => simp at h
  | case3 token more state text state' hreply ih =>
    cases hmore : (resolve.askAll more state').1 with
    | nil => simp [hmore] at h
    | cons next calls =>
      rw [hmore, List.dropLast_cons_cons, ← hmore] at h
      rcases List.mem_cons.mp h with rfl | h
      · exact ⟨text, rfl⟩
      · exact ih h

/-- Without a failure all tokens are asked for. -/
theorem tokens_askAll_of_answered
    (h : ∀ call ∈ (resolve.askAll tokens state).1, call.Answered) :
    (resolve.askAll tokens state).1.map (·.token) = tokens := by
  fun_induction Resolver.askAll resolve tokens state with
  | case1 => rfl
  | case2 token more state e state' hreply =>
    obtain ⟨text, htext⟩ := h _ List.mem_cons_self
    cases htext
  | case3 token more state text state' hreply ih =>
    rw [List.map_cons, ih fun call hcall => h call (List.mem_cons_of_mem _ hcall)]

end Asking

/-- The resolver, with a record of what it was asked and what it replied. -/
def Resolver.recording (resolve : Resolver σ) : Resolver (σ × List Call) :=
  fun token (state, calls) =>
    ((resolve token state).1, (resolve token state).2, calls ++ [⟨token, (resolve token state).1⟩])

/-- The tokens among pieces: every second one, if another piece follows. -/
def tokensAmong : List (List Char) → List String
  | _ :: token :: next :: more => .ofList token :: tokensAmong (next :: more)
  | _ => []

/-- The texts that stand behind a token among pieces. -/
def textsAmong : List (List Char) → List String
  | _ :: _ :: next :: more => .ofList next :: textsAmong (next :: more)
  | _ => []

/-! ## 3. What becomes of pieces -/

section Pieces

variable (resolve : Resolver σ) (offset : Nat) (pieces : List (List Char)) (state : σ)

/-- A resolver that keeps a record is asked for the tokens in order, up to the
first failure. -/
theorem expandPieces_recording (calls : List Call) :
    expandPieces resolve.recording offset pieces (state, calls)
      = ⟨(expandPieces resolve offset pieces state).outcome,
        ((resolve.askAll (tokensAmong pieces) state).2,
          calls ++ (resolve.askAll (tokensAmong pieces) state).1),
        (expandPieces resolve offset pieces state).warnings⟩ := by
  fun_induction expandPieces resolve offset pieces state generalizing calls with
  | case1 offset text token next more state e state' hreply =>
    simp [expandPieces, Resolver.recording, tokensAmong, Resolver.askAll, hreply]
  | case2 offset text token next more state found state' hreply ih =>
    have hrecord : resolve.recording (.ofList token) (state, calls)
        = (.ok found, state', calls ++ [⟨.ofList token, .ok found⟩]) := by
      rw [Resolver.recording, hreply]
    rw [expandPieces, hrecord]
    simp [ih, goOn, tokensAmong, Resolver.askAll, hreply]
  | case3 | case4 | case5 => simp [expandPieces, tokensAmong, Resolver.askAll]

theorem state_expandPieces :
    (expandPieces resolve offset pieces state).state
      = (resolve.askAll (tokensAmong pieces) state).2 := by
  fun_induction expandPieces resolve offset pieces state with
  | case1 offset text token next more state e state' hreply =>
    simp [tokensAmong, Resolver.askAll, hreply]
  | case2 offset text token next more state found state' hreply ih =>
    simp [goOn, tokensAmong, Resolver.askAll, hreply, ih]
  | case3 | case4 | case5 => rfl

/-- There is a warning for each unknown token, and no other. -/
theorem warnings_expandPieces :
    (expandPieces resolve offset pieces state).warnings
      = (resolve.askAll (tokensAmong pieces) state).1.filterMap Call.warning? := by
  fun_induction expandPieces resolve offset pieces state with
  | case1 offset text token next more state e state' hreply =>
    simp [tokensAmong, Resolver.askAll, hreply, Call.warning?]
  | case2 offset text token next more state found state' hreply ih =>
    simp only [goOn, tokensAmong, Resolver.askAll, hreply, ih, List.filterMap_cons]
    cases found <;> rfl
  | case3 | case4 | case5 => rfl

/-- The first failure is the outcome. -/
theorem outcome_of_failure {call : Call} {e : JournalError}
    (h : call ∈ (resolve.askAll (tokensAmong pieces) state).1) (he : call.reply = .error e) :
    (expandPieces resolve offset pieces state).outcome = .error e := by
  fun_induction expandPieces resolve offset pieces state with
  | case1 offset text token next more state e' state' hreply =>
    simp only [tokensAmong, Resolver.askAll, hreply, List.mem_singleton] at h
    rw [h] at he
    cases he
    rfl
  | case2 offset text token next more state found state' hreply ih =>
    simp only [tokensAmong, Resolver.askAll, hreply, List.mem_cons] at h
    rcases h with rfl | h
    · cases he
    · simp [goOn, ih h, Except.map]
  | case3 | case4 | case5 => simp [tokensAmong, Resolver.askAll] at h

/-- Without a failure, an odd number of pieces is filled in. -/
theorem outcome_of_odd
    (h : ∀ call ∈ (resolve.askAll (tokensAmong pieces) state).1, call.Answered)
    (hodd : pieces.length % 2 = 1) :
    (expandPieces resolve offset pieces state).outcome
      = .ok (.ofList (pieces.getD 0 []) ++ String.join (List.zipWith (· ++ ·)
          ((resolve.askAll (tokensAmong pieces) state).1.map Call.text) (textsAmong pieces))) := by
  fun_induction expandPieces resolve offset pieces state with
  | case1 offset text token next more state e state' hreply =>
    obtain ⟨found, hfound⟩ := h ⟨.ofList token, .error e⟩ (by
      simp [tokensAmong, Resolver.askAll, hreply])
    cases hfound
  | case2 offset text token next more state found state' hreply ih =>
    simp only [tokensAmong, Resolver.askAll, hreply, List.forall_mem_cons] at h
    have hmore : (next :: more).length % 2 = 1 := by
      simp only [List.length_cons] at hodd ⊢
      omega
    simp only [goOn, ih h.2 hmore, tokensAmong, textsAmong, Resolver.askAll, hreply, Except.map,
      List.getD_cons_zero, List.map_cons, List.zipWith_cons_cons, String.join_cons]
    cases found <;> simp [Call.text, String.append_assoc]
  | case3 => simp at hodd
  | case4 => simp [textsAmong]
  | case5 => simp at hodd

/-- Without a failure, an even number of pieces leaves a token unterminated. It
starts behind all of the other pieces and the marks between them. -/
theorem outcome_of_even
    (h : ∀ call ∈ (resolve.askAll (tokensAmong pieces) state).1, call.Answered)
    (hne : pieces ≠ []) (heven : pieces.length % 2 = 0) :
    (expandPieces resolve offset pieces state).outcome
      = .error (.unterminated (offset + Text.bytes ([mark].intercalate pieces.dropLast))
          (.ofList (pieces.getD (pieces.length - 1) []))) := by
  fun_induction expandPieces resolve offset pieces state with
  | case1 offset text token next more state e state' hreply =>
    obtain ⟨found, hfound⟩ := h ⟨.ofList token, .error e⟩ (by
      simp [tokensAmong, Resolver.askAll, hreply])
    cases hfound
  | case2 offset text token next more state found state' hreply ih =>
    simp only [tokensAmong, Resolver.askAll, hreply, List.forall_mem_cons] at h
    have hmore : (next :: more).length % 2 = 0 := by
      simp only [List.length_cons] at heven ⊢
      omega
    obtain ⟨last, rest, rfl⟩ : ∃ last rest, more = last :: rest :=
      List.exists_cons_of_ne_nil fun he => by simp [he] at hmore
    have hbytes : Text.bytes ([mark].intercalate (text :: token :: next :: last :: rest).dropLast)
        = Text.bytes text + Text.bytes token + 2
          + Text.bytes ([mark].intercalate (next :: last :: rest).dropLast) := by
      simp only [List.dropLast_cons_cons, List.intercalate_cons_cons, Text.bytes_append]
      have hmark : Text.bytes [mark] = 1 := by decide
      omega
    simp only [goOn, ih h.2 (by simp) hmore, Except.map, hbytes]
    simp [Nat.add_assoc]
  | case3 => simp [List.intercalate]
  | case4 => simp at heven
  | case5 => exact absurd rfl hne

end Pieces

/-! ## 4. The grammar -/

/-- A token and a text more. -/
theorem half_length {α : Type} (a b c : α) (more : List α) :
    ((a :: b :: c :: more).length - 1) / 2 = ((c :: more).length - 1) / 2 + 1 := by
  simp only [List.length_cons]
  omega

theorem tokensAmong_eq : ∀ pieces : List (List Char),
    tokensAmong pieces
      = (List.range ((pieces.length - 1) / 2)).map fun k => .ofList (pieces.getD (2 * k + 1) [])
  | [] | [_] | [_, _] => by simp [tokensAmong]
  | text :: token :: next :: more => by
    rw [tokensAmong, tokensAmong_eq (next :: more), half_length, List.range_succ_eq_map]
    simp [Nat.mul_add]

theorem textsAmong_eq : ∀ pieces : List (List Char),
    textsAmong pieces
      = (List.range ((pieces.length - 1) / 2)).map fun k => .ofList (pieces.getD (2 * k + 2) [])
  | [] | [_] | [_, _] => by simp [textsAmong]
  | text :: token :: next :: more => by
    rw [textsAmong, textsAmong_eq (next :: more), half_length, List.range_succ_eq_map]
    simp [Nat.mul_add]

theorem map_toList_pieces (cs : List Char) :
    cs.splitOn mark = ((cs.splitOn mark).map String.ofList).map String.toList := by
  simp

/-- The last of two texts or more stands behind the others and a separator. -/
theorem intercalate_last (sep : String) {pieces : List String} (h : 1 < pieces.length) :
    sep.intercalate pieces
      = sep.intercalate pieces.dropLast ++ sep ++ pieces.getD (pieces.length - 1) "" := by
  obtain ⟨front, last, rfl⟩ := (List.eq_nil_or_concat pieces).resolve_left fun he => by simp [he] at h
  rw [List.concat_eq_append] at h ⊢
  have hfront : front ≠ [] := fun he => by simp [he] at h
  rw [String.intercalate_append_of_ne_nil hfront (by simp)]
  simp

/-- A template cut at every mark gives pieces `s 0`, …, `s n`, and these are
its grammar. The resolver is asked for `s 1`, `s 3`, and so on, in this order
and up to its first failure, which is the outcome then. Without a failure the
template stands for the pieces with the texts of the tokens in the place of
the tokens, if `n` is even; if `n` is odd, the last mark is never closed, and
the error has its byte. There is a warning for each token that the resolver did
not know. -/
theorem template_grammar (resolve : Resolver σ) (template : String) (state : σ) :
    let pieces := (template.toList.splitOn mark).map String.ofList
    let n := pieces.length - 1
    let s (k : Nat) : String := pieces.getD k ""
    let tokens := (List.range (n / 2)).map fun k => s (2 * k + 1)
    let calls := (resolve.askAll tokens state).1
    let r := expand resolve template state
    expand resolve.recording template (state, []) = ⟨r.outcome, (r.state, calls), r.warnings⟩
      ∧ r.state = (resolve.askAll tokens state).2
      ∧ calls.map (·.token) <+: tokens
      ∧ (∀ call ∈ calls.dropLast, call.Answered)
      ∧ (∀ call ∈ calls, ∀ e, call.reply = .error e → r.outcome = .error e)
      ∧ ((∀ call ∈ calls, call.Answered) →
          calls.map (·.token) = tokens
          ∧ (n % 2 = 0 → r.outcome = .ok (s 0 ++ String.join (List.zipWith (· ++ ·)
              (calls.map Call.text) ((List.range (n / 2)).map fun k => s (2 * k + 2)))))
          ∧ (n % 2 = 1 → ∃ before, template = before ++ "%" ++ s n
              ∧ r.outcome = .error (.unterminated before.utf8ByteSize (s n))))
      ∧ r.warnings = calls.filterMap Call.warning? := by
  intro pieces n s tokens calls r
  have hs : ∀ k, s k = .ofList ((template.toList.splitOn mark).getD k []) := fun k => by
    simp only [s, pieces, List.getD_eq_getElem?_getD, List.getElem?_map]
    cases (template.toList.splitOn mark)[k]? <;> rfl
  have hn : n = (template.toList.splitOn mark).length - 1 := by simp [n, pieces]
  have htokens : tokensAmong (template.toList.splitOn mark) = tokens := by
    rw [tokensAmong_eq, ← hn]
    simp only [tokens, hs]
  have hr : r = expandPieces resolve 0 (template.toList.splitOn mark) state :=
    expandFrom_eq resolve 0 template.toList state
  have hlen := List.length_pos_iff.mpr (List.splitOn_ne_nil mark template.toList)
  refine ⟨?_, ?_, tokens_askAll resolve tokens state,
    fun call => answered_of_mem_dropLast resolve tokens state, fun call hcall e he => ?_,
    fun hall => ⟨tokens_askAll_of_answered resolve tokens state hall, fun heven => ?_,
      fun hodd => ?_⟩, ?_⟩
  · refine (expandFrom_eq resolve.recording 0 template.toList (state, [])).trans ?_
    rw [expandPieces_recording, htokens, hr, state_expandPieces, htokens]
    rfl
  · rw [hr, state_expandPieces, htokens]
  · rw [hr]
    exact outcome_of_failure resolve 0 _ state (by rw [htokens]; exact hcall) he
  · rw [hr, outcome_of_odd resolve 0 _ state (by rw [htokens]; exact hall) (by omega), htokens,
      textsAmong_eq, ← hn]
    simp only [hs, calls]
  · refine ⟨"%".intercalate pieces.dropLast, ?_, ?_⟩
    · have htwo : 1 < pieces.length := by omega
      rw [← intercalate_last "%" htwo]
      apply String.toList_inj.mp
      rw [String.toList_intercalate, ← map_toList_pieces]
      exact (List.intercalate_splitOn mark).symm
    · rw [hr, outcome_of_even resolve 0 _ state (by rw [htokens]; exact hall)
        (List.splitOn_ne_nil mark _) (by omega), ← hn, ← hs, Text.bytes_eq, Nat.zero_add]
      have hbefore : String.ofList ([mark].intercalate (template.toList.splitOn mark).dropLast)
          = "%".intercalate pieces.dropLast := by
        apply String.toList_inj.mp
        rw [String.toList_ofList, String.toList_intercalate, List.map_dropLast,
          ← map_toList_pieces]
        rfl
      rw [hbefore]
  · rw [hr, warnings_expandPieces, htokens]

end Template

end Daybook
