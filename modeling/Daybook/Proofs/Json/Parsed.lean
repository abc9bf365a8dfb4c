/-
Daybook.Proofs.Json.Parsed — the texts that are read are the JSON texts.

`parse?_eq_some_iff` holds the reader against the grammar in both directions:
a text is read as a value exactly if the grammar spells the value so.

Values are inside one another, and the readers of values, items and members
call each other. So what is said of them is said of all three at once (`Sound`,
`Complete`) and proved by induction on the fuel. A gap in front of the first
part belongs to the part in the grammar, where the reader has passed over it
already. That is why a first part can be moved behind a gap, and taken out of it.
-/
import Daybook.Proofs.Json.Tokens
import Mathlib.Data.List.TakeWhile

namespace Daybook.Json

open Text (bind_eq_some bind_some expect_cons expect_eq_some expectAll_append expectAll_eq_some
  ne_of_kind next_cons next_eq_some peek_eq)
open Grammar

variable {cs rest written gap : List Char} {c : Char}

/-! ## 1. Brackets and commas -/

section Brackets

variable {α : Type} {parts : Text.Reader (List α)} {x : α} {xs : List α} {closing : Char}

theorem between_sound {opening : Char} (h : between opening closing parts cs = some (xs, rest)) :
    ∃ gap more, cs = opening :: (gap ++ more) ∧ Gap gap
      ∧ (xs = [] ∧ more = closing :: rest ∨ parts more = some (xs, rest)) := by
  obtain ⟨_, cs₁, hopening, h₁⟩ := bind_eq_some h
  obtain rfl := expect_eq_some hopening
  obtain ⟨_, more, hskip, h₂⟩ := bind_eq_some h₁
  obtain ⟨gap, rfl, hgap⟩ := skipSpace_sound hskip
  refine ⟨gap, more, rfl, hgap, ?_⟩
  rw [bind_some (peek_eq more)] at h₂
  split at h₂
  · obtain ⟨_, cs₂, hclosing, hdone⟩ := bind_eq_some h₂
    cases hdone
    exact .inl ⟨rfl, expect_eq_some hclosing⟩
  · exact .inr h₂

theorem between_empty (opening : Char) (hgap : Gap gap) (hclosing : isSpace closing = false) :
    between opening closing parts (opening :: (gap ++ closing :: rest)) = some ([], rest) := by
  refine (bind_some (expect_cons opening _)).trans ?_
  refine (bind_some (skipSpace_complete hgap hclosing _)).trans ?_
  refine (bind_some (peek_eq _)).trans ?_
  rw [List.head?_cons, if_pos rfl]
  exact bind_some (expect_cons closing rest)

theorem between_parts (opening : Char) (hgap : Gap gap) (hspace : isSpace c = false)
    (hc : c ≠ closing) (hparts : parts (c :: cs) = some (xs, rest)) :
    between opening closing parts (opening :: (gap ++ c :: cs)) = some (xs, rest) := by
  refine (bind_some (expect_cons opening _)).trans ?_
  refine (bind_some (skipSpace_complete hgap hspace _)).trans ?_
  refine (bind_some (peek_eq _)).trans ?_
  rw [List.head?_cons, if_neg (by simpa using hc)]
  exact hparts

theorem partsFrom_sound (h : partsFrom closing x parts cs = some (xs, rest)) :
    ∃ gap, Gap gap ∧ (xs = [x] ∧ cs = gap ++ closing :: rest
      ∨ ∃ more ys, cs = gap ++ ',' :: more ∧ parts more = some (ys, rest) ∧ xs = x :: ys) := by
  obtain ⟨_, cs₁, hskip, h₁⟩ := bind_eq_some h
  obtain ⟨gap, rfl, hgap⟩ := skipSpace_sound hskip
  refine ⟨gap, hgap, ?_⟩
  obtain ⟨mark, more, hnext, h₂⟩ := bind_eq_some h₁
  obtain rfl := next_eq_some hnext
  split at h₂
  · obtain ⟨ys, rest', hparts, hdone⟩ := bind_eq_some h₂
    cases hdone
    exact .inr ⟨more, ys, rfl, hparts, rfl⟩
  · split at h₂
    · rename_i hmark
      cases h₂
      exact .inl ⟨rfl, by rw [hmark]⟩
    · cases h₂

theorem partsFrom_last (hgap : Gap gap) (hspace : isSpace closing = false)
    (hclosing : closing ≠ ',') :
    partsFrom closing x parts (gap ++ closing :: rest) = some ([x], rest) := by
  refine (bind_some (skipSpace_complete hgap hspace _)).trans ?_
  refine (bind_some (next_cons closing rest)).trans ?_
  split
  · exact absurd rfl hclosing
  · rw [if_pos rfl]
    rfl

theorem partsFrom_more (hgap : Gap gap) (hparts : parts cs = some (xs, rest)) :
    partsFrom closing x parts (gap ++ ',' :: cs) = some (x :: xs, rest) := by
  refine (bind_some (skipSpace_complete hgap rfl _)).trans ?_
  exact (bind_some (next_cons ',' cs)).trans (bind_some hparts)

end Brackets

/-! ## 2. What is read is spelled so -/

section Values

variable {v : Value} {vs : List Value} {ms : List (Option String × Value)} {fuel : Nat}

theorem Grammar.Gap.append {more : List Char} (h : Gap gap) (hmore : Gap more) :
    Gap (gap ++ more) :=
  List.forall_mem_append.mpr ⟨h, hmore⟩

theorem Grammar.Padded.behind_gap (h : Padded v written) (hgap : Gap gap) :
    Padded v (gap ++ written) := by
  obtain ⟨hbefore, h, hafter⟩ := h
  rw [← List.append_assoc]
  exact .mk (hgap.append hbefore) h hafter

theorem Grammar.Items.behind_gap (h : Items vs written) (hgap : Gap gap) :
    Items vs (gap ++ written) := by
  cases h with
  | last h => exact .last (h.behind_gap hgap)
  | more h hmore =>
    rw [← List.append_assoc]
    exact .more (h.behind_gap hgap) hmore

theorem Grammar.Member.behind_gap {m : Option String × Value} (h : Member m written)
    (hgap : Gap gap) : Member m (gap ++ written) := by
  obtain ⟨hbefore, hkey, hafter, h⟩ := h
  rw [← List.append_assoc]
  exact .mk (hgap.append hbefore) hkey hafter h

theorem Grammar.Members.behind_gap (h : Members ms written) (hgap : Gap gap) :
    Members ms (gap ++ written) := by
  cases h with
  | last h => exact .last (h.behind_gap hgap)
  | more h hmore =>
    rw [← List.append_assoc]
    exact .more (h.behind_gap hgap) hmore

/-- What is taken with so much fuel, as a value, as items or as members, is spelled so. -/
structure Sound (fuel : Nat) : Prop where
  value {cs rest : List Char} {v : Value} : value fuel cs = some (v, rest) →
    ∃ gap w, cs = gap ++ (w ++ rest) ∧ Gap gap ∧ Spelled v w
  elements {cs rest : List Char} {vs : List Value} : elements fuel cs = some (vs, rest) →
    ∃ w, cs = w ++ ']' :: rest ∧ Items vs w
  members {cs rest : List Char} {ms : List (Option String × Value)} :
    members fuel cs = some (ms, rest) → ∃ w, cs = w ++ '\x7d' :: rest ∧ Members ms w

theorem valueOf_sound (ih : Sound fuel)
    (h : valueOf (elements fuel) (members fuel) cs = some (v, rest)) :
    ∃ w, cs = w ++ rest ∧ Spelled v w := by
  rw [valueOf, bind_some (peek_eq cs)] at h
  generalize cs.head? = first at h
  split at h
  case h_1 | h_2 | h_3 =>
    obtain ⟨_, rest', hword, hdone⟩ := bind_eq_some h
    cases hdone
    exact ⟨_, expectAll_eq_some hword, by constructor⟩
  case h_4 =>
    obtain ⟨text, rest', hstring, hdone⟩ := bind_eq_some h
    cases hdone
    obtain ⟨w, rfl, hw⟩ := string_sound hstring
    exact ⟨w, rfl, .string hw⟩
  case h_5 =>
    obtain ⟨items, rest', hbetween, hdone⟩ := bind_eq_some h
    cases hdone
    obtain ⟨gap, more, rfl, hgap, ⟨rfl, rfl⟩ | hparts⟩ := between_sound hbetween
    · exact ⟨'[' :: (gap ++ [']']), by simp, .noItems hgap⟩
    · obtain ⟨w, rfl, hw⟩ := ih.elements hparts
      exact ⟨'[' :: (gap ++ w ++ [']']), by simp, .items (hw.behind_gap hgap)⟩
  case h_6 =>
    obtain ⟨items, rest', hbetween, hdone⟩ := bind_eq_some h
    cases hdone
    obtain ⟨gap, more, rfl, hgap, ⟨rfl, rfl⟩ | hparts⟩ := between_sound hbetween
    · exact ⟨'\x7b' :: (gap ++ ['\x7d']), by simp, .noMembers hgap⟩
    · obtain ⟨w, rfl, hw⟩ := ih.members hparts
      exact ⟨'\x7b' :: (gap ++ w ++ ['\x7d']), by simp, .members (hw.behind_gap hgap)⟩
  case h_7 =>
    obtain ⟨_, rest', hnumber, hdone⟩ := bind_eq_some h
    cases hdone
    obtain ⟨w, rfl, hw⟩ := number_sound hnumber
    exact ⟨w, rfl, .number hw⟩

theorem value_sound (ih : Sound fuel) (h : value (fuel + 1) cs = some (v, rest)) :
    ∃ gap w, cs = gap ++ (w ++ rest) ∧ Gap gap ∧ Spelled v w := by
  rw [value] at h
  obtain ⟨_, inner, hskip, hvalue⟩ := bind_eq_some h
  obtain ⟨gap, rfl, hgap⟩ := skipSpace_sound hskip
  obtain ⟨w, rfl, hw⟩ := valueOf_sound ih hvalue
  exact ⟨gap, w, rfl, hgap, hw⟩

theorem elements_sound (ih : Sound fuel) (h : elements (fuel + 1) cs = some (vs, rest)) :
    ∃ w, cs = w ++ ']' :: rest ∧ Items vs w := by
  rw [elements] at h
  obtain ⟨v, cs₁, hvalue, hmore⟩ := bind_eq_some h
  obtain ⟨before, w, rfl, hbefore, hw⟩ := ih.value hvalue
  obtain ⟨after, hafter, ⟨rfl, rfl⟩ | ⟨more, ys, rfl, hparts, rfl⟩⟩ := partsFrom_sound hmore
  · exact ⟨before ++ (w ++ after), by simp, .last (.mk hbefore hw hafter)⟩
  · obtain ⟨w', rfl, hw'⟩ := ih.elements hparts
    exact ⟨before ++ (w ++ after) ++ ',' :: w', by simp, .more (.mk hbefore hw hafter) hw'⟩

theorem member_sound {m : Option String × Value} (ih : Sound fuel)
    (h : member (value fuel) cs = some (m, rest)) :
    ∃ w, cs = w ++ rest ∧ ∀ after, Gap after → Member m (w ++ after) := by
  obtain ⟨_, cs₁, hskip, h₁⟩ := bind_eq_some h
  obtain ⟨before, rfl, hbefore⟩ := skipSpace_sound hskip
  obtain ⟨key, cs₂, hstring, h₂⟩ := bind_eq_some h₁
  obtain ⟨name, rfl, hname⟩ := string_sound hstring
  obtain ⟨_, cs₃, hskip, h₃⟩ := bind_eq_some h₂
  obtain ⟨gap, rfl, hgap⟩ := skipSpace_sound hskip
  obtain ⟨_, cs₄, hcolon, h₄⟩ := bind_eq_some h₃
  obtain rfl := expect_eq_some hcolon
  obtain ⟨v, cs₅, hvalue, hdone⟩ := bind_eq_some h₄
  cases hdone
  obtain ⟨gap', w, rfl, hgap', hw⟩ := ih.value hvalue
  refine ⟨before ++ (name ++ (gap ++ ':' :: (gap' ++ w))), by simp, fun after hafter => ?_⟩
  simpa using Member.mk hbefore hname hgap (.mk hgap' hw hafter)

theorem members_sound (ih : Sound fuel) (h : members (fuel + 1) cs = some (ms, rest)) :
    ∃ w, cs = w ++ '\x7d' :: rest ∧ Members ms w := by
  rw [members] at h
  obtain ⟨m, cs₁, hmember, hmore⟩ := bind_eq_some h
  obtain ⟨w, rfl, hw⟩ := member_sound ih hmember
  obtain ⟨after, hafter, ⟨rfl, rfl⟩ | ⟨more, ys, rfl, hparts, rfl⟩⟩ := partsFrom_sound hmore
  · exact ⟨w ++ after, by simp, .last (hw after hafter)⟩
  · obtain ⟨w', rfl, hw'⟩ := ih.members hparts
    exact ⟨w ++ after ++ ',' :: w', by simp, .more (hw after hafter) hw'⟩

theorem sound (fuel : Nat) : Sound fuel := by
  induction fuel with
  | zero => exact ⟨nofun, nofun, nofun⟩
  | succ fuel ih => exact ⟨value_sound ih, elements_sound ih, members_sound ih⟩

/-! ## 3. What is spelled so is read -/

/-- No number goes on with a gap. -/
theorem Grammar.Gap.ends (hgap : Gap gap) (hrest : Ends rest) : Ends (gap ++ rest) := by
  intro c hc
  cases gap with
  | nil => exact hrest c hc
  | cons d gap =>
    cases hc
    have hmem := hgap c List.mem_cons_self
    simp only [List.mem_cons, List.not_mem_nil, or_false] at hmem
    rcases hmem with rfl | rfl | rfl | rfl <;> rfl

theorem ends_gap (hgap : Gap gap) (hc : goesOn c = false) : Ends (gap ++ c :: rest) :=
  hgap.ends fun d hd => by
    cases hd
    exact hc

theorem Grammar.Number.start (h : Number written) :
    ∃ c more, written = c :: more ∧ (c = '-' ∨ c.isDigit = true) := by
  obtain ⟨hsign, hwhole, -, -⟩ := h
  simp only [List.mem_cons, List.not_mem_nil, or_false] at hsign
  rcases hsign with rfl | rfl
  · obtain ⟨c, more, rfl, hc⟩ := hwhole.start
    exact ⟨c, _, rfl, .inr hc⟩
  · exact ⟨'-', _, rfl, .inl rfl⟩

theorem Grammar.Quoted.start {text : Option String} (h : Quoted text written) :
    ∃ more, written = '"' :: more := by
  cases h
  exact ⟨_, rfl⟩

/-- Neither a gap nor a closing bracket starts like a value. -/
theorem Grammar.Spelled.start (h : Spelled v written) :
    ∃ c more, written = c :: more ∧ isSpace c = false ∧ c ≠ ']' := by
  cases h with
  | null => exact ⟨'n', _, rfl, rfl, by decide⟩
  | yes => exact ⟨'t', _, rfl, rfl, by decide⟩
  | no => exact ⟨'f', _, rfl, rfl, by decide⟩
  | number h =>
    obtain ⟨c, more, rfl, hc⟩ := h.start
    refine ⟨c, more, rfl, ?_⟩
    rcases hc with rfl | hc
    · decide
    · have hspace : isSpace c = false := by
        have hnot : ∀ d, d.isDigit = false → c ≠ d := fun d hd => ne_of_kind hc hd
        simp [isSpace, hnot ' ' rfl, hnot '\n' rfl, hnot '\t' rfl, hnot '\r' rfl]
      exact ⟨hspace, ne_of_kind hc rfl⟩
  | string h =>
    obtain ⟨more, rfl⟩ := h.start
    exact ⟨'"', more, rfl, rfl, by decide⟩
  | noItems | items => exact ⟨'[', _, rfl, rfl, by decide⟩
  | noMembers | members => exact ⟨'\x7b', _, rfl, rfl, by decide⟩

theorem Grammar.Padded.start (h : Padded v written) :
    ∃ gap c more, written = gap ++ c :: more ∧ Gap gap ∧ isSpace c = false ∧ c ≠ ']'
      ∧ Padded v (c :: more) := by
  obtain ⟨hbefore, h, hafter⟩ := h
  obtain ⟨c, more, rfl, hspace, hc⟩ := h.start
  exact ⟨_, c, _, rfl, hbefore, hspace, hc, .mk gap_nil h hafter⟩

theorem Grammar.Items.start (h : Items vs written) :
    ∃ gap c more, written = gap ++ c :: more ∧ Gap gap ∧ isSpace c = false ∧ c ≠ ']'
      ∧ Items vs (c :: more) := by
  cases h with
  | last h =>
    obtain ⟨gap, c, more, rfl, hgap, hspace, hc, h⟩ := h.start
    exact ⟨gap, c, more, rfl, hgap, hspace, hc, .last h⟩
  | more h hmore =>
    obtain ⟨gap, c, more, rfl, hgap, hspace, hc, h⟩ := h.start
    exact ⟨gap, c, more ++ _, by simp, hgap, hspace, hc, .more h hmore⟩

theorem Grammar.Members.start (h : Members ms written) :
    ∃ gap more, written = gap ++ '"' :: more ∧ Gap gap ∧ Members ms ('"' :: more) := by
  cases h with
  | last h =>
    obtain ⟨hbefore, hkey, hafter, h⟩ := h
    obtain ⟨more, rfl⟩ := hkey.start
    exact ⟨_, _, rfl, hbefore, .last (.mk gap_nil hkey hafter h)⟩
  | more h hmore =>
    obtain ⟨hbefore, hkey, hafter, h⟩ := h
    obtain ⟨more, rfl⟩ := hkey.start
    refine ⟨_, more ++ _ ++ _, by simp, hbefore, .more (.mk gap_nil hkey hafter h) hmore⟩

/-- What is spelled with so many characters is taken, as a value, as items or as members. -/
structure Complete (fuel : Nat) : Prop where
  value {w gap : List Char} {v : Value} : Spelled v w → w.length ≤ fuel → Gap gap →
    ∀ rest, Ends rest → value fuel (gap ++ (w ++ rest)) = some (v, rest)
  elements {w : List Char} {vs : List Value} : Items vs w → w.length < fuel →
    ∀ rest, elements fuel (w ++ ']' :: rest) = some (vs, rest)
  members {w : List Char} {ms : List (Option String × Value)} : Members ms w → w.length < fuel →
    ∀ rest, members fuel (w ++ '\x7d' :: rest) = some (ms, rest)

theorem valueOf_number {items : Text.Reader (List Value)}
    {members : Text.Reader (List (Option String × Value))} (h : Number written)
    (hrest : Ends rest) :
    valueOf items members (written ++ rest) = some (.number, rest) := by
  have hread := number_complete h hrest
  obtain ⟨c, more, rfl, hc⟩ := h.start
  refine (bind_some (peek_eq _)).trans ?_
  generalize hfirst : (c :: more ++ rest).head? = first
  split
  case h_7 => exact bind_some hread
  all_goals
    cases hfirst
    rcases hc with hc | hc <;> cases hc

theorem valueOf_complete (ih : Complete fuel) (h : Spelled v written)
    (hfuel : written.length ≤ fuel + 1) (hrest : Ends rest) :
    valueOf (elements fuel) (members fuel) (written ++ rest) = some (v, rest) := by
  cases h with
  | null | yes | no => exact (bind_some (peek_eq _)).trans (bind_some (expectAll_append _ rest))
  | number h => exact valueOf_number h hrest
  | string h =>
    have hread := string_complete h rest
    obtain ⟨more, rfl⟩ := h.start
    exact (bind_some (peek_eq _)).trans (bind_some hread)
  | noItems hgap =>
    rw [List.cons_append, List.append_assoc]
    exact (bind_some (peek_eq _)).trans (bind_some (between_empty '[' hgap rfl))
  | items h =>
    obtain ⟨gap, c, more, rfl, hgap, hspace, hc, h⟩ := h.start
    have hparts := ih.elements h (by simp at hfuel ⊢; omega) rest
    rw [List.cons_append, List.append_assoc, List.append_assoc]
    exact (bind_some (peek_eq _)).trans (bind_some (between_parts '[' hgap hspace hc hparts))
  | noMembers hgap =>
    rw [List.cons_append, List.append_assoc]
    exact (bind_some (peek_eq _)).trans (bind_some (between_empty '\x7b' hgap rfl))
  | members h =>
    obtain ⟨gap, more, rfl, hgap, h⟩ := h.start
    have hparts := ih.members h (by simp at hfuel ⊢; omega) rest
    rw [List.cons_append, List.append_assoc, List.append_assoc]
    exact (bind_some (peek_eq _)).trans
      (bind_some (between_parts '\x7b' hgap rfl (by decide) hparts))

theorem value_complete (ih : Complete fuel) (h : Spelled v written)
    (hfuel : written.length ≤ fuel + 1) (hgap : Gap gap) (hrest : Ends rest) :
    value (fuel + 1) (gap ++ (written ++ rest)) = some (v, rest) := by
  rw [value]
  have hskip : skipSpace (gap ++ (written ++ rest)) = some ((), written ++ rest) := by
    obtain ⟨c, more, rfl, hspace, -⟩ := h.start
    exact skipSpace_complete hgap hspace _
  exact (bind_some hskip).trans (valueOf_complete ih h hfuel hrest)

theorem elements_complete (ih : Complete fuel) (h : Items vs written)
    (hfuel : written.length < fuel + 1) (rest : List Char) :
    elements (fuel + 1) (written ++ ']' :: rest) = some (vs, rest) := by
  rw [elements]
  cases h with
  | last h =>
    obtain ⟨hbefore, h, hafter⟩ := h
    simp only [List.length_append] at hfuel
    simp only [List.append_assoc]
    refine (bind_some (ih.value h (by omega) hbefore _ (ends_gap hafter rfl))).trans ?_
    exact partsFrom_last hafter rfl (by decide)
  | more h hmore =>
    obtain ⟨hbefore, h, hafter⟩ := h
    simp only [List.length_append, List.length_cons] at hfuel
    simp only [List.append_assoc, List.cons_append]
    refine (bind_some (ih.value h (by omega) hbefore _ (ends_gap hafter rfl))).trans ?_
    exact partsFrom_more hafter (ih.elements hmore (by omega) rest)

/-- Only the gap behind a member is left for what follows. -/
theorem member_complete {m : Option String × Value} (ih : Complete fuel) (h : Member m written)
    (hfuel : written.length ≤ fuel) :
    ∃ w after, written = w ++ after ∧ Gap after
      ∧ ∀ rest, Ends rest → member (value fuel) (w ++ rest) = some (m, rest) := by
  obtain ⟨hbefore, hkey, hgap, hgap', h, hafter⟩ := h
  rename_i key v before name gap gap' cs after
  refine ⟨before ++ (name ++ (gap ++ ':' :: (gap' ++ cs))), after, by simp, hafter,
    fun rest hrest => ?_⟩
  simp only [List.length_append, List.length_cons] at hfuel
  simp only [List.append_assoc, List.cons_append]
  have hskip : skipSpace (before ++ (name ++ (gap ++ ':' :: (gap' ++ (cs ++ rest)))))
      = some ((), name ++ (gap ++ ':' :: (gap' ++ (cs ++ rest)))) := by
    obtain ⟨more, rfl⟩ := hkey.start
    exact skipSpace_complete hbefore rfl _
  refine (bind_some hskip).trans ((bind_some (string_complete hkey _)).trans ?_)
  refine (bind_some (skipSpace_complete hgap rfl _)).trans ?_
  refine (bind_some (expect_cons ':' _)).trans ?_
  exact bind_some (ih.value h (by omega) hgap' rest hrest)

theorem members_complete (ih : Complete fuel) (h : Members ms written)
    (hfuel : written.length < fuel + 1) (rest : List Char) :
    members (fuel + 1) (written ++ '\x7d' :: rest) = some (ms, rest) := by
  rw [members]
  cases h with
  | last h =>
    obtain ⟨w, after, rfl, hafter, hmember⟩ := member_complete ih h (Nat.le_of_lt_succ hfuel)
    rw [List.append_assoc]
    refine (bind_some (hmember _ (ends_gap hafter rfl))).trans ?_
    exact partsFrom_last hafter rfl (by decide)
  | more h hmore =>
    simp only [List.length_append, List.length_cons] at hfuel
    obtain ⟨w, after, rfl, hafter, hmember⟩ := member_complete ih h (by omega)
    simp only [List.append_assoc, List.cons_append]
    refine (bind_some (hmember _ (ends_gap hafter rfl))).trans ?_
    exact partsFrom_more hafter (ih.members hmore (by omega) rest)

theorem complete (fuel : Nat) : Complete fuel := by
  induction fuel with
  | zero =>
    refine ⟨fun h hfuel => ?_, nofun, nofun⟩
    obtain ⟨c, more, rfl, -⟩ := h.start
    cases hfuel
  | succ fuel ih =>
    exact ⟨fun h hfuel hgap rest => value_complete ih h hfuel hgap,
      fun h hfuel rest => elements_complete ih h hfuel rest,
      fun h hfuel rest => members_complete ih h hfuel rest⟩

theorem gap_iff_dropWhile : Gap gap ↔ (gap.dropWhile isSpace).isEmpty = true := by
  rw [gap_iff, List.isEmpty_iff, List.dropWhile_eq_nil_iff]

/-- The texts that are read as a value are those that the grammar has for it. -/
theorem parse?_eq_some_iff {text : String} : parse? text = some v ↔ Document v text := by
  have hparse : parse? text = (value (text.toList.length + 1) text.toList).bind fun r =>
    if (r.2.dropWhile isSpace).isEmpty then some r.1 else none := rfl
  rw [hparse, Option.bind_eq_some_iff]
  constructor
  · rintro ⟨⟨found, after⟩, hvalue, hdone⟩
    split at hdone
    · rename_i hafter
      cases hdone
      obtain ⟨before, w, htext, hbefore, hw⟩ := (sound _).value hvalue
      rw [Document, htext]
      exact .mk hbefore hw (gap_iff_dropWhile.mpr hafter)
    · cases hdone
  · intro h
    rw [Document] at h
    generalize text.toList = cs at h
    obtain ⟨hbefore, h, hafter⟩ := h
    rename_i before w after
    have hends : Ends after := by simpa using hafter.ends ends_nil
    refine ⟨(v, after), (complete _).value h (by simp; omega) hbefore after hends, ?_⟩
    exact if_pos (gap_iff_dropWhile.mp hafter)

end Values

end Daybook.Json
