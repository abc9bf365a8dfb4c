/-
Daybook.Proofs.Json.Tokens — numbers and strings are read as they are spelled.

Each reader has two lemmas. `_sound` says that what it takes from the front is
spelled as the grammar has it, and `_complete` that it takes what is spelled so,
whatever stands behind.

Only a number has no mark at its end. So a number is taken whole only if what
stands behind could not go on with it (`Ends`), and that is so behind every
value of a text, where a gap, a comma, a bracket or nothing stands.
-/
import Daybook.Proofs.Json.Grammar
import Mathlib.Algebra.Order.Ring.Nat

namespace Daybook.Json

open Text (bind_eq_some bind_some discard_eq_some discard_some expect expect_cons expect_eq_some
  hexValue? next_cons next_eq_some peek_eq skipAll_append skipAll_eq_some takeSome
  takeSome_append takeSome_eq_some)
open Grammar

variable {cs rest written gap : List Char} {c : Char} {u : Unit}

/-! ## 1. Gaps -/

theorem gap_iff : Gap gap ↔ ∀ c ∈ gap, isSpace c = true := by
  simp [Gap, isSpace, or_assoc]

theorem gap_nil : Gap [] := List.forall_mem_nil _

theorem skipSpace_sound (h : skipSpace cs = some (u, rest)) :
    ∃ gap, cs = gap ++ rest ∧ Gap gap := by
  obtain ⟨gap, hcs, hgap⟩ := skipAll_eq_some h
  exact ⟨gap, hcs, gap_iff.mpr hgap⟩

theorem skipSpace_complete (hgap : Gap gap) (hc : isSpace c = false) (rest : List Char) :
    skipSpace (gap ++ c :: rest) = some ((), c :: rest) :=
  skipAll_append (gap_iff.mp hgap) fun d hd => by
    cases hd
    exact hc

/-! ## 2. Numbers -/

/-- A character that may go on with a number. -/
def goesOn (c : Char) : Bool := c.isDigit || c == '.' || c == 'e' || c == 'E'

/-- What stands here goes on with no number. -/
def Ends (cs : List Char) : Prop := ∀ c, cs.head? = some c → goesOn c = false

theorem ends_nil : Ends [] := nofun

theorem Ends.digit (h : Ends rest) (hc : rest.head? = some c) : c.isDigit = false := by
  have hno := h c hc
  simp only [goesOn, Bool.or_eq_false_iff] at hno
  exact hno.1.1.1

theorem digits_sound (h : discard (takeSome Char.isDigit) cs = some (u, rest)) :
    ∃ row, cs = row ++ rest ∧ Digits row := by
  obtain ⟨row, htake⟩ := discard_eq_some h
  exact ⟨row, takeSome_eq_some htake⟩

theorem digits_complete (h : Digits written)
    (hrest : ∀ c, rest.head? = some c → c.isDigit = false) :
    discard (takeSome Char.isDigit) (written ++ rest) = some ((), rest) :=
  discard_some (takeSome_append h.1 h.2 hrest)

theorem whole_sound (h : whole cs = some (u, rest)) : ∃ w, cs = w ++ rest ∧ Whole w := by
  obtain ⟨c, more, hnext, hmore⟩ := bind_eq_some h
  obtain rfl := next_eq_some hnext
  split at hmore
  · cases hmore
    exact ⟨['0'], rfl, .zero⟩
  · rename_i hzero
    split at hmore
    · rename_i hc
      obtain ⟨row, rfl, hrow⟩ := skipAll_eq_some hmore
      have hdigits : Digits (c :: row) :=
        ⟨List.cons_ne_nil _ _, List.forall_mem_cons.mpr ⟨hc, hrow⟩⟩
      exact ⟨c :: row, rfl, .digits hdigits hzero⟩
    · cases hmore

theorem whole_complete (h : Whole written) (hrest : ∀ c, rest.head? = some c → c.isDigit = false) :
    whole (written ++ rest) = some ((), rest) := by
  cases h with
  | zero => rfl
  | @digits c cs h hc =>
    obtain ⟨hfirst, hmore⟩ := List.forall_mem_cons.mp h.2
    refine (bind_some (next_cons c _)).trans ?_
    split
    · exact absurd rfl hc
    · rw [if_pos hfirst]
      exact skipAll_append hmore hrest

theorem fraction_sound (h : fraction cs = some (u, rest)) : ∃ w, cs = w ++ rest ∧ Fraction w := by
  rw [fraction, bind_some (peek_eq cs)] at h
  split at h
  · obtain ⟨_, more, hpoint, hdigits⟩ := bind_eq_some h
    obtain ⟨row, rfl, hrow⟩ := digits_sound hdigits
    exact ⟨'.' :: row, expect_eq_some hpoint, .digits hrow⟩
  · cases h
    exact ⟨[], rfl, .absent⟩

theorem fraction_complete (h : Fraction written)
    (hrest : ∀ c, rest.head? = some c → c.isDigit = false ∧ c ≠ '.') :
    fraction (written ++ rest) = some ((), rest) := by
  refine (bind_some (peek_eq _)).trans ?_
  cases h with
  | absent =>
    rw [List.nil_append, if_neg fun hpoint => (hrest '.' hpoint).2 rfl]
    rfl
  | @digits cs h =>
    rw [List.cons_append, List.head?_cons, if_pos rfl]
    refine (bind_some (expect_cons '.' (cs ++ rest))).trans ?_
    exact digits_complete h fun c hc => (hrest c hc).1

theorem exponent_sound (h : exponent cs = some (u, rest)) : ∃ w, cs = w ++ rest ∧ Exponent w := by
  rw [exponent, bind_some (peek_eq cs), bind_some (peek_eq cs)] at h
  split at h
  · rename_i hmark
    obtain ⟨_, more, hnext, hmore⟩ := bind_eq_some h
    obtain ⟨e, hnext⟩ := discard_eq_some hnext
    obtain rfl := next_eq_some hnext
    have he : e = 'e' ∨ e = 'E' := by simpa using hmark
    rw [bind_some (peek_eq more), bind_some (peek_eq more)] at hmore
    dsimp only at hmore
    split at hmore
    · rename_i hsign
      obtain ⟨_, digits, hnext, hdigits⟩ := bind_eq_some hmore
      obtain ⟨sign, hnext⟩ := discard_eq_some hnext
      obtain rfl := next_eq_some hnext
      have hmem : [sign] ∈ [[], ['+'], ['-']] := by simpa using hsign
      obtain ⟨row, rfl, hrow⟩ := digits_sound hdigits
      exact ⟨e :: ([sign] ++ row), rfl, .digits he hmem hrow⟩
    · obtain ⟨row, rfl, hrow⟩ := digits_sound hmore
      exact ⟨e :: ([] ++ row), rfl, .digits he (by simp) hrow⟩
  · cases h
    exact ⟨[], rfl, .absent⟩

theorem exponent_complete (h : Exponent written) (hrest : Ends rest) :
    exponent (written ++ rest) = some ((), rest) := by
  refine (bind_some (peek_eq _)).trans ((bind_some (peek_eq _)).trans ?_)
  cases h with
  | absent =>
    have hmark : ¬(rest.head? = some 'e' ∨ rest.head? = some 'E') := by
      rintro (he | he) <;> exact absurd (hrest _ he) (by decide)
    rw [List.nil_append, if_neg hmark]
    rfl
  | @digits e sign cs he hsign h =>
    have hdigits := digits_complete h fun c hc => hrest.digit hc
    obtain ⟨d, more, rfl⟩ := List.exists_cons_of_ne_nil h.1
    have hd := h.2 d List.mem_cons_self
    rw [List.cons_append, if_pos (by simpa using he)]
    refine (bind_some (discard_some (next_cons e _))).trans ?_
    refine (bind_some (peek_eq _)).trans ((bind_some (peek_eq _)).trans ?_)
    simp only [List.mem_cons, List.not_mem_nil, or_false] at hsign
    rcases hsign with rfl | hsign
    · have hnone : ¬(some d = some '+' ∨ some d = some '-') := by
        rintro (he | he) <;> cases he <;> cases hd
      rw [List.nil_append, List.cons_append, List.head?_cons, if_neg hnone]
      exact hdigits
    · obtain ⟨c, rfl, hc⟩ : ∃ c, sign = [c] ∧ (some c = some '+' ∨ some c = some '-') := by
        rcases hsign with rfl | rfl
        · exact ⟨'+', rfl, .inl rfl⟩
        · exact ⟨'-', rfl, .inr rfl⟩
      rw [List.append_assoc, List.singleton_append, List.head?_cons, if_pos hc]
      exact (bind_some (discard_some (next_cons c _))).trans hdigits

/-- What stands behind the fraction goes on with no digits and has no point. -/
theorem Grammar.Exponent.head (h : Exponent written) (hrest : Ends rest)
    (hc : (written ++ rest).head? = some c) :
    c.isDigit = false ∧ c ≠ '.' := by
  cases h with
  | absent =>
    refine ⟨hrest.digit hc, ?_⟩
    rintro rfl
    exact absurd (hrest _ hc) (by decide)
  | digits he =>
    cases hc
    rcases he with rfl | rfl <;> decide

theorem Grammar.Fraction.head (h : Fraction written)
    (hrest : ∀ c, rest.head? = some c → c.isDigit = false) (hc : (written ++ rest).head? = some c) :
    c.isDigit = false := by
  cases h with
  | absent => exact hrest c hc
  | digits =>
    cases hc
    rfl

theorem number_sound (h : number cs = some (u, rest)) : ∃ w, cs = w ++ rest ∧ Number w := by
  have hsigned : ∃ sign more, cs = sign ++ more ∧ sign ∈ [[], ['-']]
      ∧ (do whole; fraction; exponent) more = some (u, rest) := by
    rw [number, bind_some (peek_eq cs)] at h
    dsimp only at h
    split at h
    · obtain ⟨_, more, hminus, hmore⟩ := bind_eq_some h
      exact ⟨['-'], more, expect_eq_some hminus, by simp, hmore⟩
    · exact ⟨[], cs, rfl, by simp, h⟩
  obtain ⟨sign, more, rfl, hsign, hmore⟩ := hsigned
  obtain ⟨_, cs₁, hwhole, hmore⟩ := bind_eq_some hmore
  obtain ⟨_, cs₂, hfraction, hexponent⟩ := bind_eq_some hmore
  obtain ⟨w₁, rfl, hw₁⟩ := whole_sound hwhole
  obtain ⟨w₂, rfl, hw₂⟩ := fraction_sound hfraction
  obtain ⟨w₃, rfl, hw₃⟩ := exponent_sound hexponent
  exact ⟨sign ++ (w₁ ++ (w₂ ++ w₃)), by simp, .mk hsign hw₁ hw₂ hw₃⟩

theorem Grammar.Whole.start (h : Whole written) :
    ∃ c more, written = c :: more ∧ c.isDigit = true := by
  cases h with
  | zero => exact ⟨'0', [], rfl, rfl⟩
  | digits h => exact ⟨_, _, rfl, h.2 _ List.mem_cons_self⟩

theorem number_complete (h : Number written) (hrest : Ends rest) :
    number (written ++ rest) = some ((), rest) := by
  obtain ⟨hsign, hwhole, hfraction, hexponent⟩ := h
  rename_i sign w₁ w₂ w₃
  have hmore : (do whole; fraction; exponent) (w₁ ++ (w₂ ++ (w₃ ++ rest))) = some ((), rest) := by
    have hpoint : ∀ c, (w₃ ++ rest).head? = some c → c.isDigit = false ∧ c ≠ '.' := fun c hc =>
      hexponent.head hrest hc
    have hdigit : ∀ c, (w₂ ++ (w₃ ++ rest)).head? = some c → c.isDigit = false := fun c hc =>
      hfraction.head (fun d hd => (hpoint d hd).1) hc
    refine (bind_some (whole_complete hwhole hdigit)).trans ?_
    refine (bind_some (fraction_complete hfraction hpoint)).trans ?_
    exact exponent_complete hexponent hrest
  simp only [List.append_assoc]
  refine (bind_some (peek_eq _)).trans ?_
  simp only [List.mem_cons, List.not_mem_nil, or_false] at hsign
  rcases hsign with rfl | rfl
  · obtain ⟨d, digits, rfl, hd⟩ := hwhole.start
    have hminus : ¬some d = some '-' := by
      rintro ⟨⟩
      cases hd
    rw [List.nil_append, List.cons_append, List.head?_cons, if_neg hminus]
    exact hmore
  · rw [List.singleton_append, List.head?_cons, if_pos rfl]
    exact (bind_some (expect_cons '-' _)).trans hmore

/-! ## 3. Strings -/

section Strings

variable {piece : Unit16} {pieces : List Unit16} {text : Option String} {n count fuel : Nat}

theorem hexNumber_succ_eq_some (h : hexNumber (count + 1) cs = some (n, rest)) :
    ∃ c d m more, cs = c :: more ∧ hexValue? c = some d ∧ hexNumber count more = some (m, rest)
      ∧ n = d * 16 ^ count + m := by
  obtain ⟨c, more, hnext, hvalue⟩ := bind_eq_some h
  cases hd : hexValue? c with
  | none =>
    rw [hd] at hvalue
    cases hvalue
  | some d =>
    rw [hd] at hvalue
    obtain ⟨m, rest', hmore, hdone⟩ := bind_eq_some hvalue
    cases hdone
    exact ⟨c, d, m, more, next_eq_some hnext, hd, hmore, rfl⟩

theorem hexNumber_cons {d m : Nat} (hd : hexValue? c = some d)
    (hmore : hexNumber count cs = some (m, rest)) :
    hexNumber (count + 1) (c :: cs) = some (d * 16 ^ count + m, rest) := by
  refine (bind_some (next_cons c _)).trans ?_
  rw [hd]
  exact bind_some hmore

theorem hexNumber_zero (cs : List Char) : hexNumber 0 cs = some (0, cs) := rfl

theorem hexNumber_sound (h : hexNumber 4 cs = some (n, rest)) : ∃ w, cs = w ++ rest ∧ Hex n w := by
  obtain ⟨a, w, _, _, rfl, ha, h₁, rfl⟩ := hexNumber_succ_eq_some h
  obtain ⟨b, x, _, _, rfl, hb, h₂, rfl⟩ := hexNumber_succ_eq_some h₁
  obtain ⟨c, y, _, _, rfl, hc, h₃, rfl⟩ := hexNumber_succ_eq_some h₂
  obtain ⟨d, z, _, _, rfl, hd, h₄, rfl⟩ := hexNumber_succ_eq_some h₃
  cases h₄
  refine ⟨[a, b, c, d], rfl, ?_⟩
  have hn : w * 16 ^ 3 + (x * 16 ^ 2 + (y * 16 ^ 1 + (z * 16 ^ 0 + 0)))
      = 0x1000 * w + 0x100 * x + 0x10 * y + z := by omega
  rw [hn]
  exact .mk ha hb hc hd

theorem hexNumber_complete (h : Hex n written) :
    hexNumber 4 (written ++ rest) = some (n, rest) := by
  obtain ⟨ha, hb, hc, hd⟩ := h
  have hlast := hexNumber_cons hd (hexNumber_zero rest)
  refine (hexNumber_cons ha (hexNumber_cons hb (hexNumber_cons hc hlast))).trans ?_
  congr 2
  omega

theorem escaped_sound (h : escaped cs = some (piece, rest)) :
    ∃ w, cs = w ++ rest ∧ Piece piece ('\\' :: w) := by
  obtain ⟨letter, more, hnext, hpiece⟩ := bind_eq_some h
  obtain rfl := next_eq_some hnext
  split at hpiece
  case h_9 =>
    obtain ⟨n, rest', hnumber, hdone⟩ := bind_eq_some hpiece
    cases hdone
    obtain ⟨w, rfl, hw⟩ := hexNumber_sound hnumber
    refine ⟨'u' :: w, rfl, ?_⟩
    unfold Unit16.of
    split
    · rename_i hn
      exact .high (by rwa [Nat.add_sub_of_le hn.1]) (by omega)
    · split
      · rename_i hn
        exact .low (by rwa [Nat.add_sub_of_le hn.1]) (by omega)
      · exact .char hw (by omega)
  case h_10 => cases hpiece
  all_goals
    cases hpiece
    exact ⟨[_], rfl, .escape (by decide)⟩

theorem unitsWithin_sound (h : unitsWithin fuel cs = some (pieces, rest)) :
    ∃ w, cs = w ++ '"' :: rest ∧ Pieces pieces w := by
  induction fuel generalizing cs pieces with
  | zero => cases h
  | succ fuel ih =>
    obtain ⟨c, more, hnext, hpieces⟩ := bind_eq_some h
    obtain rfl := next_eq_some hnext
    split at hpieces
    · cases hpieces
      exact ⟨[], rfl, .nil⟩
    · obtain ⟨piece, cs₁, hpiece, hmore⟩ := bind_eq_some hpieces
      obtain ⟨others, cs₂, hothers, hdone⟩ := bind_eq_some hmore
      cases hdone
      obtain ⟨w, rfl, hw⟩ := escaped_sound hpiece
      obtain ⟨w', rfl, hw'⟩ := ih hothers
      exact ⟨('\\' :: w) ++ w', by simp, .cons hw hw'⟩
    · rename_i hquote hbackslash
      split at hpieces
      · cases hpieces
      · rename_i hcontrol
        obtain ⟨others, cs₁, hothers, hdone⟩ := bind_eq_some hpieces
        cases hdone
        obtain ⟨w, rfl, hw⟩ := ih hothers
        exact ⟨[c] ++ w, rfl, .cons (.plain hquote hbackslash (Nat.le_of_not_lt hcontrol)) hw⟩

theorem escaped_hex (h : Hex n written) :
    escaped ('u' :: (written ++ rest)) = some (Unit16.of n, rest) :=
  (bind_some (next_cons 'u' _)).trans (bind_some (hexNumber_complete h))

theorem unitsWithin_escaped (hpiece : escaped cs = some (piece, rest))
    (hmore : unitsWithin fuel rest = some (pieces, written)) :
    unitsWithin (fuel + 1) ('\\' :: cs) = some (piece :: pieces, written) :=
  (bind_some (next_cons '\\' _)).trans ((bind_some hpiece).trans (bind_some hmore))

theorem unitsWithin_cons (h : Piece piece written)
    (hmore : unitsWithin fuel cs = some (pieces, rest)) :
    unitsWithin (fuel + 1) (written ++ cs) = some (piece :: pieces, rest) := by
  cases h with
  | @plain c hquote hbackslash hcontrol =>
    refine (bind_some (next_cons c _)).trans ?_
    split
    · exact absurd rfl hquote
    · exact absurd rfl hbackslash
    · rw [if_neg (Nat.not_lt.mpr hcontrol)]
      exact bind_some hmore
  | @escape letter c h =>
    refine unitsWithin_escaped ?_ hmore
    simp only [escapes, List.mem_cons, List.not_mem_nil, or_false, Prod.mk.injEq] at h
    rcases h with ⟨rfl, rfl⟩ | ⟨rfl, rfl⟩ | ⟨rfl, rfl⟩ | ⟨rfl, rfl⟩ | ⟨rfl, rfl⟩ | ⟨rfl, rfl⟩
      | ⟨rfl, rfl⟩ | ⟨rfl, rfl⟩ <;> rfl
  | @char n written h hn =>
    refine unitsWithin_escaped ((escaped_hex h).trans ?_) hmore
    rw [Unit16.of, if_neg (by omega), if_neg (by omega)]
  | @high n written h hn =>
    refine unitsWithin_escaped ((escaped_hex h).trans ?_) hmore
    rw [Unit16.of, if_pos (by omega), Nat.add_sub_cancel_left]
  | @low n written h hn =>
    refine unitsWithin_escaped ((escaped_hex h).trans ?_) hmore
    rw [Unit16.of, if_neg (by omega), if_pos (by omega), Nat.add_sub_cancel_left]

theorem Grammar.Piece.length_pos (h : Piece piece written) : 0 < written.length := by
  cases h <;> exact Nat.succ_pos _

theorem unitsWithin_complete (h : Pieces pieces written) (hfuel : written.length < fuel) :
    unitsWithin fuel (written ++ '"' :: rest) = some (pieces, rest) := by
  induction h generalizing fuel with
  | nil =>
    obtain ⟨fuel, rfl⟩ := Nat.exists_eq_add_one_of_ne_zero (Nat.ne_zero_of_lt hfuel)
    rfl
  | @cons piece pieces cs ds hpiece hmore ih =>
    have hpos := hpiece.length_pos
    rw [List.length_append] at hfuel
    obtain ⟨fuel, rfl⟩ := Nat.exists_eq_add_one_of_ne_zero (Nat.ne_zero_of_lt hfuel)
    rw [List.append_assoc]
    exact unitsWithin_cons hpiece (ih (by omega))

theorem charsOf?_eq_some_iff {us : List Unit16} : charsOf? us = some cs ↔ Meant us cs := by
  constructor
  · intro h
    induction us using charsOf?.induct generalizing cs with
    | case1 =>
      cases h
      exact .nil
    | case2 c more ih =>
      obtain ⟨ds, hds, rfl⟩ := Option.map_eq_some_iff.mp h
      exact .char (ih hds)
    | case3 m n more ih =>
      obtain ⟨ds, hds, rfl⟩ := Option.map_eq_some_iff.mp h
      exact .pair (ih hds)
    | case4 m us hus =>
      rw [charsOf?.eq_4 m us hus] at h
      cases h
    | case5 => cases h
  · intro h
    induction h with
    | nil => rfl
    | char _ ih => rw [charsOf?, ih, Option.map_some]
    | pair _ ih => rw [charsOf?, ih, Option.map_some]

theorem textOf_eq_some_iff {us : List Unit16} {s : String} :
    (charsOf? us).map String.ofList = some s ↔ Meant us s.toList := by
  rw [← charsOf?_eq_some_iff, Option.map_eq_some_iff]
  constructor
  · rintro ⟨cs, hcs, rfl⟩
    rw [hcs, String.toList_ofList]
  · intro h
    exact ⟨s.toList, h, String.ofList_toList⟩

theorem string_sound (h : string cs = some (text, rest)) : ∃ w, cs = w ++ rest ∧ Quoted text w := by
  obtain ⟨_, more, hquote, hmore⟩ := bind_eq_some h
  obtain rfl := expect_eq_some hquote
  obtain ⟨_, _, hget, hunits⟩ := bind_eq_some hmore
  cases hget
  obtain ⟨us, rest', hunits, hdone⟩ := bind_eq_some hunits
  cases hdone
  obtain ⟨w, rfl, hw⟩ := unitsWithin_sound hunits
  exact ⟨'"' :: (w ++ ['"']), by simp, .mk hw fun s => textOf_eq_some_iff⟩

theorem string_complete (h : Quoted text written) (rest : List Char) :
    string (written ++ rest) = some (text, rest) := by
  obtain ⟨hpieces, htext⟩ := h
  rename_i us cs
  have hus : (charsOf? us).map String.ofList = text :=
    Option.ext fun s => textOf_eq_some_iff.trans (htext s).symm
  have hunits : unitsWithin (cs ++ '"' :: rest).length (cs ++ '"' :: rest) = some (us, rest) :=
    unitsWithin_complete hpieces (by simp)
  have hget : (get : Text.Reader (List Char)) (cs ++ '"' :: rest)
      = some (cs ++ '"' :: rest, cs ++ '"' :: rest) := rfl
  rw [List.cons_append, List.append_assoc, List.singleton_append]
  refine (bind_some (expect_cons '"' _)).trans ?_
  refine (bind_some hget).trans ((bind_some hunits).trans ?_)
  rw [hus]
  rfl

end Strings

end Daybook.Json
