/-
Daybook.Proofs.Toml.Number — a number is read back from its digits.

The digits of a number have no zero at their front, no sign and no dash. So
they are the digits of a decimal number and of nothing else (`integer?_toDigits`),
and no date starts with them (`date_none`).
-/
import Daybook.Toml.DateTime
import Daybook.Toml.Number

namespace Daybook.Toml

open Text (Reader bind_none bind_some bind_eq_some expect hexValue? ne_of_kind)

/-! ## Dates -/

theorem places_suffix {n : Nat} {cs ds rest : List Char} (h : places n cs = some (ds, rest)) :
    rest <:+ cs := by
  induction n generalizing cs ds with
  | zero =>
    cases h
    exact List.suffix_refl _
  | succ n ih =>
    obtain ⟨c, more, hnext, hmore⟩ := bind_eq_some h
    obtain rfl : cs = c :: more := by
      cases cs with
      | nil => cases hnext
      | cons d cs => cases hnext; rfl
    split at hmore
    · obtain ⟨ds', rest', hplaces, hdone⟩ := bind_eq_some hmore
      cases hdone
      exact (ih hplaces).trans (List.suffix_cons _ _)
    · cases hmore

theorem numberWithin_suffix {width low high n : Nat} {cs rest : List Char}
    (h : numberWithin width low high cs = some (n, rest)) : rest <:+ cs := by
  obtain ⟨ds, rest', hplaces, hmore⟩ := bind_eq_some h
  dsimp only at hmore
  split at hmore
  · cases hmore
    exact places_suffix hplaces
  · cases hmore

/-- There is a dash behind the year of a date. -/
theorem date_none {cs : List Char} (h : '-' ∉ cs) : date cs = none := by
  cases hyear : numberWithin 4 0 9999 cs with
  | none => exact bind_none hyear
  | some r =>
    obtain ⟨year, rest⟩ := r
    refine (bind_some hyear).trans (bind_none ?_)
    have hrest : '-' ∉ rest := fun hmem => h ((numberWithin_suffix hyear).subset hmem)
    cases rest with
    | nil => rfl
    | cons c rest =>
      have hc : c ≠ '-' := fun he => hrest (by simp [he])
      simp [expect, hc]

/-- There is a colon or a dash in every date or time. -/
theorem dateTime_none {cs : List Char} (hdash : '-' ∉ cs) (hcolon : ':' ∉ cs) :
    dateTime cs = none := by
  have hthird : cs[2]? ≠ some ':' := fun h => hcolon (List.mem_of_getElem? h)
  have hget : (get : Reader (List Char)) cs = some (cs, cs) := rfl
  refine (bind_some hget).trans ?_
  rw [if_neg hthird]
  exact bind_none (date_none hdash)

/-! ## Digits -/

theorem hexValue?_digit {c : Char} (h : c.isDigit = true) :
    hexValue? c = some (c.toNat - '0'.toNat) ∧ c.toNat - '0'.toNat < 10 := by
  refine ⟨by rw [hexValue?, if_pos h], ?_⟩
  have hbounds := Char.isDigit_iff_toNat.mp h
  have hnine : '9'.toNat = '0'.toNat + 9 := rfl
  omega

theorem digits?_row {cs : List Char} (hne : cs ≠ []) (h : ∀ c ∈ cs, c.isDigit = true) :
    digits? 10 cs = some (cs.map fun c => c.toNat - '0'.toNat) := by
  induction cs with
  | nil => exact absurd rfl hne
  | cons c cs ih =>
    obtain ⟨hvalue, hlt⟩ := hexValue?_digit (h c List.mem_cons_self)
    cases cs with
    | nil =>
      simp only [digits?, hvalue, if_pos hlt]
      rfl
    | cons d cs =>
      have hd : d.isDigit = true := h d (by simp)
      have hmark : d ≠ '_' := ne_of_kind hd (by decide)
      have hrest := ih (by simp) fun e he => h e (List.mem_cons_of_mem _ he)
      simp only [digits?, hvalue, if_pos hlt, if_neg hmark, hrest]
      rfl

theorem ofDigits_row (cs : List Char) :
    ofDigits 10 (cs.map fun c => c.toNat - '0'.toNat) = Nat.ofDigitChars 10 cs 0 := by
  rw [ofDigits, List.foldl_map, Nat.ofDigitChars_eq_foldl]
  simp only [Nat.mul_comm]

/-- Only zero is written with a zero at its front. -/
theorem head?_toDigits {n : Nat} (h : 0 < n) : (Nat.toDigits 10 n).head? ≠ some '0' := by
  induction n using Nat.strongRecOn with
  | ind n ih =>
    by_cases hn : n < 10
    · rw [Nat.toDigits_of_lt_base hn]
      intro hzero
      have hvalue := Nat.toNat_digitChar_sub_48_of_lt_ten hn
      rw [List.head?_cons, Option.some.injEq] at hzero
      rw [hzero] at hvalue
      exact absurd hvalue (Nat.ne_of_lt h)
    · have hten : 10 ≤ n := Nat.le_of_not_lt hn
      have hhead := ih (n / 10) (Nat.div_lt_self h (by decide)) (Nat.div_pos hten (by decide))
      rw [Nat.toDigits_of_base_le (by decide) hten]
      cases hfront : Nat.toDigits 10 (n / 10) with
      | nil => exact absurd hfront Nat.toDigits_ne_nil
      | cons c cs =>
        rw [hfront] at hhead
        exact hhead

/-- Digits without a zero at their front are a decimal number. -/
theorem anyInteger?_row {cs : List Char} (hne : cs ≠ []) (h : ∀ c ∈ cs, c.isDigit = true)
    (hzero : cs.head? ≠ some '0') : anyInteger? cs = some (Nat.ofDigitChars 10 cs 0 : Int) := by
  have hrow := digits?_row hne h
  obtain ⟨c, more, rfl⟩ := List.exists_cons_of_ne_nil hne
  have hc := h c List.mem_cons_self
  have hfirst : c ≠ '0' := by simpa using hzero
  have hplus : c ≠ '+' := ne_of_kind hc (by decide)
  have hminus : c ≠ '-' := ne_of_kind hc (by decide)
  have hsigned : signed (c :: more) = (false, c :: more) := by simp [signed, hplus, hminus]
  have hdecimal : decimal? (c :: more) = digits? 10 (c :: more) := by simp [decimal?, hfirst]
  unfold anyInteger?
  split
  · rename_i heq
    exact absurd (List.cons.inj heq).1 hfirst
  · rename_i heq
    exact absurd (List.cons.inj heq).1 hfirst
  · rename_i heq
    exact absurd (List.cons.inj heq).1 hfirst
  · rw [hsigned]
    simp only [hdecimal, hrow, Option.map_some, ofDigits_row]
    rfl

/-- The digits of a number are read as that number, if it is not too large. -/
theorem integer?_toDigits {n : Nat} (h : n < 0x100000000000000000000000000000000) :
    integer? (Nat.toDigits 10 n) = some (n : Int) := by
  have hany : anyInteger? (Nat.toDigits 10 n) = some (n : Int) := by
    rcases Nat.eq_zero_or_pos n with rfl | hpos
    · rfl
    · rw [anyInteger?_row Nat.toDigits_ne_nil
        (fun c hc => Nat.isDigit_of_mem_toDigits (by decide) (by decide) hc) (head?_toDigits hpos),
        Nat.ofDigitChars_ten_toDigits]
  have hheld : isHeld n = true := by
    simp only [isHeld, Bool.and_eq_true, decide_eq_true_eq]
    omega
  rw [integer?, hany, Option.filter_some, if_pos hheld]

end Daybook.Toml
