/-
Daybook.Proofs.Calendar.Names — the identifiers of notes tell days apart.

A padded number can be read back, whatever the width (`padded_inj`), and an
identifier is cut in only one way into the parts that it is made of: the
month and the day in a day's identifier are two characters each, and in a
month's identifier the letters end where the year begins. So two days with
one identifier agree in all that the identifier is made of, and no
identifier of one period is one of another.

`isNumeral` is the class of characters that numbers are written in. Month
names have none of them, and that is what keeps days and months apart.
-/
import Daybook.Calendar.Date

namespace Daybook.Text

/-! ## Padded numbers -/

/-- A digit or the sign of a negative number. -/
def isNumeral (c : Char) : Bool :=
  c == '-' || c.isDigit

/-- The zeros and the digits of a padded number. -/
def paddedDigits (width : Nat) (number : Int) : List Char :=
  let sign := if number < 0 then 1 else 0
  let digits := Nat.toDigits 10 number.natAbs
  List.replicate (width - sign - digits.length) '0' ++ digits

theorem toList_padded (width : Nat) (number : Int) :
    (padded width number).toList
      = (if number < 0 then ['-'] else []) ++ paddedDigits width number := by
  have hlen : number.natAbs.repr.length = (Nat.toDigits 10 number.natAbs).length := by
    rw [← String.length_toList, Nat.toList_repr]
  unfold padded paddedDigits
  split
  · simp [hlen, show "-".length = 1 from rfl]
  · simp [hlen]

theorem isDigit_paddedDigits {width : Nat} {number : Int} {c : Char}
    (h : c ∈ paddedDigits width number) : c.isDigit = true := by
  rcases List.mem_append.mp h with hz | hd
  · rw [List.eq_of_mem_replicate hz]
    rfl
  · exact Nat.isDigit_of_mem_toDigits (by omega) (by omega) hd

theorem paddedDigits_ne_nil (width : Nat) (number : Int) : paddedDigits width number ≠ [] := by
  intro h
  exact Nat.toDigits_ne_nil (List.append_eq_nil_iff.mp h).2

theorem ofDigitChars_paddedDigits (width : Nat) (number : Int) :
    Nat.ofDigitChars 10 (paddedDigits width number) 0 = number.natAbs := by
  rw [paddedDigits, Nat.ofDigitChars_append, Nat.ofDigitChars_replicate_zero, Nat.mul_zero,
    Nat.ofDigitChars_ten_toDigits]

theorem isNumeral_padded {width : Nat} {number : Int} {c : Char}
    (h : c ∈ (padded width number).toList) : isNumeral c = true := by
  rw [toList_padded] at h
  rcases List.mem_append.mp h with hs | hd
  · split at hs <;> simp_all [isNumeral]
  · simp [isNumeral, isDigit_paddedDigits hd]

theorem padded_ne_nil (width : Nat) (number : Int) : (padded width number).toList ≠ [] := by
  rw [toList_padded]
  intro h
  exact paddedDigits_ne_nil width number (List.append_eq_nil_iff.mp h).2

/-- A padded number starts with a sign only if it is negative. -/
theorem head?_padded (width : Nat) (number : Int) :
    (padded width number).toList.head? = some '-' ↔ number < 0 := by
  rw [toList_padded]
  split
  · rename_i hneg
    simp [hneg]
  · rename_i hpos
    refine ⟨fun h => ?_, fun h => absurd h hpos⟩
    have := isDigit_paddedDigits (List.mem_of_mem_head? h)
    simp at this

/-- A padded number can be read back. -/
theorem padded_inj {width : Nat} {a b : Int} (h : padded width a = padded width b) : a = b := by
  have hsign : a < 0 ↔ b < 0 := by rw [← head?_padded width a, h, head?_padded]
  have hdigits : paddedDigits width a = paddedDigits width b := by
    have htext := congrArg String.toList h
    rw [toList_padded, toList_padded] at htext
    by_cases ha : a < 0
    · rw [if_pos ha, if_pos (hsign.mp ha)] at htext
      exact List.append_cancel_left htext
    · rw [if_neg ha, if_neg (fun hb => ha (hsign.mpr hb))] at htext
      exact htext
  have habs : a.natAbs = b.natAbs := by
    rw [← ofDigitChars_paddedDigits width a, hdigits, ofDigitChars_paddedDigits]
  omega

theorem length_padded (width : Nat) (number : Int) :
    (padded width number).toList.length
      = (if number < 0 then 1 else 0) + (paddedDigits width number).length := by
  rw [toList_padded]
  split <;> simp [Nat.add_comm]

/-- A padded number fills all of its places. -/
theorem le_length_padded (width : Nat) (number : Int) :
    width ≤ (padded width number).toList.length := by
  rw [length_padded, paddedDigits]
  split
  all_goals
    rw [List.length_append, List.length_replicate]
    omega

/-- A number of at most two digits fills two places exactly. -/
theorem length_padded_two {n : Nat} (h : n < 100) : (padded 2 (n : Int)).toList.length = 2 := by
  have hlen : (Nat.toDigits 10 n).length ≤ 2 :=
    (Nat.length_toDigits_le_iff (by omega) (by omega)).mpr (by omega)
  have hneg : ¬ (n : Int) < 0 := by omega
  rw [toList_padded, paddedDigits]
  simp only [hneg, if_false, List.nil_append, List.length_append, List.length_replicate,
    Int.natAbs_natCast]
  omega

end Daybook.Text

namespace Daybook.Calendar.Day

open Text (isNumeral padded)

/-! ## Months and days in numbers -/

/-- Only a month has days. -/
theorem month_bounds {year : Int} {month : Nat} (h : daysInMonth year month ≠ 0) :
    1 ≤ month ∧ month ≤ 12 := by
  unfold daysInMonth at h
  split at h <;> omega

theorem IsReal.month_bounds {d : Day} (h : d.IsReal) : 1 ≤ d.month ∧ d.month ≤ 12 :=
  Day.month_bounds (Nat.ne_zero_of_lt (Nat.le_trans h.2.2.1 h.2.2.2))

theorem IsReal.day_le {d : Day} (h : d.IsReal) : d.day ≤ 31 := by
  obtain ⟨_, _, _, h₂⟩ := h
  have hle : daysInMonth d.year d.month ≤ 31 := by
    unfold daysInMonth
    split
    · split <;> omega
    all_goals omega
  omega

/-! ## Year and day identifiers -/

theorem yearId_inj {a b : Day} (h : a.yearId = b.yearId) : a.year = b.year :=
  Text.padded_inj h

theorem isNumeral_yearId {d : Day} {c : Char} (h : c ∈ d.yearId.toList) : isNumeral c = true :=
  Text.isNumeral_padded h

theorem isNumeral_dayId {d : Day} {c : Char} (h : c ∈ d.dayId.toList) : isNumeral c = true := by
  simp only [dayId, String.toList_append, List.mem_append] at h
  rcases h with (h | h) | h <;> exact Text.isNumeral_padded h

/-- The last two characters of a day's identifier are its day, the two before
them its month. -/
theorem dayId_inj {a b : Day} (ha : a.IsReal) (hb : b.IsReal) (h : a.dayId = b.dayId) :
    a = b := by
  have hda := ha.day_le
  have hdb := hb.day_le
  have hma := ha.month_bounds
  have hmb := hb.month_bounds
  have htext := congrArg String.toList h
  simp only [dayId, String.toList_append] at htext
  obtain ⟨hfront, hday⟩ := List.append_inj' htext (by
    rw [Text.length_padded_two (by omega), Text.length_padded_two (by omega)])
  obtain ⟨hyear, hmonth⟩ := List.append_inj' hfront (by
    rw [Text.length_padded_two (by omega), Text.length_padded_two (by omega)])
  have h₁ := Text.padded_inj (String.toList_inj.mp hyear)
  have h₂ := Int.ofNat_inj.mp (Text.padded_inj (String.toList_inj.mp hmonth))
  have h₃ := Int.ofNat_inj.mp (Text.padded_inj (String.toList_inj.mp hday))
  cases a
  cases b
  simp_all

/-- A year identifier is too short to be a day identifier: of the eight
characters or more of a day identifier four are the month and the day. -/
theorem yearId_ne_dayId {a : Day} (ha : a.IsReal) (b : Day) : a.yearId ≠ b.dayId := by
  intro h
  have hlen : a.yearId.toList.length = b.dayId.toList.length := by rw [h]
  have hday : 8 ≤ b.dayId.toList.length := by
    have hyear := Text.le_length_padded 4 b.year
    have hmonth := Text.le_length_padded 2 b.month
    have hday := Text.le_length_padded 2 b.day
    simp only [dayId, String.toList_append, List.length_append]
    omega
  have hyear : a.yearId.toList.length ≤ 7 := by
    obtain ⟨hfirst, hlast, _⟩ := ha
    have hdigits : (Nat.toDigits 10 a.year.natAbs).length ≤ 6 := by
      refine (Nat.length_toDigits_le_iff (by omega) (by omega)).mpr ?_
      simp only [firstYear, lastYear] at hfirst hlast
      omega
    rw [yearId, Text.length_padded, Text.paddedDigits, List.length_append, List.length_replicate]
    split <;> omega
  omega

/-! ## Month identifiers -/

theorem monthNames_plain : ∀ name ∈ monthNames,
    name.toList ≠ [] ∧ ∀ c ∈ name.toList, isNumeral c = false ∧ c ≠ '/' := by
  simp [monthNames, isNumeral]

theorem getElem?_monthNames (d : Day) :
    monthNames[(d.month - 1) % 12]? = some d.monthName := by
  have h : (d.month - 1) % 12 < monthNames.length := Nat.mod_lt _ (by decide)
  rw [monthName, List.getD_eq_getElem?_getD, List.getElem?_eq_getElem h, Option.getD_some]

theorem monthName_mem (d : Day) : d.monthName ∈ monthNames :=
  List.mem_of_getElem? d.getElem?_monthNames

theorem monthName_inj {a b : Day} (ha : a.IsReal) (hb : b.IsReal)
    (h : a.monthName = b.monthName) : a.month = b.month := by
  have hma := ha.month_bounds
  have hmb := hb.month_bounds
  have hplace : (a.month - 1) % 12 = (b.month - 1) % 12 := by
    have hbound : (a.month - 1) % 12 < monthNames.length := Nat.mod_lt _ (by decide)
    apply (List.getElem?_inj hbound (by decide)).mp
    rw [getElem?_monthNames, getElem?_monthNames, h]
  omega

/-- The letters of a month's identifier end where its year begins. -/
theorem takeWhile_monthId (d : Day) :
    d.monthId.toList.takeWhile (fun c => !isNumeral c) = d.monthName.toList := by
  have hname : ∀ c ∈ d.monthName.toList, (!isNumeral c) = true := by
    intro c hc
    simp [((monthNames_plain _ d.monthName_mem).2 c hc).1]
  rw [monthId, String.toList_append, List.takeWhile_append_of_pos hname]
  obtain ⟨c, cs, hcs⟩ := List.exists_cons_of_ne_nil (Text.padded_ne_nil 0 d.year)
  have hc : isNumeral c = true := Text.isNumeral_padded (by rw [hcs]; exact List.mem_cons_self)
  simp [hcs, hc]

theorem monthId_inj {a b : Day} (ha : a.IsReal) (hb : b.IsReal) (h : a.monthId = b.monthId) :
    a.year = b.year ∧ a.month = b.month := by
  have hname : a.monthName = b.monthName := by
    apply String.toList_inj.mp
    rw [← takeWhile_monthId, h, takeWhile_monthId]
  have hyear : padded 0 a.year = padded 0 b.year := by
    have htext := congrArg String.toList h
    simp only [monthId, String.toList_append, hname] at htext
    exact String.toList_inj.mp (List.append_cancel_left htext)
  exact ⟨Text.padded_inj hyear, monthName_inj ha hb hname⟩

/-- A month's identifier starts with a letter. -/
theorem head_monthId (d : Day) : ∃ c cs, d.monthId.toList = c :: cs ∧ isNumeral c = false := by
  obtain ⟨hne, hplain⟩ := monthNames_plain _ d.monthName_mem
  obtain ⟨c, cs, hcs⟩ := List.exists_cons_of_ne_nil hne
  refine ⟨c, cs ++ (padded 0 d.year).toList, by simp [monthId, hcs], ?_⟩
  exact (hplain c (by rw [hcs]; exact List.mem_cons_self)).1

/-- A month's identifier is no text of digits and signs. -/
theorem monthId_ne_of_isNumeral (d : Day) {text : String}
    (h : ∀ c ∈ text.toList, isNumeral c = true) : d.monthId ≠ text := by
  intro heq
  obtain ⟨c, cs, hcs, hc⟩ := d.head_monthId
  have hmem : c ∈ text.toList := by
    rw [← heq, hcs]
    exact List.mem_cons_self
  rw [h c hmem] at hc
  cases hc

/-- A month's identifier ends in a digit. -/
theorem getLast_monthId (d : Day) : ∃ cs c, d.monthId.toList = cs ++ [c] ∧ isNumeral c = true := by
  rcases List.eq_nil_or_concat (padded 0 d.year).toList with hnil | ⟨cs, c, hcs⟩
  · exact absurd hnil (Text.padded_ne_nil 0 d.year)
  · rw [List.concat_eq_append] at hcs
    refine ⟨d.monthName.toList ++ cs, c, by simp [monthId, hcs], ?_⟩
    have hmem : c ∈ (padded 0 d.year).toList := by simp [hcs]
    exact Text.isNumeral_padded hmem

theorem slash_not_mem_monthId (d : Day) : '/' ∉ d.monthId.toList := by
  intro h
  simp only [monthId, String.toList_append, List.mem_append] at h
  rcases h with h | h
  · exact ((monthNames_plain _ d.monthName_mem).2 _ h).2 rfl
  · exact absurd (Text.isNumeral_padded h) (by decide)

end Daybook.Calendar.Day
