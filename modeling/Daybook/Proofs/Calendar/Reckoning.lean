/-
Daybook.Proofs.Calendar.Reckoning — days are numbered in the order of the calendar.

`Day.next` is the day after another by the rules of the calendar alone: the
next day of the month, or the first of the next month, or 1 January. The
reckoning with numbers does the same:

* `number_next` — the day after has the next number, because a year is as
  long as its months and the next year starts behind it (`yearStart_succ`);
* `ofNumber_number` — a day is found again by its number, because the year
  that is guessed first is at most one away from the right one
  (`yearOf_spec`);
* `addDays?_eq` — so adding days is going from day to day, and fails exactly
  where that leaves the calendar (`isReal_later_iff`).
-/
import Daybook.Proofs.Calendar.Names
import Mathlib.Algebra.Order.BigOperators.Group.List
import Mathlib.Algebra.Order.Ring.Nat
import Mathlib.Logic.Function.Iterate

namespace Daybook.Calendar

/-! ## 1. Years -/

theorem monthLengths_eq (year : Int) :
    monthLengths year
      = [31, if isLeap year then 29 else 28, 31, 30, 31, 30, 31, 31, 30, 31, 30, 31] := rfl

theorem sum_monthLengths (year : Int) :
    (monthLengths year).sum = if isLeap year then 366 else 365 := by
  rw [monthLengths_eq]
  split <;> rfl

/-- A year is as long as its months. -/
theorem yearStart_succ (year : Int) :
    yearStart (year + 1) = yearStart year + (monthLengths year).sum := by
  have hleap : isLeap year = true
      ↔ year % 4 = 0 ∧ ¬ year % 100 = 0 ∨ year % 400 = 0 := by
    simp [isLeap]
  rw [sum_monthLengths]
  unfold yearStart
  split
  · rename_i h
    rw [hleap] at h
    omega
  · rename_i h
    rw [hleap] at h
    omega

/-- In the long run a year has 146097 / 400 days. -/
theorem yearStart_bounds (year : Int) :
    146097 * year - 396 ≤ 400 * yearStart year ∧ 400 * yearStart year ≤ 146097 * year + 699 := by
  unfold yearStart
  omega

theorem yearStart_lt {a b : Int} (h : a < b) : yearStart a < yearStart b := by
  have ha := yearStart_bounds a
  have hb := yearStart_bounds b
  omega

theorem yearStart_le {a b : Int} (h : a ≤ b) : yearStart a ≤ yearStart b := by
  rcases Int.lt_or_eq_of_le h with hlt | rfl
  · exact Int.le_of_lt (yearStart_lt hlt)
  · exact Int.le_refl _

theorem yearOf_spec (n : Int) : yearStart (yearOf n) ≤ n ∧ n < yearStart (yearOf n + 1) := by
  -- the quotient has a name, so that the bounds can be stated for it and its neighbours
  obtain ⟨guess, hguess⟩ : ∃ guess, guess = n * 400 / 146097 := ⟨_, rfl⟩
  have hbefore := yearStart_bounds (guess - 1)
  have hthis := yearStart_bounds guess
  have hnext := yearStart_bounds (guess + 1)
  have hafter := yearStart_bounds (guess + 1 + 1)
  unfold yearOf
  simp only [← hguess]
  split
  · omega
  · split
    · rw [Int.sub_add_cancel]
      omega
    · omega

/-- The year that a day falls in is the only one that starts before its end. -/
theorem yearOf_eq {year n : Int} (hstart : yearStart year ≤ n) (hend : n < yearStart (year + 1)) :
    yearOf n = year := by
  obtain ⟨hstart', hend'⟩ := yearOf_spec n
  rcases Int.lt_trichotomy (yearOf n) year with h | h | h
  · have hle := yearStart_le (show yearOf n + 1 ≤ year by omega)
    omega
  · exact h
  · have hle := yearStart_le (show year + 1 ≤ yearOf n by omega)
    omega

/-! ## 2. Months -/

/-- A day of a year is found in the month that has it. -/
theorem monthDayFrom_eq {lengths : List Nat} {i r : Nat} (hi : i < lengths.length)
    (hr : r < lengths[i]) (month : Nat) :
    monthDayFrom month lengths ((lengths.take i).sum + r) = (month + i, r + 1) := by
  induction lengths generalizing month i with
  | nil => simp at hi
  | cons length lengths ih =>
    cases i with
    | zero =>
      have hr' : r < length := hr
      simp [monthDayFrom, hr']
    | succ i =>
      have hlater : ¬ length + (lengths.take i).sum + r < length := by omega
      have hrest : length + (lengths.take i).sum + r - length = (lengths.take i).sum + r := by
        omega
      have hi' : i < lengths.length := by simpa using hi
      simp only [List.take_succ_cons, List.sum_cons, monthDayFrom, hlater, if_false, hrest]
      rw [ih hi' hr, Nat.add_assoc, Nat.add_comm 1 i]

theorem getElem?_monthLengths (year : Int) {month : Nat} (h : 1 ≤ month ∧ month ≤ 12) :
    (monthLengths year)[month - 1]? = some (daysInMonth year month) := by
  have hrange : (List.range 12)[month - 1]? = some (month - 1) :=
    List.getElem?_range (by omega)
  rw [monthLengths, List.getElem?_map, hrange, Option.map_some, Nat.sub_add_cancel h.1]

theorem daysInMonth_pos (year : Int) {month : Nat} (h : 1 ≤ month ∧ month ≤ 12) :
    1 ≤ daysInMonth year month := by
  have hmem := List.mem_of_getElem? (getElem?_monthLengths year h)
  have hall : ∀ length ∈ monthLengths year, 1 ≤ length := by
    rw [monthLengths_eq]
    cases isLeap year <;> decide
  exact hall _ hmem

/-- The days of a year before a month begins. -/
def daysBefore (year : Int) (month : Nat) : Nat :=
  ((monthLengths year).take (month - 1)).sum

theorem daysBefore_succ (year : Int) {month : Nat} (h : 1 ≤ month ∧ month ≤ 12) :
    daysBefore year (month + 1) = daysBefore year month + daysInMonth year month := by
  obtain ⟨hlt, hlength⟩ := List.getElem?_eq_some_iff.mp (getElem?_monthLengths year h)
  have hsum := List.sum_take_succ (monthLengths year) (month - 1) hlt
  rwa [hlength, Nat.sub_add_cancel h.1] at hsum

theorem daysBefore_mono (year : Int) {a b : Nat} (h : a ≤ b) :
    daysBefore year a ≤ daysBefore year b :=
  List.monotone_sum_take (monthLengths year) (Nat.sub_le_sub_right h 1)

namespace Day

/-! ## 3. Days and their numbers -/

/-- The month has such a day, whatever the year is. -/
def InMonth (d : Day) : Prop :=
  1 ≤ d.day ∧ d.day ≤ daysInMonth d.year d.month

variable {d : Day}

theorem InMonth.month_bounds (h : d.InMonth) : 1 ≤ d.month ∧ d.month ≤ 12 :=
  Day.month_bounds (Nat.ne_zero_of_lt (Nat.le_trans h.1 h.2))

theorem number_eq (d : Day) :
    d.number = yearStart d.year + daysBefore d.year d.month + d.day - 1 := rfl

/-- A day lies in its year. -/
theorem InMonth.number_bounds (h : d.InMonth) :
    yearStart d.year ≤ d.number ∧ d.number < yearStart (d.year + 1) := by
  have hmonth := daysBefore_succ d.year h.month_bounds
  have hyear : daysBefore d.year (d.month + 1) ≤ (monthLengths d.year).sum :=
    daysBefore_mono d.year (show d.month + 1 ≤ 13 by have := h.month_bounds; omega)
  have hsucc := yearStart_succ d.year
  obtain ⟨h₁, h₂⟩ := h
  rw [number_eq]
  omega

theorem ofNumber_number (h : d.InMonth) : ofNumber d.number = d := by
  obtain ⟨hstart, hend⟩ := h.number_bounds
  have hmonth := h.month_bounds
  obtain ⟨hlt, hlength⟩ := List.getElem?_eq_some_iff.mp (getElem?_monthLengths d.year hmonth)
  obtain ⟨h₁, h₂⟩ := h
  have hday : d.day - 1 < (monthLengths d.year)[d.month - 1] := by omega
  have hrest : (d.number - yearStart d.year).toNat
      = ((monthLengths d.year).take (d.month - 1)).sum + (d.day - 1) := by
    rw [number_eq, daysBefore]
    omega
  unfold ofNumber
  simp only [yearOf_eq hstart hend, hrest, monthDayFrom_eq hlt hday, Nat.add_sub_cancel' hmonth.1,
    Nat.sub_add_cancel h₁]

/-- The day after, by the rules of the calendar. -/
def next (d : Day) : Day :=
  if d.day < daysInMonth d.year d.month then ⟨d.year, d.month, d.day + 1⟩
  else if d.month < 12 then ⟨d.year, d.month + 1, 1⟩
  else ⟨d.year + 1, 1, 1⟩

theorem InMonth.next (h : d.InMonth) : d.next.InMonth := by
  have hmonth := h.month_bounds
  unfold Day.next
  split
  next hday => exact ⟨Nat.le_add_left 1 _, hday⟩
  · split
    · have hlater : 1 ≤ d.month + 1 ∧ d.month + 1 ≤ 12 := by omega
      exact ⟨Nat.le_refl 1, daysInMonth_pos d.year hlater⟩
    · have hjanuary : 1 ≤ 1 ∧ 1 ≤ 12 := by decide
      exact ⟨Nat.le_refl 1, daysInMonth_pos (d.year + 1) hjanuary⟩

/-- The day after has the next number. -/
theorem number_next (h : d.InMonth) : d.next.number = d.number + 1 := by
  have hmonth := h.month_bounds
  have hsucc := daysBefore_succ d.year hmonth
  obtain ⟨h₁, h₂⟩ := h
  unfold next
  split
  · simp only [number_eq]
    omega
  · split
    · simp only [number_eq]
      omega
    · -- the days of all twelve months are the days of the year
      have hdecember : d.month = 12 := by omega
      have hyear : daysBefore d.year (d.month + 1) = (monthLengths d.year).sum := by
        rw [hdecember]
        rfl
      have hfirst : daysBefore (d.year + 1) 1 = 0 := rfl
      simp only [number_eq, hfirst, yearStart_succ]
      omega

theorem InMonth.iterate_next (h : d.InMonth) (n : Nat) : (Day.next^[n] d).InMonth := by
  induction n generalizing d with
  | zero => exact h
  | succ n ih =>
    rw [Function.iterate_succ_apply]
    exact ih h.next

theorem number_iterate_next (h : d.InMonth) (n : Nat) :
    (Day.next^[n] d).number = d.number + n := by
  induction n generalizing d with
  | zero => simp
  | succ n ih =>
    rw [Function.iterate_succ_apply, ih h.next, number_next h]
    omega

/-- A later day of the calendar has a greater number. -/
theorem number_lt_of_isBefore {a b : Day} (ha : a.InMonth) (hb : b.InMonth)
    (h : a.isBefore b = true) : a.number < b.number := by
  have hlater := ha.number_bounds
  have hstart := hb.number_bounds
  unfold isBefore at h
  split at h
  · rename_i hyear
    have hle := yearStart_le (Int.add_one_le_of_lt (by simpa using h : a.year < b.year))
    omega
  · rename_i hyear
    have hyear' : a.year = b.year := by simpa using hyear
    split at h
    · have hmonth : a.month < b.month := by simpa using h
      have hle := daysBefore_mono a.year hmonth
      rw [daysBefore_succ a.year ha.month_bounds] at hle
      obtain ⟨_, ha₂⟩ := ha
      obtain ⟨hb₁, _⟩ := hb
      rw [number_eq, number_eq, ← hyear']
      omega
    · rename_i hmonth
      have hmonth' : a.month = b.month := by simpa using hmonth
      have hday : a.day < b.day := by simpa using h
      rw [number_eq, number_eq, ← hyear', ← hmonth']
      omega

/-- The last day of the calendar. -/
def last : Day := ⟨lastYear, 12, 31⟩

theorem isReal_iff_number (h : d.InMonth) :
    d.IsReal ↔ yearStart firstYear ≤ d.number ∧ d.number ≤ last.number := by
  obtain ⟨hstart, hend⟩ := h.number_bounds
  have hlast : last.number + 1 = yearStart (lastYear + 1) := by decide +kernel
  constructor
  · rintro ⟨hfirst, hyear, _⟩
    have h₁ := yearStart_le hfirst
    have h₂ := yearStart_le (show d.year + 1 ≤ lastYear + 1 by omega)
    omega
  · rintro ⟨h₁, h₂⟩
    refine ⟨?_, ?_, h⟩
    · by_contra hlt
      have hle := yearStart_le (show d.year + 1 ≤ firstYear by omega)
      omega
    · by_contra hlt
      have hle := yearStart_le (show lastYear + 1 ≤ d.year by omega)
      omega

end Day

namespace Date

/-! ## 4. Dates -/

theorem inMonth (d : Date) : d.InMonth := d.isReal.2.2

/-- The days of the calendar after a date. -/
def daysLeft (d : Date) : Nat :=
  (Day.last.number - d.number).toNat

theorem number_bounds (d : Date) :
    yearStart firstYear ≤ d.number ∧ d.number ≤ Day.last.number :=
  (Day.isReal_iff_number d.inMonth).mp d.isReal

theorem number_add_daysLeft (d : Date) : d.number + d.daysLeft = Day.last.number := by
  have hbounds := d.number_bounds
  unfold daysLeft
  omega

theorem isReal_later_iff (d : Date) (n : Nat) :
    (Day.next^[n] d.toDay).IsReal ↔ n ≤ d.daysLeft := by
  have hbounds := d.number_bounds
  have hlast := d.number_add_daysLeft
  rw [Day.isReal_iff_number (d.inMonth.iterate_next n), Day.number_iterate_next d.inMonth]
  omega

/-- Adding days is going on from day to day. -/
theorem addDays?_eq (d : Date) (n : Nat) : d.addDays? n = (Day.next^[n] d.toDay).toDate? := by
  unfold addDays? ofNumber?
  rw [← Day.number_iterate_next d.inMonth, Day.ofNumber_number (d.inMonth.iterate_next n)]

end Date

end Daybook.Calendar
