/-
Daybook.Proofs.Calendar.Clock — how far a clock gets that is moved by hand.

A clock that is moved `n` days on is `Date.advance n`. A step that is longer
than what is left of the calendar is passed over, and the days after it still
count (`stepsTaken`). So the clock is always as many days after its start as
the steps taken make together (`foldl_advance`), by the rules of the calendar,
and never goes back. It does not stop at the last day: it gets there only if
the steps taken make exactly what was left (`saturates_iff`), and one step is
in general not the same as two of the same length together.
-/
import Daybook.Proofs.Calendar.Reckoning

namespace Daybook.Calendar

/-! ## 1. Steps that are taken -/

/-- The steps of a row that are taken when so many days are left. -/
def stepsTaken : Nat → List Nat → List Nat
  | _, [] => []
  | left, n :: steps =>
    if n ≤ left then n :: stepsTaken (left - n) steps else stepsTaken left steps

/-- Steps that are not too long together are all taken. -/
theorem stepsTaken_of_sum_le {left : Nat} {steps : List Nat} (h : steps.sum ≤ left) :
    stepsTaken left steps = steps := by
  induction steps generalizing left with
  | nil => rfl
  | cons n steps ih =>
    rw [List.sum_cons] at h
    rw [stepsTaken, if_pos (by omega), ih (by omega)]

namespace Date

/-! ## 2. One step -/

variable {d : Date} {n : Nat}

theorem advance_of_le (h : n ≤ d.daysLeft) : (d.advance n).toDay = Day.next^[n] d.toDay := by
  have hreal := (d.isReal_later_iff n).mpr h
  rw [advance, addDays?_eq, Day.toDate?, dif_pos hreal]
  rfl

theorem advance_of_lt (h : d.daysLeft < n) : d.advance n = d := by
  have hnone : ¬ (Day.next^[n] d.toDay).IsReal := by
    rw [isReal_later_iff]
    omega
  rw [advance, addDays?_eq, Day.toDate?, dif_neg hnone]
  rfl

theorem daysLeft_advance (h : n ≤ d.daysLeft) : (d.advance n).daysLeft = d.daysLeft - n := by
  have hnumber : (d.advance n).number = d.number + n := by
    rw [advance_of_le h, Day.number_iterate_next d.inMonth]
  have hlast := d.number_add_daysLeft
  have hlast' := (d.advance n).number_add_daysLeft
  omega

/-! ## 3. Rows of steps -/

/-- A clock is as many days after its start as the steps taken make together. -/
theorem foldl_advance (d : Date) (steps : List Nat) :
    (steps.foldl advance d).toDay
      = Day.next^[(stepsTaken d.daysLeft steps).sum] d.toDay := by
  induction steps generalizing d with
  | nil => rfl
  | cons n steps ih =>
    rw [List.foldl_cons, ih, stepsTaken]
    split
    · rename_i h
      rw [daysLeft_advance h, advance_of_le h, List.sum_cons, ← Function.iterate_add_apply,
        Nat.add_comm]
    · rename_i h
      rw [advance_of_lt (Nat.lt_of_not_le h)]

theorem number_foldl_advance (d : Date) (steps : List Nat) :
    (steps.foldl advance d).number = d.number + (stepsTaken d.daysLeft steps).sum := by
  rw [foldl_advance, Day.number_iterate_next d.inMonth]

/-- Different numbers of days lead to different days. -/
theorem later_eq_iff (d : Date) {a b : Nat} :
    Day.next^[a] d.toDay = Day.next^[b] d.toDay ↔ a = b := by
  refine ⟨fun h => ?_, fun h => by rw [h]⟩
  have hnumber := congrArg Day.number h
  rw [Day.number_iterate_next d.inMonth, Day.number_iterate_next d.inMonth] at hnumber
  omega

theorem eq_iff {a b : Date} : a = b ↔ a.toDay = b.toDay :=
  ⟨fun h => by rw [h], fun h => by cases a; cases b; simp_all⟩

theorem foldl_advance_eq_iff (d : Date) (steps others : List Nat) :
    steps.foldl advance d = others.foldl advance d
      ↔ (stepsTaken d.daysLeft steps).sum = (stepsTaken d.daysLeft others).sum := by
  rw [eq_iff, foldl_advance, foldl_advance, later_eq_iff]

/-- Two steps are the same as one exactly if there is room for both together or
neither of them goes anywhere. -/
theorem advance_advance_eq_iff (d : Date) (a b : Nat) :
    (d.advance a).advance b = d.advance (a + b)
      ↔ a + b ≤ d.daysLeft ∨ (a = 0 ∨ d.daysLeft < a) ∧ (b = 0 ∨ d.daysLeft < b) := by
  have htwo : (stepsTaken d.daysLeft [a, b]).sum
      = if a ≤ d.daysLeft then if b ≤ d.daysLeft - a then a + b else a
        else if b ≤ d.daysLeft then b else 0 := by
    simp only [stepsTaken]
    split <;> split <;> simp
  have hone : (stepsTaken d.daysLeft [a + b]).sum = if a + b ≤ d.daysLeft then a + b else 0 := by
    simp only [stepsTaken]
    split <;> simp
  refine (d.foldl_advance_eq_iff [a, b] [a + b]).trans ?_
  rw [htwo, hone]
  split <;> split <;> split <;> omega

/-- The clock never goes back. -/
theorem isBefore_foldl_advance (d : Date) (steps : List Nat) :
    (steps.foldl advance d).isBefore d.toDay = false := by
  rw [Bool.eq_false_iff]
  intro hbefore
  have hlt := Day.number_lt_of_isBefore (steps.foldl advance d).inMonth d.inMonth hbefore
  rw [number_foldl_advance] at hlt
  omega

/-- What is left of the calendar can be counted in a signed word of 32 bits. -/
theorem daysLeft_lt (d : Date) : d.daysLeft < 2 ^ 31 := by
  have hbounds := d.number_bounds
  have hlast := d.number_add_daysLeft
  have hrange : Day.last.number < yearStart firstYear + 2 ^ 31 := by decide +kernel
  omega

/-- After any row of steps a clock is as many days after its start as the steps taken
make together, by the rules of the calendar, which ends on 31 December 262142. It is
where it would be if it stopped at that day exactly if there was room for all steps or
those taken used the room up. Two steps are the same as one exactly if there is room for
both or neither goes anywhere, and no step leads back. -/
theorem saturates_iff (start : Date) (steps : List Nat) :
    let left := start.daysLeft
    let moved := (stepsTaken left steps).sum
    let today := steps.foldl advance start
    Day.next^[left] start.toDay = ⟨262142, 12, 31⟩
    ∧ left < 2 ^ 31
    ∧ today.toDay = Day.next^[moved] start.toDay
    ∧ (today.toDay = Day.next^[min steps.sum left] start.toDay ↔ steps.sum ≤ left ∨ moved = left)
    ∧ (∀ a b, (start.advance a).advance b = start.advance (a + b)
      ↔ a + b ≤ left ∨ (a = 0 ∨ left < a) ∧ (b = 0 ∨ left < b))
    ∧ ∀ k, today.isBefore ((steps.take k).foldl advance start).toDay = false := by
  intro left moved today
  have htoday : today.toDay = Day.next^[moved] start.toDay := start.foldl_advance steps
  have hlast : Day.next^[left] start.toDay = Day.last := by
    have hmonth := start.inMonth.iterate_next left
    rw [← Day.ofNumber_number hmonth, Day.number_iterate_next start.inMonth,
      start.number_add_daysLeft, Day.ofNumber_number (by unfold Day.InMonth; decide)]
  refine ⟨hlast, start.daysLeft_lt, htoday, ?_, start.advance_advance_eq_iff, fun k => ?_⟩
  · rw [htoday, later_eq_iff]
    by_cases hroom : steps.sum ≤ left
    · have hall : moved = steps.sum := congrArg List.sum (stepsTaken_of_sum_le hroom)
      omega
    · omega
  · have hcut : today = (steps.drop k).foldl advance ((steps.take k).foldl advance start) := by
      rw [← List.foldl_append, List.take_append_drop]
    rw [hcut]
    exact isBefore_foldl_advance _ _

/-- On the day before the last one, a step of five days leads nowhere, and the last of
six days still counts when they are gone in two steps. -/
theorem last_day_not_reached :
    let start : Date := ⟨⟨262142, 12, 30⟩, by decide⟩
    let today := [5].foldl advance start
    start.daysLeft < [5].sum ∧ today.toDay ≠ ⟨262142, 12, 31⟩
    ∧ today.toDay ≠ Day.next^[min [5].sum start.daysLeft] start.toDay
    ∧ (start.advance 5).advance 1 ≠ start.advance (5 + 1) := by
  decide +kernel

end Date

end Daybook.Calendar
