/-
Daybook.Text.Cut — cutting a text at a marking character.

A marker has no width of its own in the answers: `cut?` gives what stands
before the first marker and what stands after it, `pieces` what stands
between all of them. Both recurse on the characters, so that a statement
about a longer text follows from the one about its tail.
-/
namespace Daybook.Text

/-- The text before the first `mark` and the text after it; `none` when
there is no `mark`. -/
def cut? (mark : Char) : List Char → Option (List Char × List Char)
  | [] => none
  | c :: rest =>
    if c = mark then some ([], rest)
    else (cut? mark rest).map fun (before, after) => (c :: before, after)

/-- The texts between the marks, in order. There is one more of them than
there are marks, so the list is never empty. -/
def pieces (mark : Char) : List Char → List (List Char)
  | [] => [[]]
  | c :: rest =>
    if c = mark then [] :: pieces mark rest
    else match pieces mark rest with
      | [] => [[c]]
      | first :: others => (c :: first) :: others

section Cut

variable {mark : Char} {cs before after : List Char}

theorem not_mem_of_cut?_eq_none (h : cut? mark cs = none) : mark ∉ cs := by
  induction cs with
  | nil => exact List.not_mem_nil
  | cons c rest ih =>
    unfold cut? at h
    split at h
    · cases h
    · rename_i hc
      exact List.not_mem_cons_of_ne_of_not_mem (Ne.symm hc) (ih (Option.map_eq_none_iff.mp h))

/-- The mark at which a text is cut is the first one. -/
theorem eq_of_cut? (h : cut? mark cs = some (before, after)) :
    cs = before ++ mark :: after ∧ mark ∉ before := by
  induction cs generalizing before with
  | nil => simp [cut?] at h
  | cons c rest ih =>
    unfold cut? at h
    split at h
    · rename_i hc
      cases h
      exact ⟨by rw [hc]; rfl, List.not_mem_nil⟩
    · rename_i hc
      obtain ⟨⟨b, a⟩, hb, heq⟩ := Option.map_eq_some_iff.mp h
      cases heq
      obtain ⟨hrest, hmem⟩ := ih hb
      exact ⟨by rw [hrest]; rfl, List.not_mem_cons_of_ne_of_not_mem (Ne.symm hc) hmem⟩

theorem length_of_cut? (h : cut? mark cs = some (before, after)) :
    cs.length = before.length + 1 + after.length := by
  rw [(eq_of_cut? h).1, List.length_append, List.length_cons]
  omega

/-- Where there was no mark before, the first one cuts. -/
theorem cut?_append_mark (h : mark ∉ before) (after : List Char) :
    cut? mark (before ++ mark :: after) = some (before, after) := by
  induction before with
  | nil => simp [cut?]
  | cons c before ih =>
    simp only [List.mem_cons, not_or] at h
    rw [List.cons_append, cut?, if_neg (Ne.symm h.1), ih h.2]
    rfl

theorem pieces_of_not_mem (h : mark ∉ cs) : pieces mark cs = [cs] := by
  induction cs with
  | nil => rfl
  | cons c cs ih =>
    obtain ⟨hc, hcs⟩ := not_or.mp (fun he => h (List.mem_cons.mpr he))
    rw [pieces, if_neg (Ne.symm hc), ih hcs]

theorem pieces_ne_nil (cs : List Char) : pieces mark cs ≠ [] := by
  cases cs with
  | nil => simp [pieces]
  | cons c cs =>
    unfold pieces
    split
    · simp
    · split <;> simp

/-- A mark cuts a text in two. -/
theorem pieces_append (as bs : List Char) :
    pieces mark (as ++ mark :: bs) = pieces mark as ++ pieces mark bs := by
  induction as with
  | nil => simp [pieces]
  | cons c as ih =>
    by_cases hc : c = mark
    · simp [pieces, hc, ih]
    · have hne : pieces mark as ≠ [] := pieces_ne_nil as
      obtain ⟨first, others, hpieces⟩ := List.exists_cons_of_ne_nil hne
      simp [pieces, hc, ih, hpieces]

/-- A text without a mark goes to the first of the texts between the marks. -/
theorem splitOn_append (h : mark ∉ before) (cs : List Char) :
    (before ++ cs).splitOn mark = (cs.splitOn mark).modifyHead (before ++ ·) := by
  induction before with
  | nil => exact (congrFun List.modifyHead_id _).symm
  | cons c before ih =>
    simp only [List.mem_cons, not_or] at h
    have hne : (c == mark) = false := beq_eq_false_iff_ne.mpr (Ne.symm h.1)
    rw [List.cons_append, List.splitOn_cons_eq_if_modifyHead, hne, ih h.2,
      List.modifyHead_modifyHead]
    rfl

end Cut

end Daybook.Text
