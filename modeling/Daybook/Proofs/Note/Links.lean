/-
Daybook.Proofs.Note.Links — the links that stand in notes.

A link takes a line of its own: a label, and an identifier in brackets. Who
reads a note finds its links by going through the lines (`linkTargets`), and
the lines of a text that was made of lines are those that it was made of
(`linesOf_unlines`).

A month note has one link, to its year (`linkTargets_monthText`). In a day note
the link to the month comes before all others; it is the only one if no quote
and no practice runs over several lines (`linkTargets_dayHead`).
-/
import Daybook.Proofs.Calendar.Names
import Daybook.Proofs.Note.Composed
import Mathlib.Data.List.Basic

namespace Daybook

open Calendar (Day)

namespace Note

/-! ## Lines -/

/-- The lines of a text. -/
def linesOf (text : String) : List String :=
  (text.toList.splitOn '\n').map .ofList

theorem linesOf_of_not_mem {text : String} (h : '\n' ∉ text.toList) : linesOf text = [text] := by
  unfold linesOf
  rw [List.splitOn_eq_singleton h]
  simp

theorem linesOf_break (a b : String) : linesOf (a ++ "\n" ++ b) = linesOf a ++ linesOf b := by
  unfold linesOf
  have htext : (a ++ "\n" ++ b).toList = a.toList ++ '\n' :: b.toList := by simp
  rw [htext, List.splitOn_append_cons_self, List.map_append]

theorem unlines_cons {line : String} {more : List String} (h : more ≠ []) :
    unlines (line :: more) = line ++ "\n" ++ unlines more :=
  String.intercalate_cons_of_ne_nil h

theorem linesOf_unlines {lines : List String} (h : lines ≠ []) :
    linesOf (unlines lines) = lines.flatMap linesOf := by
  induction lines with
  | nil => exact absurd rfl h
  | cons line more ih =>
    by_cases hmore : more = []
    · simp [hmore, unlines]
    · rw [unlines_cons hmore, linesOf_break, ih hmore, List.flatMap_cons]

/-! ## Links -/

/-- What a line links to, if it is a link with this label and nothing else. -/
def linkTarget? (label line : String) : Option String :=
  (line.toList.dropPrefix? (label ++ ": [[").toList).bind fun rest =>
    (rest.dropSuffix? "]]".toList).map .ofList

/-- What the lines of a text link to with a label. -/
def linkTargets (label text : String) : List String :=
  (linesOf text).filterMap (linkTarget? label)

theorem linkTarget?_eq_some_iff {label line id : String} :
    linkTarget? label line = some id ↔ line = label ++ ": [[" ++ id ++ "]]" := by
  simp only [linkTarget?, Option.bind_eq_some_iff, List.dropPrefix?_eq_some_iff,
    Option.map_eq_some_iff, List.dropSuffix?_eq_some_iff, beq_iff_eq]
  constructor
  · rintro ⟨_, ⟨start, hline, rfl⟩, target, ⟨stop, rfl, rfl⟩, rfl⟩
    apply String.toList_inj.mp
    simpa using hline
  · rintro rfl
    exact ⟨id.toList ++ "]]".toList, ⟨_, by simp, rfl⟩, id.toList, ⟨_, rfl, rfl⟩, by simp⟩

/-- The line is one line, and its first character is not the one that the label
has. -/
def Plain (label line : String) : Prop :=
  '\n' ∉ line.toList ∧ line.toList.head? ≠ label.toList.head?

instance (label line : String) : Decidable (Plain label line) :=
  inferInstanceAs (Decidable (_ ∧ _))

theorem linkTargets_of_plain {label line : String} (hlabel : label.toList ≠ [])
    (h : Plain label line) : linkTargets label line = [] := by
  obtain ⟨hbreak, hhead⟩ := h
  unfold linkTargets
  rw [linesOf_of_not_mem hbreak, List.filterMap_eq_nil_iff]
  intro line' hline
  rw [List.mem_singleton.mp hline, Option.eq_none_iff_forall_ne_some]
  intro id htarget
  obtain ⟨c, cs, hc⟩ := List.exists_cons_of_ne_nil hlabel
  rw [linkTarget?_eq_some_iff] at htarget
  refine hhead ?_
  simp [htarget, hc]

/-- A link on one line links to what stands in it. -/
theorem linkTargets_link {label id : String} (hlabel : '\n' ∉ label.toList)
    (hid : '\n' ∉ id.toList) : linkTargets label (label ++ ": [[" ++ id ++ "]]") = [id] := by
  unfold linkTargets
  rw [linesOf_of_not_mem (by simp [hlabel, hid]), List.filterMap_cons,
    linkTarget?_eq_some_iff.mpr rfl, List.filterMap_nil]

theorem linkTargets_unlines {label : String} {lines : List String} (h : lines ≠ []) :
    linkTargets label (unlines lines) = lines.flatMap (linkTargets label) := by
  unfold linkTargets
  rw [linesOf_unlines h, List.filterMap_flatMap]

/-! ## The notes of months and days -/

theorem break_not_mem_yearId (day : Day) : '\n' ∉ day.yearId.toList := by
  intro h
  exact absurd (Day.isNumeral_yearId h) (by decide)

theorem break_not_mem_monthId (day : Day) : '\n' ∉ day.monthId.toList := by
  intro h
  simp only [Day.monthId, String.toList_append, List.mem_append] at h
  rcases h with h | h
  · have hname : ∀ name ∈ Calendar.monthNames, '\n' ∉ name.toList := by decide
    exact hname _ day.monthName_mem h
  · exact absurd (Text.isNumeral_padded h) (by decide)

/-- A month note links to its year and to nothing else. -/
theorem linkTargets_monthText (day : Day) : linkTargets "Year" (monthText day) = [day.yearId] := by
  have hlink : linkTargets "Year" (yearLink day) = [day.yearId] :=
    linkTargets_link (by decide) (break_not_mem_yearId day)
  have hfront : linkTargets "Year" frontMatter = [] := by decide +kernel
  have hend : ["", "# The result of a stoic month"].flatMap (linkTargets "Year") = [] := by
    decide +kernel
  rw [monthText, linkTargets_unlines (by simp), List.flatMap_cons, List.flatMap_cons, hlink,
    hfront, hend]
  rfl

/-- A text with the head of a day note links to the month first, and then to
what its other lines link to. -/
theorem linkTargets_dayHead (day : Day) (more : List String) :
    linkTargets "Month" (unlines (dayHead day ++ more))
      = day.monthId :: more.flatMap (linkTargets "Month") := by
  have hlink : linkTargets "Month" (monthLink day) = [day.monthId] :=
    linkTargets_link (by decide) (break_not_mem_monthId day)
  have hfront : frontMatterLines.flatMap (linkTargets "Month") = [] := by decide +kernel
  have hempty : linkTargets "Month" "" = [] := by decide +kernel
  rw [linkTargets_unlines (by simp [dayHead]), List.flatMap_append, dayHead, List.flatMap_append,
    List.flatMap_cons, List.flatMap_cons, List.flatMap_nil, hlink, hfront, hempty]
  rfl

/-- A link that is quoted is none. -/
example : linkTargets "Month" "Month: [[May2024]]\n> Month: [[June2024]]" = ["May2024"] := by
  decide +kernel

theorem flatMap_linkTargets_of_plain {label : String} (hlabel : label.toList ≠ [])
    {lines : List String} (h : ∀ line ∈ lines, Plain label line) :
    lines.flatMap (linkTargets label) = [] :=
  List.flatMap_eq_nil_iff.mpr fun line hline => linkTargets_of_plain hlabel (h line hline)

end Note

/-! ## Texts from a library -/

/-- No quote and no practice runs over several lines. -/
structure Library.OneLined (library : Library) : Prop where
  quotes : ∀ quote ∈ library.quotes, '\n' ∉ quote.text.toList ∧ '\n' ∉ quote.author.toList
  practices : ∀ practice ∈ library.practices, '\n' ∉ practice.text.toList

namespace Note

variable {library : Library}

theorem plain_quoteLines (h : library.OneLined) {quote : Quote} (hquote : quote ∈ library.quotes) :
    ∀ line ∈ quoteLines quote, Plain "Month" line := by
  obtain ⟨htext, hauthor⟩ := h.quotes quote hquote
  simp [quoteLines, Plain, htext, hauthor]

theorem plain_practiceLines (h : library.OneLined) {practice : Practice}
    (hpractice : practice ∈ library.practices) :
    ∀ line ∈ practiceLines practice, Plain "Month" line := by
  have htext := h.practices practice hpractice
  simp [practiceLines, practiceHeading, Plain, htext]

/-- No line of a section is a link to a month. -/
theorem plain_linesFor (h : library.OneLined) {s : Section} {lines : List String}
    (hlines : LinesFor library s lines) : ∀ line ∈ lines, Plain "Month" line := by
  cases s with
  | quote =>
    obtain ⟨quote, hquote, rfl⟩ := hlines
    exact plain_quoteLines h hquote
  | practice =>
    obtain ⟨practice, hpractice, rfl⟩ := hlines
    exact plain_practiceLines h hpractice
  | morning =>
    obtain rfl : lines = morningLines := hlines
    decide +kernel
  | evening =>
    obtain rfl : lines = eveningLines := hlines
    decide +kernel

theorem plain_separated (h : library.OneLined) {blocks : List (Section × List String)}
    (hblocks : ∀ block ∈ blocks, LinesFor library block.1 block.2) :
    ∀ line ∈ separated blocks, Plain "Month" line := by
  intro line hline
  rcases mem_separated hline with rfl | rfl | ⟨block, hblock, hline⟩
  · decide +kernel
  · decide +kernel
  · exact plain_linesFor h (hblocks block hblock) line hline

end Note

end Daybook
