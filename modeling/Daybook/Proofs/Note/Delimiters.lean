/-
Daybook.Proofs.Note.Delimiters — the delimiters in a day note.

A day note has one delimiter above and one below its front matter, and one
between each two sections. `count_delimiter` counts all the lines of a note that
look like one, and there can be more: a quote, its author and a practice are texts
of the user's, and only their first lines are marked as quoted. What the later
lines are is left to the user (`delimited_iff_contained`).

A text that is made of lines is counted line by line, and each line of it may be
several in the note. So the sections are first taken apart as they are put together
(`linesOf_separated`), and then the lines of each.
-/
import Daybook.Proofs.Note.Drawn
import Daybook.Proofs.Note.Links

namespace Daybook.Note

open Calendar (Day)

/-! ## 1. Lines that go on -/

/-- The lines of a text without the first one. -/
def laterLines (text : String) : List String := (linesOf text).tail

/-- The line is inside of a block quote. -/
def Quoted (line : String) : Prop := "> ".toList <+: line.toList

instance (line : String) : Decidable (Quoted line) :=
  inferInstanceAs (Decidable (_ <+: _))

/-- What stands before a text stands before its first line. -/
theorem linesOf_append (start : String) (h : '\n' ∉ start.toList) (text : String) :
    ∃ first, linesOf text = first :: laterLines text
      ∧ linesOf (start ++ text) = (start ++ first) :: laterLines text := by
  obtain ⟨first, more, hlines⟩ :=
    List.exists_cons_of_ne_nil (List.splitOn_ne_nil '\n' text.toList)
  have htext : linesOf text = .ofList first :: more.map .ofList := by
    rw [linesOf, hlines, List.map_cons]
  refine ⟨.ofList first, by rw [laterLines, htext, List.tail_cons], ?_⟩
  rw [laterLines, htext, List.tail_cons, linesOf, String.toList_append, Text.splitOn_append h,
    hlines, List.modifyHead_cons, List.map_cons, String.ofList_append, String.ofList_toList]

theorem forall_quoted_iff (text : String) :
    (∀ line ∈ linesOf ("> " ++ text), Quoted line) ↔ ∀ line ∈ laterLines text, Quoted line := by
  obtain ⟨first, _, hlines⟩ := linesOf_append "> " (by decide) text
  rw [hlines, List.forall_mem_cons, and_iff_right]
  simp [Quoted]

/-- The first line of a text is no delimiter if it starts with another character. -/
theorem count_linesOf_append {start : String} {c : Char} (hstart : start.toList.head? = some c)
    (hc : c ≠ '-') (h : '\n' ∉ start.toList) (text : String) :
    (linesOf (start ++ text)).count delimiter = (laterLines text).count delimiter := by
  obtain ⟨first, _, hlines⟩ := linesOf_append start h text
  obtain ⟨cs, hcs⟩ := List.head?_eq_some_iff.mp hstart
  have hdiffers : start ++ first ≠ delimiter := by
    intro heq
    have hfirst := congrArg (fun line => line.toList.head?) heq
    simp only [String.toList_append, hcs] at hfirst
    exact hc (Option.some.inj hfirst)
  rw [hlines, List.count_cons_of_ne hdiffers]

theorem not_quoted_delimiter : ¬ Quoted delimiter := by decide

/-! ## 2. Blocks -/

theorem separated_cons {s : Section} {lines : List String} {more : List (Section × List String)}
    (h : more ≠ []) : separated ((s, lines) :: more) = lines ++ separator s ++ separated more := by
  cases more with
  | nil => exact absurd rfl h
  | cons block more => rfl

theorem flatMap_separator (s : Section) : (separator s).flatMap linesOf = separator s := by
  cases s <;> decide

/-- Sections are separated by whole lines. -/
theorem linesOf_separated (blocks : List (Section × List String)) :
    (separated blocks).flatMap linesOf
      = separated (blocks.map fun (s, lines) => (s, lines.flatMap linesOf)) := by
  induction blocks with
  | nil => rfl
  | cons block more ih =>
    obtain ⟨s, lines⟩ := block
    by_cases hmore : more = []
    · rw [hmore]
      rfl
    · rw [separated_cons hmore, List.map_cons, separated_cons (by simpa using hmore),
        List.flatMap_append, List.flatMap_append, flatMap_separator, ih]

theorem count_separator (s : Section) : (separator s).count delimiter = 1 := by
  cases s <;> decide

/-- There is a delimiter between each two sections, besides those in them. -/
theorem count_separated (blocks : List (Section × List String)) :
    (separated blocks).count delimiter
      = (blocks.flatMap fun block => block.2).count delimiter + (blocks.length - 1) := by
  induction blocks with
  | nil => rfl
  | cons block more ih =>
    obtain ⟨s, lines⟩ := block
    by_cases hmore : more = []
    · simp [hmore, separated]
    · have hpos := List.length_pos_iff.mpr hmore
      rw [separated_cons hmore, List.count_append, List.count_append, count_separator, ih,
        List.flatMap_cons, List.count_append, List.length_cons]
      show lines.count delimiter + 1 + _ = lines.count delimiter + _ + _
      omega

/-! ## 3. Sections -/

section Sections

variable (toggles : Toggles) (day : Day) (quote : Quote) (practice : Practice)

/-- The lines of a section that are as the user's texts have them. -/
def laterLinesWith : Section → List String
  | .quote => laterLines quote.text ++ laterLines quote.author
  | .practice => laterLines practice.text
  | .morning | .evening => []

theorem count_linesWith (s : Section) :
    ((linesWith quote practice s).flatMap linesOf).count delimiter
      = (laterLinesWith quote practice s).count delimiter := by
  have hquoted : ∀ text, (linesOf ("> " ++ text)).count delimiter
      = (laterLines text).count delimiter :=
    count_linesOf_append rfl (by decide) (by decide)
  have hauthor : ∀ text, (linesOf ("\\- " ++ text)).count delimiter
      = (laterLines text).count delimiter :=
    count_linesOf_append rfl (by decide) (by decide)
  cases s with
  | quote =>
    simp [linesWith, quoteLines, laterLinesWith, List.count_append, hquoted, hauthor]
  | practice =>
    have hheading : (linesOf practiceHeading).count delimiter = 0 := by decide +kernel
    simp [linesWith, practiceLines, laterLinesWith, List.count_append, hquoted, hheading]
  | morning =>
    show (morningLines.flatMap linesOf).count delimiter = 0
    decide +kernel
  | evening =>
    show (eveningLines.flatMap linesOf).count delimiter = 0
    decide +kernel

theorem flatMap_dayHead : (dayHead day).flatMap linesOf = dayHead day := by
  have hlink : linesOf (monthLink day) = [monthLink day] := by
    refine linesOf_of_not_mem ?_
    simp [monthLink, break_not_mem_monthId]
  have hfront : frontMatterLines.flatMap linesOf = frontMatterLines := by decide +kernel
  have hempty : linesOf "" = [""] := by decide +kernel
  rw [dayHead, List.flatMap_append, hfront, List.flatMap_cons, hlink, List.flatMap_singleton,
    hempty]
  rfl

theorem count_dayHead : (dayHead day).count delimiter = 2 := by
  have hlink : monthLink day ≠ delimiter := by
    intro h
    have hhead := congrArg (fun line => line.toList.head?) h
    simp [monthLink, delimiter] at hhead
  have hfront : frontMatterLines.count delimiter = 2 := by decide
  rw [dayHead, List.count_append, hfront, List.count_cons_of_ne hlink]
  rfl

theorem linesOf_composed : linesOf (composed toggles day quote practice)
    = dayHead day ++ separated (toggles.enabled.map fun s =>
      (s, (linesWith quote practice s).flatMap linesOf)) := by
  rw [composed, linesOf_unlines (by simp [dayHead]), List.flatMap_append, flatMap_dayHead,
    linesOf_separated, blocksWith, List.map_map]
  rfl

/-- Every line of a day note that looks like a delimiter is one, or is a later line of
one of the user's texts. -/
theorem count_delimiter : (linesOf (composed toggles day quote practice)).count delimiter
    = 2 + (toggles.enabled.length - 1)
      + (toggles.enabled.flatMap (laterLinesWith quote practice)).count delimiter := by
  have hlater : List.count delimiter
        (toggles.enabled.flatMap fun s => (linesWith quote practice s).flatMap linesOf)
      = (toggles.enabled.flatMap (laterLinesWith quote practice)).count delimiter := by
    rw [List.count_flatMap, List.count_flatMap]
    exact congrArg (fun counts => (toggles.enabled.map counts).sum)
      (funext (count_linesWith quote practice))
  rw [linesOf_composed, List.count_append, count_dayHead, count_separated, List.length_map,
    List.flatMap_map, hlater]
  omega

/-- Behind a quote that is not the last section there is a blank line above the
delimiter. -/
theorem linesOf_composed_quote (hquote : toggles.quote = true)
    (hmore : 1 < toggles.enabled.length) :
    ∃ more, linesOf (composed toggles day quote practice)
      = dayHead day ++ (quoteLines quote).flatMap linesOf ++ ["", delimiter] ++ more := by
  have henabled : toggles.enabled = .quote :: [.morning, .evening, .practice].filter toggles.get :=
    List.filter_cons_of_pos hquote
  rw [henabled, List.length_cons] at hmore
  have hne : [.morning, .evening, .practice].filter toggles.get ≠ [] :=
    List.length_pos_iff.mp (by omega)
  refine ⟨separated (([.morning, .evening, .practice].filter toggles.get).map fun s =>
    (s, (linesWith quote practice s).flatMap linesOf)), ?_⟩
  rw [linesOf_composed, henabled, List.map_cons, separated_cons (by simpa using hne),
    List.append_assoc, List.append_assoc, List.append_assoc]
  rfl

/-- The delimiters of a day note are where they are to be, and all lines of the quote
and of the practice are in block quotes. -/
structure Delimited (text : String) : Prop where
  count : (linesOf text).count delimiter = 2 + (toggles.enabled.length - 1)
  quoteMarked : toggles.quote = true → ∀ line ∈ linesOf ("> " ++ quote.text), Quoted line
  practiceMarked : toggles.practice = true → ∀ line ∈ linesOf ("> " ++ practice.text), Quoted line

/-- What the later lines of the user's texts have to be for that. -/
structure Contained : Prop where
  quoteMarked : toggles.quote = true → ∀ line ∈ laterLines quote.text, Quoted line
  authorPlain : toggles.quote = true → delimiter ∉ laterLines quote.author
  practiceMarked : toggles.practice = true → ∀ line ∈ laterLines practice.text, Quoted line

theorem mem_later_iff (line : String) :
    line ∈ toggles.enabled.flatMap (laterLinesWith quote practice)
      ↔ toggles.quote = true ∧ (line ∈ laterLines quote.text ∨ line ∈ laterLines quote.author)
        ∨ toggles.practice = true ∧ line ∈ laterLines practice.text := by
  have henabled : ∀ s, s ∈ toggles.enabled ↔ toggles.get s = true := fun s => by
    cases s <;> simp [Toggles.enabled, Section.all]
  rw [List.mem_flatMap]
  constructor
  · rintro ⟨s, hs, hline⟩
    have hon := (henabled s).mp hs
    cases s with
    | quote => exact .inl ⟨hon, List.mem_append.mp hline⟩
    | practice => exact .inr ⟨hon, hline⟩
    | morning | evening => cases hline
  · rintro (⟨hon, hline⟩ | ⟨hon, hline⟩)
    · exact ⟨.quote, (henabled .quote).mpr hon, List.mem_append.mpr hline⟩
    · exact ⟨.practice, (henabled .practice).mpr hon, hline⟩

theorem delimited_iff : Delimited toggles quote practice (composed toggles day quote practice)
    ↔ Contained toggles quote practice := by
  have hcount : (linesOf (composed toggles day quote practice)).count delimiter
        = 2 + (toggles.enabled.length - 1)
      ↔ delimiter ∉ toggles.enabled.flatMap (laterLinesWith quote practice) := by
    rw [count_delimiter, ← List.count_eq_zero]
    omega
  rw [mem_later_iff] at hcount
  constructor
  · rintro ⟨hdelimiters, hquote, hpractice⟩
    refine ⟨fun hon => (forall_quoted_iff _).mp (hquote hon), fun hon hmem => ?_,
      fun hon => (forall_quoted_iff _).mp (hpractice hon)⟩
    exact hcount.mp hdelimiters (.inl ⟨hon, .inr hmem⟩)
  · rintro ⟨hquote, hauthor, hpractice⟩
    refine ⟨hcount.mpr ?_, fun hon => (forall_quoted_iff _).mpr (hquote hon),
      fun hon => (forall_quoted_iff _).mpr (hpractice hon)⟩
    rintro (⟨hon, hmem | hmem⟩ | ⟨hon, hmem⟩)
    · exact not_quoted_delimiter (hquote hon _ hmem)
    · exact hauthor hon hmem
    · exact not_quoted_delimiter (hpractice hon _ hmem)

end Sections

/-! ## 4. Notes -/

theorem laterLines_of_not_mem {text : String} (h : '\n' ∉ text.toList) : laterLines text = [] := by
  rw [laterLines, linesOf_of_not_mem h, List.tail_cons]

/-- Texts on one line each are all right. -/
theorem contained_of_oneLined {library : Library} (h : library.OneLined) (toggles : Toggles)
    {quote : Quote} (hquote : quote ∈ library.quotes) {practice : Practice}
    (hpractice : practice ∈ library.practices) : Contained toggles quote practice where
  quoteMarked _ := by simp [laterLines_of_not_mem (h.quotes quote hquote).1]
  authorPlain _ := by simp [laterLines_of_not_mem (h.quotes quote hquote).2]
  practiceMarked _ := by simp [laterLines_of_not_mem (h.practices practice hpractice)]

/-- From a full library each day note has the delimiters that it is to have, exactly if
the quote and the practice that are drawn stay in their block quotes and the author
does not bring a delimiter. All of that is so if no text of the library has a line
break in it. Above the delimiter behind the quote there is a blank line in any case. -/
theorem delimited_iff_contained {library : Library} (h : library.Full) (toggles : Toggles)
    (day : Day) (selector : Selector) :
    ∃ quote ∈ library.quotes, ∃ practice ∈ library.practices, ∃ middle last,
      DrawnIf toggles.quote library.randomQuote selector quote middle
      ∧ DrawnIf toggles.practice library.randomPractice middle practice last
      ∧ (composeDay toggles day library).run.run selector
        = (.ok (composed toggles day quote practice), last)
      ∧ linesOf (composed toggles day quote practice)
        = dayHead day ++ separated (toggles.enabled.map fun s =>
          (s, (linesWith quote practice s).flatMap linesOf))
      ∧ (toggles.quote = true → 1 < toggles.enabled.length →
        ∃ more, linesOf (composed toggles day quote practice)
          = dayHead day ++ (quoteLines quote).flatMap linesOf ++ ["", delimiter] ++ more)
      ∧ (linesOf (composed toggles day quote practice)).count delimiter
        = 2 + (toggles.enabled.length - 1)
          + (toggles.enabled.flatMap (laterLinesWith quote practice)).count delimiter
      ∧ (Delimited toggles quote practice (composed toggles day quote practice)
        ↔ Contained toggles quote practice)
      ∧ (library.OneLined → Contained toggles quote practice) := by
  obtain ⟨quote, middle, hquote, hdrawn⟩ := exists_drawnIf toggles.quote
    (Library.pickFrom_succeeds .quotes h.quotes) (Library.pickFrom_ensures _ _) selector
  obtain ⟨practice, last, hpractice, hdrawn'⟩ := exists_drawnIf toggles.practice
    (Library.pickFrom_succeeds .practices h.practices) (Library.pickFrom_ensures _ _) middle
  exact ⟨quote, hquote, practice, hpractice, middle, last, hdrawn, hdrawn',
    composeDay_draws hdrawn hdrawn' day, linesOf_composed toggles day quote practice,
    linesOf_composed_quote toggles day quote practice, count_delimiter toggles day quote practice,
    delimited_iff toggles day quote practice,
    fun hlined => contained_of_oneLined hlined toggles hquote hpractice⟩

/-- A quote sign of a text's own, and dashes on its first line, do no harm. -/
theorem delimited_iff_contained_all_on :
    let library : Library :=
      ⟨[⟨"Begin.", "Seneca"⟩, ⟨"> Endure.", "---"⟩], [⟨"---"⟩, ⟨"Walk."⟩]⟩
    library.Full ∧ ∃ text,
      ((composeDay .allOn ⟨2024, 3, 7⟩ library).run.run (.seeded 7)).1 = .ok text
        ∧ (linesOf text).count delimiter = 5 := by
  intro library
  have hfull : library.Full := ⟨by decide, by decide⟩
  have hlined : library.OneLined := ⟨by decide +kernel, by decide +kernel⟩
  obtain ⟨quote, _, practice, _, _, _, _, _, hrun, _, _, _, hiff, hcontained⟩ :=
    delimited_iff_contained hfull .allOn ⟨2024, 3, 7⟩ (.seeded 7)
  exact ⟨hfull, _, congrArg Prod.fst hrun, (hiff.mpr (hcontained hlined)).count⟩

/-- A quote on three lines brings a delimiter of its own and a line behind it that is
not quoted. -/
theorem delimiter_in_quote :
    let quote : Quote := ⟨"One\n---\nTwo", "Seneca"⟩
    let library : Library := ⟨[⟨"Begin.", "Seneca"⟩, quote], [⟨"Breathe."⟩]⟩
    let toggles : Toggles := ⟨true, true, false, false⟩
    let text := unlines ["---", "tags: daily", "---", "Month: [[March2024]]", "", "> One", "---",
      "Two", "\\- Seneca", "", "---", "# Morning Notes", "- Today I will ..."]
    Library.ofLists library.quotes library.practices = .ok library
      ∧ ((composeDay toggles ⟨2024, 3, 7⟩ library).run.run (.seeded 1)).1 = .ok text
      ∧ toggles.enabled.length = 2 ∧ (linesOf text).count delimiter = 4
      ∧ "Two" ∈ linesOf ("> " ++ quote.text) ∧ ¬ Quoted "Two" :=
  ⟨by decide, by decide +kernel, by decide, by decide +kernel, by decide +kernel, by decide⟩

end Daybook.Note
