/-
Daybook.Proofs.Note.ReadBack — what was put into a day note can be read off it.

Where every text of the library has one line, a note has the lines that it was made
of, and each section has two of them. The first line of a section tells which one it
is: all headings start with `#`, and a quote starts with `>`, whatever its text
imitates. Then the separator says nothing new, since what has to stand behind a
section is known by then. So `contents?` reads a note from the top without ever
looking ahead, and undoes the composition (`contents?_composed`). Two notes that are
the same text say the same.

The lines are those of `laidOut`, which says in one piece what `separated` puts
together section by section.
-/
import Daybook.Proofs.Note.Delimiters

namespace Daybook.Note

open Calendar (Day)

/-! ## 1. Sections as they stand in a note -/

/-- A section with what was drawn for it. -/
inductive Part where
  | quote (quote : Quote)
  | morning
  | evening
  | practice (practice : Practice)

namespace Part

/-- The part that a section becomes with this quote and this practice. -/
def ofSection (quote : Quote) (practice : Practice) : Section → Part
  | .quote => .quote quote
  | .morning => .morning
  | .evening => .evening
  | .practice => .practice practice

def kind : Part → Section
  | quote _ => .quote
  | morning => .morning
  | evening => .evening
  | practice _ => .practice

def lines : Part → List String
  | quote drawn => quoteLines drawn
  | morning => morningLines
  | evening => eveningLines
  | practice drawn => practiceLines drawn

/-- The text of a line behind what it starts with. -/
def after? (start line : String) : Option String :=
  (line.toList.dropPrefix? start.toList).map .ofList

/-- The part that has these two lines. -/
def read? (first second : String) : Option Part :=
  if first = practiceHeading then (after? "> " second).map fun text => practice ⟨text⟩
  else if [first, second] = morningLines then some morning
  else if [first, second] = eveningLines then some evening
  else do return quote ⟨← after? "> " first, ← after? "\\- " second⟩

theorem after?_append (start text : String) : after? start (start ++ text) = some text := by
  have hdrop : (start ++ text).toList.dropPrefix? start.toList = some text.toList := by
    rw [List.dropPrefix?_eq_some_iff]
    exact ⟨start.toList, by simp, by simp⟩
  rw [after?, hdrop, Option.map_some, String.ofList_toList]

/-- A quote does not start as a heading does. -/
theorem quoted_ne_heading {heading : String} (h : heading.toList.head? = some '#') (text : String) :
    "> " ++ text ≠ heading := by
  rintro rfl
  simp at h

/-- A part has two lines, and is read off them. -/
theorem read?_lines (part : Part) :
    ∃ first second, part.lines = [first, second] ∧ read? first second = some part := by
  cases part with
  | quote drawn =>
    have hpractice : "> " ++ drawn.text ≠ practiceHeading := quoted_ne_heading (by decide) _
    have hmorning : "> " ++ drawn.text ≠ "# Morning Notes" := quoted_ne_heading (by decide) _
    have hevening : "> " ++ drawn.text ≠ "# Evening Notes" := quoted_ne_heading (by decide) _
    refine ⟨"> " ++ drawn.text, "\\- " ++ drawn.author, rfl, ?_⟩
    simp [read?, hpractice, morningLines, hmorning, eveningLines, hevening, after?_append]
  | morning =>
    exact ⟨"# Morning Notes", "- Today I will ...", rfl, rfl⟩
  | evening =>
    exact ⟨"# Evening Notes", "- This day was ...", rfl, rfl⟩
  | practice drawn =>
    refine ⟨practiceHeading, "> " ++ drawn.text, rfl, ?_⟩
    rw [read?, if_pos rfl, after?_append, Option.map_some]

end Part

/-! ## 2. Reading -/

/-- The parts that lines are read as: two lines each, and what has to stand behind them if
anything does. -/
def readParts? (lines : List String) : Option (List Part) :=
  match lines with
  | [] => some []
  | [_] => none
  | first :: second :: rest =>
    match Part.read? first second with
    | none => none
    | some part =>
      if rest = [] then some [part]
      else match _between : rest.dropPrefix? (separator part.kind) with
        | none => none
        | some more => (readParts? more).map (part :: ·)
termination_by lines.length
decreasing_by
  obtain ⟨start, hrest, _⟩ := List.dropPrefix?_eq_some_iff.mp _between
  simp only [hrest, List.length_cons, List.length_append]
  omega

def blocksOf (parts : List Part) : List (Section × List String) :=
  parts.map fun part => (part.kind, part.lines)

theorem readParts?_separated (parts : List Part) :
    readParts? (separated (blocksOf parts)) = some parts := by
  induction parts with
  | nil => rw [blocksOf, List.map_nil, separated, readParts?]
  | cons part more ih =>
    obtain ⟨first, second, hlines, hread⟩ := part.read?_lines
    by_cases hmore : more = []
    · rw [hmore]
      show readParts? part.lines = _
      rw [hlines, readParts?, hread]
      simp
    · have hseparated : separated (blocksOf (part :: more))
          = first :: second :: (separator part.kind ++ separated (blocksOf more)) := by
        rw [blocksOf, List.map_cons, separated_cons (by simpa using hmore), hlines,
          List.append_assoc]
        rfl
      have hne : separator part.kind ++ separated (blocksOf more) ≠ [] := by
        cases part <;> simp [separator, Part.kind, endsInParagraph]
      have hdrop : (separator part.kind ++ separated (blocksOf more)).dropPrefix?
          (separator part.kind) = some (separated (blocksOf more)) := by
        rw [List.dropPrefix?_eq_some_iff]
        exact ⟨_, rfl, by simp⟩
      rw [hseparated, readParts?, hread]
      simp only [if_neg hne]
      split
      · next hnone => cases hdrop.symm.trans hnone
      · next rest hsome =>
        obtain rfl := Option.some.inj (hdrop.symm.trans hsome)
        rw [ih, Option.map_some]

/-- What a day note says. -/
structure Contents where
  month : String
  toggles : Toggles
  quote? : Option Quote
  practice? : Option Practice
deriving DecidableEq

/-- What a note with these parts says. -/
def Contents.ofParts (month : String) (parts : List Part) : Contents where
  month := month
  toggles :=
    let sections := parts.map Part.kind
    ⟨sections.contains .quote, sections.contains .morning, sections.contains .evening,
      sections.contains .practice⟩
  quote? := parts.findSome? fun
    | .quote drawn => some drawn
    | _ => none
  practice? := parts.findSome? fun
    | .practice drawn => some drawn
    | _ => none

/-- Reads a day note: its front matter, the link to its month, an empty line and its
parts. -/
def contents? (text : String) : Option Contents :=
  match linesOf text with
  | top :: tags :: bottom :: link :: blank :: rest =>
    if [top, tags, bottom] = frontMatterLines ∧ blank = "" then do
      return .ofParts (← linkTarget? "Month" link) (← readParts? rest)
    else none
  | _ => none

section Composed

variable (toggles : Toggles) (day : Day) (quote : Quote) (practice : Practice)

/-- The parts of a note with the sections that are turned on. -/
def partsWith : List Part :=
  toggles.enabled.map (.ofSection quote practice)

theorem blocksOf_partsWith :
    blocksOf (partsWith toggles quote practice) = blocksWith toggles quote practice := by
  rw [blocksOf, partsWith, List.map_map, blocksWith]
  refine List.map_congr_left fun s _ => ?_
  cases s <;> rfl

theorem ofParts_partsWith (month : String) :
    Contents.ofParts month (partsWith toggles quote practice)
      = ⟨month, toggles, if toggles.quote then some quote else none,
        if toggles.practice then some practice else none⟩ := by
  rcases toggles with ⟨_ | _, _ | _, _ | _, _ | _⟩ <;> rfl

/-- The texts that stand in a note have one line each. -/
structure Lined : Prop where
  text : toggles.quote = true → '\n' ∉ quote.text.toList
  author : toggles.quote = true → '\n' ∉ quote.author.toList
  practice : toggles.practice = true → '\n' ∉ practice.text.toList

/-- The sections that are turned on, with a delimiter between any two. Above the one
behind the quote there is an empty line. -/
def laidOut : List String :=
  [delimiter].intercalate (toggles.enabled.map fun s =>
    linesWith quote practice s ++ if s = .quote ∧ 1 < toggles.enabled.length then [""] else [])

theorem separated_blocksWith :
    separated (blocksWith toggles quote practice) = laidOut toggles quote practice := by
  rcases toggles with ⟨_ | _, _ | _, _ | _, _ | _⟩ <;> rfl

variable {toggles day quote practice}

theorem flatMap_linesWith (h : Lined toggles quote practice) {s : Section}
    (hon : toggles.get s = true) :
    (linesWith quote practice s).flatMap linesOf = linesWith quote practice s := by
  cases s with
  | quote =>
    have htext : linesOf ("> " ++ quote.text) = ["> " ++ quote.text] :=
      linesOf_of_not_mem (by simp [h.text hon])
    have hauthor : linesOf ("\\- " ++ quote.author) = ["\\- " ++ quote.author] :=
      linesOf_of_not_mem (by simp [h.author hon])
    simp [linesWith, quoteLines, htext, hauthor]
  | practice =>
    have htext : linesOf ("> " ++ practice.text) = ["> " ++ practice.text] :=
      linesOf_of_not_mem (by simp [h.practice hon])
    have hheading : linesOf practiceHeading = [practiceHeading] := by decide +kernel
    simp [linesWith, practiceLines, htext, hheading]
  | morning =>
    show morningLines.flatMap linesOf = morningLines
    decide +kernel
  | evening =>
    show eveningLines.flatMap linesOf = eveningLines
    decide +kernel

/-- The lines of a note are those that it was made of. -/
theorem linesOf_composed_lined (h : Lined toggles quote practice) (day : Day) :
    linesOf (composed toggles day quote practice)
      = dayHead day ++ laidOut toggles quote practice := by
  rw [linesOf_composed, ← separated_blocksWith, blocksWith]
  congr 2
  refine List.map_congr_left fun s hs => ?_
  rw [flatMap_linesWith h (List.mem_filter.mp hs).2]

/-- What was put into a note is read off it. -/
theorem contents?_composed (h : Lined toggles quote practice) (day : Day) :
    contents? (composed toggles day quote practice)
      = some ⟨day.monthId, toggles, if toggles.quote then some quote else none,
        if toggles.practice then some practice else none⟩ := by
  have hlines : linesOf (composed toggles day quote practice)
      = delimiter :: "tags: daily" :: delimiter :: monthLink day :: ""
        :: laidOut toggles quote practice := linesOf_composed_lined h day
  have hlink : linkTarget? "Month" (monthLink day) = some day.monthId :=
    linkTarget?_eq_some_iff.mpr rfl
  have hparts : readParts? (laidOut toggles quote practice)
      = some (partsWith toggles quote practice) := by
    rw [← separated_blocksWith, ← blocksOf_partsWith, readParts?_separated]
  simp only [contents?, hlines, hlink, hparts, frontMatterLines]
  rw [← ofParts_partsWith]
  rfl

theorem lined_of_drawnIf {library : Library} (h : library.OneLined)
    {selector middle last : Selector}
    (hquote : DrawnIf toggles.quote library.randomQuote selector quote middle)
    (hpractice : DrawnIf toggles.practice library.randomPractice middle practice last) :
    Lined toggles quote practice := by
  have hquoted : toggles.quote = true → quote ∈ library.quotes := fun hon => by
    rw [hon] at hquote
    exact Library.pickFrom_ensures _ _ _ _ _ hquote
  have hpracticed : toggles.practice = true → practice ∈ library.practices := fun hon => by
    rw [hon] at hpractice
    exact Library.pickFrom_ensures _ _ _ _ _ hpractice
  exact ⟨fun hon => (h.quotes quote (hquoted hon)).1, fun hon => (h.quotes quote (hquoted hon)).2,
    fun hon => h.practices practice (hpracticed hon)⟩

end Composed

/-- A note from a full library in which every text has one line. It has the lines of its
head and of its sections as they are laid out, and nothing else; and what it says can be
read off it: the month, which sections are turned on, and what was drawn for them. So
another call gives the same text only if it agrees on all of this. -/
theorem composed_read_back {library : Library} (hfull : library.Full) (hlined : library.OneLined)
    (toggles : Toggles) (day : Day) (selector : Selector) :
    ∃ quote ∈ library.quotes, ∃ practice ∈ library.practices, ∃ middle last text,
      DrawnIf toggles.quote library.randomQuote selector quote middle
      ∧ DrawnIf toggles.practice library.randomPractice middle practice last
      ∧ (composeDay toggles day library).run.run selector = (.ok text, last)
      ∧ text = unlines (frontMatterLines ++ [monthLink day, ""] ++ laidOut toggles quote practice)
      ∧ linesOf text
        = frontMatterLines ++ [monthLink day, ""] ++ laidOut toggles quote practice
      ∧ contents? text
        = some ⟨day.monthId, toggles, if toggles.quote then some quote else none,
          if toggles.practice then some practice else none⟩
      ∧ ∀ {library' : Library}, library'.OneLined → ∀ toggles' day' selector' quote' middle'
        practice' last',
        DrawnIf toggles'.quote library'.randomQuote selector' quote' middle' →
        DrawnIf toggles'.practice library'.randomPractice middle' practice' last' →
        ((composeDay toggles' day' library').run.run selector').1 = .ok text →
        toggles' = toggles ∧ day'.monthId = day.monthId ∧ (toggles.quote = true → quote' = quote)
          ∧ (toggles.practice = true → practice' = practice) := by
  obtain ⟨quote, middle, hquote, hdrawn⟩ := exists_drawnIf toggles.quote
    (Library.pickFrom_succeeds .quotes hfull.quotes) (Library.pickFrom_ensures _ _) selector
  obtain ⟨practice, last, hpractice, hdrawn'⟩ := exists_drawnIf toggles.practice
    (Library.pickFrom_succeeds .practices hfull.practices) (Library.pickFrom_ensures _ _) middle
  have hone := lined_of_drawnIf hlined hdrawn hdrawn'
  refine ⟨quote, hquote, practice, hpractice, middle, last, _, hdrawn, hdrawn',
    composeDay_draws hdrawn hdrawn' day, ?_, linesOf_composed_lined hone day,
    contents?_composed hone day, ?_⟩
  · rw [composed, separated_blocksWith]
    rfl
  · intro library' hlined' toggles' day' selector' quote' middle' practice' last' hdrawn₁ hdrawn₂
      hcompose
    have htext : composed toggles' day' quote' practice' = composed toggles day quote practice := by
      rw [composeDay_draws hdrawn₁ hdrawn₂ day'] at hcompose
      exact Except.ok.inj hcompose
    have hread := contents?_composed (lined_of_drawnIf hlined' hdrawn₁ hdrawn₂) day'
    rw [htext, contents?_composed hone day] at hread
    simp only [Option.some.injEq, Contents.mk.injEq] at hread
    obtain ⟨hmonth, rfl, hquotes, hpractices⟩ := hread
    refine ⟨rfl, hmonth.symm, fun hon => ?_, fun hon => ?_⟩
    · simpa [hon] using hquotes.symm
    · simpa [hon] using hpractices.symm

/-- Texts that look like a heading or a delimiter, or are empty, are read back too. -/
theorem composed_read_back_imitations :
    let library : Library :=
      ⟨[⟨"# Morning Notes", "---"⟩, ⟨"", ""⟩], [⟨"---"⟩, ⟨"> "⟩]⟩
    library.Full ∧ library.OneLined
      ∧ ∃ quote ∈ library.quotes, ∃ practice ∈ library.practices, ∃ text,
        ((composeDay .allOn ⟨2024, 3, 7⟩ library).run.run (.seeded 7)).1 = .ok text
        ∧ contents? text = some ⟨"March2024", .allOn, some quote, some practice⟩ := by
  intro library
  have hfull : library.Full := ⟨by decide, by decide⟩
  have hlined : library.OneLined := ⟨by decide +kernel, by decide +kernel⟩
  obtain ⟨quote, hquote, practice, hpractice, _, _, text, _, _, hrun, _, _, hread, _⟩ :=
    composed_read_back hfull hlined .allOn ⟨2024, 3, 7⟩ (.seeded 7)
  exact ⟨hfull, hlined, quote, hquote, practice, hpractice, text, congrArg Prod.fst hrun, hread⟩

end Daybook.Note
