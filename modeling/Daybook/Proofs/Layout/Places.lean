/-
Daybook.Proofs.Layout.Places — no two notes lie in one place.

Below the root of a layout a note has two or three more components, and they
are names made of its identifiers (`components_file`). The last one tells all:
two identifiers are the same exactly when they are of one period and their days
agree in it (`noteId_eq_iff`). Hence

* `file_same_iff` — that is also when two notes have the same file, whatever
  the root is;
* `not_same_of_ancestor` — the folder of a note, and every folder above it,
  is no note of any period, so making folders never brings a note about.

The root is any text at all: it may be empty, end in slashes or hold dots.
-/
import Daybook.Layout
import Daybook.Proofs.Calendar.Names
import Daybook.Proofs.Path.Components

namespace Daybook

open Calendar (Day)

/-- The two days lie in one span of the period. -/
def Period.Agree : Period → Day → Day → Prop
  | year, a, b => a.year = b.year
  | month, a, b => a.year = b.year ∧ a.month = b.month
  | day, a, b => a = b

namespace Layout

/-! ## The names in a note's path -/

theorem isName_of_isNumeral {text : String} (hne : text.toList ≠ [])
    (h : ∀ c ∈ text.toList, Text.isNumeral c = true) : Path.IsName text where
  ne_nil := hne
  ne_dot he := absurd (h '.' (by simp [he])) (by decide)
  ne_up he := absurd (h '.' (by simp [he])) (by decide)
  no_slash hm := absurd (h '/' hm) (by decide)

theorem isName_yearId (d : Day) : Path.IsName d.yearId :=
  isName_of_isNumeral (Text.padded_ne_nil 0 d.year) fun _ => Day.isNumeral_yearId

theorem isName_monthId (d : Day) : Path.IsName d.monthId := by
  obtain ⟨c, cs, hcs, hc⟩ := d.head_monthId
  obtain ⟨ds, l, hds, hl⟩ := d.getLast_monthId
  refine ⟨by simp [hcs], fun he => ?_, fun he => ?_, d.slash_not_mem_monthId⟩
  -- a text of dots has no digit at its end
  all_goals
    rw [he] at hds
    have hmem : l ∈ ds ++ [l] := by simp
    rw [← hds] at hmem
    have hdot : l = '.' := by simpa using hmem
    rw [hdot] at hl
    exact absurd hl (by decide)

/-- No character of an identifier is a slash. -/
theorem slash_not_mem_noteId (period : Period) (d : Day) : '/' ∉ (noteId period d).toList := by
  intro h
  cases period with
  | year => exact absurd (Day.isNumeral_yearId h) (by decide)
  | month => exact d.slash_not_mem_monthId h
  | day => exact absurd (Day.isNumeral_dayId h) (by decide)

theorem isName_fileName (period : Period) (d : Day) :
    Path.IsName (noteId period d ++ ".md") where
  ne_nil := by simp
  ne_dot he := by
    have hlen := congrArg List.length he
    simp at hlen
  ne_up he := by
    have hlen := congrArg List.length he
    simp at hlen
  no_slash h := by
    simp only [String.toList_append, List.mem_append] at h
    rcases h with h | h
    · exact slash_not_mem_noteId period d h
    · simp at h

/-! ## Components -/

/-- The names of the folders between the root and a note. -/
def folderNames : Period → Day → List String
  | .year, d => [d.yearId]
  | .month, d | .day, d => [d.yearId, d.monthId]

theorem components_folder (layout : Layout) (period : Period) (d : Day) :
    (layout.folder period d).components
      = layout.root.components ++ (folderNames period d).map .name := by
  cases period with
  | year => simp [folder, folderNames, Path.components_join _ (isName_yearId d)]
  | month | day =>
    simp [folder, folderNames, Path.components_join _ (isName_yearId d),
      Path.components_join _ (isName_monthId d)]

theorem components_file (layout : Layout) (period : Period) (d : Day) :
    (layout.locate period d).file.components
      = layout.root.components
        ++ (folderNames period d ++ [noteId period d ++ ".md"]).map .name := by
  rw [locate, Path.components_join _ (isName_fileName period d), components_folder]
  simp

/-- Whatever the root is, a note lies below it. -/
theorem file_isBelow_root (layout : Layout) (period : Period) (d : Day) :
    (layout.locate period d).file.IsBelow layout.root := by
  rw [Path.isBelow_iff, components_file]
  refine ⟨List.prefix_append _ _, fun he => ?_, fun hnil => ?_⟩
  · have hmore := List.self_eq_append_right.mp he
    simp at hmore
  · rw [hnil]
    cases period <;> simp [folderNames]

/-- The folder of a note is its parent. -/
theorem parent?_file (layout : Layout) (period : Period) (d : Day) :
    ∃ parent, (layout.locate period d).file.parent? = some parent
      ∧ parent.same (layout.folder period d) = true := by
  obtain ⟨parent, hparent, hsame⟩ :=
    Path.parent?_join (layout.folder period d) (isName_fileName period d)
  exact ⟨parent, hparent, Path.same_iff.mpr hsame⟩

/-- A folder of notes is never written as nothing. -/
theorem folder_not_empty (layout : Layout) (period : Period) (d : Day) :
    (layout.folder period d).isEmpty = false := by
  cases hempty : (layout.folder period d).isEmpty with
  | false => rfl
  | true =>
    have htext : layout.folder period d = ⟨""⟩ :=
      congrArg Path.mk (String.isEmpty_iff.mp hempty)
    have hcomp := layout.components_folder period d
    rw [htext, show (Path.mk "").components = [] from rfl] at hcomp
    cases period <;> simp [folderNames] at hcomp

/-! ## Identifiers -/

/-- A month's identifier has a letter, a day's has none. -/
theorem monthId_ne_dayId (a b : Day) : a.monthId ≠ b.dayId :=
  a.monthId_ne_of_isNumeral fun _ => Day.isNumeral_dayId

theorem noteId_congr {p : Period} {a b : Day} (h : p.Agree a b) : noteId p a = noteId p b := by
  cases p with
  | year =>
    have hyear : a.year = b.year := h
    simp only [noteId, Day.yearId, hyear]
  | month =>
    obtain ⟨hyear, hmonth⟩ := h
    simp only [noteId, Day.monthId, Day.monthName, hyear, hmonth]
  | day =>
    have hday : a = b := h
    rw [hday]

/-- Where a note is kept does not depend on the day in its period. -/
theorem locate_congr (layout : Layout) {p : Period} {a b : Day} (h : p.Agree a b) :
    layout.locate p a = layout.locate p b := by
  have hfolder : layout.folder p a = layout.folder p b := by
    cases p with
    | year =>
      have hyear : a.year = b.year := h
      simp only [folder, Day.yearId, hyear]
    | month =>
      obtain ⟨hyear, hmonth⟩ := h
      simp only [folder, Day.yearId, Day.monthId, Day.monthName, hyear, hmonth]
    | day =>
      have hday : a = b := h
      rw [hday]
  rw [locate, locate, noteId_congr h, hfolder]

/-- Two notes have one identifier exactly when they are notes of one period and
their days agree in it. -/
theorem noteId_eq_iff {p q : Period} {a b : Day} (ha : a.IsReal) (hb : b.IsReal) :
    noteId p a = noteId q b ↔ p = q ∧ p.Agree a b := by
  constructor
  · intro h
    cases p <;> cases q
    case year.year => exact ⟨rfl, Day.yearId_inj h⟩
    case month.month => exact ⟨rfl, Day.monthId_inj ha hb h⟩
    case day.day => exact ⟨rfl, Day.dayId_inj ha hb h⟩
    case year.month => exact absurd h.symm (b.monthId_ne_of_isNumeral fun _ => Day.isNumeral_yearId)
    case month.year => exact absurd h (a.monthId_ne_of_isNumeral fun _ => Day.isNumeral_yearId)
    case year.day => exact absurd h (Day.yearId_ne_dayId ha b)
    case day.year => exact absurd h.symm (Day.yearId_ne_dayId hb a)
    case month.day => exact absurd h (monthId_ne_dayId a b)
    case day.month => exact absurd h.symm (monthId_ne_dayId b a)
  · rintro ⟨rfl, hagree⟩
    exact noteId_congr hagree

/-! ## Notes apart -/

/-- Two names that end in `.md` are one if they are so without it. -/
theorem fileName_inj {a b : String} (h : a ++ ".md" = b ++ ".md") : a = b := by
  have htext := congrArg String.toList h
  simp only [String.toList_append] at htext
  exact String.toList_inj.mp (List.append_cancel_right htext)

/-- A month's identifier ends in a digit, the file of a note does not. -/
theorem monthId_ne_fileName (a : Day) (id : String) : a.monthId ≠ id ++ ".md" := by
  intro h
  obtain ⟨ds, l, hds, hl⟩ := a.getLast_monthId
  have htext : ds ++ [l] = id.toList ++ ".m".toList ++ ['d'] := by
    rw [← hds, h, String.toList_append, List.append_assoc]
    rfl
  obtain ⟨_, hd⟩ := List.append_inj' htext rfl
  rw [List.cons.inj hd |>.1] at hl
  exact absurd hl (by decide)

/-- Two notes have the same file exactly when they are notes of one period
and their days agree in it. -/
theorem file_same_iff (layout : Layout) {p q : Period} {a b : Day} (ha : a.IsReal)
    (hb : b.IsReal) :
    (layout.locate p a).file.same (layout.locate q b).file = true ↔ p = q ∧ p.Agree a b := by
  constructor
  · intro hsame
    have hnames : folderNames p a ++ [noteId p a ++ ".md"]
        = folderNames q b ++ [noteId q b ++ ".md"] := by
      rw [Path.same_iff, components_file, components_file, List.append_cancel_left_eq] at hsame
      exact (List.map_inj_right fun x y h => Component.name.inj h).mp hsame
    -- the last of the names tells the notes apart
    have hlast := (List.append_inj' hnames rfl).2
    exact (noteId_eq_iff ha hb).mp (fileName_inj (List.cons.inj hlast).1)
  · rintro ⟨rfl, hagree⟩
    rw [layout.locate_congr hagree]
    exact Path.same_refl _

/-- Neither the folder of a note nor a folder above it is a note. -/
theorem not_same_of_ancestor (layout : Layout) {p q : Period} {a b : Day} {above : Path}
    (h : above ∈ (layout.folder p a).ancestors) :
    above.same (layout.locate q b).file = false := by
  rw [← Bool.not_eq_true]
  intro hsame
  have hpre := Path.components_ancestor h
  rw [Path.same_iff.mp hsame, components_file, components_folder,
    List.prefix_append_right_inj, List.prefix_map_iff_of_injective
      (fun x y hxy => Component.name.inj hxy)] at hpre
  -- only the note of a year is as short as the folder of a month
  cases p <;> cases q <;> simp only [folderNames] at hpre
  case month.year | day.year =>
    simp at hpre
    exact monthId_ne_fileName a _ hpre.2.symm
  all_goals
    have hlen := hpre.length_le
    simp at hlen

end Layout

end Daybook
