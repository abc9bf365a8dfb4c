/-
Daybook.Proofs.Path.Joined — what any text becomes when it is joined below a path.

Between its slashes a text has names and steps up (`steps`); empty texts and
dots are nothing. They are the same wherever the text stands, and all that a
path has beside them is a root or a dot at its start (`components_eq_steps`).
`joinBelow` leaves out the slashes that would make a text start at the root,
and no step is lost by that. So whatever the text is,

* `components_joinBelow` — the components of the base stay, and behind them
  come the steps of the text, after a dot if the base is empty;
* `isAbsolute_joinBelow` — the path starts at the root exactly if the base does.
-/
import Daybook.Proofs.Path.Components

namespace Daybook.Path

/-! ## 1. Steps -/

/-- The names and the steps up in a text. -/
def steps (text : List Char) : List Component :=
  (Text.pieces '/' text).filterMap component?

/-- The segments of a text are its pieces between slashes, whatever stands before. -/
theorem map_fst_segmentsFrom (cs : List Char) : ∀ done current : List Char,
    (segmentsFrom done current cs).map (·.1) = (Text.pieces '/' cs).modifyHead (current ++ ·) := by
  induction cs with
  | nil => intro done current; simp [segmentsFrom, Text.pieces]
  | cons c cs ih =>
    intro done current
    have hne : Text.pieces '/' cs ≠ [] := Text.pieces_ne_nil cs
    obtain ⟨first, more, hpieces⟩ := List.exists_cons_of_ne_nil hne
    by_cases hc : c = '/'
    · simp [segmentsFrom, Text.pieces, hc, ih, hpieces]
    · simp [segmentsFrom, Text.pieces, hc, ih, hpieces]

theorem map_fst_stopsOf (segments : List (List Char × List Char)) :
    (stopsOf segments).map (·.1) = (segments.map (·.1)).filterMap component? := by
  simp [stopsOf, List.map_filterMap, List.filterMap_map, Function.comp_def]

theorem map_fst_stopsOf_segmentsFrom (done cs : List Char) :
    (stopsOf (segmentsFrom done [] cs)).map (·.1) = steps cs := by
  rw [map_fst_stopsOf, map_fst_segmentsFrom]
  cases h : Text.pieces '/' cs <;> simp [steps, h]

/-- A slash at the start of a text is no step. -/
theorem steps_dropWhile (cs : List Char) : steps (cs.dropWhile (· == '/')) = steps cs := by
  induction cs with
  | nil => rfl
  | cons c cs ih =>
    by_cases hc : c = '/'
    · subst hc
      rw [List.dropWhile_cons_of_pos (by simp), ih]
      simp [steps, Text.pieces, component?]
    · rw [List.dropWhile_cons_of_neg (by simpa using hc)]

/-- Beside its steps a path has at most a root or a dot, at its start. -/
theorem components_eq_steps (p : Path) :
    ∃ lead, Component.up ∉ lead ∧ p.components = lead ++ steps p.text.toList := by
  by_cases hp : p.text.toList = []
  · refine ⟨[], List.not_mem_nil, ?_⟩
    rw [components, stops_eq, hp]
    rfl
  · obtain ⟨⟨seg, stop⟩, more, hsegs, hstops⟩ := stops_eq_append hp
    have hsteps : steps p.text.toList
        = (stopsOf [(seg, stop)]).map (·.1) ++ (stopsOf more).map (·.1) := by
      rw [← map_fst_stopsOf_segmentsFrom [], hsegs, ← List.map_append, ← stopsOf_append]
      rfl
    rw [components, hstops, hsteps, List.map_append]
    by_cases hroot : seg = []
    · subst hroot
      exact ⟨[.root], by simp, rfl⟩
    · by_cases hdot : seg = ['.']
      · subst hdot
        exact ⟨[.here], by simp, rfl⟩
      · have hfirst : firstStop (seg, stop) = stopsOf [(seg, stop)] := by
          rw [firstStop] <;> simp_all
        exact ⟨[], List.not_mem_nil, by rw [hfirst]; rfl⟩

theorem up_mem_components_iff (p : Path) :
    Component.up ∈ p.components ↔ Component.up ∈ steps p.text.toList := by
  obtain ⟨lead, hlead, hcomp⟩ := p.components_eq_steps
  rw [hcomp, List.mem_append, or_iff_right hlead]

/-! ## 2. Joining below a path -/

theorem head?_dropWhile_slash (cs : List Char) :
    (cs.dropWhile (· == '/')).head? ≠ some '/' := by
  intro h
  have hnot := List.head?_dropWhile_not (· == '/') cs
  simp [h] at hnot

theorem components_joinBelow (base : Path) (part : String) :
    ∃ lead, Component.up ∉ lead
      ∧ (base.joinBelow part).components = base.components ++ (lead ++ steps part.toList) := by
  have hrelative := head?_dropWhile_slash part.toList
  unfold joinBelow
  rw [← steps_dropWhile]
  generalize part.toList.dropWhile (· == '/') = cs at hrelative ⊢
  by_cases hbase : base.text.toList = []
  · have hnone : base.components = [] := by rw [components, stops_eq, hbase]; rfl
    obtain ⟨lead, hlead, hcomp⟩ := (Path.mk (.ofList cs)).components_eq_steps
    refine ⟨lead, hlead, ?_⟩
    rw [join_of_empty hbase, hcomp, hnone, String.toList_ofList, List.nil_append]
  · have hpart : (String.ofList cs).toList.head? ≠ some '/' := by rwa [String.toList_ofList]
    obtain ⟨done, _, hstops⟩ := stops_join_of_relative hbase hpart
    refine ⟨[], List.not_mem_nil, ?_⟩
    rw [components, hstops, List.map_append, map_fst_stopsOf_segmentsFrom, String.toList_ofList]
    rfl

theorem isAbsolute_join (base : Path) {part : String} (h : part.toList.head? ≠ some '/') :
    (base.join part).isAbsolute = base.isAbsolute := by
  by_cases hbase : base.text.toList = []
  · rw [join_of_empty hbase, isAbsolute, isAbsolute, hbase]
    simpa using h
  · obtain ⟨c, cs, hcs⟩ := List.exists_cons_of_ne_nil hbase
    unfold join
    rw [if_neg h]
    split <;> simp [isAbsolute, hcs]

theorem isAbsolute_joinBelow (base : Path) (part : String) :
    (base.joinBelow part).isAbsolute = base.isAbsolute :=
  base.isAbsolute_join (by rw [String.toList_ofList]; exact head?_dropWhile_slash _)

end Daybook.Path
