/-
Daybook.Proofs.Path.Components — components of joined paths and of ancestors.

`same` compares paths by their components, so every fact about where a note
lies comes down to lists of components. Two results are all that is needed
from the texts of paths:

* `stops_join` — joining a plain name adds exactly one component;
* `components_ancestor` — the components of an ancestor are the first
  components of the path.

Both rest on the cut lemma `segmentsFrom_append`: a slash cuts the row of
segments in two, and what is read after it does not depend on what stands
before, except through the stops.
-/
import Daybook.Path
import Mathlib.Data.List.TakeWhile

namespace Daybook.Path

/-! ## Segments -/

theorem segmentsFrom_append (pre rest : List Char) : ∀ done current : List Char,
    segmentsFrom done current (pre ++ '/' :: rest)
      = segmentsFrom done current pre ++ segmentsFrom (done ++ pre ++ ['/']) [] rest := by
  induction pre with
  | nil => intro done current; simp [segmentsFrom]
  | cons c pre ih =>
    intro done current
    by_cases hc : c = '/'
    · simp [segmentsFrom, hc, ih]
    · simp [segmentsFrom, hc, ih]

/-- A text without a slash is one segment. -/
theorem segmentsFrom_plain {cs : List Char} (h : '/' ∉ cs) : ∀ done current : List Char,
    segmentsFrom done current cs = [(current ++ cs, done ++ cs)] := by
  induction cs with
  | nil => intro done current; simp [segmentsFrom]
  | cons c cs ih =>
    intro done current
    have hc : ¬ c = '/' := fun he => h (by simp [he])
    have hcs : '/' ∉ cs := fun hm => h (List.mem_cons_of_mem _ hm)
    simp [segmentsFrom, hc, ih hcs]

theorem segmentsFrom_ne_nil (cs : List Char) : ∀ done current : List Char,
    segmentsFrom done current cs ≠ [] := by
  induction cs with
  | nil => intro done current; simp [segmentsFrom]
  | cons c cs ih =>
    intro done current
    unfold segmentsFrom
    split
    · simp
    · exact ih _ _

/-- Only the empty text is one empty segment. -/
theorem segmentsFrom_single {cs done current seg stop : List Char}
    (h : segmentsFrom done current cs = [(seg, stop)]) : seg = current ++ cs := by
  induction cs generalizing done current with
  | nil =>
    simp only [segmentsFrom, List.cons.injEq, Prod.mk.injEq, and_true] at h
    simp [h.1]
  | cons c cs ih =>
    unfold segmentsFrom at h
    split at h
    · simp only [List.cons.injEq] at h
      exact absurd h.2 (segmentsFrom_ne_nil _ _ _)
    · simp [ih h]

/-- The text up to a stop has the segments up to it. -/
theorem segmentsFrom_upTo {cs : List Char} : ∀ {done current seg stop : List Char}
    {before after : List (List Char × List Char)},
    segmentsFrom done current cs = before ++ (seg, stop) :: after →
    ∃ pre, stop = done ++ pre ∧ segmentsFrom done current pre = before ++ [(seg, stop)] := by
  induction cs with
  | nil =>
    intro done current seg stop before after h
    cases before with
    | nil =>
      simp only [segmentsFrom, List.nil_append, List.cons.injEq, Prod.mk.injEq] at h
      exact ⟨[], by simp [h.1.2], by simp [segmentsFrom, h.1.1, h.1.2]⟩
    | cons b before => simp [segmentsFrom] at h
  | cons c cs ih =>
    intro done current seg stop before after h
    unfold segmentsFrom at h
    split at h
    · rename_i hc
      cases before with
      | nil =>
        simp only [List.nil_append, List.cons.injEq, Prod.mk.injEq] at h
        exact ⟨[], by simp [h.1.2], by simp [segmentsFrom, h.1.1, h.1.2]⟩
      | cons b before =>
        simp only [List.cons_append, List.cons.injEq] at h
        obtain ⟨pre, hstop, hpre⟩ := ih h.2
        exact ⟨c :: pre, by simp [hstop], by simp [segmentsFrom, hc, ← h.1, ← hpre]⟩
    · rename_i hc
      obtain ⟨pre, hstop, hpre⟩ := ih h
      exact ⟨c :: pre, by simp [hstop], by simp [segmentsFrom, hc, hpre]⟩

/-! ## Stops -/

/-- The components in the segments of a whole path, each with its stop. The
first segment is special: nothing there is the root, and a dot counts. -/
def stopsFrom : List (List Char × List Char) → List (Component × List Char)
  | [] => []
  | ([], _) :: [] => []
  | ([], _) :: more => (.root, ['/']) :: stopsOf more
  | (['.'], stop) :: more => (.here, stop) :: stopsOf more
  | segments => stopsOf segments

theorem stops_eq (p : Path) : p.stops = stopsFrom (segmentsFrom [] [] p.text.toList) := by
  unfold stops stopsFrom
  rfl

theorem stopsOf_append (as bs : List (List Char × List Char)) :
    stopsOf (as ++ bs) = stopsOf as ++ stopsOf bs := by
  simp [stopsOf]

/-- The first segment decides how a row begins, so more segments after a row
only add their components. -/
theorem stopsFrom_append {segments more : List (List Char × List Char)} (hne : segments ≠ [])
    (hone : ∀ stop, segments ≠ [([], stop)]) :
    stopsFrom (segments ++ more) = stopsFrom segments ++ stopsOf more := by
  obtain _ | ⟨⟨seg, stop⟩, rest⟩ := segments
  · exact absurd rfl hne
  · by_cases hnil : seg = []
    · subst hnil
      cases rest with
      | nil => exact absurd rfl (hone stop)
      | cons r rest => simp [stopsFrom, ← stopsOf_append]
    · by_cases hdot : seg = ['.']
      · subst hdot
        simp [stopsFrom, stopsOf_append]
      · rw [List.cons_append, stopsFrom, stopsFrom, ← List.cons_append, stopsOf_append]
        all_goals simp_all

/-- A slash after a path that is not empty starts a row of segments that only
adds components. -/
theorem stops_append {p q : Path} {rest : List Char} (hp : p.text.toList ≠ [])
    (hq : q.text.toList = p.text.toList ++ '/' :: rest) :
    q.stops = p.stops ++ stopsOf (segmentsFrom (p.text.toList ++ ['/']) [] rest) := by
  rw [stops_eq, stops_eq, hq, segmentsFrom_append, List.nil_append]
  apply stopsFrom_append (segmentsFrom_ne_nil _ _ _)
  intro stop hstop
  have hseg := segmentsFrom_single hstop
  exact hp (by simpa using hseg.symm)

/-! ## Joining a plain name -/

/-- A text that is one component wherever it is joined to a path. -/
structure IsName (part : String) : Prop where
  ne_nil : part.toList ≠ []
  ne_dot : part.toList ≠ ['.']
  ne_up : part.toList ≠ ['.', '.']
  no_slash : '/' ∉ part.toList

/-- A name does not start at the root. -/
theorem IsName.relative {part : String} (h : IsName part) : part.toList.head? ≠ some '/' :=
  fun he => h.no_slash (List.mem_of_mem_head? he)

theorem component?_name {part : String} (h : IsName part) :
    component? part.toList = some (.name part) := by
  simp [component?, h.ne_nil, h.ne_dot, h.ne_up]

theorem stopsOf_name {part : String} (h : IsName part) (done : List Char) :
    stopsOf (segmentsFrom done [] part.toList) = [(.name part, done ++ part.toList)] := by
  rw [segmentsFrom_plain h.no_slash]
  simp [stopsOf, component?_name h]

theorem stops_name {part : String} (h : IsName part) :
    (Path.mk part).stops = [(.name part, part.toList)] := by
  rw [stops_eq, segmentsFrom_plain h.no_slash, List.nil_append, stopsFrom]
  · simp [stopsOf, component?_name h]
  all_goals simp [h.ne_nil, h.ne_dot]

/-- A slash at the end of a path adds no component. -/
theorem stops_slash {p q : Path} (hp : p.text.toList ≠ [])
    (hq : q.text.toList = p.text.toList ++ ['/']) : q.stops = p.stops := by
  rw [stops_append hp hq]
  simp [segmentsFrom, stopsOf, component?]

/-- A part that does not start at the root adds what it holds to the components of a
path that is not empty. -/
theorem stops_join_of_relative {base : Path} {part : String} (hbase : base.text.toList ≠ [])
    (hpart : part.toList.head? ≠ some '/') :
    ∃ done, (base.join part).text.toList = done ++ part.toList
      ∧ (base.join part).stops = base.stops ++ stopsOf (segmentsFrom done [] part.toList) := by
  unfold join
  rw [if_neg hpart]
  split
  · rename_i hend
    obtain ⟨pre, c, hb⟩ := (List.eq_nil_or_concat base.text.toList).resolve_left hbase
    have hc : c = '/' := by simpa [hb] using hend
    subst hc
    refine ⟨pre ++ ['/'], by simp [hb], ?_⟩
    cases pre with
    | nil =>
      have hroot : base.stops = [(.root, ['/'])] := by rw [stops_eq, hb]; rfl
      have htext : (Path.mk (base.text ++ part)).text.toList = '/' :: part.toList := by
        simp [hb]
      obtain ⟨first, more, hsegs⟩ :=
        List.exists_cons_of_ne_nil (segmentsFrom_ne_nil part.toList ['/'] [])
      rw [hroot, stops_eq, htext]
      simp only [segmentsFrom, if_pos, List.nil_append, hsegs]
      rfl
    | cons d pre =>
      -- a base that ends in a slash has the components of the base without it
      have hne : (Path.mk (.ofList (d :: pre))).text.toList ≠ [] := by simp
      have hb' : base.text.toList = (Path.mk (.ofList (d :: pre))).text.toList ++ ['/'] := by
        simpa using hb
      have hj : (Path.mk (base.text ++ part)).text.toList
          = (Path.mk (.ofList (d :: pre))).text.toList ++ '/' :: part.toList := by
        simp [hb]
      rw [stops_slash hne hb', stops_append hne hj, String.toList_ofList]
  · have hj : (Path.mk (base.text ++ "/" ++ part)).text.toList
        = base.text.toList ++ '/' :: part.toList := by
      simp
    exact ⟨base.text.toList ++ ['/'], by simp, stops_append hbase hj⟩

/-- Below the empty path stands the part alone. -/
theorem join_of_empty {base : Path} (hbase : base.text.toList = []) (part : String) :
    base.join part = ⟨part⟩ := by
  have htext : base.text ++ part = part := by
    apply String.toList_inj.mp
    simp [hbase]
  unfold join
  split
  · rfl
  · rw [if_pos (by simp [hbase]), htext]

/-- Joining a plain name adds that name and nothing else. -/
theorem stops_join (base : Path) {part : String} (h : IsName part) :
    (base.join part).stops
      = base.stops ++ [(.name part, (base.join part).text.toList)] := by
  by_cases hbase : base.text.toList = []
  · have hnone : base.stops = [] := by rw [stops_eq, hbase]; rfl
    rw [join_of_empty hbase, stops_name h, hnone, List.nil_append]
  · obtain ⟨done, htext, hstops⟩ := stops_join_of_relative hbase h.relative
    rw [hstops, stopsOf_name h, htext]

theorem components_join (base : Path) {part : String} (h : IsName part) :
    (base.join part).components = base.components ++ [.name part] := by
  rw [components, stops_join base h]
  simp [components]

/-! ## Ancestors -/

/-- What the first segment of a row stands for when it is not all of an empty
text. -/
def firstStop : List Char × List Char → List (Component × List Char)
  | ([], _) => [(.root, ['/'])]
  | (['.'], stop) => [(.here, stop)]
  | segment => stopsOf [segment]

theorem stopsFrom_cons (first : List Char × List Char) (more : List (List Char × List Char))
    (h : first.1 ≠ [] ∨ more ≠ []) :
    stopsFrom (first :: more) = firstStop first ++ stopsOf more := by
  obtain ⟨seg, stop⟩ := first
  by_cases hnil : seg = []
  · subst hnil
    cases more with
    | nil => simp at h
    | cons m more => simp [stopsFrom, firstStop]
  · by_cases hdot : seg = ['.']
    · subst hdot
      simp [stopsFrom, firstStop]
    · rw [stopsFrom, firstStop, ← stopsOf_append, List.singleton_append]
      all_goals simp_all

/-- The first segment stands for a component that stops where it does, or for
the root. -/
theorem firstStop_cases (first : List Char × List Char) :
    (first.1 = [] ∧ firstStop first = [(.root, ['/'])])
      ∨ (first.1 ≠ [] ∧ ∃ c, firstStop first = [(c, first.2)]) := by
  obtain ⟨seg, stop⟩ := first
  by_cases hnil : seg = []
  · subst hnil
    exact .inl ⟨rfl, rfl⟩
  · by_cases hdot : seg = ['.']
    · subst hdot
      exact .inr ⟨hnil, .here, rfl⟩
    · have hf : firstStop (seg, stop) = stopsOf [(seg, stop)] := by
        rw [firstStop] <;> simp_all
      rw [hf]
      cases hc : component? seg with
      | none =>
        unfold component? at hc
        split at hc
        · rename_i hnone
          exact absurd hnone (by simp [hnil, hdot])
        · split at hc <;> cases hc
      | some c => exact .inr ⟨hnil, c, by simp [stopsOf, hc]⟩

/-- A component in a row of segments comes from one of them, and the row up
to that one has the components up to it. -/
theorem stopsOf_eq_append_cons {segments : List (List Char × List Char)}
    {before after : List (Component × List Char)} {c : Component} {stop : List Char}
    (h : stopsOf segments = before ++ (c, stop) :: after) :
    ∃ seg s₁ s₂, segments = s₁ ++ (seg, stop) :: s₂
      ∧ stopsOf (s₁ ++ [(seg, stop)]) = before ++ [(c, stop)] := by
  obtain ⟨s₁, s₂, rfl, h₁, h₂⟩ := List.filterMap_eq_append_iff.mp h
  obtain ⟨n, ⟨seg, st⟩, s₃, rfl, hn, hc, h₃⟩ := List.filterMap_eq_cons_iff.mp h₂
  obtain ⟨c', hc', hst⟩ := Option.map_eq_some_iff.mp hc
  simp only [Prod.mk.injEq] at hst
  obtain ⟨rfl, rfl⟩ := hst
  refine ⟨seg, s₁ ++ n, s₃, by simp, ?_⟩
  have hnil : stopsOf n = [] := List.filterMap_eq_nil_iff.mpr hn
  have hone : stopsOf [(seg, st)] = [(c', st)] := by simp [stopsOf, hc']
  have hs₁ : stopsOf s₁ = before := h₁
  rw [stopsOf_append, stopsOf_append, hnil, hone, hs₁, List.append_nil]

/-- A component of a row is its first one or comes after that. -/
theorem first_or_later {first : List Char × List Char}
    {more before after : List (Component × List Char)}
    {c : Component} {stop : List Char}
    (h : firstStop first ++ more = before ++ (c, stop) :: after) :
    (firstStop first = [(c, stop)] ∧ before = [])
      ∨ ∃ later, before = firstStop first ++ later ∧ more = later ++ (c, stop) :: after := by
  rcases firstStop_cases first with ⟨_, hf⟩ | ⟨_, d, hf⟩
  all_goals
    rw [hf] at h ⊢
    cases before with
    | nil =>
      simp only [List.singleton_append, List.nil_append, List.cons.injEq] at h
      exact .inl ⟨by rw [h.1], rfl⟩
    | cons b before =>
      simp only [List.cons_append, List.cons.injEq] at h
      exact .inr ⟨before, by simp [h.1], h.2⟩

/-- The first component alone is what its stop stands for. -/
theorem stops_firstStop {cs : List Char} {first : List Char × List Char}
    {more : List (List Char × List Char)} {c : Component} {stop : List Char}
    (hsegs : segmentsFrom [] [] cs = [] ++ first :: more)
    (hfirst : firstStop first = [(c, stop)]) : (Path.mk (.ofList stop)).stops = [(c, stop)] := by
  rcases firstStop_cases first with ⟨_, hf⟩ | ⟨hseg, d, hf⟩
  · rw [hf] at hfirst
    simp only [List.cons.injEq, Prod.mk.injEq, and_true] at hfirst
    obtain ⟨rfl, rfl⟩ := hfirst
    rfl
  · obtain ⟨seg, st⟩ := first
    rw [hf] at hfirst
    simp only [List.cons.injEq, Prod.mk.injEq, and_true] at hfirst
    obtain ⟨rfl, rfl⟩ := hfirst
    obtain ⟨pre, rfl, hpre⟩ := segmentsFrom_upTo hsegs
    rw [stops_eq, String.toList_ofList, hpre, List.nil_append, stopsFrom_cons _ _ (.inl hseg), hf]
    rfl

/-- The stops of a path that is not empty, one segment at a time. -/
theorem stops_eq_append {p : Path} (hp : p.text.toList ≠ []) : ∃ first more,
    segmentsFrom [] [] p.text.toList = first :: more
      ∧ p.stops = firstStop first ++ stopsOf more := by
  obtain ⟨first, more, hsegs⟩ :=
    List.exists_cons_of_ne_nil (segmentsFrom_ne_nil p.text.toList [] [])
  refine ⟨first, more, hsegs, ?_⟩
  rw [stops_eq, hsegs, stopsFrom_cons]
  by_cases hmore : more = []
  · subst hmore
    refine .inl fun hnil => hp ?_
    obtain ⟨seg, stop⟩ := first
    exact (segmentsFrom_single hsegs).symm.trans hnil
  · exact .inr hmore

/-- The path up to a stop has the stops up to it. -/
theorem stops_upTo {p : Path} {before after : List (Component × List Char)} {c : Component}
    {stop : List Char} (h : p.stops = before ++ (c, stop) :: after) :
    (Path.mk (.ofList stop)).stops = before ++ [(c, stop)] := by
  have hp : p.text.toList ≠ [] := by
    intro hnil
    rw [stops_eq, hnil] at h
    simp [segmentsFrom, stopsFrom] at h
  obtain ⟨first, more, hsegs, hstops⟩ := stops_eq_append hp
  rcases first_or_later (hstops.symm.trans h) with ⟨hf, rfl⟩ | ⟨later, rfl, hm⟩
  · exact stops_firstStop hsegs hf
  · obtain ⟨seg, s₁, s₂, rfl, hs⟩ := stopsOf_eq_append_cons hm
    have hcut : segmentsFrom [] [] p.text.toList = (first :: s₁) ++ (seg, stop) :: s₂ := hsegs
    obtain ⟨pre, rfl, hpre⟩ := segmentsFrom_upTo hcut
    rw [stops_eq, String.toList_ofList, hpre, List.cons_append,
      stopsFrom_cons _ _ (.inr (by simp)), hs, List.append_assoc]

theorem components_upTo {p : Path} {before after : List (Component × List Char)} {c : Component}
    {stop : List Char} (h : p.stops = before ++ (c, stop) :: after) :
    (Path.mk (.ofList stop)).components = (before ++ [(c, stop)]).map (·.1) := by
  rw [components, stops_upTo h]

/-- Only the empty path has no components. -/
theorem isEmpty_iff {p : Path} : p.isEmpty = true ↔ p.components = [] := by
  constructor
  · intro h
    have htext : p = ⟨""⟩ := congrArg Path.mk (String.isEmpty_iff.mp h)
    rw [htext]
    rfl
  · intro h
    have hstops : p.stops = [] := List.map_eq_nil_iff.mp h
    cases hchars : p.text.toList with
    | nil => simpa [isEmpty] using hchars
    | cons c cs =>
      obtain ⟨first, more, _, heq⟩ := stops_eq_append (p := p) (by simp [hchars])
      rw [hstops] at heq
      rcases firstStop_cases first with ⟨_, hf⟩ | ⟨_, c, hf⟩ <;> simp [hf] at heq

/-- Above a path are the texts of its stops, but for the last one, and maybe
the empty path. -/
theorem above_eq (p : Path) : ∃ ground : List Path,
    p.above = (p.stops.dropLast.map fun stop => Path.mk (.ofList stop.2)).reverse ++ ground
      ∧ ∀ a ∈ ground, a = ⟨""⟩ := by
  unfold above
  split
  · rename_i h
    exact ⟨[], by simp [h], by simp⟩
  · rename_i first more h
    split
    · exact ⟨[], by simp [h], by simp⟩
    · exact ⟨[⟨""⟩], by simp [h], by simp⟩

/-- The components of an ancestor are the first components of the path. -/
theorem components_ancestor {p a : Path} (h : a ∈ p.ancestors) :
    a.components <+: p.components := by
  obtain ⟨ground, habove, hground⟩ := p.above_eq
  rw [ancestors, habove, List.mem_cons, List.mem_append, List.mem_reverse] at h
  rcases h with rfl | h | h
  · exact List.prefix_refl _
  · obtain ⟨⟨c, stop⟩, hmem, rfl⟩ := List.mem_map.mp h
    obtain ⟨before, after, hstops⟩ := List.append_of_mem (List.dropLast_subset _ hmem)
    refine ⟨after.map (·.1), ?_⟩
    rw [components_upTo hstops, components, hstops]
    simp
  · rw [hground a h]
    exact List.nil_prefix

/-- Every row of first components is one of an ancestor, and no ancestor
before the empty path is left out. -/
theorem exists_ancestor {p : Path} {cs : List Component} (hne : cs ≠ [])
    (h : cs <+: p.components) :
    ∃ a ∈ p.ancestors.takeWhile fun a => !a.isEmpty, a.components = cs := by
  obtain ⟨ground, habove, _⟩ := p.above_eq
  have hp : p.isEmpty = false := by
    rw [← Bool.not_eq_true, isEmpty_iff]
    intro hnil
    exact hne (List.prefix_nil.mp (hnil ▸ h))
  have hfull : ∀ a ∈ p :: (p.stops.dropLast.map fun stop => Path.mk (.ofList stop.2)).reverse,
      (!a.isEmpty) = true := by
    intro a ha
    rcases List.mem_cons.mp ha with rfl | ha
    · rw [hp, Bool.not_false]
    · obtain ⟨⟨c, stop⟩, hmem, rfl⟩ := List.mem_map.mp (List.mem_reverse.mp ha)
      obtain ⟨before, after, hstops⟩ := List.append_of_mem (List.dropLast_subset _ hmem)
      rw [Bool.not_eq_true', ← Bool.not_eq_true, isEmpty_iff, components_upTo hstops]
      simp
  rw [ancestors, habove, ← List.cons_append, List.takeWhile_append_of_pos hfull]
  obtain ⟨rest, hrest⟩ := h
  obtain ⟨s₁, s₂, hstops, hs₁, hs₂⟩ := List.map_eq_append_iff.mp (hrest.symm : p.components = _)
  rcases List.eq_nil_or_concat s₂ with rfl | ⟨later, last, rfl⟩
  · refine ⟨p, by simp, ?_⟩
    rw [← hs₁, components, hstops, List.append_nil]
  · rcases List.eq_nil_or_concat s₁ with rfl | ⟨before, ⟨c, stop⟩, rfl⟩
    · exact absurd hs₁.symm hne
    · refine ⟨⟨.ofList stop⟩, ?_, ?_⟩
      · refine List.mem_append_left _ (List.mem_cons_of_mem _ (List.mem_reverse.mpr ?_))
        refine List.mem_map.mpr ⟨(c, stop), ?_, rfl⟩
        rw [hstops, List.concat_eq_append, List.concat_eq_append, ← List.append_assoc,
          List.dropLast_concat]
        simp
      · have hcut : p.stops = before ++ (c, stop) :: later.concat last := by
          simpa using hstops
        rw [components_upTo hcut, ← hs₁, List.concat_eq_append]

/-- The empty path and the root lie in nothing. Every other path lies in the
place that its components but the last lead to. -/
theorem parent?_cases (p : Path) :
    (p.parent? = none ∧ (p.components = [] ∨ p.components = [.root]))
      ∨ ∃ parent, p.parent? = some parent ∧ p.components ≠ [] ∧ p.components ≠ [.root]
        ∧ parent.components = p.components.dropLast := by
  rcases List.eq_nil_or_concat p.stops with hnil | ⟨before, ⟨c, stop⟩, hstops⟩
  · exact .inl ⟨by simp [parent?, above, hnil], .inl (by simp [components, hnil])⟩
  · rw [List.concat_eq_append] at hstops
    rcases List.eq_nil_or_concat before with rfl | ⟨earlier, ⟨d, stop'⟩, rfl⟩
    · have hcomp : p.components = [c] := by simp [components, hstops]
      by_cases hroot : c = .root
      · exact .inl ⟨by simp [parent?, above, hstops, hroot], .inr (by rw [hcomp, hroot])⟩
      · refine .inr ⟨⟨""⟩, by simp [parent?, above, hstops, hroot], by simp [hcomp],
          by simpa [hcomp] using hroot, ?_⟩
        rw [hcomp]
        rfl
    · rw [List.concat_eq_append] at hstops
      obtain ⟨ground, habove, _⟩ := p.above_eq
      have hcomp : p.components = earlier.map (·.1) ++ [d] ++ [c] := by
        simp [components, hstops]
      have hlong : p.components.length = earlier.length + 2 := by simp [hcomp]
      refine .inr ⟨⟨.ofList stop'⟩, ?_, fun he => by simp [he] at hlong,
        fun he => by simp [he] at hlong, ?_⟩
      · rw [parent?, habove, hstops, List.dropLast_concat]
        simp
      · have hcut : p.stops = earlier ++ (d, stop') :: [(c, stop)] := by simpa using hstops
        rw [components_upTo hcut, hcomp, List.dropLast_concat]
        simp

/-- Above a path are the texts of its stops but the last and, unless it starts at
the root, the empty path. -/
theorem above_of_stops {p : Path} {before : List (Component × List Char)}
    {last : Component × List Char} (h : p.stops = before ++ [last]) :
    p.above = (before.map fun stop => Path.mk (.ofList stop.2)).reverse
      ++ if p.components.head? = some .root then [] else [⟨""⟩] := by
  unfold above
  split
  next hnil => simp [hnil] at h
  next first more hstops =>
    have hhead : p.components.head? = some first.1 := by simp [components, hstops]
    rw [hhead, ← hstops, h, List.dropLast_concat]
    split <;> simp_all

/-- Above a path are the folder that it lies in and what is above that. -/
theorem above_of_parent {p parent : Path} (h : p.parent? = some parent) :
    p.above = parent :: parent.above := by
  rcases List.eq_nil_or_concat p.stops with hnil | ⟨before, last, hstops⟩
  · simp [parent?, above, hnil] at h
  · rw [List.concat_eq_append] at hstops
    have habove := above_of_stops hstops
    rw [parent?, habove] at h
    rcases List.eq_nil_or_concat before with rfl | ⟨earlier, ⟨c, stop⟩, rfl⟩
    · rw [habove]
      split at h
      · cases h
      · rename_i hroot
        obtain rfl : (⟨""⟩ : Path) = parent := Option.some.inj h
        rw [if_neg hroot]
        rfl
    · rw [List.concat_eq_append] at hstops habove h
      rw [List.map_append, List.reverse_append] at h
      obtain rfl : Path.mk (.ofList stop) = parent := Option.some.inj h
      have hcut : p.stops = earlier ++ (c, stop) :: [last] := by simpa using hstops
      have hup := stops_upTo hcut
      have hhead : (Path.mk (.ofList stop)).components.head? = p.components.head? := by
        rw [components, components, hup, hcut]
        cases earlier <;> rfl
      rw [habove, above_of_stops hup, hhead]
      simp

/-- A plain name lies directly in what it is joined to. -/
theorem parent?_join (base : Path) {part : String} (h : IsName part) :
    ∃ parent, (base.join part).parent? = some parent ∧ parent.components = base.components := by
  have hcomp := components_join base h
  rcases (base.join part).parent?_cases with ⟨_, hnone⟩ | ⟨parent, hparent, _, _, hdrop⟩
  · rw [hcomp] at hnone
    rcases hnone with hnil | hroot
    · simp at hnil
    · simpa using congrArg List.getLast? hroot
  · exact ⟨parent, hparent, by rw [hdrop, hcomp, List.dropLast_concat]⟩

/-! ## The same place -/

theorem same_iff {p q : Path} : p.same q = true ↔ p.components = q.components := by
  simp [same]

@[simp] theorem same_refl (p : Path) : p.same p = true := same_iff.mpr rfl

theorem same_comm (p q : Path) : p.same q = q.same p :=
  Bool.eq_iff_iff.mpr (by rw [same_iff, same_iff, eq_comm])

theorem same_trans {p q r : Path} (hpq : p.same q = true) (hqr : q.same r = true) :
    p.same r = true :=
  same_iff.mpr ((same_iff.mp hpq).trans (same_iff.mp hqr))

/-- Nothing can be told of a place that depends on how its path is written. -/
theorem same_congr {p q : Path} (h : p.same q = true) (r : Path) : r.same p = r.same q :=
  Bool.eq_iff_iff.mpr (by rw [same_iff, same_iff, same_iff.mp h])

/-- The ancestors of a path that are made with it are the places that its first
components lead to. -/
theorem any_ancestor_iff {p q : Path} :
    ((p.ancestors.takeWhile fun a => !a.isEmpty).any fun a => a.same q) = true
      ↔ q.components ≠ [] ∧ q.components <+: p.components := by
  rw [List.any_eq_true]
  constructor
  · rintro ⟨a, ha, hsame⟩
    rw [← same_iff.mp hsame]
    refine ⟨fun hnil => ?_, components_ancestor ((List.takeWhile_sublist _).subset ha)⟩
    have hempty := List.mem_takeWhile_imp ha
    rw [isEmpty_iff.mpr hnil] at hempty
    cases hempty
  · rintro ⟨hne, hpre⟩
    obtain ⟨a, ha, hcomp⟩ := exists_ancestor hne hpre
    exact ⟨a, ha, same_iff.mpr hcomp⟩

/-! ## What lies below a place -/

/-- The place is above the path, directly or further up. -/
def IsBelow (p folder : Path) : Prop :=
  ∃ a ∈ p.above, a.same folder = true

instance (p folder : Path) : Decidable (p.IsBelow folder) :=
  inferInstanceAs (Decidable (∃ a ∈ p.above, a.same folder = true))

section IsBelow

variable {p parent folder : Path}

theorem not_isBelow (h : p.parent? = none) : ¬ p.IsBelow folder := by
  rintro ⟨a, ha, _⟩
  rw [List.head?_eq_none_iff.mp h] at ha
  exact List.not_mem_nil ha

theorem isBelow_iff_parent (h : p.parent? = some parent) :
    p.IsBelow folder ↔ parent.same folder = true ∨ parent.IsBelow folder := by
  simp [IsBelow, above_of_parent h]

/-- A path lies below the places of its first components. Below the place where
relative paths start lies no absolute one. -/
theorem isBelow_iff : p.IsBelow folder ↔ folder.components <+: p.components
    ∧ folder.components ≠ p.components
    ∧ (folder.components = [] → p.components.head? ≠ some .root) := by
  -- the induction goes up from parent to parent
  generalize hn : p.components.length = n
  induction n generalizing p with
  | zero =>
    have hnil : p.components = [] := List.length_eq_zero_iff.mp hn
    rcases p.parent?_cases with ⟨hnone, _⟩ | ⟨_, _, hne, _⟩
    · refine iff_of_false (not_isBelow hnone) fun ⟨hpre, hne, _⟩ => hne ?_
      rw [hnil] at hpre ⊢
      exact List.prefix_nil.mp hpre
    · exact absurd hnil hne
  | succ n ih =>
    rcases p.parent?_cases with ⟨hnone, hnil | hroot⟩ | ⟨parent, hparent, hne, hroot, hdrop⟩
    · simp [hnil] at hn
    · refine iff_of_false (not_isBelow hnone) fun ⟨hpre, hne, hhead⟩ => ?_
      rw [hroot] at hpre hne hhead
      rcases List.prefix_concat_iff.mp (show _ <+: [] ++ [_] from hpre) with he | hpre
      · exact hne he
      · exact hhead (List.prefix_nil.mp hpre) rfl
    · obtain ⟨front, c, hcomp⟩ : ∃ front c, p.components = front ++ [c] :=
        ⟨_, _, (List.dropLast_concat_getLast hne).symm⟩
      rw [hcomp, List.dropLast_concat] at hdrop
      have hlen : parent.components.length = n := by simpa [hcomp, hdrop] using hn
      rw [isBelow_iff_parent hparent, ih hlen, same_iff, hdrop, hcomp, List.prefix_concat_iff]
      have hhead : front ≠ [] → (front ++ [c]).head? = front.head? := fun h => by
        cases front with
        | nil => exact absurd rfl h
        | cons d front => rfl
      constructor
      · rintro (he | ⟨hpre, hne', hstart⟩)
        · refine ⟨.inr (he ▸ List.prefix_refl _), by simp [← he], fun hnil => ?_⟩
          rw [hcomp, he, hnil] at hroot
          simpa [he, hnil] using hroot
        · refine ⟨.inr hpre, fun he => ?_, fun hnil => ?_⟩
          · have hle := hpre.length_le
            rw [he, List.length_append, List.length_singleton] at hle
            exact Nat.not_succ_le_self _ hle
          · rw [hhead fun hfront => hne' (hnil.trans hfront.symm)]
            exact hstart hnil
      · rintro ⟨he | hpre, hne', hstart⟩
        · exact absurd he hne'
        · by_cases he : folder.components = front
          · exact .inl he.symm
          · refine .inr ⟨hpre, he, fun hnil => ?_⟩
            rw [← hhead fun hfront => he (hnil.trans hfront.symm)]
            exact hstart hnil

/-- Where any components are, prefixes tell. -/
theorem isBelow_of_prefix (hfolder : folder.components ≠ [])
    (hpre : folder.components <+: p.components) (hne : folder.components ≠ p.components) :
    p.IsBelow folder :=
  isBelow_iff.mpr ⟨hpre, hne, fun hnil => absurd hnil hfolder⟩

/-- The spelling of a path does not matter. -/
theorem isBelow_congr {q : Path} (h : p.same q = true) : p.IsBelow folder ↔ q.IsBelow folder := by
  rw [isBelow_iff, isBelow_iff, same_iff.mp h]

theorem isBelow_congr_right {q : Path} (h : folder.same q = true) :
    p.IsBelow folder ↔ p.IsBelow q := by
  rw [isBelow_iff, isBelow_iff, same_iff.mp h]

theorem IsBelow.prefix_components (h : p.IsBelow folder) : folder.components <+: p.components :=
  (isBelow_iff.mp h).1

theorem IsBelow.length_lt (h : p.IsBelow folder) :
    folder.components.length < p.components.length := by
  obtain ⟨hpre, hne, _⟩ := isBelow_iff.mp h
  exact Nat.lt_of_le_of_ne hpre.length_le fun hlen => hne (hpre.eq_of_length hlen)

theorem IsBelow.trans {upper : Path} (h : p.IsBelow folder) (h' : folder.IsBelow upper) :
    p.IsBelow upper := by
  have hpre := h'.prefix_components.trans h.prefix_components
  refine isBelow_iff.mpr ⟨hpre, fun he => ?_, fun hnil => ?_⟩
  · have hlen := Nat.lt_trans h'.length_lt h.length_lt
    rw [he] at hlen
    exact Nat.lt_irrefl _ hlen
  · -- a path below a folder starts as the folder does
    obtain ⟨_, hne, hstart⟩ := isBelow_iff.mp h'
    obtain ⟨rest, hrest⟩ := h.prefix_components
    have hhead := hstart hnil
    rw [← hrest]
    cases hfolder : folder.components with
    | nil => exact absurd (hnil.trans hfolder.symm) hne
    | cons c cs => simpa [hfolder] using hhead

end IsBelow

end Daybook.Path
