/-
Daybook.Proofs.Storage.Route — relative paths that are made of ordinary names.

A route is a row of names together with its path, the names with slashes
between them. Both storages know it by its names: its components are the names
(`components_pathOf`), a system that cuts the path at the slashes finds them
(`namesOf_pathOf`), and what lies above it are the routes of fewer names
(`ancestors_pathOf_concat`). So two routes are the same place only if they are
the same path.
-/
import Daybook.Proofs.Path.Joined
import Daybook.Proofs.Storage.Tree
import Mathlib.Data.List.Induction

namespace Daybook

namespace Storage

open Daybook.Path (IsName)

/-- The relative path that is written with these names. -/
def pathOf (names : List String) : Path :=
  names.foldl Path.join ⟨""⟩

/-- A name that every storage takes as one. -/
structure IsOrdinary (name : String) : Prop extends IsName name where
  no_nul : '\x00' ∉ name.toList
  fits : name.utf8ByteSize ≤ Tree.nameLimit

/-- A relative path made of ordinary names. -/
structure Route where
  names : List String
  ne_nil : names ≠ []
  ordinary : ∀ name ∈ names, IsOrdinary name
  fits : (pathOf names).text.utf8ByteSize < Tree.pathLimit

/-! ## How the path is written -/

section Written

variable {names : List String} {name : String}

theorem pathOf_concat (names : List String) (name : String) :
    pathOf (names ++ [name]) = (pathOf names).join name := by
  simp [pathOf]

theorem components_pathOf (h : ∀ name ∈ names, IsName name) :
    (pathOf names).components = names.map .name := by
  induction names using List.reverseRecOn with
  | nil => rfl
  | append_singleton names name ih =>
    rw [pathOf_concat, Path.components_join _ (h name (by simp)),
      ih fun n hn => h n (List.mem_append_left _ hn), List.map_append, List.map_singleton]

/-- A name that is joined to a path ends it. -/
theorem getLast?_join (base : Path) (h : IsName name) :
    (base.join name).text.toList.getLast? = name.toList.getLast? := by
  obtain ⟨last, hlast⟩ := Option.ne_none_iff_exists'.mp fun hnone =>
    h.ne_nil (List.getLast?_eq_none_iff.mp hnone)
  unfold Path.join
  rw [if_neg h.relative]
  split <;> simp [List.getLast?_append, List.getLast?_cons, hlast]

/-- A path of names does not end with a slash. -/
theorem endsWithSlash_pathOf (h : ∀ name ∈ names, IsName name) :
    Tree.endsWithSlash (pathOf names) = false := by
  rcases List.eq_nil_or_concat names with rfl | ⟨names, name, rfl⟩
  · rfl
  · rw [List.concat_eq_append] at h ⊢
    have hname : IsName name := h name (by simp)
    rw [Tree.endsWithSlash, pathOf_concat, getLast?_join _ hname, ← Bool.not_eq_true]
    intro hslash
    exact hname.no_slash (List.mem_of_getLast? (by simpa using hslash))

theorem ne_nil_pathOf (hne : names ≠ []) (h : ∀ n ∈ names, IsName n) :
    (pathOf names).text.toList ≠ [] := by
  intro he
  have hcomp := components_pathOf h
  rw [show pathOf names = ⟨""⟩ from congrArg Path.mk (String.toList_inj.mp he)] at hcomp
  exact hne (List.map_eq_nil_iff.mp hcomp.symm)

/-- A slash comes between two names. -/
theorem toList_pathOf (hne : names ≠ []) (h : ∀ n ∈ names ++ [name], IsName n) :
    (pathOf (names ++ [name])).text.toList = (pathOf names).text.toList ++ '/' :: name.toList := by
  have hname : IsName name := h name (by simp)
  have hnames : ∀ n ∈ names, IsName n := fun n hn => h n (List.mem_append_left _ hn)
  have hslash := endsWithSlash_pathOf hnames
  have hnil := ne_nil_pathOf hne hnames
  obtain ⟨last, hlast⟩ := Option.ne_none_iff_exists'.mp fun hnone =>
    hnil (List.getLast?_eq_none_iff.mp hnone)
  rw [Tree.endsWithSlash, hlast] at hslash
  have hother : ¬ last = '/' := by simpa using hslash
  rw [pathOf_concat, Path.join, if_neg hname.relative, hlast]
  simp [hother]

theorem toList_pathOf_singleton (h : IsName name) : (pathOf [name]).text.toList = name.toList := by
  simp [pathOf, Path.join, h.relative]

/-- What a system finds between the slashes are the names. -/
theorem namesOf_pathOf (h : ∀ name ∈ names, IsName name) : Tree.namesOf (pathOf names) = names := by
  induction names using List.reverseRecOn with
  | nil => rfl
  | append_singleton names name ih =>
    have hname : IsName name := h name (by simp)
    have hnames := ih fun n hn => h n (List.mem_append_left _ hn)
    unfold Tree.namesOf at hnames ⊢
    rcases eq_or_ne names [] with rfl | hne
    · rw [List.nil_append, toList_pathOf_singleton hname, Text.pieces_of_not_mem hname.no_slash]
      simp [hname.ne_nil]
    · rw [toList_pathOf hne h, Text.pieces_append, List.filter_append, List.map_append, hnames,
        Text.pieces_of_not_mem hname.no_slash]
      simp [hname.ne_nil]

/-- What starts a path of names starts a name. -/
theorem isAbsolute_pathOf (h : ∀ n ∈ names, IsName n) : (pathOf names).isAbsolute = false := by
  induction names using List.reverseRecOn with
  | nil => rfl
  | append_singleton names name ih =>
    rw [pathOf_concat, Path.isAbsolute_join _ (h name (by simp)).relative]
    exact ih fun n hn => h n (List.mem_append_left _ hn)

theorem not_mem_pathOf {c : Char} (hc : c ≠ '/') (h : ∀ n ∈ names, IsName n)
    (hmem : ∀ n ∈ names, c ∉ n.toList) : c ∉ (pathOf names).text.toList := by
  induction names using List.reverseRecOn with
  | nil => simp [pathOf]
  | append_singleton names name ih =>
    have hname : IsName name := h name (by simp)
    have hlast : c ∉ name.toList := hmem name (by simp)
    have hnames := ih (fun n hn => h n (List.mem_append_left _ hn))
      fun n hn => hmem n (List.mem_append_left _ hn)
    rcases eq_or_ne names [] with rfl | hne
    · rwa [List.nil_append, toList_pathOf_singleton hname]
    · rw [toList_pathOf hne h]
      simp [hnames, hc, hlast]

theorem size_pathOf_concat (h : ∀ n ∈ names ++ [name], IsName n) :
    (pathOf names).text.utf8ByteSize ≤ (pathOf (names ++ [name])).text.utf8ByteSize := by
  rcases eq_or_ne names [] with rfl | hne
  · exact Nat.zero_le _
  · have htext : (pathOf (names ++ [name])).text
        = (pathOf names).text ++ String.ofList ('/' :: name.toList) := by
      apply String.toList_inj.mp
      rw [toList_pathOf hne h]
      simp
    rw [htext, String.utf8ByteSize_append]
    omega

/-- A path with fewer names is no longer. -/
theorem size_pathOf_le {upper : List String} (hpre : upper <+: names)
    (h : ∀ n ∈ names, IsName n) :
    (pathOf upper).text.utf8ByteSize ≤ (pathOf names).text.utf8ByteSize := by
  induction names using List.reverseRecOn with
  | nil => exact Nat.le_of_eq (by rw [List.prefix_nil.mp hpre])
  | append_singleton names name ih =>
    rcases List.prefix_concat_iff.mp hpre with rfl | hpre
    · exact Nat.le_refl _
    · exact Nat.le_trans (ih hpre fun n hn => h n (List.mem_append_left _ hn)) (size_pathOf_concat h)

/-! ## What lies above -/

theorem above_pathOf_concat (h : ∀ n ∈ names ++ [name], IsName n) :
    (pathOf (names ++ [name])).above = (pathOf names).ancestors := by
  have hroot : ∀ {ns : List String}, (∀ n ∈ ns, IsName n) →
      (pathOf ns).components.head? ≠ some .root := by
    intro ns hns
    rw [components_pathOf hns, List.head?_map]
    cases ns.head? <;> simp
  have hstops : ∀ {ns : List String} {n : String}, (∀ k ∈ ns ++ [n], IsName k) →
      (pathOf (ns ++ [n])).stops
        = (pathOf ns).stops ++ [(.name n, (pathOf (ns ++ [n])).text.toList)] := by
    intro ns n hns
    rw [pathOf_concat, Path.stops_join _ (hns n (by simp))]
  rcases List.eq_nil_or_concat names with rfl | ⟨names, last, rfl⟩
  · rw [Path.above_of_stops (hstops h), if_neg (hroot h)]
    rfl
  · rw [List.concat_eq_append] at h ⊢
    have hnames : ∀ n ∈ names ++ [last], IsName n := fun n hn => h n (List.mem_append_left _ hn)
    rw [Path.above_of_stops (hstops h), if_neg (hroot h), Path.ancestors,
      Path.above_of_stops (hstops hnames), if_neg (hroot hnames), hstops hnames]
    simp

/-- Above a path of names are the paths of fewer names. -/
theorem ancestors_pathOf_concat (h : ∀ n ∈ names ++ [name], IsName n) :
    (pathOf (names ++ [name])).ancestors = pathOf (names ++ [name]) :: (pathOf names).ancestors := by
  rw [Path.ancestors, above_pathOf_concat h]

theorem mem_ancestors_pathOf {a : Path} (h : ∀ n ∈ names, IsName n)
    (ha : a ∈ (pathOf names).ancestors) : ∃ upper, upper <+: names ∧ a = pathOf upper := by
  induction names using List.reverseRecOn with
  | nil =>
    have hempty : (pathOf []).ancestors = [⟨""⟩] := rfl
    rw [hempty, List.mem_singleton] at ha
    exact ⟨[], List.prefix_refl [], ha⟩
  | append_singleton names name ih =>
    rw [ancestors_pathOf_concat h] at ha
    rcases List.mem_cons.mp ha with rfl | ha
    · exact ⟨_, List.prefix_refl _, rfl⟩
    · obtain ⟨upper, hpre, he⟩ := ih (fun n hn => h n (List.mem_append_left _ hn)) ha
      exact ⟨upper, hpre.trans (List.prefix_append _ _), he⟩

theorem mem_above_pathOf {upper : List String} (h : ∀ n ∈ names, IsName n) (hpre : upper <+: names)
    (hne : upper ≠ names) : pathOf upper ∈ (pathOf names).above := by
  induction names using List.reverseRecOn with
  | nil => exact absurd (List.prefix_nil.mp hpre) hne
  | append_singleton names name ih =>
    rw [above_pathOf_concat h, Path.ancestors, List.mem_cons]
    rcases List.prefix_concat_iff.mp hpre with he | hpre
    · exact absurd he hne
    · by_cases he : upper = names
      · exact .inl (by rw [he])
      · exact .inr (ih (fun n hn => h n (List.mem_append_left _ hn)) hpre he)

theorem parent?_pathOf_concat (h : ∀ n ∈ names ++ [name], IsName n) :
    (pathOf (names ++ [name])).parent? = some (pathOf names) := by
  rw [Path.parent?, above_pathOf_concat h]
  rfl

end Written

namespace Route

variable {r s : Route}

def path (r : Route) : Path :=
  pathOf r.names

theorem isNames (r : Route) : ∀ name ∈ r.names, IsName name :=
  fun name h => (r.ordinary name h).toIsName

theorem components (r : Route) : r.path.components = r.names.map .name :=
  components_pathOf r.isNames

theorem same_iff : r.path.same s.path = true ↔ r.names = s.names := by
  rw [Path.same_iff, r.components, s.components]
  exact List.map_inj_right fun _ _ => Component.name.inj

theorem isEmpty_eq (r : Route) : r.path.isEmpty = false := by
  rw [← Bool.not_eq_true, Path.isEmpty_iff, r.components]
  simpa using r.ne_nil

/-- A system takes the path as it is written. -/
theorem isWellWritten (r : Route) : Tree.IsWellWritten r.path := by
  refine ⟨?_, r.isEmpty_eq, r.fits⟩
  rw [← Bool.not_eq_true, List.contains_iff_mem]
  exact not_mem_pathOf (by decide) r.isNames fun n hn => (r.ordinary n hn).no_nul

/-- The route of the first names of a route. -/
def upTo (r : Route) {names : List String} (hne : names ≠ []) (h : names <+: r.names) : Route where
  names := names
  ne_nil := hne
  ordinary name hname := r.ordinary name (h.subset hname)
  fits := Nat.lt_of_le_of_lt (size_pathOf_le h r.isNames) r.fits

end Route

end Storage

end Daybook
