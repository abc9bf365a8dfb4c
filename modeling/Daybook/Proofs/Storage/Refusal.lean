/-
Daybook.Proofs.Storage.Refusal — looking through a storage that does not list
every folder.

A walk takes a folder that it cannot list for an empty one and goes on. The
refusal is not told to anybody: what is found is what would be found otherwise,
but for the paths that lie behind such a folder (`walked_refused`). Which paths
those are is a matter of the folders on the way down to them (`CutOff`).

The rest of a storage may fail as it likes. Looking asks only what there is in a
folder, which entries are folders, and how deep they go.
-/
import Daybook.Proofs.Storage.Subtree
import Mathlib.Data.List.Basic

namespace Daybook.Storage

/-! ## 1. Refusals -/

/-- Why a place is not listed, if it is not. -/
abbrev Refusals := List Component → Option StorageError

/-- A storage that does not list some of its folders. It goes by their places and
not by how their paths are written. -/
def refusing {σ : Type} (refusals : Refusals) (backend : Backend σ) : Backend σ
  | .list folder, s =>
    match refusals folder.components with
    | some cause => (.error cause, s)
    | none => backend (.list folder) s
  | q, s => backend q s

/-- The place is not listed, for a reason of its own or because nothing is. -/
def unlistedBy (faults : Faults) (refusals : Refusals) (place : List Component) : Bool :=
  faults.lists || (refusals place).isSome

/-- A folder on the way from `root` down to the path is not listed. -/
def CutOff (refused : List Component → Bool) (root path : Path) : Prop :=
  ∃ folder ∈ path.above,
    (folder.same root = true ∨ folder.IsBelow root) ∧ refused folder.components = true

instance (refused : List Component → Bool) (root path : Path) :
    Decidable (CutOff refused root path) :=
  inferInstanceAs (Decidable (∃ folder ∈ path.above, _))

section CutOff

variable {refused : List Component → Bool} {root path : Path}

theorem cutOff_iff : CutOff refused root path
    ↔ ∃ folder, path.IsBelow folder ∧ (folder.same root = true ∨ folder.IsBelow root)
      ∧ refused folder.components = true := by
  constructor
  · rintro ⟨folder, hfolder, hway, hrefused⟩
    exact ⟨folder, ⟨folder, hfolder, Path.same_refl folder⟩, hway, hrefused⟩
  · rintro ⟨folder, ⟨a, ha, hsame⟩, hway, hrefused⟩
    refine ⟨a, ha, ?_, by rwa [Path.same_iff.mp hsame]⟩
    exact hway.imp (Path.same_trans hsame) (Path.isBelow_congr hsame).mpr

theorem cutOff_congr {other : Path} (h : path.same other = true) :
    CutOff refused root path ↔ CutOff refused root other := by
  simp only [cutOff_iff, Path.isBelow_congr h]

end CutOff

/-! ## 2. Walks -/

namespace Memory

variable {m : Memory} {refused : List Component → Bool} {root entry p : Path}

/-- To an entry of a folder there is no other folder on the way. -/
theorem cutOff_entry (h : entry ∈ m.entries root) :
    CutOff refused root entry ↔ refused root.components = true := by
  have hbelow := isBelow_of_mem_entries h
  rw [cutOff_iff]
  constructor
  · rintro ⟨folder, hentry, hsame | hdown, hrefused⟩
    · rwa [← Path.same_iff.mp hsame]
    · -- a folder in between would have too many components
      have hlong := hdown.length_lt
      have hshort := hentry.length_lt
      rw [length_of_mem_entries h] at hshort
      omega
  · exact fun hrefused => ⟨root, hbelow, .inl (Path.same_refl root), hrefused⟩

/-- To what lies below an entry the way goes through the entry. -/
theorem cutOff_below (h : entry ∈ m.entries root) (hp : p.IsBelow entry) :
    CutOff refused root p ↔ refused root.components = true ∨ CutOff refused entry p := by
  have hbelow := isBelow_of_mem_entries h
  have hlen := length_of_mem_entries h
  rw [cutOff_iff, cutOff_iff]
  constructor
  · rintro ⟨folder, hfolder, hsame | hdown, hrefused⟩
    · rw [Path.same_iff.mp hsame] at hrefused
      exact .inl hrefused
    · -- both are on the way to `p`, and no place is between `root` and the entry
      have hpre : entry.components <+: folder.components :=
        List.prefix_of_prefix_length_le hp.prefix_components hfolder.prefix_components
          (by rw [hlen]; exact hdown.length_lt)
      refine .inr ⟨folder, hfolder, ?_, hrefused⟩
      by_cases he : entry.components = folder.components
      · exact .inl (Path.same_iff.mpr he.symm)
      · refine .inr (Path.isBelow_of_prefix (fun hnil => ?_) hpre he)
        rw [hnil] at hlen
        exact Nat.succ_ne_zero _ hlen.symm
  · rintro (hrefused | ⟨folder, hfolder, hway, hrefused⟩)
    · exact ⟨root, hp.trans hbelow, .inl (Path.same_refl root), hrefused⟩
    · refine ⟨folder, hfolder, .inr ?_, hrefused⟩
      rcases hway with hsame | hdown
      · exact (Path.isBelow_congr hsame).mpr hbelow
      · exact hdown.trans hbelow

/-- All that a walk finds lies below the folder that it starts from. -/
theorem isBelow_of_mem_walked (bound : Nat) (h : p ∈ m.walked bound root) : p.IsBelow root := by
  induction bound generalizing root p with
  | zero => cases h
  | succ bound ih =>
    rw [walked, List.mem_flatMap] at h
    obtain ⟨e, he, hp⟩ := h
    have hbelow := isBelow_of_mem_entries he
    split at hp
    · rcases List.mem_cons.mp hp with rfl | hp
      · exact hbelow
      · exact (ih hp).trans hbelow
    · rwa [List.mem_singleton.mp hp]

/-- A walk that finds some folders empty leaves out what is cut off by them, and
nothing else. The induction is on the bound, from each folder to its entries. -/
theorem walked_refused (m : Memory) (refused : List Component → Bool) (bound : Nat) (root : Path) :
    Storage.walked (fun folder => if refused folder.components then [] else m.entries folder)
        m.hasFolder bound root
      = (m.walked bound root).filter fun p => !decide (CutOff refused root p) := by
  induction bound generalizing root with
  | zero => rfl
  | succ bound ih =>
    rw [Storage.walked, walked]
    cases hroot : refused root.components with
    | true =>
      refine (List.filter_eq_nil_iff.mpr fun p hp => ?_).symm
      have hcut : CutOff refused root p := cutOff_iff.mpr
        ⟨root, isBelow_of_mem_walked (bound + 1) hp, .inl (Path.same_refl root), hroot⟩
      simp [hcut]
    | false =>
      rw [if_neg Bool.false_ne_true, List.filter_flatMap]
      refine List.flatMap_congr fun e he => ?_
      have hentry : ¬ CutOff refused root e := by
        rw [cutOff_entry he, hroot]
        exact Bool.false_ne_true
      have hinside : (m.walked bound e).filter (fun p => !decide (CutOff refused root p))
          = (m.walked bound e).filter fun p => !decide (CutOff refused e p) := by
        refine List.filter_congr fun p hp => ?_
        have hbelow := isBelow_of_mem_walked bound hp
        simp only [cutOff_below he hbelow, hroot, Bool.false_eq_true, false_or]
      split
      · rw [ih, ← hinside, List.filter_cons_of_pos (by simp [hentry])]
      · rw [List.filter_cons_of_pos (by simp [hentry]), List.filter_nil]

variable {faults : Faults} {refusals : Refusals}

/-- What is told of the entries of a folder is true, or nothing is told. -/
theorem listed_refusing (hhidden : faults.hidden = []) (refusals : Refusals) (m : Memory)
    (folder : Path) :
    ∃ reply, refusing refusals (seen faults) (.list folder) m = (reply, m)
      ∧ listed reply
        = if unlistedBy faults refusals folder.components then [] else m.entries folder := by
  cases hrefusal : refusals folder.components with
  | some cause =>
    exact ⟨.error cause, by simp [refusing, hrefusal], by simp [listed, unlistedBy, hrefusal]⟩
  | none =>
    cases hlists : faults.lists with
    | true =>
      exact ⟨.error .denied, by simp [refusing, hrefusal, Faults.answer, hlists],
        by simp [listed, unlistedBy, hlists]⟩
    | false =>
      have hall : (m.entries folder).filter (fun entry => !faults.hides entry) = m.entries folder :=
        List.filter_eq_self.mpr fun _ _ => by simp [Faults.hides, hhidden]
      refine ⟨.ok (m.entries folder), ?_, by simp [listed, unlistedBy, hlists, hrefusal]⟩
      simp [refusing, hrefusal, Faults.answer, hlists, answer, Except.map, hall]

/-- A walk through a storage that refuses lists. -/
theorem run_walk_refusing (hhidden : faults.hidden = []) (refusals : Refusals) (m : Memory)
    (root : Path) :
    (walk root).run (refusing refusals (seen faults)) m
      = ((m.walked m.depth root).filter fun p =>
          !decide (CutOff (unlistedBy faults refusals) root p), m) := by
  have hlists : ∀ folder, refusing refusals (seen faults) (.list folder) m
      = ((refusing refusals (seen faults) (.list folder) m).1, m) := fun folder => by
    obtain ⟨reply, hreply, _⟩ := listed_refusing hhidden refusals m folder
    rw [hreply]
  have hentries : (fun folder => listed (refusing refusals (seen faults) (.list folder) m).1)
      = fun folder =>
        if unlistedBy faults refusals folder.components then [] else m.entries folder := by
    funext folder
    obtain ⟨reply, hreply, hlisted⟩ := listed_refusing hhidden refusals m folder
    rw [hreply, hlisted]
  have hdepth : refusing refusals (seen faults) .depth m = (m.depth, m) := rfl
  rw [run_walk_lists (fun _ => rfl) hlists hdepth root, hentries, walked_refused]

end Memory

end Daybook.Storage
