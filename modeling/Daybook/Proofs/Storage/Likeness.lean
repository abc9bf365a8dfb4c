/-
Daybook.Proofs.Storage.Likeness — a memory cannot be told from a file tree.

A memory stands for the file tree of a system wherever the tree is not wanted,
so it matters that it does the same. Both do as their contents tell, and both
can start with no contents; so whatever is done at relative paths of ordinary
names, step by step the same comes of it (`memory_outcomes_eq_tree`).

The two do differ beyond that: a memory does not know that a file cannot have
anything below it, nor that a folder cannot be read or written. What is done must
not go there (`Fit`).
-/
import Daybook.Proofs.Storage.Contents.Memory
import Daybook.Proofs.Storage.Contents.Tree
import Mathlib.Data.Finset.Insert

namespace Daybook.Storage

/-! ## What may be done -/

instance (part : String) : Decidable (Path.IsName part) :=
  decidable_of_iff
    (part.toList ≠ [] ∧ part.toList ≠ ['.'] ∧ part.toList ≠ ['.', '.'] ∧ '/' ∉ part.toList)
    ⟨fun ⟨hnil, hdot, hup, hslash⟩ => ⟨hnil, hdot, hup, hslash⟩,
      fun h => ⟨h.ne_nil, h.ne_dot, h.ne_up, h.no_slash⟩⟩

instance (name : String) : Decidable (IsOrdinary name) :=
  decidable_of_iff
    (Path.IsName name ∧ '\x00' ∉ name.toList ∧ name.utf8ByteSize ≤ Tree.nameLimit)
    ⟨fun ⟨hname, hnul, hfits⟩ => ⟨hname, hnul, hfits⟩, fun h => ⟨h.toIsName, h.no_nul, h.fits⟩⟩

/-- Nothing above the path of the call is a file, and what is read or written
over is not a folder. -/
def Call.Fits (m : Memory) (call : Call) : Prop :=
  (∀ upper ∈ call.route.path.above, m.hasFile upper = false)
    ∧ (call.opensFile = true → m.hasFolder call.route.path = false)

instance (m : Memory) (call : Call) : Decidable (call.Fits m) :=
  inferInstanceAs (Decidable (_ ∧ _))

/-- Each call fits what the calls before it leave. -/
def Fit : Memory → List Call → Prop
  | _, [] => True
  | m, call :: more => call.Fits m ∧ Fit (call.work.run Memory.answer m).2 more

instance decidableFit : (m : Memory) → (calls : List Call) → Decidable (Fit m calls)
  | _, [] => isTrue trivial
  | m, call :: more =>
    have : Decidable (Fit (call.work.run Memory.answer m).2 more) := decidableFit _ more
    inferInstanceAs (Decidable (call.Fits m ∧ Fit (call.work.run Memory.answer m).2 more))

theorem Call.Fits.contents {m : Memory} {c : Contents} {call : Call} (h : call.Fits m)
    (hshows : m.Shows c) : c.Fits call := by
  refine ⟨fun upper hpre hne text isProgram hfile => ?_, fun hopens hfolder => ?_⟩
  · have hupper : upper ≠ [] := by
      rintro rfl
      rw [hshows.sound.start] at hfile
      cases hfile
    obtain rfl := hshows.sound.plain hfile
    let route := call.route.upTo hupper hpre
    have habove : route.path ∈ call.route.path.above := mem_above_pathOf call.route.isNames hpre hne
    have hthere : m.hasFile route.path = true := (hshows.hasFile route).mpr ⟨text, hfile⟩
    rw [h.1 _ habove] at hthere
    cases hthere
  · have hthere : m.hasFolder call.route.path = true := (hshows.folder _).mpr hfolder
    rw [h.2 hopens] at hthere
    cases hthere

theorem Fit.contents {m : Memory} {c : Contents} {calls : List Call} (h : Fit m calls)
    (hshows : m.Shows c) : c.FitsAll calls := by
  induction calls generalizing m c with
  | nil => trivial
  | cons call more ih =>
    have hfits := h.1.contents hshows
    exact ⟨hfits, ih h.2 (Memory.faithful hshows hfits).2⟩

/-! ## No contents -/

/-- Nothing but the folder to start in. -/
def Contents.empty : Contents :=
  fun names => if names = [] then some .folder else none

theorem Contents.sound_empty : Contents.empty.Sound where
  start := rfl
  nested h := by simp [Contents.empty] at h
  routed hne h := by simp [Contents.empty, hne] at h
  plain h := by
    unfold Contents.empty at h
    split at h <;> cases h

theorem Memory.shows_empty : Memory.empty.Shows Contents.empty where
  sound := Contents.sound_empty
  file r text := by simp [Memory.empty, Memory.textAt?, Contents.empty, r.ne_nil]
  folder r := by simp [Memory.empty, Memory.hasFolder, Contents.empty, r.ne_nil]
  routed path h := absurd h List.not_mem_nil

theorem Tree.shows_empty {t : Tree} (hstart : t.at? t.start = some .folder)
    (hempty : ∀ names, names ≠ [] → t.at? (t.start ++ names) = none) : t.Shows Contents.empty where
  sound := Contents.sound_empty
  at? names := by
    by_cases hne : names = []
    · rw [hne, List.append_nil, hstart]
      rfl
    · rw [hempty names hne, Contents.empty, if_neg hne]

/-! ## The same outcomes -/

/-- Step by step the same comes of the same calls, from an empty memory and from
a file tree with an empty folder to start in. -/
theorem memory_outcomes_eq_tree {t : Tree} (hstart : t.at? t.start = some .folder)
    (hempty : ∀ names, names ≠ [] → t.at? (t.start ++ names) = none) {calls : List Call}
    (hfit : Fit .empty calls) :
    ((calls.mapM Call.work).run Memory.answer .empty).1
      = ((calls.mapM Call.work).run Tree.answer t).1 :=
  Memory.faithful.run_eq Tree.faithful Memory.shows_empty (Tree.shows_empty hstart hempty)
    (hfit.contents Memory.shows_empty)

theorem memory_outcomes_eq_tree_file_in_folder :
    let folder : Route := ⟨["a", "b"], by decide, by decide +kernel, by decide +kernel⟩
    let file : Route := ⟨["a", "b", "x"], by decide, by decide +kernel, by decide +kernel⟩
    let stray : Route := ⟨["c", "x"], by decide, by decide +kernel, by decide +kernel⟩
    let top : Route := ⟨["a"], by decide, by decide +kernel, by decide +kernel⟩
    let calls : List Call := [.makeFolders folder, .create file "one", .create file "two",
      .write stray "three", .read file, .makeFolders file, .isFolder top, .list top, .walk top]
    let t := Tree.emptyAt ["home"]
    t.at? t.start = some .folder ∧ (∀ names, names ≠ [] → t.at? (t.start ++ names) = none)
      ∧ Fit .empty calls
      ∧ ((calls.mapM Call.work).run Tree.answer t).1
        = [.done, .done, .failed .alreadyExists, .failed .notFound, .text "one",
          .failed .alreadyExists, .truth true, .paths {⟨"a/b"⟩}, .paths {⟨"a/b"⟩, ⟨"a/b/x"⟩}] := by
  intro folder file stray top calls t
  have hstart : t.at? t.start = some .folder := by decide +kernel
  have hempty : ∀ names, names ≠ [] → t.at? (t.start ++ names) = none := by
    intro names hne
    obtain ⟨name, more, rfl⟩ := List.exists_cons_of_ne_nil hne
    rfl
  have hfit : Fit .empty calls := by decide +kernel
  refine ⟨hstart, hempty, hfit, ?_⟩
  rw [← memory_outcomes_eq_tree hstart hempty hfit]
  decide +kernel

end Daybook.Storage
