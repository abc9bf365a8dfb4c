/-
Daybook.Proofs.Storage.Walk — what a walk finds.

A storage that is not changed by looks is walked through as if it were two
functions: the entries of a folder, and which of them are folders. A folder that
the storage does not list has no entries for a walk (`run_walk_lists`).
-/
import Daybook.Proofs.Procedure.Log
import Daybook.Storage.Query

namespace Daybook.Storage

variable {σ : Type}

/-- What is found below a folder by going down from folder to folder. -/
def walked (entries : Path → List Path) (isFolder : Path → Bool) : Nat → Path → List Path
  | 0, _ => []
  | bound + 1, folder => (entries folder).flatMap fun entry =>
    if isFolder entry then entry :: walked entries isFolder bound entry else [entry]

/-- The entries that a storage lists; a folder that it does not list looks empty. -/
def listed : Except StorageError (List Path) → List Path
  | .ok entries => entries
  | .error _ => []

section Looking

variable {answer : Backend σ} {s : σ} {lists : Path → Except StorageError (List Path)}
  {entries : Path → List Path} {hasFolder : Path → Bool}
  (hfolder : ∀ path, answer (.isFolder path) s = (hasFolder path, s))

include hfolder

theorem run_walkWithin_lists (hlists : ∀ folder, answer (.list folder) s = (lists folder, s))
    (bound : Nat) (folder : Path) :
    (walkWithin bound folder).run answer s
      = (walked (fun folder => listed (lists folder)) hasFolder bound folder, s) := by
  induction bound generalizing folder with
  | zero => rfl
  | succ bound ih =>
    have hentry : ∀ entry : Path,
        (do
          if ← isFolder entry then return entry :: (← walkWithin bound entry)
          else return [entry] : Work (List Path)).run answer s
        = (if hasFolder entry
            then entry :: walked (fun folder => listed (lists folder)) hasFolder bound entry
            else [entry], s) := by
      intro entry
      refine (Procedure.run_bind answer (isFolder entry) _ s).trans ?_
      have hreply : (isFolder entry).run answer s = (hasFolder entry, s) := hfolder entry
      rw [hreply]
      split
      · refine (Procedure.run_bind answer (walkWithin bound entry) _ s).trans ?_
        rw [ih]
        rfl
      · rfl
    refine (Procedure.run_bind answer (list folder) _ s).trans ?_
    have hreply : (list folder).run answer s = (lists folder, s) := hlists folder
    rw [hreply, walked]
    cases lists folder with
    | error cause => rfl
    | ok entries =>
      refine (Procedure.run_bind _ (entries.mapM _) (fun found => .done found.flatten) s).trans ?_
      rw [Procedure.run_mapM hentry, listed, List.flatMap_def]
      rfl

theorem run_walk_lists (hlists : ∀ folder, answer (.list folder) s = (lists folder, s))
    {bound : Nat} (hdepth : answer .depth s = (bound, s)) (folder : Path) :
    (walk folder).run answer s
      = (walked (fun folder => listed (lists folder)) hasFolder bound folder, s) := by
  refine (Procedure.run_bind answer depth _ s).trans ?_
  have hreply : depth.run answer s = (bound, s) := hdepth
  rw [hreply]
  exact run_walkWithin_lists hfolder hlists bound folder

/-- The walk when every folder is listed. -/
theorem run_walk (hlist : ∀ folder, answer (.list folder) s = (.ok (entries folder), s))
    {bound : Nat} (hdepth : answer .depth s = (bound, s)) (folder : Path) :
    (walk folder).run answer s = (walked entries hasFolder bound folder, s) :=
  run_walk_lists hfolder hlist hdepth folder

end Looking

/-- A walk that goes as deep as the longest path goes deep enough for all. -/
theorem le_foldl_max {n : Nat} {lengths : List Nat} (h : n ∈ lengths) : n ≤ lengths.foldl max 0 := by
  rw [List.foldl_max_eq_max (List.ne_nil_of_mem h)]
  exact Nat.le_trans (List.le_max_of_mem h) (Nat.le_max_right _ _)

end Daybook.Storage
