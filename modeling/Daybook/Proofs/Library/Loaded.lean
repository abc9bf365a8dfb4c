/-
Daybook.Proofs.Library.Loaded — a library as it is loaded.

Loading only looks at the storage, and a library that was loaded has something
on both of its shelves, whatever the storage replies.
-/
import Daybook.Config.Basic
import Daybook.Proofs.Note.Composed
import Daybook.Proofs.Procedure.Log
import Daybook.Proofs.Storage.Growth

namespace Daybook.Library

open Procedure (Asks)
open Storage (Try)

theorem loadList_looks {α : Type} (path : Path) (read : String → Option (List α))
    (bundled : List α) :
    (loadList path read bundled).run.Asks fun q => Storage.Query.looks q = true := by
  refine Asks.lift_attempt ⟨rfl, fun _ => trivial⟩ fun (there : Bool) => ?_
  cases there with
  | false => exact trivial
  | true =>
    refine Asks.lift_attempt ⟨rfl, fun _ => trivial⟩ fun (found : Except StorageError String) => ?_
    cases found with
    | error cause => exact trivial
    | ok text =>
      dsimp only
      cases read text <;> exact trivial

/-- To put the lists together asks nothing. -/
theorem run_lift_ofLists (quotes : List Quote) (practices : List Practice) :
    (liftM (ofLists quotes practices) : Try Library).run = .done (ofLists quotes practices) := by
  cases ofLists quotes practices <;> rfl

theorem loadChosen_looks (chosen : Option Path) :
    (loadChosen chosen).run.Asks fun q => Storage.Query.looks q = true := by
  cases chosen with
  | none =>
    rw [loadChosen, run_lift_ofLists]
    exact trivial
  | some folder =>
    refine (loadList_looks _ _ _).attempt fun quotes => ?_
    refine (loadList_looks _ _ _).attempt fun practices => ?_
    rw [run_lift_ofLists]
    exact trivial

/-- Every library that is loaded is full. -/
theorem full_of_loadChosen {σ : Type} {backend : Storage.Backend σ} {s : σ} {library : Library}
    {chosen : Option Path} (h : ((loadChosen chosen).run.run backend s).1 = .ok library) :
    library.Full := by
  cases chosen with
  | none =>
    rw [loadChosen, run_lift_ofLists] at h
    have hlists : ofLists bundledQuotes bundledPractices = .ok library := h
    exact full_of_ofLists hlists
  | some folder =>
    rw [loadChosen, load] at h
    rcases hquotes : (loadList (folder.join quotesFile) quotesIn? bundledQuotes).run.run backend s
      with ⟨e | quotes, s₁⟩
    · rw [Procedure.run_attempt_error _ hquotes] at h
      cases h
    rw [Procedure.run_attempt_ok _ hquotes] at h
    rcases hpractices : (loadList (folder.join practicesFile) practicesIn?
      bundledPractices).run.run backend s₁ with ⟨e | practices, s₂⟩
    · rw [Procedure.run_attempt_error _ hpractices] at h
      cases h
    rw [Procedure.run_attempt_ok _ hpractices, run_lift_ofLists] at h
    exact full_of_ofLists h

end Daybook.Library

namespace Daybook.Config

theorem journal_looks (config : Config) :
    config.journal.run.Asks fun q => Storage.Query.looks q = true :=
  (Library.loadChosen_looks _).attempt fun _ => trivial

/-- The journal of the settings is where they say, with the library that is loaded. -/
theorem run_journal {σ : Type} (backend : Storage.Backend σ) (config : Config) (s : σ) :
    config.journal.run.run backend s
      = (((Library.loadChosen config.libraryFolder).run.run backend s).1.map
          fun library => ⟨config.layout, library, config.builder⟩,
        ((Library.loadChosen config.libraryFolder).run.run backend s).2) :=
  Procedure.run_attempt_map _ (Library.loadChosen config.libraryFolder) s

theorem layout_of_journal {σ : Type} {backend : Storage.Backend σ} {config : Config} {s : σ}
    {journal : Journal} (h : (config.journal.run.run backend s).1 = .ok journal) :
    journal.layout = config.layout := by
  rw [run_journal] at h
  cases hload : ((Library.loadChosen config.libraryFolder).run.run backend s).1 with
  | error e =>
    rw [hload] at h
    cases h
  | ok library =>
    rw [hload] at h
    cases h
    rfl

end Daybook.Config
