/-
Daybook.Proofs.Journal.Ensure — what making sure of one note comes to.

Without faults it comes to a new memory, `Memory.withNote`: the folder is
made if nothing is in its place, and the note is put into it if nothing is
in the place of the note. Only a file in the place of the folder can prevent
that (`run_ensureAt`).

Faults do not lead elsewhere (`ensureAt_seen`). Under any of them the memory
stays as it was, or the folder is there and nothing else, or all went as it
goes without faults. Neither of the first two makes a difference for who
tries again (`run_ensureAt_withFolder`), and who finds the note there
changes nothing (`run_ensureAt_present`).
-/
import Daybook.Journal.Ensure
import Daybook.Proofs.Layout.Places
import Daybook.Proofs.Storage.Closed
import Mathlib.Data.List.TakeWhile

namespace Daybook

/-- A place for a note: its file lies in its folder. -/
structure Location.Fits (location : Location) : Prop where
  folder : location.folder.isEmpty = false
  parent : ∃ parent, location.file.parent? = some parent
    ∧ parent.same location.folder = true

theorem Layout.locate_fits (layout : Layout) (period : Period) (day : Calendar.Day) :
    (layout.locate period day).Fits where
  folder := layout.folder_not_empty period day
  parent := layout.parent?_file period day

/-- To make the folder of one note never brings another note about. -/
theorem Layout.folder_apart (layout : Layout) (p q : Period) (a b : Calendar.Day) :
    ∀ above ∈ (layout.locate p a).folder.ancestors,
      above.same (layout.locate q b).file = false :=
  fun _ habove => layout.not_same_of_ancestor (p := p) habove

namespace Storage.Memory

variable {m : Memory} {folder p : Path} {location : Location} {text t : String}

/-! ## A memory with a note -/

/-- The memory with a folder made, if nothing is in its place. -/
def withFolder (m : Memory) (folder : Path) : Memory :=
  if m.has folder then m else m.addFolders folder

/-- The memory with a note and its folder, each made if nothing is in its
place. -/
def withNote (m : Memory) (location : Location) (text : String) : Memory :=
  if (m.withFolder location.folder).has location.file then m.withFolder location.folder
  else (m.withFolder location.folder).put location.file text

theorem withFolder_of_has (h : m.has folder = true) : m.withFolder folder = m :=
  if_pos h

@[simp] theorem files_withFolder (m : Memory) (folder : Path) :
    (m.withFolder folder).files = m.files := by
  unfold withFolder
  split
  · rfl
  · exact files_addFolders m folder

@[simp] theorem textAt?_withFolder (m : Memory) (folder p : Path) :
    (m.withFolder folder).textAt? p = m.textAt? p := by
  simp only [textAt?, files_withFolder]

theorem hasFolder_withFolder (m : Memory) (folder p : Path) :
    (m.withFolder folder).hasFolder p = (m.hasFolder p || (!m.has folder
      && (folder.ancestors.takeWhile fun f => !f.isEmpty).any fun f => f.same p)) := by
  unfold withFolder
  cases m.has folder with
  | true => simp
  | false => simp [hasFolder_addFolders]

theorem hasFolder_withFolder_iff : (m.withFolder folder).hasFolder p = true
    ↔ m.hasFolder p = true ∨ m.has folder = false
      ∧ p.components ≠ [] ∧ p.components <+: folder.components := by
  rw [hasFolder_withFolder, Bool.or_eq_true, Bool.and_eq_true, Path.any_ancestor_iff,
    Bool.not_eq_true']

theorem has_withFolder_self (h : folder.isEmpty = false) :
    (m.withFolder folder).has folder = true := by
  unfold withFolder
  split
  · assumption
  · exact has_iff.mpr (.inr (hasFolder_addFolders_self h))

theorem has_withFolder_of_has (h : m.has p = true) : (m.withFolder folder).has p = true := by
  rw [has_iff] at h ⊢
  rw [textAt?_withFolder, hasFolder_withFolder]
  exact h.imp_right fun hfolder => by rw [hfolder, Bool.true_or]

/-- Nothing comes about but the folder and those above it. -/
theorem has_withFolder_apart (h : ∀ a ∈ folder.ancestors, a.same p = false) :
    (m.withFolder folder).has p = m.has p := by
  have hnone : ((folder.ancestors.takeWhile fun f => !f.isEmpty).any fun f => f.same p)
      = false := by
    rw [List.any_eq_false]
    intro a ha
    simp [h a ((List.takeWhile_sublist _).subset ha)]
  simp only [has, hasFile_eq, textAt?_withFolder, hasFolder_withFolder, hnone, Bool.and_false,
    Bool.or_false]

theorem withFolder_withFolder (h : folder.isEmpty = false) :
    (m.withFolder folder).withFolder folder = m.withFolder folder :=
  withFolder_of_has (has_withFolder_self h)

theorem foldl_addFolder_of_hasFolder {folders : List Path}
    (h : ∀ f ∈ folders, m.hasFolder f = true) : folders.foldl addFolder m = m := by
  induction folders with
  | nil => rfl
  | cons f folders ih =>
    have hfirst : m.addFolder f = m := if_pos (h f List.mem_cons_self)
    rw [List.foldl_cons, hfirst]
    exact ih fun f' hf' => h f' (List.mem_cons_of_mem _ hf')

/-- A closed memory has nothing to add to a folder that is there. -/
theorem addFolders_of_hasFolder (hclosed : m.Closed) (h : m.hasFolder folder = true) :
    m.addFolders folder = m := by
  refine foldl_addFolder_of_hasFolder fun a ha => ?_
  obtain ⟨hne, rest, hrest⟩ :=
    Path.any_ancestor_iff.mp (List.any_eq_true.mpr ⟨a, ha, Path.same_refl a⟩)
  cases rest with
  | nil =>
    rw [List.append_nil] at hrest
    rw [hasFolder_congr (Path.same_iff.mpr hrest)]
    exact h
  | cons c rest =>
    obtain ⟨f, hf, hcomp⟩ :=
      hclosed.folder_of_prefix hne (List.cons_ne_nil c rest) (has_iff.mpr (.inr h)) hrest.symm
    exact hasFolder_iff.mpr ⟨f, hf, hcomp⟩

/-- In a closed memory it does not matter whether a folder is seen: to make it
again changes nothing. -/
theorem addFolders_eq_withFolder (hclosed : m.Closed) (h : m.hasFile folder = false) :
    m.addFolders folder = m.withFolder folder := by
  unfold withFolder
  split
  · rename_i hhas
    rw [has, h, Bool.false_or] at hhas
    exact addFolders_of_hasFolder hclosed hhas
  · rfl

/-- A text that is put where no file is comes after the others. -/
theorem files_put (h : m.hasFile p = false) (text : String) :
    (m.put p text).files = m.files ++ [(p, text)] := by
  have hputIn : ∀ files : List (Path × String), (files.any fun file => file.1.same p) = false →
      putIn p text files = files ++ [(p, text)] := by
    intro files hfiles
    induction files with
    | nil => rfl
    | cons file files ih =>
      simp only [List.any_cons, Bool.or_eq_false_iff] at hfiles
      simp [putIn, hfiles.1, ih hfiles.2]
  exact hputIn m.files h

theorem withNote_of_has (h : (m.withFolder location.folder).has location.file = true) :
    m.withNote location text = m.withFolder location.folder :=
  if_pos h

theorem withNote_of_free (h : (m.withFolder location.folder).has location.file = false) :
    m.withNote location text = (m.withFolder location.folder).put location.file text :=
  if_neg (by simp [h])

@[simp] theorem hasFolder_withNote (m : Memory) (location : Location) (text : String) (p : Path) :
    (m.withNote location text).hasFolder p = (m.withFolder location.folder).hasFolder p := by
  unfold withNote
  split <;> rfl

theorem textAt?_withNote (m : Memory) (location : Location) (text : String) (p : Path) :
    (m.withNote location text).textAt? p
      = if (m.withFolder location.folder).has location.file = false ∧ location.file.same p = true
        then some text else m.textAt? p := by
  unfold withNote
  split
  · simp_all
  · rename_i hfree
    simp only [textAt?_put, textAt?_withFolder, Bool.not_eq_true _ ▸ hfree, true_and]

theorem has_withNote_file : (m.withNote location text).has location.file = true := by
  unfold withNote
  split
  · assumption
  · exact has_iff.mpr (.inl ⟨text, by simp [textAt?_put]⟩)

theorem has_withNote_folder (h : location.folder.isEmpty = false) :
    (m.withNote location text).has location.folder = true := by
  have hfolder := has_withFolder_self (m := m) h
  rw [has_iff] at hfolder ⊢
  rw [hasFolder_withNote, textAt?_withNote]
  refine hfolder.imp_left fun hfile => ?_
  split
  · exact ⟨text, rfl⟩
  · simpa using hfile

theorem has_withNote_of_has (h : m.has p = true) : (m.withNote location text).has p = true := by
  rw [has_iff] at h ⊢
  rw [hasFolder_withNote, textAt?_withNote, hasFolder_withFolder]
  rcases h with ⟨t, ht⟩ | hfolder
  · refine .inl ?_
    split
    · exact ⟨text, rfl⟩
    · exact ⟨t, ht⟩
  · exact .inr (by rw [hfolder, Bool.true_or])

/-- Elsewhere nothing comes about. -/
theorem has_withNote_apart (hfolder : ∀ a ∈ location.folder.ancestors, a.same p = false)
    (hfile : location.file.same p = false) :
    (m.withNote location text).has p = m.has p := by
  have htext : (m.withNote location text).textAt? p = (m.withFolder location.folder).textAt? p := by
    simp [textAt?_withNote, hfile]
  calc (m.withNote location text).has p
      = (m.withFolder location.folder).has p := by
        simp only [has, hasFile_eq, htext, hasFolder_withNote]
    _ = m.has p := has_withFolder_apart hfolder

/-- A note is put after the other files, if it was missing. -/
theorem files_withNote (h : ∀ a ∈ location.folder.ancestors, a.same location.file = false) :
    (m.withNote location text).files
      = m.files ++ [(location.file, text)].filter fun file => !m.has file.1 := by
  have hapart := has_withFolder_apart (m := m) h
  cases hhas : m.has location.file with
  | true =>
    rw [withNote_of_has (hapart.trans hhas)]
    simp [hhas]
  | false =>
    have hfree := hapart.trans hhas
    rw [withNote_of_free hfree, files_put (Bool.or_eq_false_iff.mp hfree).1]
    simp [hhas]

theorem hasParent_fits (m : Memory) (h : location.Fits) :
    m.hasParent location.file = m.hasFolder location.folder := by
  obtain ⟨parent, hparent, hsame⟩ := h.parent
  have hempty : parent.isEmpty = false := by
    rw [← Bool.not_eq_true, Path.isEmpty_iff, Path.same_iff.mp hsame, ← Path.isEmpty_iff,
      Bool.not_eq_true]
    exact h.folder
  rw [hasParent, hparent]
  simp only [hempty, Bool.false_or]
  exact hasFolder_congr hsame

end Storage.Memory

/-! ## Making sure -/

namespace Journal

open Storage (Faults Memory Try Work isPresent_cases isPresent_seen create_cases makeFolders_cases seen)

variable (faults : Faults) {m : Memory}

/-- A question to the storage is answered, and the work goes on with the reply. -/
theorem run_ask {σ α : Type} {backend : Storage.Backend σ} {q : Storage.Query}
    {next : q.Reply → Work α} {reply : q.Reply} {s s' : σ} (h : backend q s = (reply, s')) :
    Procedure.run backend (.ask q next : Work α) s = (next reply).run backend s' := by
  simp only [Procedure.run, h]

theorem ensureFolder_run (folder : Path) :
    (ensureFolder folder).run = .ask (.isPresent folder) fun (there : Bool) =>
      if there then .done (.ok ()) else .ask (.makeFolders folder) fun made =>
        .done (Except.mapError (.createFolder folder) made) := by
  refine congrArg (@Procedure.ask Storage.interface _ (.isPresent folder)) (funext fun there => ?_)
  cases (there : Bool) with
  | true => rfl
  | false =>
    refine congrArg (@Procedure.ask Storage.interface _ (.makeFolders folder)) (funext fun made => ?_)
    cases (made : Except StorageError Unit) <;> rfl

/-- What was created, or found to be there after all. -/
def createdOr (file : Path) : Except StorageError Unit → Except JournalError Ensured
  | .ok () => .ok .created
  | .error cause =>
    if cause.kind = .alreadyExists then .ok .present else .error (.fileWrite file cause)

theorem ensureFile_run (file : Path) (text : String) :
    (ensureFile file text).run = .ask (.isPresent file) fun (there : Bool) =>
      if there then .done (.ok .present) else .ask (.create file text) fun made =>
        .done (createdOr file made) := by
  refine congrArg (@Procedure.ask Storage.interface _ (.isPresent file)) (funext fun there => ?_)
  cases (there : Bool) with
  | true => rfl
  | false =>
    refine congrArg (@Procedure.ask Storage.interface _ (.create file text)) (funext fun made => ?_)
    cases (made : Except StorageError Unit) with
    | ok u => rfl
    | error cause =>
      show (ExceptT.run (if cause.kind = .alreadyExists then (pure .present : Try Ensured)
        else throw (.fileWrite file cause))) = .done (if cause.kind = .alreadyExists then .ok .present
        else .error (.fileWrite file cause))
      split <;> rfl

theorem run_ensureFolder (m : Memory) (folder : Path) :
    (ensureFolder folder).run.run Memory.answer m = (.ok (), m.withFolder folder) := by
  have hlook : Memory.answer (.isPresent folder) m = (m.has folder, m) := rfl
  rw [ensureFolder_run, Memory.withFolder]
  refine (run_ask hlook).trans ?_
  cases hhas : m.has folder with
  | true => rfl
  | false =>
    rw [Memory.has, Bool.or_eq_false_iff] at hhas
    have hmake : Memory.answer (.makeFolders folder) m = (Except.ok (), m.addFolders folder) :=
      if_neg (by simp [hhas.1])
    exact run_ask hmake

/-- A fault leaves everything as it was, or it does not show. -/
theorem ensureFolder_seen (hclosed : m.Closed) (folder : Path) :
    (∃ cause, (ensureFolder folder).run.run (seen faults) m
        = (.error (.createFolder folder cause), m))
      ∨ (ensureFolder folder).run.run (seen faults) m = (.ok (), m.withFolder folder) := by
  rw [ensureFolder_run]
  rcases isPresent_cases faults m folder with hlook | ⟨hhas, hlook⟩
  · rcases makeFolders_cases faults m folder with hmake | ⟨_, hmake⟩ | ⟨hfile, hmake⟩
    · exact .inl ⟨_, (run_ask hlook).trans (run_ask hmake)⟩
    · exact .inl ⟨_, (run_ask hlook).trans (run_ask hmake)⟩
    · rw [← Memory.addFolders_eq_withFolder hclosed hfile]
      exact .inr ((run_ask hlook).trans (run_ask hmake))
  · rw [Memory.withFolder_of_has hhas]
    exact .inr (run_ask hlook)

theorem run_ensureFile (m : Memory) (file : Path) (text : String) :
    (ensureFile file text).run.run Memory.answer m
      = if m.has file then (.ok .present, m)
        else if m.hasParent file then (.ok .created, m.put file text)
        else (.error (.fileWrite file (.noParent file)), m) := by
  have hlook : Memory.answer (.isPresent file) m = (m.has file, m) := rfl
  rw [ensureFile_run]
  refine (run_ask hlook).trans ?_
  cases hhas : m.has file with
  | true => rfl
  | false =>
    have hcreate : Memory.answer (.create file text) m
        = if m.hasParent file then (Except.ok (), m.put file text)
          else (Except.error (.noParent file), m) := if_neg (by simp [hhas])
    cases hparent : m.hasParent file with
    | true =>
      rw [if_pos hparent] at hcreate
      exact run_ask hcreate
    | false =>
      rw [if_neg (by simp [hparent])] at hcreate
      exact run_ask hcreate

/-- A fault leaves everything as it was, or it does not show. -/
theorem ensureFile_seen (m : Memory) (file : Path) (text : String) :
    (∃ e, (ensureFile file text).run.run (seen faults) m = (.error e, m))
      ∨ (ensureFile file text).run.run (seen faults) m
        = (ensureFile file text).run.run Memory.answer m := by
  rw [run_ensureFile, ensureFile_run]
  rcases isPresent_cases faults m file with hlook | ⟨hhas, hlook⟩
  · rcases create_cases faults m file text with hmake | ⟨hhas, hmake⟩ | ⟨_, _, hmake⟩
      | ⟨hfree, hparent, hmake⟩
    · exact .inl ⟨_, (run_ask hlook).trans (run_ask hmake)⟩
    · -- the blind look is made up for: creating the file finds it
      rw [if_pos hhas]
      exact .inr ((run_ask hlook).trans (run_ask hmake))
    · exact .inl ⟨_, (run_ask hlook).trans (run_ask hmake)⟩
    · rw [if_neg (by simp [hfree]), if_pos hparent]
      exact .inr ((run_ask hlook).trans (run_ask hmake))
  · rw [if_pos hhas]
    exact .inr (run_ask hlook)

variable (m) {location : Location} (hfits : location.Fits) (text : String)

/-- First the folder, then the file. -/
theorem run_ensureAt_eq (location : Location) (text : String) :
    (ensureAt location text).run.run Memory.answer m
      = (ensureFile location.file text).run.run Memory.answer (m.withFolder location.folder) :=
  Procedure.run_attempt_ok _ (run_ensureFolder m _)

include hfits

/-- Nothing but a file in the place of the folder is in the way of a note. -/
theorem run_ensureAt (hfile : m.hasFile location.folder = false) :
    ∃ done, (ensureAt location text).run.run Memory.answer m
      = (.ok done, m.withNote location text) := by
  have hfolder : (m.withFolder location.folder).hasFolder location.folder = true := by
    have hhas := Memory.has_withFolder_self (m := m) hfits.folder
    rwa [Memory.has, Memory.hasFile_eq, Memory.textAt?_withFolder, ← Memory.hasFile_eq, hfile,
      Bool.false_or] at hhas
  rw [run_ensureAt_eq, run_ensureFile, Memory.hasParent_fits _ hfits, if_pos hfolder]
  cases hhas : (m.withFolder location.folder).has location.file with
  | true => exact ⟨.present, by rw [Memory.withNote_of_has hhas]; rfl⟩
  | false => exact ⟨.created, by rw [Memory.withNote_of_free hhas]; rfl⟩

/-- A run that was stopped before the note was made can be made up for: having
the folder already makes no difference. -/
theorem run_ensureAt_withFolder :
    (ensureAt location text).run.run Memory.answer (m.withFolder location.folder)
      = (ensureAt location text).run.run Memory.answer m := by
  rw [run_ensureAt_eq, run_ensureAt_eq, Memory.withFolder_withFolder hfits.folder]

omit hfits

/-- A note that is there is left alone. -/
theorem run_ensureAt_present {faults : Faults} {m : Memory} (hblind : faults.blind = false)
    (hfolder : m.has location.folder = true) (hfile : m.has location.file = true) :
    (ensureAt location text).run.run (seen faults) m = (.ok .present, m) := by
  have hfolders : (ensureFolder location.folder).run.run (seen faults) m = (.ok (), m) := by
    rw [ensureFolder_run]
    refine (run_ask (isPresent_seen hblind m _)).trans ?_
    rw [hfolder]
    rfl
  refine (Procedure.run_attempt_ok _ hfolders).trans ?_
  rw [ensureFile_run]
  refine (run_ask (isPresent_seen hblind m _)).trans ?_
  rw [hfile]
  rfl

/-- A fault leaves everything as it was, or no more than the folder is made, or
all goes as it goes without faults. -/
theorem ensureAt_seen (hclosed : m.Closed) (location : Location) :
    (∃ e, (ensureAt location text).run.run (seen faults) m = (.error e, m))
      ∨ (∃ e, (ensureAt location text).run.run (seen faults) m
        = (.error e, m.withFolder location.folder))
      ∨ ∃ done, (ensureAt location text).run.run (seen faults) m
          = (.ok done, m.withNote location text)
        ∧ (ensureAt location text).run.run Memory.answer m
          = (.ok done, m.withNote location text) := by
  rcases ensureFolder_seen faults hclosed location.folder with ⟨cause, hmake⟩ | hmake
  · exact .inl ⟨_, Procedure.run_attempt_error _ hmake⟩
  · have hrun : (ensureAt location text).run.run (seen faults) m
        = (ensureFile location.file text).run.run (seen faults) (m.withFolder location.folder) :=
      Procedure.run_attempt_ok _ hmake
    rw [hrun, run_ensureAt_eq]
    rcases ensureFile_seen faults (m.withFolder location.folder) location.file text
      with ⟨e, hfail⟩ | hsame
    · exact .inr (.inl ⟨e, hfail⟩)
    · rw [hsame, run_ensureFile]
      cases hhas : (m.withFolder location.folder).has location.file with
      | true =>
        rw [Memory.withNote_of_has hhas]
        exact .inr (.inr ⟨.present, rfl, rfl⟩)
      | false =>
        rw [Memory.withNote_of_free hhas, if_neg Bool.false_ne_true]
        split
        · exact .inr (.inr ⟨.created, rfl, rfl⟩)
        · exact .inr (.inl ⟨_, rfl⟩)

end Journal

end Daybook
