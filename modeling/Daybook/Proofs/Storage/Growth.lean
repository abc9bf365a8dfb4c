/-
Daybook.Proofs.Storage.Growth — a storage that is not written over only grows.

A memory is looked at through three views: the text at a path, whether
something is there, and whether a folder is there. The first half says what
putting a file and adding folders do to the views. The second half says what
one answer does to them, under any faults:

* what was there stays there, and unless the question was to write, files
  keep their texts (`has_answer`, `textAt?_answer`);
* a new file comes from `create` and a new folder from `makeFolders`
  (`textAt?_of_answer`, `hasFolder_of_answer`);
* a reply that shows something to be there tells the truth
  (`has_of_shows`), while a reply that shows nothing may be a lie.

So evidence once given is good for ever. That is what lets a journal act on
what it was told some steps ago, however many others use the storage.
-/
import Daybook.Proofs.Path.Components
import Daybook.Storage.Faults
import Daybook.Storage.Memory

namespace Daybook.Storage

namespace Memory

variable {m : Memory} {path p : Path} {text t : String}

/-! ## Putting a file -/

theorem find?_putIn (path : Path) (text : String) (p : Path) (files : List (Path × String)) :
    ((putIn path text files).find? fun file => file.1.same p).map (·.2)
      = if path.same p then some text else (files.find? fun file => file.1.same p).map (·.2) := by
  induction files with
  | nil =>
    simp only [putIn, List.find?_cons, List.find?_nil]
    split <;> simp_all
  | cons file files ih =>
    by_cases hfile : file.1.same path = true
    · -- the file that is written over is found for `p` exactly when `path` is
      have hsame : file.1.same p = path.same p := by
        rw [Path.same_comm, Path.same_comm path, Path.same_congr hfile]
      simp only [putIn, hfile, if_true, List.find?_cons, hsame]
      split <;> simp_all
    · simp only [putIn, hfile, Bool.false_eq_true, if_false, List.find?_cons]
      split
      · rename_i hp
        have hne : path.same p = false := by
          rw [← Bool.not_eq_true]
          intro hpath
          exact hfile (Path.same_trans hp (by rw [Path.same_comm]; exact hpath))
        simp [hne]
      · exact ih

theorem textAt?_put (m : Memory) (path : Path) (text : String) (p : Path) :
    (m.put path text).textAt? p = if path.same p then some text else m.textAt? p :=
  find?_putIn path text p m.files

theorem hasFile_eq (m : Memory) (p : Path) : m.hasFile p = (m.textAt? p).isSome := by
  rw [hasFile, textAt?, Option.isSome_map, Bool.eq_iff_iff, List.any_eq_true, List.find?_isSome]

@[simp] theorem hasFolder_put (m : Memory) (path : Path) (text : String) (p : Path) :
    (m.put path text).hasFolder p = m.hasFolder p := rfl

theorem has_iff : m.has p = true ↔ (∃ t, m.textAt? p = some t) ∨ m.hasFolder p = true := by
  simp [has, hasFile_eq, Option.isSome_iff_exists]

/-- Two spellings of one path find the same. -/
theorem has_congr {q : Path} (h : p.same q = true) : m.has p = m.has q := by
  simp only [has, hasFile, hasFolder, Path.same_congr h]

theorem hasFolder_congr {q : Path} (h : p.same q = true) : m.hasFolder p = m.hasFolder q := by
  simp only [hasFolder, Path.same_congr h]

theorem hasFile_congr {q : Path} (h : p.same q = true) : m.hasFile p = m.hasFile q := by
  simp only [hasFile, Path.same_congr h]

theorem hasFile_put (m : Memory) (path : Path) (text : String) (p : Path) :
    (m.put path text).hasFile p = (path.same p || m.hasFile p) := by
  rw [hasFile_eq, hasFile_eq, textAt?_put]
  split
  · rename_i hsame
    simp [hsame]
  · rename_i hother
    simp [Bool.eq_false_iff.mpr hother]

theorem textAt?_eq_none (h : m.has p = false) : m.textAt? p = none := by
  simp only [has, hasFile_eq, Bool.or_eq_false_iff, Option.isSome_eq_false_iff,
    Option.isNone_iff_eq_none] at h
  exact h.1

/-! ## Adding folders -/

theorem files_addFolder (m : Memory) (folder : Path) : (m.addFolder folder).files = m.files := by
  unfold addFolder
  split <;> rfl

theorem hasFolder_addFolder (m : Memory) (folder p : Path) :
    (m.addFolder folder).hasFolder p = (m.hasFolder p || folder.same p) := by
  unfold addFolder
  split
  · rename_i hfolder
    -- a folder that is there already is found by every spelling of its path
    cases hsame : folder.same p with
    | false => simp
    | true =>
      simp [← hasFolder_congr hsame, hfolder]
  · simp [hasFolder]

theorem files_addFolders (m : Memory) (folder : Path) : (m.addFolders folder).files = m.files := by
  unfold addFolders
  generalize folder.ancestors.takeWhile (fun f => !f.isEmpty) = folders
  induction folders generalizing m with
  | nil => rfl
  | cons f folders ih => rw [List.foldl_cons, ih, files_addFolder]

theorem hasFile_addFolders (m : Memory) (folder p : Path) :
    (m.addFolders folder).hasFile p = m.hasFile p := by
  simp only [hasFile, files_addFolders]

@[simp] theorem textAt?_addFolders (m : Memory) (folder p : Path) :
    (m.addFolders folder).textAt? p = m.textAt? p := by
  simp only [textAt?, files_addFolders]

theorem hasFolder_foldl (folders : List Path) (m : Memory) (p : Path) :
    (folders.foldl addFolder m).hasFolder p = (m.hasFolder p || folders.any fun f => f.same p) := by
  induction folders generalizing m with
  | nil => simp
  | cons f folders ih => simp [ih, hasFolder_addFolder, Bool.or_assoc]

theorem hasFolder_addFolders (m : Memory) (folder p : Path) :
    (m.addFolders folder).hasFolder p
      = (m.hasFolder p || (folder.ancestors.takeWhile fun f => !f.isEmpty).any fun f => f.same p) :=
  hasFolder_foldl _ m p

/-- A folder is there once it has been made. -/
theorem hasFolder_addFolders_self {folder : Path} (h : folder.isEmpty = false) :
    (m.addFolders folder).hasFolder folder = true := by
  rw [hasFolder_addFolders, Path.ancestors, List.takeWhile_cons_of_pos (by simp [h])]
  simp

/-- A folder that was not there is one of those that were asked for. -/
theorem hasFolder_of_addFolders {folder : Path} (h : (m.addFolders folder).hasFolder p = true) :
    m.hasFolder p = true ∨ ∃ a ∈ folder.ancestors, a.same p = true := by
  rw [hasFolder_addFolders, Bool.or_eq_true, List.any_eq_true] at h
  rcases h with h | ⟨a, ha, hsame⟩
  · exact .inl h
  · exact .inr ⟨a, (List.takeWhile_sublist _).subset ha, hsame⟩

end Memory

/-! ## What replies tell -/

namespace Query

/-- The question can change nothing. -/
def looks : Query → Bool
  | .isPresent _ | .isFolder _ | .read _ | .list _ | .depth => true
  | .write .. | .create .. | .makeFolders _ => false

/-- The question can change a file that is there. -/
def overwrites : Query → Bool
  | .write .. => true
  | _ => false

/-- The reply shows that something is at a path. -/
def shows (path : Path) : (q : Query) → q.Reply → Prop
  | .isPresent p, (present : Bool) => present = true ∧ p = path
  | .create p _, .ok () => p = path
  | .create p _, .error cause => cause.kind = .alreadyExists ∧ p = path
  | .makeFolders p, .ok () => p.isEmpty = false ∧ p = path
  | _, _ => False

/-- The file that was created, and its text. -/
def made? : (q : Query) → q.Reply → Option (Path × String)
  | .create p text, .ok () => some (p, text)
  | _, _ => none

/-- The storage did not do what it was asked. Finding a file in the place of
a new one is no failure. -/
def fails : (q : Query) → q.Reply → Prop
  | .read _, .error _ | .write .., .error _ | .makeFolders _, .error _ => True
  | .create .., .error cause => cause.kind ≠ .alreadyExists
  | _, _ => False

end Query

/-! ## What an answer does -/

section Answers

variable (faults : Faults) {m : Memory} {q : Query} {path p : Path} {text t : String}

/-- A memory as it is seen through faults. -/
abbrev seen (faults : Faults) : Backend Memory := faults.answer Memory.answer

theorem answer_looks (h : q.looks = true) (m : Memory) : (seen faults q m).2 = m := by
  cases q <;> simp only [Query.looks, Bool.false_eq_true] at h
  case list => simp only [seen, Faults.answer]; split <;> rfl
  all_goals simp only [seen, Faults.answer, Memory.answer]
  all_goals split <;> rfl

/-- Who is not blind sees what is there. -/
theorem isPresent_seen {faults : Faults} (hblind : faults.blind = false) (m : Memory)
    (path : Path) : seen faults (.isPresent path) m = (m.has path, m) := by
  simp only [seen, Faults.answer, hblind, Bool.false_eq_true, if_false]
  rfl

/-- Nothing is seen, or what is seen is there. -/
theorem isPresent_cases (m : Memory) (path : Path) :
    seen faults (.isPresent path) m = (false, m)
      ∨ (m.has path = true ∧ seen faults (.isPresent path) m = (true, m)) := by
  cases hblind : faults.blind with
  | true =>
    refine .inl ?_
    simp only [seen, Faults.answer, hblind, if_true]
    rfl
  | false =>
    rw [isPresent_seen hblind]
    cases m.has path with
    | true => exact .inr ⟨rfl, rfl⟩
    | false => exact .inl rfl

/-- The three ways in which writing a file can go. -/
theorem write_cases (m : Memory) (path : Path) (text : String) :
    seen faults (.write path text) m = (Except.error .denied, m)
      ∨ (m.hasParent path = false
          ∧ seen faults (.write path text) m = (Except.error (.noParent path), m))
      ∨ (m.hasParent path = true
          ∧ seen faults (.write path text) m = (Except.ok (), m.put path text)) := by
  cases hwrites : faults.writes with
  | true =>
    refine .inl ?_
    simp only [seen, Faults.answer, hwrites, if_true]
    rfl
  | false =>
    have hseen : seen faults (.write path text) m = m.write path text := by
      simp only [seen, Faults.answer, hwrites, Bool.false_eq_true, if_false]
      rfl
    rw [hseen, Memory.write]
    cases hparent : m.hasParent path with
    | true => exact .inr (.inr ⟨rfl, rfl⟩)
    | false => exact .inr (.inl ⟨rfl, rfl⟩)

/-- The four ways in which creating a file can go. -/
theorem create_cases (m : Memory) (path : Path) (text : String) :
    seen faults (.create path text) m = (Except.error .denied, m)
      ∨ (m.has path = true ∧ seen faults (.create path text) m = (Except.error (.taken path), m))
      ∨ (m.has path = false ∧ m.hasParent path = false
          ∧ seen faults (.create path text) m = (Except.error (.noParent path), m))
      ∨ (m.has path = false ∧ m.hasParent path = true
          ∧ seen faults (.create path text) m = (Except.ok (), m.put path text)) := by
  cases hwrites : faults.writes with
  | true =>
    refine .inl ?_
    simp only [seen, Faults.answer, hwrites, if_true]
    rfl
  | false =>
    have hseen : seen faults (.create path text) m = m.create path text := by
      simp only [seen, Faults.answer, hwrites, Bool.false_eq_true, if_false]
      rfl
    rw [hseen, Memory.create]
    cases hhas : m.has path with
    | true => exact .inr (.inl ⟨rfl, rfl⟩)
    | false =>
      cases hparent : m.hasParent path with
      | true => exact .inr (.inr (.inr ⟨rfl, rfl, rfl⟩))
      | false => exact .inr (.inr (.inl ⟨rfl, rfl, rfl⟩))

/-- The three ways in which making folders can go. -/
theorem makeFolders_cases (m : Memory) (folder : Path) :
    seen faults (.makeFolders folder) m = (Except.error .denied, m)
      ∨ (m.hasFile folder = true
          ∧ seen faults (.makeFolders folder) m = (Except.error (.fileInTheWay folder), m))
      ∨ (m.hasFile folder = false
          ∧ seen faults (.makeFolders folder) m = (Except.ok (), m.addFolders folder)) := by
  cases hfolders : faults.folders with
  | true =>
    refine .inl ?_
    simp only [seen, Faults.answer, hfolders, if_true]
    rfl
  | false =>
    have hseen : seen faults (.makeFolders folder) m = m.makeFolders folder := by
      simp only [seen, Faults.answer, hfolders, Bool.false_eq_true, if_false]
      rfl
    rw [hseen, Memory.makeFolders]
    cases hfile : m.hasFile folder with
    | true => exact .inr (.inl ⟨rfl, rfl⟩)
    | false => exact .inr (.inr ⟨rfl, rfl⟩)

/-- A refused request changes nothing. One that goes through creates a file
in a free place or makes folders, or it was to write. -/
theorem answer_cases (q : Query) (m : Memory) :
    (seen faults q m).2 = m
      ∨ (∃ path text, q = .create path text ∧ m.has path = false
          ∧ q.made? (seen faults q m).1 = some (path, text)
          ∧ (seen faults q m).2 = m.put path text)
      ∨ (∃ folder, q = .makeFolders folder ∧ m.hasFile folder = false
          ∧ (seen faults q m).2 = m.addFolders folder)
      ∨ (∃ path text, q = .write path text ∧ (seen faults q m).2 = m.put path text) := by
  cases q with
  | create path text =>
    rcases create_cases faults m path text with he | ⟨_, he⟩ | ⟨_, _, he⟩ | ⟨hfree, _, he⟩
    · exact .inl (by rw [he])
    · exact .inl (by rw [he])
    · exact .inl (by rw [he])
    · exact .inr (.inl ⟨path, text, rfl, hfree, by rw [he]; rfl, by rw [he]⟩)
  | makeFolders folder =>
    rcases makeFolders_cases faults m folder with he | ⟨_, he⟩ | ⟨hfile, he⟩
    · exact .inl (by rw [he])
    · exact .inl (by rw [he])
    · exact .inr (.inr (.inl ⟨folder, rfl, hfile, by rw [he]⟩))
  | write path text =>
    rcases write_cases faults m path text with he | ⟨_, he⟩ | ⟨_, he⟩
    · exact .inl (by rw [he])
    · exact .inl (by rw [he])
    · exact .inr (.inr (.inr ⟨path, text, rfl, by rw [he]⟩))
  | _ => exact .inl (answer_looks faults rfl m)

/-- A file keeps its text unless it is written. -/
theorem textAt?_answer (hq : q.overwrites = false) (h : m.textAt? p = some t) :
    (seen faults q m).2.textAt? p = some t := by
  rcases answer_cases faults q m with he | ⟨path, text, _, hfree, _, he⟩ | ⟨folder, _, _, he⟩
      | ⟨path, text, rfl, _⟩
  · rw [he, h]
  · rw [he, Memory.textAt?_put]
    split
    · rename_i hsame
      have hthere : m.has path = true :=
        (Memory.has_congr hsame).trans (Memory.has_iff.mpr (.inl ⟨t, h⟩))
      rw [hfree] at hthere
      cases hthere
    · exact h
  · rw [he, Memory.textAt?_addFolders, h]
  · simp [Query.overwrites] at hq

/-- Nothing is ever taken away. -/
theorem has_answer (q : Query) (h : m.has p = true) : (seen faults q m).2.has p = true := by
  rw [Memory.has_iff] at h ⊢
  rcases answer_cases faults q m with he | ⟨path, text, _, _, _, he⟩ | ⟨folder, _, _, he⟩
      | ⟨path, text, _, he⟩
  all_goals rw [he]
  · exact h
  · rw [Memory.textAt?_put, Memory.hasFolder_put]
    split
    · exact .inl ⟨text, rfl⟩
    · exact h
  · rw [Memory.textAt?_addFolders, Memory.hasFolder_addFolders]
    exact h.imp_right fun hf => by simp [hf]
  · rw [Memory.textAt?_put, Memory.hasFolder_put]
    split
    · exact .inl ⟨text, rfl⟩
    · exact h

/-- A file stays a file, also when it is written. -/
theorem hasFile_answer (q : Query) (h : m.hasFile p = true) :
    (seen faults q m).2.hasFile p = true := by
  rw [Memory.hasFile_eq] at h ⊢
  rcases answer_cases faults q m with he | ⟨path, text, _, _, _, he⟩ | ⟨folder, _, _, he⟩
      | ⟨path, text, _, he⟩
  all_goals rw [he]
  · exact h
  · rw [Memory.textAt?_put]
    split
    · rfl
    · exact h
  · rw [Memory.textAt?_addFolders]
    exact h
  · rw [Memory.textAt?_put]
    split
    · rfl
    · exact h

theorem hasFolder_answer (q : Query) (h : m.hasFolder p = true) :
    (seen faults q m).2.hasFolder p = true := by
  rcases answer_cases faults q m with he | ⟨path, text, _, _, _, he⟩ | ⟨folder, _, _, he⟩
      | ⟨path, text, _, he⟩
  all_goals rw [he]
  · exact h
  · exact h
  · simp [Memory.hasFolder_addFolders, h]
  · exact h

/-- A new file was created where nothing was. -/
theorem textAt?_of_answer (hq : q.overwrites = false) (h : (seen faults q m).2.textAt? p = some t) :
    m.textAt? p = some t
      ∨ ∃ path, q = .create path t ∧ q.made? (seen faults q m).1 = some (path, t)
        ∧ path.same p = true ∧ m.has path = false := by
  rcases answer_cases faults q m with he | ⟨path, text, rfl, hfree, hmade, he⟩ | ⟨folder, _, _, he⟩
      | ⟨path, text, rfl, _⟩
  · exact .inl (he ▸ h)
  · rw [he, Memory.textAt?_put] at h
    split at h
    · rename_i hsame
      cases h
      exact .inr ⟨path, rfl, hmade, hsame, hfree⟩
    · exact .inl h
  · rw [he, Memory.textAt?_addFolders] at h
    exact .inl h
  · simp [Query.overwrites] at hq

/-- Where something is, no text comes or goes. -/
theorem textAt?_of_has (hq : q.overwrites = false) (h : m.has p = true) :
    (seen faults q m).2.textAt? p = m.textAt? p := by
  cases htext : m.textAt? p with
  | some t => exact textAt?_answer faults hq htext
  | none =>
    cases hnew : (seen faults q m).2.textAt? p with
    | none => rfl
    | some t =>
      rcases textAt?_of_answer faults hq hnew with hold | ⟨path, _, _, hsame, hfree⟩
      · rw [htext] at hold
        cases hold
      · rw [Memory.has_congr hsame, h] at hfree
        cases hfree

/-- A new folder is one that was asked for, or one above it. -/
theorem hasFolder_of_answer (h : (seen faults q m).2.hasFolder p = true) :
    m.hasFolder p = true
      ∨ ∃ folder, q = .makeFolders folder ∧ ∃ a ∈ folder.ancestors, a.same p = true := by
  rcases answer_cases faults q m with he | ⟨path, text, _, _, _, he⟩ | ⟨folder, rfl, _, he⟩
      | ⟨path, text, _, he⟩
  · exact .inl (he ▸ h)
  · rw [he] at h
    exact .inl h
  · rw [he] at h
    exact (Memory.hasFolder_of_addFolders h).imp_right fun ha => ⟨folder, rfl, ha⟩
  · rw [he] at h
    exact .inl h

/-- What is new at a path is a file that was created or a folder that was made. -/
theorem has_of_answer (hq : q.overwrites = false) (h : (seen faults q m).2.has p = true) :
    m.has p = true
      ∨ (∃ path text, q = .create path text ∧ path.same p = true)
      ∨ ∃ folder, q = .makeFolders folder ∧ ∃ a ∈ folder.ancestors, a.same p = true := by
  rcases Memory.has_iff.mp h with ⟨text, htext⟩ | hfolder
  · rcases textAt?_of_answer faults hq htext with hold | ⟨path, rfl, _, hsame, _⟩
    · exact .inl (Memory.has_iff.mpr (.inl ⟨text, hold⟩))
    · exact .inr (.inl ⟨path, text, rfl, hsame⟩)
  · rcases hasFolder_of_answer faults hfolder with hold | hnew
    · exact .inl (Memory.has_iff.mpr (.inr hold))
    · exact .inr (.inr hnew)

/-- A reply that shows something to be there tells the truth. -/
theorem has_of_shows (h : q.shows p (seen faults q m).1) : (seen faults q m).2.has p = true := by
  cases q with
  | isPresent path =>
    rw [answer_looks faults rfl]
    obtain ⟨hpresent, rfl⟩ := h
    cases hblind : faults.blind with
    | true => simp [seen, Faults.answer, hblind] at hpresent
    | false => simpa [seen, Faults.answer, Memory.answer, hblind] using hpresent
  | create path text =>
    rcases create_cases faults m path text with he | ⟨htaken, he⟩ | ⟨_, _, he⟩ | ⟨_, _, he⟩
    all_goals rw [he] at h ⊢
    · exact absurd h.1 (by simp [StorageError.kind])
    · exact h.2 ▸ htaken
    · exact absurd h.1 (by simp [StorageError.kind])
    · rw [Memory.has_iff, Memory.textAt?_put, Path.same_iff.mpr (congrArg _ h)]
      exact .inl ⟨text, rfl⟩
  | makeFolders folder =>
    rcases makeFolders_cases faults m folder with he | ⟨_, he⟩ | ⟨_, he⟩
    all_goals rw [he] at h ⊢
    · exact absurd h id
    · exact absurd h id
    · obtain ⟨hempty, rfl⟩ := h
      exact Memory.has_iff.mpr (.inr (Memory.hasFolder_addFolders_self hempty))
  | _ => exact absurd h id

/-- What was created was not there before and is there with its text. -/
theorem textAt?_of_made (h : q.made? (seen faults q m).1 = some (path, text)) :
    m.has path = false ∧ (seen faults q m).2.textAt? path = some text
      ∧ q = .create path text := by
  cases q with
  | create p t =>
    rcases create_cases faults m p t with he | ⟨_, he⟩ | ⟨_, _, he⟩ | ⟨hfree, _, he⟩
    all_goals rw [he] at h ⊢
    · simp [Query.made?] at h
    · simp [Query.made?] at h
    · simp [Query.made?] at h
    · simp only [Query.made?, Option.some.injEq, Prod.mk.injEq] at h
      obtain ⟨rfl, rfl⟩ := h
      exact ⟨hfree, by simp [Memory.textAt?_put], rfl⟩
  | _ => simp [Query.made?] at h

/-- Without faults a memory is seen as it is. -/
theorem seen_none : seen Faults.none = Memory.answer := by
  funext q m
  cases q with
  | list path =>
    have hall : (m.entries path).filter (fun entry => !Faults.none.hides entry) = m.entries path :=
      List.filter_eq_self.mpr fun _ _ => rfl
    exact congrArg (fun entries => ((Except.ok entries : Except StorageError (List Path)), m)) hall
  | _ => rfl

end Answers

end Daybook.Storage
