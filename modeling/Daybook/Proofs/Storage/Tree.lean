/-
Daybook.Proofs.Storage.Tree — where paths lead after something was put into a file tree.

To follow a path is to go from folder to folder. So an entry that is put where
no folder is stands in nobody's way: every path leads where it led, only that
the entry is now at the end of those that lead to its place (`Leads.put`).

From that, a file whose folder is there can be written, again and again, and
holds what was written last (`Admits.write`).
-/
import Daybook.Storage.Tree

namespace Daybook.Storage

namespace Target

def place : Target → Place
  | found place _ | vacant place => place

def entry? : Target → Option Entry
  | found _ entry => some entry
  | vacant _ => none

/-- Where a path leads that led to this target, once an entry was put at a place. -/
def afterPut (place : Place) (entry : Entry) (target : Target) : Target :=
  if target.place = place then .found place entry else target

end Target

namespace Tree

variable {t : Tree} {place p : Place} {entry : Entry} {target : Target} {path : Path}
  {text : String}

/-! ## Putting -/

theorem find?_putIn (place : Place) (entry : Entry) (p : Place) (entries : List (Place × Entry)) :
    (putIn place entry entries).find? (fun e => e.1 == p)
      = if p = place then some (place, entry) else entries.find? fun e => e.1 == p := by
  induction entries with
  | nil => by_cases h : p = place <;> simp [putIn, h, Ne.symm]
  | cons e more ih =>
    by_cases he : e.1 = place
    · by_cases h : p = place
      · simp [putIn, he, h]
      · have hne : ¬ place = p := fun hp => h hp.symm
        simp [putIn, he, h, hne]
    · by_cases hp : e.1 = p
      · have hne : ¬ p = place := fun h => he (hp.trans h)
        simp [putIn, hp, hne]
      · simp [putIn, he, hp, ih]

theorem at?_put (t : Tree) (hplace : place ≠ []) (entry : Entry) (p : Place) :
    (t.put place entry).at? p = if p = place then some entry else t.at? p := by
  unfold at? put
  rw [find?_putIn]
  by_cases h : p = place
  · simp [h, hplace]
  · simp [h]

theorem ne_nil_of_at? (h : t.at? place ≠ some .folder) : place ≠ [] := by
  rintro rfl
  exact h rfl

/-! ## Following -/

/-- Where names lead from a place: each but the last from one folder to what
is in it, the last to something there or to a free place in a folder. -/
inductive Leads (t : Tree) : Place → List String → Target → Prop where
  | found {p : Place} {entry : Entry} (hp : t.at? p = some entry) : Leads t p [] (.found p entry)
  | vacant {p : Place} {name : String} (hp : t.at? p = some .folder)
      (hname : name.utf8ByteSize ≤ nameLimit) (hnext : t.at? (step p name) = none) :
      Leads t p [name] (.vacant (step p name))
  | through {p : Place} {name : String} {more : List String} {target : Target}
      (hp : t.at? p = some .folder) (hname : name.utf8ByteSize ≤ nameLimit)
      (rest : Leads t (step p name) more target) : Leads t p (name :: more) target

theorem Leads.start {names : List String} (h : t.Leads p names target) :
    ∃ entry, t.at? p = some entry := by
  cases h with
  | found hp => exact ⟨_, hp⟩
  | vacant hp | through hp => exact ⟨_, hp⟩

theorem follow_iff {names : List String} : t.follow p names = .ok target ↔ t.Leads p names target := by
  induction names generalizing p with
  | nil =>
    unfold follow
    constructor
    · intro h
      split at h
      next hp =>
        cases h
        exact .found hp
      next => cases h
    · rintro ⟨hp⟩
      rw [hp]
  | cons name more ih =>
    unfold follow
    constructor
    · intro h
      split at h
      next => cases h
      next => cases h
      next hp =>
        split at h
        next => cases h
        next hname =>
          dsimp only at h
          split at h
          next hnext =>
            cases h
            exact .vacant hp (Nat.not_lt.mp hname) hnext
          next => cases h
          next => exact .through hp (Nat.not_lt.mp hname) (ih.mp h)
    · intro h
      cases h with
      | vacant hp hname hnext => simp only [hp, Nat.not_lt.mpr hname, if_false, hnext]
      | through hp hname rest =>
        obtain ⟨entry, hnext⟩ := rest.start
        simp only [hp, Nat.not_lt.mpr hname, if_false, hnext]
        exact ih.mpr rest

/-- Names lead to what is at their place. -/
theorem Leads.at? {names : List String} (h : t.Leads p names target) :
    t.at? target.place = target.entry? := by
  induction h with
  | found hp => exact hp
  | vacant _ _ hnext => exact hnext
  | through _ _ _ ih => exact ih

/-- Names lead where they led after an entry was put where no folder is. -/
theorem Leads.put (hplace : t.at? place ≠ some .folder) {names : List String}
    (h : t.Leads p names target) :
    (t.put place entry).Leads p names (target.afterPut place entry) := by
  have hat := at?_put t (ne_nil_of_at? hplace) entry
  -- A folder on the way is not the place of the entry.
  have hfolder : ∀ {q : Place}, t.at? q = some .folder →
      (t.put place entry).at? q = some .folder := by
    intro q hq
    have hne : ¬ q = place := fun he => hplace (he ▸ hq)
    rw [hat, if_neg hne, hq]
  induction h with
  | @found q e hq =>
    by_cases hqe : q = place
    · subst hqe
      have hentry : (t.put q entry).at? q = some entry := by rw [hat, if_pos rfl]
      simpa [Target.afterPut, Target.place] using Leads.found hentry
    · have hentry : (t.put place entry).at? q = some e := by rw [hat, if_neg hqe, hq]
      simpa [Target.afterPut, Target.place, hqe] using Leads.found hentry
  | @vacant q name hq hname hnext =>
    by_cases hqe : step q name = place
    · have hentry : (t.put place entry).at? (step q name) = some entry := by rw [hat, if_pos hqe]
      have hrest := Leads.through (hfolder hq) hname (Leads.found hentry)
      simpa [Target.afterPut, Target.place, hqe] using hrest
    · have hnone : (t.put place entry).at? (step q name) = none := by
        rw [hat, if_neg hqe, hnext]
      simpa [Target.afterPut, Target.place, hqe] using Leads.vacant (hfolder hq) hname hnone
  | through hq hname _ ih => exact .through (hfolder hq) hname ih

/-- A path as the system takes one. -/
def IsWellWritten (path : Path) : Prop :=
  path.text.toList.contains '\x00' = false ∧ path.isEmpty = false ∧
    path.text.utf8ByteSize < pathLimit

theorem locate_iff : t.locate path = .ok target ↔
    IsWellWritten path ∧
      t.Leads (if path.isAbsolute then [] else t.start) (namesOf path) target := by
  unfold locate followIn IsWellWritten
  rw [← follow_iff]
  constructor
  · intro h
    split at h
    next => cases h
    next hcharacter =>
      split at h
      next => cases h
      next hempty =>
        split at h
        next => cases h
        next hlong =>
          split at h
          next hfollow =>
            cases h
            exact ⟨⟨by simpa using hcharacter, by simpa using hempty, Nat.not_le.mp hlong⟩, hfollow⟩
          next => cases h
  · rintro ⟨⟨hcharacter, hempty, hlong⟩, hfollow⟩
    simp only [hcharacter, hempty, Nat.not_le.mpr hlong, Bool.false_eq_true, if_false, hfollow]

theorem at?_of_locate (h : t.locate path = .ok target) : t.at? target.place = target.entry? :=
  (locate_iff.mp h).2.at?

/-- So does a path. -/
theorem locate_put (hplace : t.at? place ≠ some .folder) (h : t.locate path = .ok target) :
    (t.put place entry).locate path = .ok (target.afterPut place entry) := by
  obtain ⟨hwell, hleads⟩ := locate_iff.mp h
  exact locate_iff.mpr ⟨hwell, hleads.put hplace⟩

/-! ## Looking -/

theorem look_of_found {text : String} {isProgram : Bool} (hslash : endsWithSlash path = false)
    (h : t.locate path = .ok (.found place (.file text isProgram))) :
    t.look path = .ok (place, .file text isProgram) := by
  simp [look, h, hslash]

theorem locate_of_isFolder (h : t.isFolder path = true) :
    ∃ place, t.locate path = .ok (.found place .folder) := by
  unfold isFolder look at h
  grind

theorem isFolder_of_locate (h : t.locate path = .ok (.found place .folder)) :
    t.isFolder path = true := by
  simp [isFolder, look, h]

/-- A folder stays one when something is put where no folder is. -/
theorem isFolder_put (hplace : t.at? place ≠ some .folder) (h : t.isFolder path = true) :
    (t.put place entry).isFolder path = true := by
  obtain ⟨q, hq⟩ := locate_of_isFolder h
  have hat : t.at? q = some .folder := at?_of_locate hq
  have hne : ¬ q = place := fun he => hplace (he ▸ hat)
  have hlocate : (t.put place entry).locate path = .ok (.found q .folder) := by
    rw [locate_put hplace hq, Target.afterPut, Target.place, if_neg hne]
  exact isFolder_of_locate hlocate

/-- Where a folder is none needs to be made. -/
theorem makeFolders_of_isFolder (hempty : path.isEmpty = false) (h : t.isFolder path = true) :
    t.makeFolders path = (.ok (), t) := by
  obtain ⟨q, hq⟩ := locate_of_isFolder h
  have hmake : t.makeFolder path = (.error (.system .entryExists), t) := by
    simp [makeFolder, hq]
  have hkind : ¬ (StorageError.system .entryExists).kind = .notFound := by decide
  unfold makeFolders Path.ancestors makeRow
  rw [hempty, hmake]
  simp [hkind, orPresent, h]

/-! ## Files that can be written -/

/-- A file can be written at the path: its folder is there, and there is such
a file already or nothing in its place. -/
structure Admits (t : Tree) (path : Path) : Prop where
  noSlash : endsWithSlash path = false
  leads : ∃ target, t.locate path = .ok target ∧ target.entry? ≠ some .folder
  inFolder : ∀ folder, path.parent? = some folder → folder.isEmpty = false →
    t.isFolder folder = true

theorem Admits.locateForFile (h : t.Admits path) : t.locateForFile path = t.locate path := by
  simp [Tree.locateForFile, namesFolderBySlash, h.noSlash]

/-- What is there can be read. -/
theorem Admits.read (h : t.Admits path) (hpresent : t.isPresent path = true) :
    ∃ text, t.read path = .ok text := by
  obtain ⟨target, hlocate, hentry⟩ := h.leads
  cases target with
  | vacant place => simp [isPresent, look, hlocate] at hpresent
  | found place entry =>
    cases entry with
    | folder => exact absurd rfl hentry
    | file text isProgram => exact ⟨text, by simp [Tree.read, look_of_found h.noSlash hlocate]⟩

/-- Writing is putting a file where the path leads. -/
theorem Admits.write_eq (h : t.Admits path) (text : String) :
    ∃ target isProgram, t.locate path = .ok target ∧ target.entry? ≠ some .folder ∧
      t.write path text = (.ok (), t.put target.place (.file text isProgram)) := by
  obtain ⟨target, hlocate, hentry⟩ := h.leads
  unfold Tree.write
  rw [h.locateForFile, hlocate]
  cases target with
  | vacant place => exact ⟨.vacant place, false, rfl, hentry, rfl⟩
  | found place entry =>
    cases entry with
    | folder => exact absurd rfl hentry
    | file old isProgram => exact ⟨.found place (.file old isProgram), isProgram, rfl, hentry, rfl⟩

/-- The file can be written, it then holds the text, and can be written again. -/
theorem Admits.write (h : t.Admits path) (text : String) :
    ∃ t', t.write path text = (.ok (), t') ∧ t'.Admits path ∧ t'.isPresent path = true ∧
      t'.read path = .ok text := by
  obtain ⟨target, isProgram, hlocate, hentry, hwrite⟩ := h.write_eq text
  have hplace : t.at? target.place ≠ some .folder := at?_of_locate hlocate ▸ hentry
  have hlocate' : (t.put target.place (.file text isProgram)).locate path
      = .ok (.found target.place (.file text isProgram)) := by
    rw [locate_put hplace hlocate, Target.afterPut, if_pos rfl]
  have hlook := look_of_found h.noSlash hlocate'
  refine ⟨_, hwrite, ⟨h.noSlash, ⟨_, hlocate', by simp [Target.entry?]⟩, ?_⟩, ?_, ?_⟩
  · intro folder hparent hempty
    exact isFolder_put hplace (h.inFolder folder hparent hempty)
  · simp [isPresent, hlook]
  · simp [Tree.read, hlook]

end Tree

end Daybook.Storage
