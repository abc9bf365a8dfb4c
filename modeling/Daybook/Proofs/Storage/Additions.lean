/-
Daybook.Proofs.Storage.Additions — a file tree that is only added to.

Nothing is ever taken out of a file tree, and what is asked of it decides what
may come in: a text may be written to a file, be there one or not, or a file may
be created where nothing is, and then there are folders (`Becomes`).

Paths are what is asked about, places are what changes. A path that reached a
place once goes on reaching it, since nothing on the way is taken out
(`Adds.reaches`); so it does not matter whether a path is followed when a file is
written or at the end. That is what makes additions add up (`Adds.trans`).
-/
import Daybook.Proofs.Storage.Growth
import Daybook.Proofs.Storage.Tree

namespace Daybook.Storage

/-! ## What may become of a place -/

/-- What may become of what is at a place, with the texts that may be written and
those that may be created there. -/
inductive Becomes (written created : String → Prop) : Option Entry → Option Entry → Prop where
  | same (entry : Option Entry) : Becomes written created entry entry
  | folder : Becomes written created none (some .folder)
  | created {text : String} (h : created text) :
    Becomes written created none (some (.file text false))
  | written {entry : Option Entry} {text : String} {isProgram : Bool} (hopen : entry ≠ some .folder)
      (h : written text) : Becomes written created entry (some (.file text isProgram))

section Becomes

variable {written created written' created' : String → Prop} {a b c : Option Entry}

theorem Becomes.mono (h : Becomes written created a b)
    (hwritten : ∀ text, written text → written' text)
    (hcreated : ∀ text, created text → created' text) : Becomes written' created' a b := by
  cases h with
  | same => exact .same a
  | folder => exact .folder
  | created h => exact .created (hcreated _ h)
  | written hopen h => exact .written hopen (hwritten _ h)

theorem Becomes.trans (hab : Becomes written created a b) (hbc : Becomes written created b c) :
    Becomes written created a c := by
  cases hbc with
  | same => exact hab
  | folder => cases hab; exact .folder
  | created h => cases hab; exact .created h
  | written hopen h =>
    refine .written ?_ h
    cases hab with
    | same => exact hopen
    | folder | created => simp
    | written ha => exact ha

/-- A file where none may be written stays as it is. -/
theorem Becomes.of_file (h : Becomes written created a b) {text : String} {isProgram : Bool}
    (ha : a = some (.file text isProgram)) :
    b = a ∨ ∃ text' isProgram', written text' ∧ b = some (.file text' isProgram') := by
  cases h with
  | same => exact .inl rfl
  | folder => cases ha
  | created => cases ha
  | written _ h => exact .inr ⟨_, _, h, rfl⟩

/-- Where a file comes from. -/
theorem Becomes.to_file (h : Becomes written created a b) {text : String} {isProgram : Bool}
    (hb : b = some (.file text isProgram)) :
    a = some (.file text isProgram) ∨ written text ∨ (a = none ∧ created text) := by
  cases h with
  | same => exact .inl hb
  | folder => cases hb
  | created h =>
    cases hb
    exact .inr (.inr ⟨rfl, h⟩)
  | written _ h =>
    cases hb
    exact .inr (.inl h)

end Becomes

namespace Tree

variable {t t' t'' : Tree} {path : Path} {place : Place} {entry : Entry}

/-! ## Reaching -/

/-- A file can be opened at the path, be it there or not, and it is at this place. -/
def Reaches (t : Tree) (path : Path) (place : Place) : Prop :=
  (t.locateForFile path).map Target.place = .ok place

instance (t : Tree) (path : Path) (place : Place) : Decidable (t.Reaches path place) :=
  inferInstanceAs (Decidable (_ = _))

theorem reaches_iff : t.Reaches path place ↔
    ∃ target, t.locateForFile path = .ok target ∧ target.place = place := by
  unfold Reaches
  cases t.locateForFile path <;> simp [Except.map]

/-- A path reaches one place. -/
theorem Reaches.unique {place' : Place} (h : t.Reaches path place) (h' : t.Reaches path place') :
    place = place' :=
  Except.ok.inj (h.symm.trans h')

/-- A path at which a file can be opened does not end with a slash that asks for
a folder, and leads where it leads. -/
theorem locateForFile_iff {target : Target} : t.locateForFile path = .ok target ↔
    namesFolderBySlash path = false ∧ t.locate path = .ok target := by
  unfold locateForFile
  cases namesFolderBySlash path with
  | false => simp
  | true =>
    simp only [if_true, Bool.true_eq_false, false_and, iff_false]
    split <;> simp

/-! ## Trees with additions -/

/-- The second tree is the first with additions, of which the files are those
that may be written or created at some path. -/
structure Adds (writes creates : Path → String → Prop) (t t' : Tree) : Prop where
  reaches : ∀ {path place}, t.Reaches path place → t'.Reaches path place
  becomes : ∀ place, Becomes (fun text => ∃ path, writes path text ∧ t'.Reaches path place)
    (fun text => ∃ path, creates path text ∧ t'.Reaches path place) (t.at? place) (t'.at? place)

section Adds

variable {writes creates writes' creates' : Path → String → Prop}

theorem Adds.refl (t : Tree) : Adds writes creates t t where
  reaches h := h
  becomes _ := .same _

theorem Adds.trans (h : Adds writes creates t t') (h' : Adds writes creates t' t'') :
    Adds writes creates t t'' where
  reaches hpath := h'.reaches (h.reaches hpath)
  becomes place := by
    refine .trans ((h.becomes place).mono ?_ ?_) (h'.becomes place)
    · rintro text ⟨path, hpath, hreaches⟩
      exact ⟨path, hpath, h'.reaches hreaches⟩
    · rintro text ⟨path, hpath, hreaches⟩
      exact ⟨path, hpath, h'.reaches hreaches⟩

theorem Adds.mono (h : Adds writes creates t t')
    (hwrites : ∀ path text, writes path text → writes' path text)
    (hcreates : ∀ path text, creates path text → creates' path text) :
    Adds writes' creates' t t' where
  reaches := h.reaches
  becomes place := (h.becomes place).mono
    (fun _ ⟨path, hpath, hreaches⟩ => ⟨path, hwrites _ _ hpath, hreaches⟩)
    (fun _ ⟨path, hpath, hreaches⟩ => ⟨path, hcreates _ _ hpath, hreaches⟩)

/-! ## What one answer adds -/

/-- An entry that is put where no folder is. -/
theorem Reaches.put {path' : Path} {place' : Place} (hplace : t.at? place ≠ some .folder)
    (h : t.Reaches path' place') : (t.put place entry).Reaches path' place' := by
  obtain ⟨target, hlocate, rfl⟩ := reaches_iff.mp h
  obtain ⟨hslash, hlocate⟩ := locateForFile_iff.mp hlocate
  have hput : (t.put place entry).locate path' = _ := locate_put hplace hlocate
  refine reaches_iff.mpr ⟨_, locateForFile_iff.mpr ⟨hslash, hput⟩, ?_⟩
  unfold Target.afterPut
  split
  next he => exact he.symm
  next => rfl

theorem adds_put (hplace : t.at? place ≠ some .folder)
    (h : Becomes (fun text => ∃ path, writes path text ∧ t.Reaches path place)
      (fun text => ∃ path, creates path text ∧ t.Reaches path place) (t.at? place) (some entry)) :
    Adds writes creates t (t.put place entry) where
  reaches := .put hplace
  becomes p := by
    rw [at?_put t (ne_nil_of_at? hplace)]
    split
    next he =>
      subst he
      exact h.mono (fun _ ⟨path, hpath, hreaches⟩ => ⟨path, hpath, hreaches.put hplace⟩)
        (fun _ ⟨path, hpath, hreaches⟩ => ⟨path, hpath, hreaches.put hplace⟩)
    next => exact .same _

theorem adds_makeFolder (t : Tree) (path : Path) : Adds writes creates t (t.makeFolder path).2 := by
  unfold makeFolder
  split
  next => exact .refl t
  next place hlocate =>
    have hfree : t.at? place = none := at?_of_locate hlocate
    exact adds_put (by rw [hfree]; simp) (by rw [hfree]; exact .folder)
  next => exact .refl t

theorem adds_orPresent (t : Tree) (path : Path) (e : StorageError) :
    Adds writes creates t (t.orPresent path e).2 := by
  unfold orPresent
  split <;> exact .refl t

theorem adds_makeRow (t : Tree) (row : List Path) : Adds writes creates t (t.makeRow row).2 := by
  induction row generalizing t with
  | nil => exact .refl t
  | cons path above ih =>
    unfold makeRow
    split
    next => exact .refl t
    next =>
      split
      next made hmake =>
        have hone : Adds writes creates t (t.makeFolder path).2 := adds_makeFolder t path
        rwa [hmake] at hone
      next =>
        split
        next =>
          split
          next t' hrow =>
            have hfirst : Adds writes creates t (t.makeRow above).2 := ih t
            rw [hrow] at hfirst
            split
            next made hmake =>
              have hsecond : Adds writes creates t' (t'.makeFolder path).2 :=
                adds_makeFolder t' path
              rw [hmake] at hsecond
              exact hfirst.trans hsecond
            next => exact hfirst.trans (adds_orPresent t' path _)
          next e t' hrow =>
            have hfirst : Adds writes creates t (t.makeRow above).2 := ih t
            rwa [hrow] at hfirst
        next => exact adds_orPresent t path _

/-- The question may be asked where only these files may be written and created. -/
def Permits (writes creates : Path → String → Prop) : Query → Prop
  | .write path text => writes path text
  | .create path text => creates path text
  | _ => True

theorem permits_of_looks {q : Query} (h : q.looks = true) : Permits writes creates q := by
  cases q <;> trivial

theorem answer_of_looks {q : Query} (h : q.looks = true) (t : Tree) : (Tree.answer q t).2 = t := by
  cases q <;> first | rfl | contradiction

theorem adds_answer {q : Query} (h : Permits writes creates q) (t : Tree) :
    Adds writes creates t (Tree.answer q t).2 := by
  cases q with
  | makeFolders path => exact adds_makeRow t _
  | write path text =>
    show Adds _ _ t (t.write path text).2
    unfold Tree.write
    split
    next => exact .refl t
    next place hlocate =>
      have hreaches : t.Reaches path place := reaches_iff.mpr ⟨_, hlocate, rfl⟩
      have hfree : t.at? place = none := at?_of_locate (locateForFile_iff.mp hlocate).2
      exact adds_put (by rw [hfree]; simp)
        (.written (by rw [hfree]; simp) ⟨path, h, hreaches⟩)
    next place old isProgram hlocate =>
      have hreaches : t.Reaches path place := reaches_iff.mpr ⟨_, hlocate, rfl⟩
      have hfile : t.at? place = some (.file old isProgram) :=
        at?_of_locate (locateForFile_iff.mp hlocate).2
      exact adds_put (by rw [hfile]; simp)
        (.written (by rw [hfile]; simp) ⟨path, h, hreaches⟩)
    next => exact .refl t
  | create path text =>
    show Adds _ _ t (t.create path text).2
    unfold Tree.create
    split
    next => exact .refl t
    next place hlocate =>
      have hreaches : t.Reaches path place := reaches_iff.mpr ⟨_, hlocate, rfl⟩
      have hfree : t.at? place = none := at?_of_locate (locateForFile_iff.mp hlocate).2
      exact adds_put (by rw [hfree]; simp) (by rw [hfree]; exact .created ⟨path, h, hreaches⟩)
    next => exact .refl t
  | _ => exact .refl t

end Adds

end Tree

end Daybook.Storage
