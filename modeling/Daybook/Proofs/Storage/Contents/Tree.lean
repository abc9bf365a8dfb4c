/-
Daybook.Proofs.Storage.Contents.Tree — a file tree does as its contents tell.

The contents of a file tree are what lies below the folder in which relative
paths start. Following a path through them ends in one of three ways, told by
what is at its names and at its names but the last (`Shows.locate`); everything
but the making of folders reads that off.

Folders are made from below: the first try fails as long as the folder above is
missing, so the folders above are made first. By induction on the names, what is
made are the folders that were missing (`Shows.makeRow`).
-/
import Daybook.Proofs.Storage.Contents

namespace Daybook.Storage.Tree

variable {t : Tree} {c : Contents} {r : Route} {names upper : List String} {name text : String}

/-- Below the folder to start in lie the contents. -/
structure Shows (t : Tree) (c : Contents) : Prop where
  sound : c.Sound
  at? : ∀ names, t.at? (t.start ++ names) = c names

/-! ## Looking -/

section Looking

/-- Where names lead from the folder to start in. -/
def targetOf (c : Contents) (start : Place) (names : List String) : Except SystemCause Target :=
  match c names with
  | some entry => .ok (.found (start ++ names) entry)
  | none => if c.HasParent names then .ok (.vacant (start ++ names)) else .error .noSuchEntry

/-- Names lead nowhere if something is missing on the way. -/
theorem targetOf_of_missing (hsound : c.Sound) (start : Place) (hpre : upper <+: names)
    (hne : upper ≠ names) (hmissing : c upper = none) :
    targetOf c start names = .error .noSuchEntry := by
  have hfolder : ∀ {row}, upper <+: row → upper ≠ row → c row = none := by
    intro row hrow hother
    rw [← Option.not_isSome_iff_eq_none]
    intro hsome
    rw [hsound.folder_of_prefix hrow hother hsome] at hmissing
    cases hmissing
  obtain rfl | ⟨before, last, rfl⟩ := List.eq_nil_or_concat names
  · exact absurd (List.prefix_nil.mp hpre) hne
  · rw [List.concat_eq_append] at hpre hne ⊢
    have hparent : ¬ c.HasParent (before ++ [last]) := by
      rw [Contents.HasParent, List.dropLast_concat]
      rcases List.prefix_concat_iff.mp hpre with he | hbefore
      · exact absurd he hne
      · by_cases he : upper = before
        · rw [← he, hmissing]
          simp
        · rw [hfolder hbefore he]
          simp
    rw [targetOf, hfolder hpre hne]
    simp [hparent]

theorem step_of_isName (place : Place) (h : Path.IsName name) : step place name = place ++ [name] := by
  have hdot : name ≠ "." := fun he => h.ne_dot (by rw [he]; rfl)
  have hup : name ≠ ".." := fun he => h.ne_up (by rw [he]; rfl)
  rw [step, if_neg hdot, if_neg hup]

theorem Shows.follow (h : t.Shows c) (hfolder : c upper = some .folder) (hne : names ≠ [])
    (hordinary : ∀ name ∈ names, IsOrdinary name) (hclear : c.Clear (upper ++ names)) :
    t.follow (t.start ++ upper) names = targetOf c t.start (upper ++ names) := by
  induction names generalizing upper with
  | nil => exact absurd rfl hne
  | cons name more ih =>
    have hname := hordinary name (by simp)
    have hnext : step (t.start ++ upper) name = t.start ++ (upper ++ [name]) := by
      rw [step_of_isName _ hname.toIsName, List.append_assoc]
    have hcut : upper ++ name :: more = (upper ++ [name]) ++ more := by simp
    rw [Tree.follow, h.at?, hfolder]
    simp only [Nat.not_lt.mpr hname.fits, if_false, hnext, h.at?]
    rcases eq_or_ne more [] with rfl | hmore
    · cases hentry : c (upper ++ [name]) with
      | none => simp [targetOf, hentry, Contents.HasParent, hfolder]
      | some entry => simp [targetOf, hentry, Tree.follow, h.at?]
    · have hpre : upper ++ [name] <+: upper ++ name :: more := hcut ▸ List.prefix_append _ _
      have hshort : upper ++ [name] ≠ upper ++ name :: more := by simpa using Ne.symm hmore
      cases hentry : c (upper ++ [name]) with
      | none =>
        obtain ⟨next, rest, rfl⟩ := List.exists_cons_of_ne_nil hmore
        exact (targetOf_of_missing h.sound t.start hpre hshort hentry).symm
      | some entry =>
        cases entry with
        | file text isProgram => exact absurd hentry (hclear _ hpre hshort text isProgram)
        | folder =>
          obtain ⟨next, rest, rfl⟩ := List.exists_cons_of_ne_nil hmore
          rw [hcut]
          exact ih hentry hmore (fun n hn => hordinary n (List.mem_cons_of_mem _ hn)) (hcut ▸ hclear)

theorem Shows.locate (h : t.Shows c) (hclear : c.Clear r.names) :
    t.locate r.path = match targetOf c t.start r.names with
      | .ok target => .ok target
      | .error cause => .error (.system cause) := by
  obtain ⟨hcharacter, hempty, hlong⟩ := r.isWellWritten
  have hfollow := h.follow h.sound.start r.ne_nil r.ordinary hclear
  rw [List.append_nil, List.nil_append] at hfollow
  have hrelative : r.path.isAbsolute = false := isAbsolute_pathOf r.isNames
  have hnames : namesOf r.path = r.names := namesOf_pathOf r.isNames
  cases htarget : targetOf c t.start r.names <;>
    simp only [Tree.locate, followIn, hcharacter, hempty, Nat.not_le.mpr hlong, hrelative, hnames,
      Bool.false_eq_true, if_false, hfollow, htarget]

theorem endsWithSlash_route (r : Route) : endsWithSlash r.path = false :=
  endsWithSlash_pathOf r.isNames

theorem locateForFile_route (t : Tree) (r : Route) : t.locateForFile r.path = t.locate r.path := by
  simp [locateForFile, namesFolderBySlash, endsWithSlash_route]

theorem Shows.look (h : t.Shows c) (hclear : c.Clear r.names) :
    t.look r.path = match c r.names with
      | some entry => .ok (t.start ++ r.names, entry)
      | none => .error (.system .noSuchEntry) := by
  rw [Tree.look, h.locate hclear, targetOf]
  cases c r.names with
  | some entry => cases entry <;> simp [endsWithSlash_route]
  | none => by_cases hparent : c.HasParent r.names <;> simp [hparent]

theorem Shows.isPresent (h : t.Shows c) (hclear : c.Clear r.names) :
    t.isPresent r.path = (c r.names).isSome := by
  rw [Tree.isPresent, h.look hclear]
  cases c r.names <;> rfl

theorem Shows.isFolder (h : t.Shows c) (hclear : c.Clear r.names) :
    t.isFolder r.path = (c r.names == some .folder) := by
  rw [Tree.isFolder, h.look hclear]
  cases c r.names with
  | some entry => cases entry <;> rfl
  | none => rfl

/-- What is directly in a folder has one name more. -/
theorem mem_namesIn {place : Place} : name ∈ t.namesIn place ↔ (t.at? (place ++ [name])).isSome := by
  have hat : (t.at? (place ++ [name])).isSome ↔ ∃ e ∈ t.entries, e.1 = place ++ [name] := by
    simp [Tree.at?]
  rw [hat, namesIn, List.mem_filterMap]
  constructor
  · rintro ⟨e, he, hlast⟩
    split at hlast
    next hplace =>
      obtain ⟨before, hbefore⟩ := List.getLast?_eq_some_iff.mp hlast
      rw [hbefore, List.dropLast_concat] at hplace
      exact ⟨e, he, by rw [hbefore, hplace]⟩
    next => cases hlast
  · rintro ⟨e, he, hplace⟩
    exact ⟨e, he, by rw [hplace, List.dropLast_concat, if_pos rfl, List.getLast?_concat]⟩

theorem Shows.finds (h : t.Shows c) (hclear : c.Clear r.names) :
    c.Finds r.names (·.length = 1) (t.list r.path).toFinset := by
  have hlist : t.list r.path = if c r.names = some .folder
      then (t.namesIn (t.start ++ r.names)).map r.path.join else [] := by
    rw [Tree.list, h.look hclear]
    cases c r.names with
    | some entry => cases entry <;> rfl
    | none => rfl
  intro path
  rw [List.mem_toFinset, hlist]
  constructor
  · intro hpath
    split at hpath
    next =>
      obtain ⟨name, hname, rfl⟩ := List.mem_map.mp hpath
      rw [mem_namesIn, List.append_assoc, h.at?] at hname
      exact ⟨[name], rfl, hname, (pathOf_concat _ _).symm⟩
    next => exact absurd hpath List.not_mem_nil
  · rintro ⟨below, hone, hsome, rfl⟩
    obtain ⟨name, rfl⟩ := List.length_eq_one_iff.mp hone
    rw [if_pos (h.sound.nested hsome), pathOf_concat]
    refine List.mem_map_of_mem (mem_namesIn.mpr ?_)
    rwa [List.append_assoc, h.at?]

theorem Shows.length_le_depth (h : t.Shows c) (hsome : (c names).isSome) :
    names.length ≤ t.depth := by
  rcases eq_or_ne names [] with rfl | hne
  · exact Nat.zero_le _
  · have hplace : t.start ++ names ≠ [] := by simp [hne]
    rw [← h.at?, Tree.at?, if_neg hplace, Option.isSome_map, List.find?_isSome] at hsome
    obtain ⟨e, he, hat⟩ := hsome
    have hmem : (t.start ++ names).length ∈ t.entries.map fun e => e.1.length :=
      List.mem_map.mpr ⟨e, he, congrArg List.length (beq_iff_eq.mp hat)⟩
    have hdeep : (t.start ++ names).length ≤ t.depth := le_foldl_max hmem
    rw [List.length_append] at hdeep
    omega

end Looking

/-! ## Changing -/

section Changing

theorem Shows.put (h : t.Shows c) (hne : names ≠ []) {entry : Entry}
    (hsound : (c.put names entry).Sound) :
    (t.put (t.start ++ names) entry).Shows (c.put names entry) where
  sound := hsound
  at? row := by
    have hplace : t.start ++ names ≠ [] := by simp [hne]
    show (t.put (t.start ++ names) entry).at? (t.start ++ row) = _
    rw [at?_put t hplace, Contents.put, h.at?]
    simp

/-- Where a folder is none needs to be added. -/
theorem addFolders_of_folder (hsound : c.Sound) (h : c names = some .folder) :
    c.addFolders names = c := by
  funext row
  unfold Contents.addFolders
  split
  next hpre =>
    by_cases he : row = names
    · rw [he, h]
    · exact (hsound.folder_of_prefix hpre he (by rw [h]; rfl)).symm
  next => rfl

/-- The folder of the last name comes after those above it. -/
theorem addFolders_concat (c : Contents) (names : List String) (name : String) :
    c.addFolders (names ++ [name]) = (c.addFolders names).put (names ++ [name]) .folder := by
  funext row
  unfold Contents.put Contents.addFolders
  by_cases he : row = names ++ [name]
  · simp [he]
  · simp [he, List.prefix_concat_iff]

theorem addFolders_addFolders (c : Contents) (names : List String) :
    (c.addFolders names).addFolders names = c.addFolders names := by
  funext row
  simp only [Contents.addFolders]
  split <;> rfl

theorem clear_addFolders {row : List String} (h : c.Clear row) (names : List String) :
    (c.addFolders names).Clear row := by
  intro upper hupper hne text isProgram hfile
  unfold Contents.addFolders at hfile
  split at hfile
  next => cases hfile
  next => exact h upper hupper hne text isProgram hfile

/-- A folder that is made at a route whose parent is there. -/
theorem Shows.makeFolder_of_missing (h : t.Shows c) (hclear : c.Clear r.names)
    (hmissing : c r.names = none) :
    t.makeFolder r.path = if c.HasParent r.names
      then (.ok (), t.put (t.start ++ r.names) .folder) else (.error (.system .noSuchEntry), t) := by
  rw [makeFolder, h.locate hclear, targetOf, hmissing]
  by_cases hparent : c.HasParent r.names <;> simp [hparent]

theorem Shows.makeFolder_of_some (h : t.Shows c) (hclear : c.Clear r.names)
    (hsome : (c r.names).isSome) : t.makeFolder r.path = (.error (.system .entryExists), t) := by
  obtain ⟨entry, hentry⟩ := Option.isSome_iff_exists.mp hsome
  simp [makeFolder, h.locate hclear, targetOf, hentry]

/-- One folder is made in the folder above it. -/
theorem Shows.makeFolder_in_parent (h : t.Shows c) (hclear : c.Clear r.names)
    (hmissing : c r.names = none) (hname : r.names = names ++ [name])
    (hparent : c.addFolders names = c) :
    ∃ t', t.makeFolder r.path = (.ok (), t') ∧ t'.Shows (c.addFolders r.names) := by
  have hthere : c.HasParent r.names := by
    rw [Contents.HasParent, hname, List.dropLast_concat, ← hparent, Contents.addFolders,
      if_pos (List.prefix_refl names)]
  have hmade : c.addFolders r.names = c.put r.names .folder := by
    rw [hname, addFolders_concat, hparent]
  refine ⟨_, by rw [h.makeFolder_of_missing hclear hmissing, if_pos hthere], ?_⟩
  rw [hmade]
  exact h.put r.ne_nil (hmade ▸ h.sound.addFolders r)

/-- With the folders above it made, one more folder is made. -/
theorem Shows.makeFolder_below (h : t.Shows (c.addFolders names)) (hclear : c.Clear r.names)
    (hmissing : c r.names = none) (hname : r.names = names ++ [name]) :
    ∃ t', t.makeFolder r.path = (.ok (), t') ∧ t'.Shows (c.addFolders r.names) := by
  have hlonger : ¬ r.names <+: names := by
    intro hle
    have hlength := hle.length_le
    rw [hname, List.length_append, List.length_singleton] at hlength
    omega
  have hstill : c.addFolders names r.names = none := by
    rw [Contents.addFolders, if_neg hlonger, hmissing]
  obtain ⟨t', hmake, ht'⟩ := h.makeFolder_in_parent (clear_addFolders hclear names) hstill hname
    (addFolders_addFolders c names)
  have hall : (c.addFolders names).addFolders r.names = c.addFolders r.names := by
    rw [hname, addFolders_concat, addFolders_addFolders, ← addFolders_concat]
  exact ⟨t', hmake, hall ▸ ht'⟩

/-- What is made in a row are the folders that were missing. -/
theorem Shows.makeRow (h : t.Shows c) (r : Route) (hpre : names <+: r.names)
    (hopen : ∀ upper, upper <+: names → ∀ text isProgram, c upper ≠ some (.file text isProgram)) :
    ∃ t', t.makeRow (pathOf names).ancestors = (.ok (), t') ∧ t'.Shows (c.addFolders names) := by
  induction names using List.reverseRecOn with
  | nil =>
    refine ⟨t, rfl, ?_⟩
    rw [addFolders_of_folder h.sound h.sound.start]
    exact h
  | append_singleton names name ih =>
    let r' := r.upTo (by simp) hpre
    have hclear : c.Clear r'.names := fun upper hupper _ => hopen upper hupper
    have hancestors : r'.path.ancestors = r'.path :: (pathOf names).ancestors :=
      ancestors_pathOf_concat r'.isNames
    have hupper : names <+: r'.names := List.prefix_append names [name]
    show ∃ t', t.makeRow r'.path.ancestors = (.ok (), t') ∧ t'.Shows (c.addFolders r'.names)
    rw [hancestors, Tree.makeRow, r'.isEmpty_eq]
    cases hentry : c r'.names with
    | some entry =>
      have hsome : (c r'.names).isSome := by rw [hentry]; rfl
      cases entry with
      | file text isProgram => exact absurd hentry (hopen _ (List.prefix_refl _) text isProgram)
      | folder =>
        have hthere : t.isFolder r'.path = true := by rw [h.isFolder hclear, hentry]; rfl
        rw [h.makeFolder_of_some hclear hsome, addFolders_of_folder h.sound hentry]
        exact ⟨t, by simp [StorageError.kind, SystemCause.kind, orPresent, hthere], h⟩
    | none =>
      by_cases hparent : c.HasParent r'.names
      · have hfolder : c names = some .folder := by
          rw [← hparent]
          exact congrArg c List.dropLast_concat.symm
        obtain ⟨t', hmake, ht'⟩ := h.makeFolder_in_parent hclear hentry rfl
          (addFolders_of_folder h.sound hfolder)
        exact ⟨t', by simp [hmake], ht'⟩
      · -- the folder above is missing, and is there at the second try
        obtain ⟨t', hrow, ht'⟩ := ih (hupper.trans hpre) fun upper hu => hopen upper (hu.trans hupper)
        obtain ⟨t'', hmake, ht''⟩ := ht'.makeFolder_below hclear hentry rfl
        refine ⟨t'', ?_, ht''⟩
        simp [h.makeFolder_of_missing hclear hentry, hparent, StorageError.kind, SystemCause.kind,
          hrow, hmake]

end Changing

/-! ## Calls -/

section Calls

variable (h : t.Shows c) (hclear : c.Clear r.names)
include h hclear

theorem Shows.tells_read (hopen : c r.names ≠ some .folder) :
    c.Tells (.read r) (Outcome.ofText (t.read r.path)) := by
  rw [Tree.read, h.look hclear]
  cases hentry : c r.names with
  | none => exact (Contents.tells_read_none hentry _).mpr rfl
  | some entry =>
    cases entry with
    | file text isProgram => exact (Contents.tells_read_file hentry _).mpr rfl
    | folder => exact absurd hentry hopen

theorem Shows.write (hopen : c r.names ≠ some .folder) (text : String) :
    c.Tells (.write r text) (Outcome.ofChange (t.write r.path text).1)
      ∧ (t.write r.path text).2.Shows (c.after (.write r text)) := by
  simp only [Contents.Tells, Contents.after]
  rw [Tree.write, locateForFile_route, h.locate hclear, targetOf]
  cases hentry : c r.names with
  | none =>
    by_cases hparent : c.HasParent r.names
    · simp only [hparent, if_true]
      exact ⟨rfl, h.put r.ne_nil (h.sound.put hparent hopen)⟩
    · simp only [hparent, if_false]
      exact ⟨rfl, h⟩
  | some entry =>
    have hparent := h.sound.hasParent r.ne_nil (by rw [hentry]; rfl)
    cases entry with
    | folder => exact absurd hentry hopen
    | file old isProgram =>
      obtain rfl := h.sound.plain hentry
      simp only [hparent, if_true]
      exact ⟨rfl, h.put r.ne_nil (h.sound.put hparent hopen)⟩

theorem Shows.create (text : String) :
    c.Tells (.create r text) (Outcome.ofChange (t.create r.path text).1)
      ∧ (t.create r.path text).2.Shows (c.after (.create r text)) := by
  simp only [Contents.Tells, Contents.after]
  rw [Tree.create, locateForFile_route, h.locate hclear, targetOf]
  cases hentry : c r.names with
  | none =>
    by_cases hparent : c.HasParent r.names
    · simp only [hparent, Option.isSome_none, Option.isNone_none, Bool.false_eq_true, if_true,
        if_false, and_self]
      exact ⟨rfl, h.put r.ne_nil (h.sound.put hparent (by simp [hentry]))⟩
    · simp only [hparent, Option.isSome_none, Bool.false_eq_true, if_false, and_false]
      exact ⟨rfl, h⟩
  | some entry => exact ⟨rfl, by simpa using h⟩

theorem Shows.makeFolders :
    c.Tells (.makeFolders r) (Outcome.ofChange (t.makeFolders r.path).1)
      ∧ (t.makeFolders r.path).2.Shows (c.after (.makeFolders r)) := by
  by_cases hfile : ∃ text isProgram, c r.names = some (.file text isProgram)
  · obtain ⟨text, isProgram, hentry⟩ := hfile
    have hnot : t.isFolder r.path = false := by rw [h.isFolder hclear, hentry]; rfl
    have hmake := h.makeFolder_of_some hclear (by rw [hentry]; rfl)
    have hrefused : t.makeFolders r.path = (.error (.system .entryExists), t) := by
      simp [Tree.makeFolders, Path.ancestors, Tree.makeRow, r.isEmpty_eq, hmake, orPresent, hnot,
        StorageError.kind, SystemCause.kind]
    rw [Contents.tells_makeFolders_file hentry, Contents.after_makeFolders_file hentry, hrefused]
    exact ⟨rfl, h⟩
  · have hopen : ∀ upper, upper <+: r.names → ∀ text isProgram,
        c upper ≠ some (.file text isProgram) := by
      intro upper hpre text isProgram hentry
      by_cases he : upper = r.names
      · exact hfile ⟨text, isProgram, he ▸ hentry⟩
      · exact hclear upper hpre he text isProgram hentry
    obtain ⟨t', hrow, ht'⟩ := h.makeRow r (List.prefix_refl _) hopen
    have hmade : t.makeFolders r.path = (.ok (), t') := hrow
    have hopen' := hopen r.names (List.prefix_refl _)
    rw [Contents.tells_makeFolders_open hopen', Contents.after_makeFolders_open hopen', hmade]
    exact ⟨rfl, ht'⟩

theorem Shows.walk :
    c.Tells (.walk r) ((Call.walk r).work.run Tree.answer t).1
      ∧ ((Call.walk r).work.run Tree.answer t).2 = t :=
  Contents.tells_walk h.sound (fun _ => h.finds) (fun _ => h.isFolder)
    (fun _ => rfl) (fun _ => rfl) rfl (fun _ => h.length_le_depth) hclear

end Calls

/-- A file tree does as its contents tell. -/
theorem faithful : Faithful Tree.answer Shows := by
  intro t c h call hfits
  cases call with
  | isPresent r => exact ⟨congrArg Outcome.truth (h.isPresent hfits.1), h⟩
  | isFolder r => exact ⟨congrArg Outcome.truth (h.isFolder hfits.1), h⟩
  | read r => exact ⟨h.tells_read hfits.1 (hfits.2 rfl), h⟩
  | list r => exact ⟨⟨_, rfl, h.finds hfits.1⟩, h⟩
  | walk r =>
    have hclear : c.Clear r.names := hfits.1
    obtain ⟨htells, hsame⟩ := h.walk hclear
    refine ⟨htells, ?_⟩
    rw [hsame]
    exact h
  | write r text => exact h.write hfits.1 (hfits.2 rfl) text
  | create r text => exact h.create hfits.1 text
  | makeFolders r => exact h.makeFolders hfits.1

end Daybook.Storage.Tree
