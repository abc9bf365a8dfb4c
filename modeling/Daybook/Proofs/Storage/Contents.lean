/-
Daybook.Proofs.Storage.Contents — storages told by what they hold.

Where a storage holds what, and under which paths, is its own affair. Seen from
outside it has contents: something or nothing at each row of names. This module
says what a call does to contents (`after`) and what comes of it (`Tells`), for
calls at routes that do not lead through a file.

A storage that always does as its contents tell is faithful. Contents leave
nothing open about what comes of a call (`Tells.unique`), so any two faithful
storages that start with the same contents cannot be told apart, however many
calls are made (`Faithful.run_eq`).
-/
import Daybook.Proofs.Storage.Route
import Daybook.Proofs.Storage.Walk
import Mathlib.Data.Finset.Dedup

namespace Daybook.Storage

/-! ## Calls -/

/-- What is asked of a storage at a route. -/
inductive Call where
  | makeFolders (route : Route)
  | write (route : Route) (text : String)
  | create (route : Route) (text : String)
  | read (route : Route)
  | isPresent (route : Route)
  | isFolder (route : Route)
  | list (route : Route)
  | walk (route : Route)

/-- What comes of a call: of an error its kind, of paths which they are. -/
inductive Outcome where
  | done
  | failed (kind : StorageErrorKind)
  | text (text : String)
  | truth (answer : Bool)
  | paths (found : Finset Path)
deriving DecidableEq

namespace Outcome

def ofChange : Except StorageError Unit → Outcome
  | .ok () => done
  | .error e => failed e.kind

def ofText : Except StorageError String → Outcome
  | .ok written => text written
  | .error e => failed e.kind

def ofPaths : Except StorageError (List Path) → Outcome
  | .ok found => paths found.toFinset
  | .error e => failed e.kind

end Outcome

namespace Call

def route : Call → Route
  | makeFolders r | write r _ | create r _ | read r | isPresent r | isFolder r | list r | walk r => r

/-- The call reads or writes a file that may be there. -/
def opensFile : Call → Bool
  | write .. | read _ => true
  | _ => false

def work : Call → Work Outcome
  | makeFolders r => return .ofChange (← Storage.makeFolders r.path)
  | write r text => return .ofChange (← Storage.write r.path text)
  | create r text => return .ofChange (← Storage.create r.path text)
  | read r => return .ofText (← Storage.read r.path)
  | isPresent r => return .truth (← Storage.isPresent r.path)
  | isFolder r => return .truth (← Storage.isFolder r.path)
  | list r => return .ofPaths (← Storage.list r.path)
  | walk r => return .paths (← Storage.walk r.path).toFinset

end Call

/-! ## Contents -/

/-- What is at each row of names. Below nothing is the folder to start in. -/
abbrev Contents := List String → Option Entry

namespace Contents

variable {c : Contents} {names upper : List String} {name text : String} {r : Route} {call : Call}

/-- No file stands above the last name. -/
def Clear (c : Contents) (names : List String) : Prop :=
  ∀ upper, upper <+: names → upper ≠ names → ∀ text isProgram, c upper ≠ some (.file text isProgram)

/-- The contents of a storage in which everything came about by calls. -/
structure Sound (c : Contents) : Prop where
  start : c [] = some .folder
  nested : ∀ {names name}, (c (names ++ [name])).isSome → c names = some .folder
  routed : ∀ {names}, names ≠ [] → (c names).isSome → ∃ r : Route, r.names = names
  plain : ∀ {names text isProgram}, c names = some (.file text isProgram) → isProgram = false

/-- The contents with an entry put at a row of names. -/
def put (c : Contents) (names : List String) (entry : Entry) : Contents :=
  fun row => if row = names then some entry else c row

/-- The contents with a folder and the folders above it. -/
def addFolders (c : Contents) (names : List String) : Contents :=
  fun row => if row <+: names then some .folder else c row

/-- There is a folder for the last name. -/
def HasParent (c : Contents) (names : List String) : Prop :=
  c names.dropLast = some .folder

instance : Decidable (c.HasParent names) :=
  inferInstanceAs (Decidable (c names.dropLast = some .folder))

/-- The call does not lead through a file and does not open a folder. -/
def Fits (c : Contents) (call : Call) : Prop :=
  c.Clear call.route.names ∧ (call.opensFile = true → c call.route.names ≠ some .folder)

/-- What is there after a call. -/
def after (c : Contents) : Call → Contents
  | .makeFolders r =>
    match c r.names with
    | some (.file ..) => c
    | _ => c.addFolders r.names
  | .write r text => if c.HasParent r.names then c.put r.names (.file text false) else c
  | .create r text =>
    if (c r.names).isNone ∧ c.HasParent r.names then c.put r.names (.file text false) else c
  | _ => c

/-- The paths found are those of what is there below a row of names, as far down
as is looked. -/
def Finds (c : Contents) (names : List String) (within : List String → Prop) (found : Finset Path) :
    Prop :=
  ∀ path, path ∈ found ↔
    ∃ below, within below ∧ (c (names ++ below)).isSome ∧ path = pathOf (names ++ below)

/-- What comes of a call. -/
def Tells (c : Contents) : Call → Outcome → Prop
  | .makeFolders r, outcome => outcome =
    match c r.names with
    | some (.file ..) => .failed .alreadyExists
    | _ => .done
  | .write r _, outcome => outcome = if c.HasParent r.names then .done else .failed .notFound
  | .create r _, outcome => outcome =
    if (c r.names).isSome then .failed .alreadyExists
    else if c.HasParent r.names then .done
    else .failed .notFound
  | .read r, outcome => outcome =
    match c r.names with
    | some (.file text _) => .text text
    | _ => .failed .notFound
  | .isPresent r, outcome => outcome = .truth (c r.names).isSome
  | .isFolder r, outcome => outcome = .truth (c r.names == some .folder)
  | .list r, outcome => ∃ found, outcome = .paths found ∧ c.Finds r.names (·.length = 1) found
  | .walk r, outcome => ∃ found, outcome = .paths found ∧ c.Finds r.names (· ≠ []) found

theorem Finds.unique {within : List String → Prop} {found found' : Finset Path}
    (h : c.Finds names within found) (h' : c.Finds names within found') : found = found' :=
  Finset.ext fun path => (h path).trans (h' path).symm

theorem tells_read_file {text : String} {isProgram : Bool}
    (h : c r.names = some (.file text isProgram)) (outcome : Outcome) :
    c.Tells (.read r) outcome ↔ outcome = .text text := by
  simp only [Tells, h]

theorem tells_read_none (h : c r.names = none) (outcome : Outcome) :
    c.Tells (.read r) outcome ↔ outcome = .failed .notFound := by
  simp only [Tells, h]

theorem tells_makeFolders_file {text : String} {isProgram : Bool}
    (h : c r.names = some (.file text isProgram)) (outcome : Outcome) :
    c.Tells (.makeFolders r) outcome ↔ outcome = .failed .alreadyExists := by
  simp only [Tells, h]

theorem after_makeFolders_file {text : String} {isProgram : Bool}
    (h : c r.names = some (.file text isProgram)) : c.after (.makeFolders r) = c := by
  simp only [Contents.after, h]

section Open

variable (h : ∀ text isProgram, c r.names ≠ some (.file text isProgram))
include h

theorem tells_makeFolders_open (outcome : Outcome) :
    c.Tells (.makeFolders r) outcome ↔ outcome = .done := by
  simp only [Tells]

theorem after_makeFolders_open : c.after (.makeFolders r) = c.addFolders r.names := by
  simp only [Contents.after]

end Open

/-- Nothing is left open. -/
theorem Tells.unique {outcome outcome' : Outcome} (h : c.Tells call outcome)
    (h' : c.Tells call outcome') : outcome = outcome' := by
  cases call with
  | list r | walk r =>
    obtain ⟨found, rfl, hfinds⟩ := h
    obtain ⟨found', rfl, hfinds'⟩ := h'
    rw [hfinds.unique hfinds']
  | _ => exact h.trans h'.symm

/-! ## Contents stay sound -/

theorem Sound.folder_of_prefix (h : c.Sound) (hpre : upper <+: names) (hne : upper ≠ names)
    (hsome : (c names).isSome) : c upper = some .folder := by
  induction names using List.reverseRecOn with
  | nil => exact absurd (List.prefix_nil.mp hpre) hne
  | append_singleton names name ih =>
    have hnames := h.nested hsome
    rcases List.prefix_concat_iff.mp hpre with rfl | hpre
    · exact absurd rfl hne
    · by_cases he : upper = names
      · rw [he, hnames]
      · exact ih hpre he (by rw [hnames]; rfl)

theorem Sound.folder_above (h : c.Sound) {below : List String} (hne : below ≠ [])
    (hsome : (c (names ++ below)).isSome) : c names = some .folder :=
  h.folder_of_prefix (List.prefix_append _ _) (by simpa using hne) hsome

theorem Sound.isSome_above (h : c.Sound) {below : List String}
    (hsome : (c (names ++ below)).isSome) : (c names).isSome := by
  rcases eq_or_ne below [] with rfl | hne
  · rwa [List.append_nil] at hsome
  · rw [h.folder_above hne hsome]
    rfl

theorem Sound.hasParent (h : c.Sound) (hne : names ≠ []) (hsome : (c names).isSome) :
    c.HasParent names := by
  obtain rfl | ⟨before, last, rfl⟩ := List.eq_nil_or_concat names
  · exact absurd rfl hne
  · rw [List.concat_eq_append] at hsome ⊢
    rw [HasParent, List.dropLast_concat]
    exact h.nested hsome

/-- What is there is not below a file. -/
theorem Sound.clear (h : c.Sound) (hsome : (c names).isSome) : c.Clear names := by
  intro upper hpre hne text isProgram hfile
  rw [h.folder_of_prefix hpre hne hsome] at hfile
  cases hfile

theorem Sound.put (h : c.Sound) (hparent : c.HasParent r.names) (hopen : c r.names ≠ some .folder) :
    (c.put r.names (.file text false)).Sound where
  start := by rw [Contents.put, if_neg (Ne.symm r.ne_nil), h.start]
  nested := by
    intro names name hsome
    have hfolder : c names = some .folder := by
      unfold Contents.put at hsome
      split at hsome
      next he =>
        rw [HasParent, ← he, List.dropLast_concat] at hparent
        exact hparent
      next => exact h.nested hsome
    have hne : ¬ names = r.names := fun he => hopen (he ▸ hfolder)
    rw [Contents.put, if_neg hne, hfolder]
  routed := by
    intro names hne hsome
    unfold Contents.put at hsome
    split at hsome
    next he => exact ⟨r, he.symm⟩
    next => exact h.routed hne hsome
  plain := by
    intro names text' isProgram hfile
    unfold Contents.put at hfile
    split at hfile
    next => cases hfile; rfl
    next => exact h.plain hfile

theorem Sound.addFolders (h : c.Sound) (r : Route) : (c.addFolders r.names).Sound where
  start := by rw [Contents.addFolders, if_pos List.nil_prefix]
  nested := by
    intro names name hsome
    unfold Contents.addFolders at hsome ⊢
    split
    next => rfl
    next hnames =>
      have hlonger : ¬ names ++ [name] <+: r.names := fun hpre =>
        hnames ((List.prefix_append names [name]).trans hpre)
      rw [if_neg hlonger] at hsome
      exact h.nested hsome
  routed := by
    intro names hne hsome
    unfold Contents.addFolders at hsome
    split at hsome
    next hpre => exact ⟨r.upTo hne hpre, rfl⟩
    next => exact h.routed hne hsome
  plain := by
    intro names text isProgram hfile
    unfold Contents.addFolders at hfile
    split at hfile
    next => cases hfile
    next => exact h.plain hfile

/-! ## Walking -/

section Walking

variable {entries : Path → List Path} {hasFolder : Path → Bool} (hsound : c.Sound)
  (hentries : ∀ r : Route, c.Clear r.names →
    c.Finds r.names (·.length = 1) (entries r.path).toFinset)
  (hfolders : ∀ r : Route, c.Clear r.names → hasFolder r.path = (c r.names == some .folder))

include hsound hentries hfolders

/-- One step of a walk. -/
theorem mem_walked_succ (hclear : c.Clear r.names) {bound : Nat} {path : Path} :
    path ∈ walked entries hasFolder (bound + 1) r.path ↔
      ∃ r' : Route, (∃ name, r'.names = r.names ++ [name]) ∧ (c r'.names).isSome
        ∧ (path = r'.path ∨ c r'.names = some .folder
          ∧ path ∈ walked entries hasFolder bound r'.path) := by
  rw [walked, List.mem_flatMap]
  constructor
  · rintro ⟨entry, hentry, hpath⟩
    obtain ⟨below, hone, hsome, rfl⟩ :=
      (hentries r hclear entry).mp (List.mem_toFinset.mpr hentry)
    obtain ⟨name, rfl⟩ := List.length_eq_one_iff.mp hone
    obtain ⟨r', hr'⟩ := hsound.routed (by simp) hsome
    have hroute : pathOf (r.names ++ [name]) = r'.path := congrArg pathOf hr'.symm
    rw [← hr'] at hsome
    rw [hroute, hfolders r' (hsound.clear hsome)] at hpath
    refine ⟨r', ⟨name, hr'⟩, hsome, ?_⟩
    split at hpath
    next hfolder => exact (List.mem_cons.mp hpath).imp_right fun h => ⟨by simpa using hfolder, h⟩
    next => exact .inl (List.mem_singleton.mp hpath)
  · rintro ⟨r', ⟨name, hr'⟩, hsome, hpath⟩
    have hroute : pathOf (r.names ++ [name]) = r'.path := congrArg pathOf hr'.symm
    refine ⟨r'.path, List.mem_toFinset.mp ((hentries r hclear _).mpr
      ⟨[name], rfl, hr' ▸ hsome, hroute.symm⟩), ?_⟩
    rw [hfolders r' (hsound.clear hsome)]
    rcases hpath with rfl | ⟨hfolder, hpath⟩
    · split <;> simp
    · simp [hfolder, hpath]

/-- A walk finds all that is below, as deep as it goes. -/
theorem finds_walked (hclear : c.Clear r.names) (bound : Nat) :
    c.Finds r.names (fun below => below ≠ [] ∧ below.length ≤ bound)
      (walked entries hasFolder bound r.path).toFinset := by
  induction bound generalizing r with
  | zero =>
    intro path
    rw [List.mem_toFinset]
    refine iff_of_false List.not_mem_nil ?_
    rintro ⟨below, ⟨hne, hlength⟩, _⟩
    exact hne (List.length_eq_zero_iff.mp (Nat.le_zero.mp hlength))
  | succ bound ih =>
    intro path
    rw [List.mem_toFinset, mem_walked_succ hsound hentries hfolders hclear]
    constructor
    · rintro ⟨r', ⟨name, hr'⟩, hsome, rfl | ⟨_, hpath⟩⟩
      · exact ⟨[name], by simp, hr' ▸ hsome, congrArg pathOf hr'⟩
      · obtain ⟨below, ⟨_, hlength⟩, hbelow, rfl⟩ :=
          (ih (hsound.clear hsome) path).mp (List.mem_toFinset.mpr hpath)
        rw [hr', List.append_assoc] at hbelow ⊢
        exact ⟨name :: below, by simpa using hlength, hbelow, rfl⟩
    · rintro ⟨below, ⟨hne, hlength⟩, hsome, rfl⟩
      obtain ⟨name, below, rfl⟩ := List.exists_cons_of_ne_nil hne
      rw [List.append_cons] at hsome ⊢
      have hstep : (c (r.names ++ [name])).isSome := hsound.isSome_above hsome
      obtain ⟨r', hr'⟩ := hsound.routed (by simp) hstep
      rw [← hr'] at hstep hsome ⊢
      refine ⟨r', ⟨name, hr'⟩, hstep, ?_⟩
      rcases eq_or_ne below [] with rfl | hbelow
      · exact .inl (congrArg pathOf (List.append_nil r'.names))
      · refine .inr ⟨hsound.folder_above hbelow hsome, List.mem_toFinset.mp
          ((ih (hsound.clear hstep) _).mpr ⟨below, ⟨hbelow, ?_⟩, hsome, rfl⟩)⟩
        simpa using hlength

variable {σ : Type} {answer : Backend σ} {s : σ} {bound : Nat}

/-- So a walk that goes as deep as there is anything finds all that is below. -/
theorem tells_walk (hlist : ∀ folder, answer (.list folder) s = (.ok (entries folder), s))
    (hfolder : ∀ path, answer (.isFolder path) s = (hasFolder path, s))
    (hdepth : answer .depth s = (bound, s))
    (hdeep : ∀ names, (c names).isSome → names.length ≤ bound) (hclear : c.Clear r.names) :
    c.Tells (.walk r) ((Call.walk r).work.run answer s).1
      ∧ ((Call.walk r).work.run answer s).2 = s := by
  have hrun : (Call.walk r).work.run answer s
      = (.paths (walked entries hasFolder bound r.path).toFinset, s) := by
    refine (Procedure.run_bind _ (Storage.walk r.path) _ s).trans ?_
    rw [run_walk hfolder hlist hdepth]
    rfl
  rw [hrun]
  refine ⟨⟨_, rfl, fun path => ?_⟩, rfl⟩
  rw [finds_walked hsound hentries hfolders hclear bound path]
  constructor
  · rintro ⟨below, ⟨hne, _⟩, hbelow⟩
    exact ⟨below, hne, hbelow⟩
  · rintro ⟨below, hne, hsome, hpath⟩
    have hlength := hdeep _ hsome
    rw [List.length_append] at hlength
    exact ⟨below, ⟨hne, by omega⟩, hsome, hpath⟩

end Walking

/-- Each call fits what the calls before it leave. -/
def FitsAll : Contents → List Call → Prop
  | _, [] => True
  | c, call :: more => c.Fits call ∧ (c.after call).FitsAll more

end Contents

/-! ## Faithful storages -/

section Faithful

variable {σ τ : Type} {answer : Backend σ} {answer' : Backend τ}

/-- Whatever is called, the storage does as its contents tell. -/
def Faithful (answer : Backend σ) (Shows : σ → Contents → Prop) : Prop :=
  ∀ {s c}, Shows s c → ∀ {call : Call}, c.Fits call →
    c.Tells call (call.work.run answer s).1 ∧ Shows (call.work.run answer s).2 (c.after call)

/-- Two faithful storages with the same contents cannot be told apart. -/
theorem Faithful.run_eq {Shows : σ → Contents → Prop} {Shows' : τ → Contents → Prop}
    (hfaithful : Faithful answer Shows) (hfaithful' : Faithful answer' Shows') {s : σ} {s' : τ}
    {c : Contents} (hs : Shows s c) (hs' : Shows' s' c) {calls : List Call}
    (hfits : c.FitsAll calls) :
    ((calls.mapM Call.work).run answer s).1 = ((calls.mapM Call.work).run answer' s').1 := by
  induction calls generalizing s s' c with
  | nil => rfl
  | cons call more ih =>
    obtain ⟨htells, hs⟩ := hfaithful hs hfits.1
    obtain ⟨htells', hs'⟩ := hfaithful' hs' hfits.1
    have hmore := ih hs hs' hfits.2
    calc (((call :: more).mapM Call.work).run answer s).1
        = (call.work.run answer s).1
          :: ((more.mapM Call.work).run answer (call.work.run answer s).2).1 :=
          congrArg Prod.fst (Procedure.run_mapM_cons answer Call.work call more s)
      _ = (call.work.run answer' s').1
          :: ((more.mapM Call.work).run answer' (call.work.run answer' s').2).1 := by
          rw [htells.unique htells', hmore]
      _ = (((call :: more).mapM Call.work).run answer' s').1 :=
          (congrArg Prod.fst (Procedure.run_mapM_cons answer' Call.work call more s')).symm

end Faithful

end Daybook.Storage
