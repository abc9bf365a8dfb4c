/-
Daybook.Proofs.Storage.Subtree — a walk finds all that lies below a folder.

A walk is written with a bound on how deep it goes. `Unfolds` is the same walk
without the bound: a folder among the entries is followed by what its own entries
unfold to, and a row has such an unfolding only if going down comes to an end. In
a memory it does, and the depth that is asked for cuts nothing off, because each
entry has one component more than the folder that it lies in (`unfolds_walked`).

What is found can then be read off from the unfolding: it holds its entries and
with each folder the entries of that folder, and nothing that is not reached so.
In a memory that can be made from the empty one every folder on the way to a path
is there, so this is exactly what lies below (`walk_exact`). Nothing is found
twice, because two entries of one folder have nothing below them in common
(`Unfolds.apart`); only a place that holds a file and a folder is an entry twice.
-/
import Daybook.Proofs.Storage.Closed

namespace Daybook.Storage.Memory

variable {m : Memory} {path p folder entry : Path} {text : String}
  {entries found : List Path}

/-! ## 1. Going down without a bound -/

/-- What a row of entries unfolds to: every entry, and each folder followed by
what is below it. -/
inductive Unfolds (m : Memory) : List Path → List Path → Prop where
  | nil : Unfolds m [] []
  | file {entry : Path} {entries found : List Path} (h : m.hasFolder entry = false)
      (rest : Unfolds m entries found) : Unfolds m (entry :: entries) (entry :: found)
  | folder {entry : Path} {entries inside found : List Path} (h : m.hasFolder entry = true)
      (below : Unfolds m (m.entries entry) inside) (rest : Unfolds m entries found) :
      Unfolds m (entry :: entries) (entry :: inside ++ found)

theorem liesIn_iff_parent : liesIn folder p = true
    ↔ ∃ parent, p.parent? = some parent ∧ parent.same folder = true := by
  unfold liesIn
  cases p.parent? <;> simp

/-- What lies directly in a folder has one component more. -/
theorem length_of_mem_entries (h : p ∈ m.entries folder) :
    p.components.length = folder.components.length + 1 := by
  obtain ⟨parent, hparent, hsame⟩ := liesIn_iff_parent.mp (mem_entries_iff.mp h).2
  rcases p.parent?_cases with ⟨hnone, _⟩ | ⟨parent', hparent', hne, _, hdrop⟩
  · rw [hnone] at hparent
    cases hparent
  · obtain rfl := Option.some.inj (hparent'.symm.trans hparent)
    have hpos := List.length_pos_iff.mpr hne
    rw [← Path.same_iff.mp hsame, hdrop, List.length_dropLast]
    omega

theorem isBelow_of_mem_entries (h : p ∈ m.entries folder) : p.IsBelow folder := by
  obtain ⟨parent, hparent, hsame⟩ := liesIn_iff_parent.mp (mem_entries_iff.mp h).2
  exact (Path.isBelow_iff_parent hparent).mpr (.inl hsame)

/-- Nothing lies in a folder with as many components as the longest path. -/
theorem entries_eq_nil (h : m.depth ≤ folder.components.length) : m.entries folder = [] := by
  refine List.eq_nil_iff_forall_not_mem.mpr fun p hp => ?_
  have hlong := length_le_depth (mem_entries_iff.mp hp).1
  rw [length_of_mem_entries hp] at hlong
  omega

/-- A walk that is cut off nowhere is an unfolding. The induction is on the bound:
with each folder that is entered there is one component less to go. -/
theorem unfolds_walked {bound : Nat} (h : m.depth ≤ folder.components.length + bound) :
    m.Unfolds (m.entries folder) (m.walked bound folder) := by
  induction bound generalizing folder with
  | zero =>
    rw [entries_eq_nil h]
    exact .nil
  | succ bound ih =>
    have hrow : ∀ entries : List Path, (∀ e ∈ entries, e ∈ m.entries folder) →
        m.Unfolds entries (entries.flatMap fun e =>
          if m.hasFolder e then e :: m.walked bound e else [e]) := by
      intro entries hentries
      induction entries with
      | nil => exact .nil
      | cons e entries ihrow =>
        obtain ⟨he, hmore⟩ := List.forall_mem_cons.mp hentries
        rw [List.flatMap_cons]
        split
        · rename_i hfolder
          refine .folder hfolder (ih ?_) (ihrow hmore)
          rw [length_of_mem_entries he]
          omega
        · rename_i hfile
          exact .file (Bool.eq_false_iff.mpr hfile) (ihrow hmore)
    exact hrow _ fun _ he => he

/-! ## 2. What is found -/

namespace Unfolds

variable (h : m.Unfolds entries found)
include h

theorem mem_of_mem_entries (hentry : entry ∈ entries) : entry ∈ found := by
  induction h with
  | nil => exact hentry
  | file _ _ ih => exact (List.mem_cons.mp hentry).elim (· ▸ .head _) fun h => .tail _ (ih h)
  | folder _ _ _ _ ih =>
    rcases List.mem_cons.mp hentry with rfl | hentry
    · exact .head _
    · exact List.mem_append_right _ (ih hentry)

/-- With a folder its entries are found. -/
theorem mem_of_folder (hfolder : folder ∈ found) (hthere : m.hasFolder folder = true)
    (hp : p ∈ m.entries folder) : p ∈ found := by
  induction h with
  | nil => cases hfolder
  | file hfile _ ih =>
    rcases List.mem_cons.mp hfolder with rfl | hfolder
    · rw [hthere] at hfile
      cases hfile
    · exact .tail _ (ih hfolder)
  | folder _ below _ ihbelow ihrest =>
    rcases List.mem_append.mp hfolder with hfolder | hfolder
    · rcases List.mem_cons.mp hfolder with rfl | hfolder
      · exact List.mem_append_left _ (.tail _ (below.mem_of_mem_entries hp))
      · exact List.mem_append_left _ (.tail _ (ihbelow hfolder))
    · exact List.mem_append_right _ (ihrest hfolder)

/-- What is true of the entries, and goes from a folder to its entries, is true of
all that is found. -/
theorem forall_mem {goal : Path → Prop} (hentries : ∀ e ∈ entries, goal e)
    (hdown : ∀ e, goal e → ∀ p ∈ m.entries e, goal p) : ∀ p ∈ found, goal p := by
  induction h with
  | nil => exact hentries
  | file _ _ ih =>
    obtain ⟨hentry, hmore⟩ := List.forall_mem_cons.mp hentries
    exact List.forall_mem_cons.mpr ⟨hentry, ih hmore⟩
  | folder _ _ _ ihbelow ihrest =>
    obtain ⟨hentry, hmore⟩ := List.forall_mem_cons.mp hentries
    exact List.forall_mem_append.mpr
      ⟨List.forall_mem_cons.mpr ⟨hentry, ihbelow (hdown _ hentry)⟩, ihrest hmore⟩

/-- All that is found is an entry or lies below one. -/
theorem exists_prefix (hp : p ∈ found) : ∃ e ∈ entries, e.components <+: p.components := by
  have hall : ∀ p ∈ found, ∃ e ∈ entries, e.components <+: p.components := by
    refine h.forall_mem (fun e he => ⟨e, he, List.prefix_refl _⟩) ?_
    rintro folder ⟨e, he, hpre⟩ p hp
    exact ⟨e, he, hpre.trans (isBelow_of_mem_entries hp).prefix_components⟩
  exact hall p hp

end Unfolds

/-- All that is found below a folder is there and lies below it. -/
theorem Unfolds.sound (h : m.Unfolds (m.entries folder) found) (hp : p ∈ found) :
    p ∈ m.paths ∧ p.IsBelow folder := by
  have hall : ∀ p ∈ found, p ∈ m.paths ∧ p.IsBelow folder := by
    refine h.forall_mem (fun e he => ⟨(mem_entries_iff.mp he).1, isBelow_of_mem_entries he⟩) ?_
    rintro upper ⟨_, hupper⟩ p hp
    exact ⟨(mem_entries_iff.mp hp).1, (isBelow_of_mem_entries hp).trans hupper⟩
  exact hall p hp

/-- In a closed memory all that lies below a folder is found. The induction goes
up from the path: the folder that it lies in is there and is found. -/
theorem Unfolds.complete (h : m.Unfolds (m.entries folder) found) (hclosed : m.Closed)
    (hp : p ∈ m.paths) (hbelow : p.IsBelow folder) : p ∈ found := by
  generalize hn : p.components.length = n
  induction n using Nat.strongRecOn generalizing p with
  | ind n ih =>
    cases hparent : p.parent? with
    | none => exact absurd hbelow (Path.not_isBelow hparent)
    | some parent =>
      rcases (Path.isBelow_iff_parent hparent).mp hbelow with hsame | hup
      · exact h.mem_of_mem_entries (mem_entries_iff.mpr ⟨hp, liesIn_iff_parent.mpr ⟨_, hparent, hsame⟩⟩)
      · -- only the place where relative paths start lies below nothing
        have hempty : parent.isEmpty = false := by
          rw [← Bool.not_eq_true, Path.isEmpty_iff]
          intro hnil
          have hlen := hup.length_lt
          rw [hnil] at hlen
          exact Nat.not_lt_zero _ hlen
        have hthere := hclosed p (has_of_mem_paths hp)
        rw [hasParent, hparent] at hthere
        simp only [hempty, Bool.false_or] at hthere
        obtain ⟨f, hf, hcomp⟩ := hasFolder_iff.mp hthere
        have hsame : f.same parent = true := Path.same_iff.mpr hcomp
        have hentry : p ∈ m.entries f := mem_entries_iff.mpr
          ⟨hp, liesIn_iff_parent.mpr ⟨_, hparent, by rw [Path.same_comm]; exact hsame⟩⟩
        have hlt : f.components.length < n := by
          rw [← hn, length_of_mem_entries hentry]
          exact Nat.lt_succ_self _
        have hfound := ih _ hlt (List.mem_append_left _ hf) ((Path.isBelow_congr hsame).mpr hup) rfl
        exact h.mem_of_folder hfound (hasFolder_iff.mpr ⟨f, hf, rfl⟩) hentry

/-- A walk goes as deep as there is something to find. -/
theorem mem_walked_iff (hclosed : m.Closed) :
    p ∈ m.walked m.depth folder ↔ p ∈ m.paths ∧ p.IsBelow folder := by
  have hunfolds : m.Unfolds (m.entries folder) (m.walked m.depth folder) :=
    unfolds_walked (Nat.le_add_left _ _)
  exact ⟨hunfolds.sound, fun ⟨hp, hbelow⟩ => hunfolds.complete hclosed hp hbelow⟩

/-! ## 3. Nothing is found twice -/

/-- Each place is kept once as a file and once as a folder at most. -/
structure Distinct (m : Memory) : Prop where
  files : (m.files.map (·.1)).Pairwise fun p q => p.same q = false
  folders : m.folders.Pairwise fun p q => p.same q = false

/-- The paths of the files after a text was put at a path. -/
theorem map_fst_putIn (path : Path) (text : String) (files : List (Path × String)) :
    (putIn path text files).map (·.1)
      = files.map (·.1) ++ if files.any fun file => file.1.same path then [] else [path] := by
  induction files with
  | nil => rfl
  | cons file files ih =>
    rw [List.any_cons, putIn]
    cases hsame : file.1.same path with
    | true => simp
    | false =>
      rw [Bool.false_or, if_neg Bool.false_ne_true, List.map_cons, ih]
      rfl

theorem pairwise_concat {paths : List Path} (h : paths.Pairwise fun p q => p.same q = false)
    (hnew : ∀ q ∈ paths, q.same p = false) :
    (paths ++ [p]).Pairwise fun p q => p.same q = false :=
  List.pairwise_append.mpr ⟨h, List.pairwise_singleton _ _, by simpa using hnew⟩

theorem Distinct.put (h : m.Distinct) (path : Path) (text : String) :
    (m.put path text).Distinct := by
  refine ⟨?_, h.folders⟩
  rw [Memory.put, map_fst_putIn]
  split
  · simpa using h.files
  · rename_i hnone
    refine pairwise_concat h.files fun q hq => ?_
    obtain ⟨file, hfile, rfl⟩ := List.mem_map.mp hq
    exact Bool.eq_false_iff.mpr fun hsame => hnone (List.any_eq_true.mpr ⟨file, hfile, hsame⟩)

theorem Distinct.addFolder (h : m.Distinct) (folder : Path) : (m.addFolder folder).Distinct := by
  unfold Memory.addFolder
  split
  · exact h
  · rename_i hnone
    refine ⟨h.files, pairwise_concat h.folders fun q hq => ?_⟩
    exact Bool.eq_false_iff.mpr fun hsame => hnone (List.any_eq_true.mpr ⟨q, hq, hsame⟩)

theorem Distinct.addFolders (h : m.Distinct) (folder : Path) : (m.addFolders folder).Distinct := by
  unfold Memory.addFolders
  generalize folder.ancestors.takeWhile (fun f => !f.isEmpty) = folders
  induction folders generalizing m with
  | nil => exact h
  | cons f folders ih => exact ih (h.addFolder f)

theorem Reachable.distinct (h : Reachable m) : m.Distinct := by
  induction h with
  | empty => exact ⟨.nil, .nil⟩
  | withFile _ path text ih =>
    unfold Memory.withFile
    split
    · exact (ih.addFolders _).put path text
    · exact ih.put path text
  | write _ path text ih =>
    unfold Memory.write
    split
    · exact ih.put path text
    · exact ih
  | create _ path text ih =>
    unfold Memory.create
    split
    · exact ih
    · split
      · exact ih.put path text
      · exact ih
  | makeFolders _ path ih =>
    unfold Memory.makeFolders
    split
    · exact ih
    · exact ih.addFolders path

theorem Distinct.pairwise_entries (h : m.Distinct)
    (hkinds : ∀ p, m.hasFile p = true → m.hasFolder p = false) (folder : Path) :
    (m.entries folder).Pairwise fun p q => p.same q = false := by
  refine List.pairwise_append.mpr ⟨h.folders.filter _, h.files.filter _, fun p hp q hq => ?_⟩
  have hp : m.hasFolder p = true := hasFolder_iff.mpr ⟨p, (List.mem_filter.mp hp).1, rfl⟩
  have hq : m.hasFile q = true := by
    obtain ⟨file, hfile, rfl⟩ := List.mem_map.mp (List.mem_filter.mp hq).1
    exact List.any_eq_true.mpr ⟨file, hfile, Path.same_refl _⟩
  refine Bool.eq_false_iff.mpr fun hsame => ?_
  rw [hasFolder_congr hsame, hkinds q hq] at hp
  cases hp

/-- Two prefixes of one length of one row are the same. -/
theorem same_of_prefix {a b : Path} (hlen : a.components.length = b.components.length)
    (ha : a.components <+: p.components) (hb : b.components <+: p.components) :
    a.same b = true :=
  Path.same_iff.mpr
    ((List.prefix_of_prefix_length_le ha hb (Nat.le_of_eq hlen)).eq_of_length hlen)

/-- Entries of one length that are apart have nothing below them in common. -/
theorem Unfolds.apart (h : m.Unfolds entries found) {n : Nat}
    (hfolders : ∀ folder, (m.entries folder).Pairwise fun p q => p.same q = false)
    (hentries : entries.Pairwise fun p q => p.same q = false)
    (hlength : ∀ e ∈ entries, e.components.length = n) :
    found.Pairwise fun p q => p.same q = false := by
  induction h generalizing n with
  | nil => exact .nil
  | file _ rest ih =>
    obtain ⟨hfirst, hmore⟩ := List.pairwise_cons.mp hentries
    obtain ⟨hlen, hlengths⟩ := List.forall_mem_cons.mp hlength
    refine List.pairwise_cons.mpr ⟨fun q hq => ?_, ih hmore hlengths⟩
    obtain ⟨e, he, hpre⟩ := rest.exists_prefix hq
    refine Bool.eq_false_iff.mpr fun hsame => Bool.false_ne_true ((hfirst e he).symm.trans ?_)
    exact same_of_prefix (p := q) (hlen.trans (hlengths e he).symm)
      (Path.same_iff.mp hsame ▸ List.prefix_refl _) hpre
  | @folder entry entries inside found _ below rest ihbelow ihrest =>
    obtain ⟨hfirst, hmore⟩ := List.pairwise_cons.mp hentries
    obtain ⟨hlen, hlengths⟩ := List.forall_mem_cons.mp hlength
    -- what is found in the folder has its components and more
    have hinside : ∀ p ∈ inside, p.IsBelow entry := fun p hp => (below.sound hp).2
    have hother : ∀ p : Path, entry.components <+: p.components → ∀ q ∈ found, p.same q = false := by
      intro p hp q hq
      obtain ⟨e, he, hpre⟩ := rest.exists_prefix hq
      refine Bool.eq_false_iff.mpr fun hsame => Bool.false_ne_true ((hfirst e he).symm.trans ?_)
      exact same_of_prefix (p := q) (hlen.trans (hlengths e he).symm)
        (Path.same_iff.mp hsame ▸ hp) hpre
    refine List.pairwise_append.mpr ⟨List.pairwise_cons.mpr ⟨fun q hq => ?_, ?_⟩,
      ihrest hmore hlengths, fun p hp => ?_⟩
    · refine Bool.eq_false_iff.mpr fun hsame => ?_
      have hlt := (hinside q hq).length_lt
      rw [Path.same_iff.mp hsame] at hlt
      exact Nat.lt_irrefl _ hlt
    · exact ihbelow (hfolders entry) fun e he => length_of_mem_entries he
    · rcases List.mem_cons.mp hp with rfl | hp
      · exact hother p (List.prefix_refl _)
      · exact hother p (hinside p hp).prefix_components

/-! ## 4. The walk -/

/-- Walking through a memory comes to an end with all that lies below the folder
and nothing else. If no place holds both a file and a folder, nothing is found
twice. -/
theorem walk_exact (h : Reachable m) (folder : Path) :
    ∃ found, (walk folder).run Memory.answer m = (found, m)
      ∧ m.Unfolds (m.entries folder) found
      ∧ (∀ p, p ∈ found ↔ p ∈ m.paths ∧ ∃ a ∈ p.above, a.same folder = true)
      ∧ ((∀ p, m.hasFile p = true → m.hasFolder p = false) →
        found.Pairwise fun p q => p.same q = false) := by
  have hunfolds : m.Unfolds (m.entries folder) (m.walked m.depth folder) :=
    unfolds_walked (Nat.le_add_left _ _)
  refine ⟨_, m.run_walk folder, hunfolds, fun p => ⟨hunfolds.sound, ?_⟩, fun hkinds => ?_⟩
  · rintro ⟨hp, hbelow⟩
    exact hunfolds.complete h.closed hp hbelow
  · exact hunfolds.apart (h.distinct.pairwise_entries hkinds)
      (h.distinct.pairwise_entries hkinds folder) fun e he => length_of_mem_entries he

theorem walk_exact_dots_and_root :
    let m : Memory :=
      (((Memory.empty.withFile ⟨"./a/../b.md"⟩ "x").makeFolders ⟨"/notes//2024/."⟩).2.create
        ⟨"/notes/./2024/y.md"⟩ "y").2
    let below : List Path := [⟨"./a"⟩, ⟨"./a/.."⟩, ⟨"./a/../b.md"⟩]
    Reachable m ∧ (walk ⟨"./."⟩).run Memory.answer m = (below, m)
      ∧ (∀ p, p ∈ below ↔ p ∈ m.paths ∧ ∃ a ∈ p.above, a.same ⟨"./."⟩ = true)
      ∧ below.Pairwise fun p q => p.same q = false := by
  intro m below
  have hreach : Reachable m := ((Reachable.empty.withFile _ _).makeFolders _).create _ _
  have hrun : (walk ⟨"./."⟩).run Memory.answer m = (below, m) := by decide +kernel
  have hfiles : ∀ file ∈ m.files, m.hasFolder file.1 = false := by decide +kernel
  obtain ⟨found, hfound, _, hmem, hapart⟩ := walk_exact hreach ⟨"./."⟩
  obtain rfl : below = found := congrArg Prod.fst (hrun.symm.trans hfound)
  refine ⟨hreach, hrun, hmem, hapart fun p hp => ?_⟩
  obtain ⟨file, hfile, hsame⟩ := List.any_eq_true.mp hp
  rw [← hasFolder_congr hsame]
  exact hfiles file hfile

end Daybook.Storage.Memory
