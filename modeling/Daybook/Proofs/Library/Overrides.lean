/-
Daybook.Proofs.Library.Overrides — the user's lists in place of the bundled ones.

What a folder shows of each of the two files is one of four things (`Found`), and
that is said of the storage alone: nothing is seen, a file that cannot be read, a
text that holds no list, or a list. Which texts hold which list is said by the
grammar of JSON (`Holds`). `overrides_independent` says what becomes of the two
files together. Each shelf of the library depends on its own file only, and the
bundled list is there for a file that is not seen and for no other. Complaints come
in a fixed order, in which both files are read before either list is found empty.

So nothing that is loaded, bundled or accepted has an empty shelf, and a draw from
it never fails.
-/
import Daybook.Proofs.Library.Lists
import Daybook.Proofs.Library.Loaded
import Mathlib.Data.List.ReduceOption

namespace Daybook.Library

open Storage (Faults Memory Try seen)

/-! ## 1. What a file shows -/

/-- What a storage shows of a file with a list in it. -/
inductive Found (α : Type) where
  /-- No such file is seen. -/
  | nothing
  /-- Something is there that cannot be read. -/
  | unreadable (cause : StorageError)
  /-- The text holds no such list. -/
  | malformed
  | list (xs : List α)

namespace Found

variable {α : Type}

/-- What a memory shows of the file at a path through faults. A folder is seen there
too, and cannot be read. -/
def of (faults : Faults) (m : Memory) (path : Path) (read : String → Option (List α)) : Found α :=
  if faults.blind ∨ m.has path = false then nothing
  else if faults.reads then unreadable .denied
  else match m.textAt? path with
    | none => unreadable (.noFile path)
    | some text =>
      match read text with
      | none => malformed
      | some xs => list xs

/-- There is no such file, or one with something in its list. -/
def Usable : Found α → Prop
  | nothing => True
  | unreadable _ | malformed => False
  | list xs => xs ≠ []

/-- The list that is taken, where `bundled` is the one that needs no file. -/
def taken? (bundled : List α) : Found α → Option (List α)
  | nothing => some bundled
  | unreadable _ | malformed => none
  | list xs => some xs

/-- What is wrong with the file at a path. -/
def complaint? (path : Path) : Found α → Option JournalError
  | unreadable cause => some (.fileRead path cause)
  | malformed => some (.libraryParse path)
  | nothing | list _ => none

/-- What is wrong with the list in the file: there is nothing in it. -/
def lack? (shelf : Shelf) : Found α → Option JournalError
  | list [] => some (.emptyLibrary shelf)
  | _ => none

/-- What comes of the file at a path. -/
def outcome (path : Path) (bundled : List α) : Found α → Except JournalError (List α)
  | nothing => .ok bundled
  | unreadable cause => .error (.fileRead path cause)
  | malformed => .error (.libraryParse path)
  | list xs => .ok xs

theorem of_list {faults : Faults} {m : Memory} {path : Path} {read : String → Option (List α)}
    {text : String} {xs : List α} (hblind : faults.blind = false) (hreads : faults.reads = false)
    (hhas : m.has path = true) (htext : m.textAt? path = some text) (hread : read text = some xs) :
    of faults m path read = list xs := by
  simp [of, hblind, hreads, hhas, htext, hread]

section Outcome

variable {found : Found α} {path : Path} {bundled : List α}

theorem complaint?_of_outcome {e : JournalError} (h : found.outcome path bundled = .error e) :
    found.complaint? path = some e := by
  cases found <;> cases h <;> rfl

theorem taken?_of_outcome {xs : List α} (h : found.outcome path bundled = .ok xs) :
    found.taken? bundled = some xs ∧ found.complaint? path = none := by
  cases found <;> cases h <;> exact ⟨rfl, rfl⟩

/-- The bundled list is never empty, so an empty one comes from a file. -/
theorem lack?_of_outcome {xs : List α} (hbundled : bundled ≠ [])
    (h : found.outcome path bundled = .ok xs) (shelf : Shelf) :
    found.lack? shelf = if xs.isEmpty then some (.emptyLibrary shelf) else none := by
  cases found with
  | nothing =>
    cases h
    rw [if_neg (by simpa using hbundled)]
    rfl
  | list ys =>
    cases h
    cases xs <;> rfl
  | unreadable | malformed => cases h

theorem usable_iff (path : Path) (shelf : Shelf) :
    found.Usable ↔ found.complaint? path = none ∧ found.lack? shelf = none := by
  cases found with
  | list xs => cases xs <;> simp [Usable, complaint?, lack?]
  | _ => simp [Usable, complaint?, lack?]

end Outcome

end Found

section Loading

variable {α : Type} (faults : Faults) (m : Memory)

/-- A list is loaded as the file shows it. -/
theorem run_loadList (path : Path) (read : String → Option (List α)) (bundled : List α) :
    (loadList path read bundled).run.run (seen faults) m
      = ((Found.of faults m path read).outcome path bundled, m) := by
  have hlook : (Storage.isPresent path).run (seen faults) m
      = (if faults.blind then false else m.has path, m) := by
    show seen faults (.isPresent path) m = _
    unfold seen Faults.answer
    cases faults.blind <;> rfl
  have hread : (Storage.read path).run (seen faults) m
      = (if faults.reads then .error .denied
        else (m.textAt? path).elim (.error (.noFile path)) .ok, m) := by
    show seen faults (.read path) m = _
    unfold seen Faults.answer
    cases htext : m.textAt? path <;> cases faults.reads <;>
      simp only [Memory.answer, htext] <;> rfl
  unfold loadList Found.of
  refine (Procedure.run_lift_attempt _ (Storage.isPresent path) m).trans ?_
  rw [hlook]
  cases hblind : faults.blind <;> cases hhas : m.has path
  case false.true =>
    refine (Procedure.run_lift_attempt _ (Storage.read path) m).trans ?_
    rw [hread]
    cases hreads : faults.reads with
    | true => rfl
    | false =>
      cases htext : m.textAt? path with
      | none => rfl
      | some text => cases hlist : read text <;> simp [hlist] <;> rfl
  all_goals rfl

/-- What is wrong with the files in a folder, the first thing first. -/
def complaints (folder : Path) (quotes : Found Quote) (practices : Found Practice) :
    List JournalError :=
  [quotes.complaint? (folder.join quotesFile), practices.complaint? (folder.join practicesFile),
    quotes.lack? .quotes, practices.lack? .practices].reduceOption

theorem complaints_eq_nil_iff {folder : Path} {quotes : Found Quote} {practices : Found Practice} :
    complaints folder quotes practices = [] ↔ quotes.Usable ∧ practices.Usable := by
  rw [Found.usable_iff (folder.join quotesFile) .quotes,
    Found.usable_iff (folder.join practicesFile) .practices, complaints,
    List.reduceOption, List.filterMap_eq_nil_iff]
  simp only [List.forall_mem_cons, List.not_mem_nil, false_imp_iff, implies_true, and_true, id]
  tauto

/-- A library is loaded if there is nothing to complain of. -/
theorem run_load (folder : Path) :
    let quotes := Found.of faults m (folder.join quotesFile) quotesIn?
    let practices := Found.of faults m (folder.join practicesFile) practicesIn?
    (complaints folder quotes practices = [] ∧ ∃ library,
      (load folder).run.run (seen faults) m = (.ok library, m)
        ∧ quotes.taken? bundledQuotes = some library.quotes
        ∧ practices.taken? bundledPractices = some library.practices)
    ∨ ∃ e, (complaints folder quotes practices).head? = some e
      ∧ (load folder).run.run (seen faults) m = (.error e, m) := by
  intro quotes practices
  have hquotes := run_loadList faults m (folder.join quotesFile) quotesIn? bundledQuotes
  have hpractices := run_loadList faults m (folder.join practicesFile) practicesIn? bundledPractices
  rcases hq : quotes.outcome (folder.join quotesFile) bundledQuotes with e | qs
  · refine .inr ⟨e, ?_, Procedure.run_attempt_error _ (hquotes.trans (by rw [hq]))⟩
    rw [complaints, Found.complaint?_of_outcome hq, List.reduceOption_cons_of_some, List.head?_cons]
  have hrest := Procedure.run_attempt_ok (fun qs => do
    ofLists qs (← loadList (folder.join practicesFile) practicesIn? bundledPractices))
    (hquotes.trans (by rw [hq]))
  obtain ⟨htaken, hfine⟩ := Found.taken?_of_outcome hq
  rcases hp : practices.outcome (folder.join practicesFile) bundledPractices with e | ps
  · refine .inr ⟨e, ?_, hrest.trans (Procedure.run_attempt_error _
      (hpractices.trans (by rw [hp])))⟩
    rw [complaints, hfine, Found.complaint?_of_outcome hp, List.reduceOption_cons_of_none,
      List.reduceOption_cons_of_some, List.head?_cons]
  obtain ⟨htaken', hfine'⟩ := Found.taken?_of_outcome hp
  have hload : (load folder).run.run (seen faults) m = (ofLists qs ps, m) := by
    refine hrest.trans ((Procedure.run_attempt_ok _ (hpractices.trans (by rw [hp]))).trans ?_)
    rw [run_lift_ofLists]
    rfl
  rw [hload, complaints, hfine, hfine', Found.lack?_of_outcome (by decide) hq,
    Found.lack?_of_outcome (by decide) hp, htaken, htaken', ofLists]
  cases qs.isEmpty <;> cases ps.isEmpty <;> simp

end Loading

/-! ## 3. Libraries -/

/-- The libraries that can be come by. -/
inductive Obtainable : Library → Prop where
  | accepted {quotes : List Quote} {practices : List Practice} {library : Library}
      (h : ofLists quotes practices = .ok library) : Obtainable library
  | bundled : Obtainable bundled
  | loaded {σ : Type} {backend : Storage.Backend σ} {s : σ} {folder : Path} {library : Library}
      (h : ((load folder).run.run backend s).1 = .ok library) : Obtainable library

theorem Obtainable.full {library : Library} (h : Obtainable library) : library.Full := by
  cases h with
  | accepted h => exact full_of_ofLists h
  | bundled => exact ⟨by decide, by decide⟩
  | @loaded _ backend s folder _ h =>
    have hchosen : ((loadChosen (some folder)).run.run backend s).1 = .ok library := h
    exact full_of_loadChosen hchosen

/-- From something that is not empty an element is drawn. -/
theorem exists_drawn {α : Type} (shelf : Shelf) {xs : List α} (h : xs ≠ []) (selector : Selector) :
    ∃ x ∈ xs, ∃ selector', (pickFrom shelf xs).run.run selector = (.ok x, selector') := by
  obtain ⟨x, selector', hrun⟩ := pickFrom_succeeds shelf h selector
  exact ⟨x, pickFrom_ensures shelf xs _ _ _ hrun, selector', hrun⟩

/-- Each of the two files in a folder stands for itself. The list in a file is the one that
its text holds as a JSON text, and any other text is malformed. A library is loaded exactly
if both files are usable, and has the list of each file that is seen and the bundled list for
one that is not. Otherwise the first thing that is wrong with them is the error, and nothing
is loaded in part. So there is a quote and a practice to draw from every library. -/
theorem overrides_independent (faults : Faults) (m : Memory) (folder : Path) :
    let quotes := Found.of faults m (folder.join quotesFile) quotesIn?
    let practices := Found.of faults m (folder.join practicesFile) practicesIn?
    let r := (load folder).run.run (seen faults) m
    (∀ text qs, quotesIn? text = some qs ↔ Holds "quotes" IsQuote text qs)
    ∧ (∀ text ps, practicesIn? text = some ps ↔ Holds "practices" IsPractice text ps)
    ∧ r.2 = m
    ∧ ((∃ library, r.1 = .ok library) ↔ quotes.Usable ∧ practices.Usable)
    ∧ (∀ library, r.1 = .ok library → quotes.taken? bundledQuotes = some library.quotes
      ∧ practices.taken? bundledPractices = some library.practices)
    ∧ (∀ e, r.1 = .error e ↔ (complaints folder quotes practices).head? = some e)
    ∧ ∀ library, Obtainable library → ∀ selector,
      (∃ quote ∈ library.quotes, ∃ selector',
        library.randomQuote.run.run selector = (.ok quote, selector'))
      ∧ ∃ practice ∈ library.practices, ∃ selector',
        library.randomPractice.run.run selector = (.ok practice, selector') := by
  intro quotes practices r
  refine ⟨fun _ _ => quotesIn?_eq_some_iff, fun _ _ => practicesIn?_eq_some_iff, ?_, ?_, ?_, ?_,
    fun library hlibrary selector => ⟨exists_drawn .quotes hlibrary.full.quotes selector,
      exists_drawn .practices hlibrary.full.practices selector⟩⟩
  all_goals
    rcases run_load faults m folder with ⟨hnone, library, hrun, htaken⟩ | ⟨e, hsome, hrun⟩
    all_goals simp only [r, hrun]
  · exact iff_of_true ⟨library, rfl⟩ (complaints_eq_nil_iff.mp hnone)
  · refine iff_of_false (by simp) fun husable => ?_
    have hnone : complaints folder quotes practices = [] := complaints_eq_nil_iff.mpr husable
    rw [hnone, List.head?_nil] at hsome
    cases hsome
  · rintro _ ⟨⟩
    exact htaken
  · rintro _ ⟨⟩
  · simp [quotes, practices, hnone]
  · simp [quotes, practices, hsome]

/-- A file with one quote, and with a number that nobody asked for, takes the place of the
bundled quotes and leaves the practices as they are. Where the quotes are an empty list and
the practices a text that breaks off, that text is complained of first. Who sees neither of
the two files has the bundled library. -/
theorem overrides_independent_own_quote :
    let text := "\x7b\"quotes\":[\x7b\"text\":\"Only this\",\"author\":\"Me\",\"n\":0.5\x7d]\x7d"
    let own := Memory.empty.withFile ⟨"lib/quotes.json"⟩ text
    let broken := (Memory.empty.withFile ⟨"lib/quotes.json"⟩ "[[]]").withFile
      ⟨"lib/practices.json"⟩ "[[[\"Breathe.\"]]"
    let blind : Faults := { Faults.none with blind := true }
    Holds "quotes" IsQuote text [⟨"Only this", "Me"⟩]
    ∧ (∃ library, ((load ⟨"lib"⟩).run.run (seen .none) own).1 = .ok library
      ∧ library.quotes = [⟨"Only this", "Me"⟩] ∧ library.practices = bundledPractices)
    ∧ ((load ⟨"lib"⟩).run.run (seen .none) broken).1 = .error (.libraryParse ⟨"lib/practices.json"⟩)
    ∧ (∃ library, ((load ⟨"lib"⟩).run.run (seen blind) broken).1 = .ok library
      ∧ library.quotes = bundledQuotes)
    ∧ ∃ quote ∈ bundledQuotes, ∃ selector,
      bundled.randomQuote.run.run (.seeded 7) = (.ok quote, selector) := by
  intro text own broken blind
  have hread : quotesIn? text = some [⟨"Only this", "Me"⟩] := by decide +kernel
  obtain ⟨hquotes, -, -, hok, htaken, -, -⟩ := overrides_independent .none own ⟨"lib"⟩
  obtain ⟨-, -, -, -, -, herror, hdraws⟩ := overrides_independent .none broken ⟨"lib"⟩
  obtain ⟨-, -, -, hok', htaken', -, -⟩ := overrides_independent blind broken ⟨"lib"⟩
  have hlist : Found.of .none own (Path.join ⟨"lib"⟩ quotesFile) quotesIn?
      = .list [⟨"Only this", "Me"⟩] :=
    Found.of_list rfl rfl (by decide +kernel) (by decide +kernel) hread
  have hnothing : Found.of .none own (Path.join ⟨"lib"⟩ practicesFile) practicesIn? = .nothing :=
    if_pos (.inr (by decide +kernel))
  rw [hlist, hnothing] at hok htaken
  obtain ⟨library, hlibrary⟩ := hok.mpr ⟨List.cons_ne_nil _ _, trivial⟩
  obtain ⟨library', hlibrary'⟩ := hok'.mpr ⟨trivial, trivial⟩
  refine ⟨(hquotes _ _).mp hread, ⟨library, hlibrary, ?_, ?_⟩, (herror _).mpr (by decide +kernel),
    ⟨library', hlibrary', ?_⟩, (hdraws bundled .bundled (.seeded 7)).1⟩
  · exact (Option.some.inj (htaken library hlibrary).1).symm
  · exact (Option.some.inj (htaken library hlibrary).2).symm
  · exact (Option.some.inj (htaken' library' hlibrary').1).symm

end Daybook.Library
