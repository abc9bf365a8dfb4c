/-
Daybook.Proofs.Library.Lists — which texts hold a list of quotes or practices.

A list is held by a JSON text (`Document`) for a record with the list in its one
field. A record is an object with each of its fields exactly once or an array of
the fields in order. What else an object holds does not matter, only that all of
its keys are texts.

`quotesIn?_eq_some_iff` and `practicesIn?_eq_some_iff` say that such a text is
read as the list that it holds, and that no other text is read.
-/
import Daybook.Library.Load
import Daybook.Proofs.Json.Parsed
import Mathlib.Data.List.Forall2

namespace Daybook.Json

/-! ## 1. Records -/

/-- Of all the members one has this name, and it has the value. -/
def IsOnly (members : List (Option String × Value)) (name : String) (v : Value) : Prop :=
  ∃ before after, members = before ++ (some name, v) :: after
    ∧ ∀ m ∈ before ++ after, m.1 ≠ some name

/-- A record with these values in its fields. -/
inductive Record (names : List String) : Value → List Value → Prop where
  | object {members : List (Option String × Value)} {values : List Value}
    (hkeys : ∀ m ∈ members, m.1 ≠ none) (hfields : List.Forall₂ (IsOnly members) names values) :
    Record names (.object members) values
  | array {values : List Value} (h : values.length = names.length) :
    Record names (.array values) values

theorem mapM_eq_some_iff {α β : Type} {f : α → Option β} {as : List α} {bs : List β} :
    as.mapM f = some bs ↔ List.Forall₂ (fun a b => f a = some b) as bs := by
  constructor
  · intro h
    induction as generalizing bs with
    | nil =>
      cases h
      exact .nil
    | cons a as ih =>
      rw [List.mapM_cons] at h
      obtain ⟨b, hb, hrest⟩ := Option.bind_eq_some_iff.mp h
      obtain ⟨more, hmore, hdone⟩ := Option.bind_eq_some_iff.mp hrest
      cases hdone
      exact .cons hb (ih hmore)
  · intro h
    induction h with
    | nil => rfl
    | cons hb _ ih =>
      rw [List.mapM_cons, hb, ih]
      rfl

section Fields

variable {members : List (Option String × Value)} {name : String} {names : List String}
  {v : Value} {values : List Value}

theorem isOnly_iff :
    IsOnly members name v ↔ members.filter (fun m => m.1 == some name) = [(some name, v)] := by
  constructor
  · rintro ⟨before, after, rfl, hothers⟩
    obtain ⟨hbefore, hafter⟩ := List.forall_mem_append.mp hothers
    rw [List.filter_append, List.filter_cons_of_pos (by simp),
      List.filter_eq_nil_iff.mpr fun m hm => by simpa using hbefore m hm,
      List.filter_eq_nil_iff.mpr fun m hm => by simpa using hafter m hm, List.nil_append]
  · intro h
    obtain ⟨before, after, hmembers, hbefore, -, hafter⟩ := List.filter_eq_cons_iff.mp h
    refine ⟨before, after, hmembers, List.forall_mem_append.mpr ⟨fun m hm => ?_, fun m hm => ?_⟩⟩
    · simpa using hbefore m hm
    · simpa using List.filter_eq_nil_iff.mp hafter m hm

/-- A field is read from the one member with its name. -/
theorem isOnly_iff_match : IsOnly members name v ↔
    (match members.filter (fun m => m.1 == some name) with
      | [m] => some m.2
      | _ => none) = some v := by
  rw [isOnly_iff]
  constructor
  · intro h
    rw [h]
  · intro h
    split at h
    · rename_i m hm
      have hname : m.1 = some name := by
        have hmem : m ∈ members.filter (fun m => m.1 == some name) := by
          rw [hm]
          exact List.mem_singleton_self m
        simpa using (List.mem_filter.mp hmem).2
      rw [hm, ← hname, ← Option.some.inj h]
    · cases h

theorem any_isNone_eq_true :
    (members.any fun m => m.1.isNone) = true ↔ ¬∀ m ∈ members, m.1 ≠ none := by
  simp only [List.any_eq_true, Option.isNone_iff_eq_none, not_forall, not_not, exists_prop]

theorem fields?_eq_some_iff : v.fields? names = some values ↔ Record names v values := by
  constructor
  · intro h
    cases v with
    | object members =>
      rw [Value.fields?] at h
      split at h
      · cases h
      · rename_i hkeys
        refine .object (not_not.mp (mt any_isNone_eq_true.mpr hkeys)) ?_
        exact (mapM_eq_some_iff.mp h).imp fun name v => isOnly_iff_match.mpr
    | array items =>
      obtain ⟨hlength, hvalues⟩ := Option.ite_none_right_eq_some.mp h
      cases hvalues
      exact .array hlength
    | _ => cases h
  · intro h
    cases h with
    | object hkeys hfields =>
      rw [Value.fields?, if_neg (mt any_isNone_eq_true.mp (not_not.mpr hkeys)), mapM_eq_some_iff]
      exact hfields.imp fun name v => isOnly_iff_match.mp
    | array hlength => exact if_pos hlength

theorem text?_eq_some_iff {text : String} : v.text? = some text ↔ v = .string (some text) := by
  cases v <;> simp [Value.text?]

theorem items?_eq_some_iff : v.items? = some values ↔ v = .array values := by
  cases v <;> simp [Value.items?]

end Fields

end Daybook.Json

namespace Daybook.Library

open Json (Record Value fields?_eq_some_iff items?_eq_some_iff mapM_eq_some_iff
  parse?_eq_some_iff text?_eq_some_iff)

/-! ## 2. Lists -/

inductive IsQuote : Value → Quote → Prop where
  | mk {v : Value} {text author : String}
    (h : Record ["text", "author"] v [.string (some text), .string (some author)]) :
    IsQuote v ⟨text, author⟩

inductive IsPractice : Value → Practice → Prop where
  | mk {v : Value} {text : String} (h : Record ["text"] v [.string (some text)]) :
    IsPractice v ⟨text⟩

/-- A JSON text for a record, whose one field is the list of these things. -/
def Holds {α : Type} (field : String) (Is : Value → α → Prop) (text : String) (xs : List α) :
    Prop :=
  ∃ v items, Json.Grammar.Document v text ∧ Record [field] v [.array items]
    ∧ List.Forall₂ Is items xs

theorem quoteOf?_eq_some_iff {v : Value} {quote : Quote} :
    quoteOf? v = some quote ↔ IsQuote v quote := by
  constructor
  · intro h
    obtain ⟨values, hfields, hread⟩ := Option.bind_eq_some_iff.mp h
    split at hread
    · obtain ⟨text, htext, hread⟩ := Option.bind_eq_some_iff.mp hread
      obtain ⟨author, hauthor, hdone⟩ := Option.bind_eq_some_iff.mp hread
      cases hdone
      rw [text?_eq_some_iff.mp htext, text?_eq_some_iff.mp hauthor] at hfields
      exact .mk (fields?_eq_some_iff.mp hfields)
    · cases hread
  · rintro ⟨h⟩
    exact Option.bind_eq_some_iff.mpr ⟨_, fields?_eq_some_iff.mpr h, rfl⟩

theorem practiceOf?_eq_some_iff {v : Value} {practice : Practice} :
    practiceOf? v = some practice ↔ IsPractice v practice := by
  constructor
  · intro h
    obtain ⟨values, hfields, hread⟩ := Option.bind_eq_some_iff.mp h
    split at hread
    · obtain ⟨text, htext, hdone⟩ := Option.bind_eq_some_iff.mp hread
      cases hdone
      rw [text?_eq_some_iff.mp htext] at hfields
      exact .mk (fields?_eq_some_iff.mp hfields)
    · cases hread
  · rintro ⟨h⟩
    exact Option.bind_eq_some_iff.mpr ⟨_, fields?_eq_some_iff.mpr h, rfl⟩

/-- A list is read exactly from the texts that hold it, if its things are. -/
theorem listIn?_eq_some_iff {α : Type} {field : String} {read : Value → Option α}
    {Is : Value → α → Prop} (hread : ∀ v x, read v = some x ↔ Is v x) {text : String}
    {xs : List α} : listIn? field read text = some xs ↔ Holds field Is text xs := by
  have hitems : ∀ items, items.mapM read = some xs ↔ List.Forall₂ Is items xs := by
    intro items
    rw [mapM_eq_some_iff]
    simp only [hread]
  constructor
  · intro h
    obtain ⟨v, hparse, hrest⟩ := Option.bind_eq_some_iff.mp h
    obtain ⟨values, hfields, hrest⟩ := Option.bind_eq_some_iff.mp hrest
    split at hrest
    · rename_i list
      obtain ⟨items, hlist, hxs⟩ := Option.bind_eq_some_iff.mp hrest
      rw [items?_eq_some_iff.mp hlist] at hfields
      exact ⟨v, items, parse?_eq_some_iff.mp hparse, fields?_eq_some_iff.mp hfields,
        (hitems items).mp hxs⟩
    · cases hrest
  · rintro ⟨v, items, hdocument, hrecord, hxs⟩
    refine Option.bind_eq_some_iff.mpr ⟨v, parse?_eq_some_iff.mpr hdocument, ?_⟩
    refine Option.bind_eq_some_iff.mpr ⟨_, fields?_eq_some_iff.mpr hrecord, ?_⟩
    exact (hitems items).mpr hxs

/-- The texts with quotes are the documents that hold them. -/
theorem quotesIn?_eq_some_iff {text : String} {quotes : List Quote} :
    quotesIn? text = some quotes ↔ Holds "quotes" IsQuote text quotes :=
  listIn?_eq_some_iff fun _ _ => quoteOf?_eq_some_iff

theorem practicesIn?_eq_some_iff {text : String} {practices : List Practice} :
    practicesIn? text = some practices ↔ Holds "practices" IsPractice text practices :=
  listIn?_eq_some_iff fun _ _ => practiceOf?_eq_some_iff

end Daybook.Library
