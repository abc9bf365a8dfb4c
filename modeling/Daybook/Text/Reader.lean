/-
Daybook.Text.Reader — reading a text from its front.

A reader takes what it reads from the characters that are left, or fails.
The formats of the files that users write are readers made of these.
-/
namespace Daybook.Text

/-- Takes what it reads from the front of the text. -/
abbrev Reader (α : Type) := StateT (List Char) Option α

/-- Takes the next character, whatever it is. -/
def next : Reader Char := fun cs =>
  match cs with
  | [] => none
  | c :: rest => some (c, rest)

/-- The next character, which is not taken. -/
def peek : Reader (Option Char) := fun cs => some (cs.head?, cs)

def expect (c : Char) : Reader Unit := fun cs =>
  match cs with
  | [] => none
  | d :: rest => if d = c then some ((), rest) else none

def expectAll : List Char → Reader Unit
  | [] => return ()
  | c :: more => do
    expect c
    expectAll more

/-- Takes the longest row of characters of a kind. -/
def takeAll (kind : Char → Bool) : Reader (List Char) := fun cs =>
  some (cs.takeWhile kind, cs.dropWhile kind)

/-- Passes over all characters of a kind. -/
def skipAll (kind : Char → Bool) : Reader Unit := fun cs =>
  some ((), cs.dropWhile kind)

/-- Takes at least one character of a kind. -/
def takeSome (kind : Char → Bool) : Reader (List Char) := do
  let found ← takeAll kind
  if found.isEmpty then failure else return found

/-- The value of a hexadecimal digit. -/
def hexValue? (c : Char) : Option Nat :=
  if c.isDigit then some (c.toNat - '0'.toNat)
  else if 'a' ≤ c ∧ c ≤ 'f' then some (c.toNat - 'a'.toNat + 10)
  else if 'A' ≤ c ∧ c ≤ 'F' then some (c.toNat - 'A'.toNat + 10)
  else none

/-! ## Laws -/

section Laws

variable {α β : Type} {reader : Reader α} {f : α → Reader β} {cs rest : List Char}

theorem bind_some {a : α} (h : reader cs = some (a, rest)) : (reader >>= f) cs = f a rest := by
  show (reader cs).bind (fun r => f r.1 r.2) = _
  rw [h]
  rfl

theorem bind_none (h : reader cs = none) : (reader >>= f) cs = none := by
  show (reader cs).bind (fun r => f r.1 r.2) = _
  rw [h]
  rfl

/-- What follows on a reader is read from what the reader leaves. -/
theorem bind_eq_some {r : β × List Char} (h : (reader >>= f) cs = some r) :
    ∃ a rest, reader cs = some (a, rest) ∧ f a rest = some r := by
  cases hread : reader cs with
  | none =>
    rw [bind_none hread] at h
    cases h
  | some ar => exact ⟨ar.1, ar.2, rfl, (bind_some hread).symm.trans h⟩

/-- A character of a kind is none of the others. -/
theorem ne_of_kind {kind : Char → Bool} {c d : Char} (hc : kind c = true) (hd : kind d = false) :
    c ≠ d := by
  rintro rfl
  rw [hc] at hd
  cases hd

theorem next_cons (c : Char) (rest : List Char) : next (c :: rest) = some (c, rest) := rfl

theorem next_eq_some {c : Char} (h : next cs = some (c, rest)) : cs = c :: rest := by
  cases cs with
  | nil => cases h
  | cons d cs => cases h; rfl

theorem peek_eq (cs : List Char) : peek cs = some (cs.head?, cs) := rfl

theorem expect_cons (c : Char) (rest : List Char) : expect c (c :: rest) = some ((), rest) := by
  simp [expect]

theorem expect_eq_some {c : Char} {u : Unit} (h : expect c cs = some (u, rest)) :
    cs = c :: rest := by
  cases cs with
  | nil => cases h
  | cons d cs =>
    by_cases hd : d = c
    · rw [hd, expect_cons] at h
      cases h
      rw [hd]
    · simp [expect, hd] at h

theorem expectAll_append (row rest : List Char) :
    expectAll row (row ++ rest) = some ((), rest) := by
  induction row with
  | nil => rfl
  | cons c row ih => exact (bind_some (expect_cons c _)).trans ih

theorem expectAll_eq_some {row : List Char} {u : Unit} (h : expectAll row cs = some (u, rest)) :
    cs = row ++ rest := by
  induction row generalizing cs with
  | nil =>
    cases h
    rfl
  | cons c row ih =>
    obtain ⟨_, more, hfirst, hrest⟩ := bind_eq_some h
    rw [expect_eq_some hfirst, ih hrest]
    rfl

/-- What is read does not matter to a reader that throws it away. -/
theorem discard_eq_some {u : Unit} (h : (discard reader : Reader Unit) cs = some (u, rest)) :
    ∃ a, reader cs = some (a, rest) := by
  obtain ⟨a, more, hread, hdone⟩ := bind_eq_some (f := fun _ => pure ()) h
  cases hdone
  exact ⟨a, hread⟩

theorem discard_some {a : α} (h : reader cs = some (a, rest)) :
    (discard reader : Reader Unit) cs = some ((), rest) :=
  bind_some (f := fun _ => pure ()) h

/-! ### Rows of characters of a kind -/

section Rows

variable {kind : Char → Bool} {row : List Char}

/-- A row of characters of a kind ends where one of another kind stands. -/
theorem takeAll_append (hrow : ∀ c ∈ row, kind c = true)
    (hrest : ∀ c, rest.head? = some c → kind c = false) :
    takeAll kind (row ++ rest) = some (row, rest) := by
  have hnone : rest.takeWhile kind = [] ∧ rest.dropWhile kind = rest := by
    cases rest with
    | nil => exact ⟨rfl, rfl⟩
    | cons c rest => simp [hrest c rfl]
  rw [takeAll, List.takeWhile_append_of_pos hrow, List.dropWhile_append_of_pos hrow, hnone.1,
    hnone.2, List.append_nil]

theorem takeAll_eq_some (h : takeAll kind cs = some (row, rest)) :
    cs = row ++ rest ∧ ∀ c ∈ row, kind c = true := by
  cases h
  exact ⟨(List.takeWhile_append_dropWhile).symm,
    fun c hc => List.all_eq_true.mp List.all_takeWhile c hc⟩

theorem skipAll_append (hrow : ∀ c ∈ row, kind c = true)
    (hrest : ∀ c, rest.head? = some c → kind c = false) :
    skipAll kind (row ++ rest) = some ((), rest) := by
  have htake := Option.some.inj (takeAll_append hrow hrest)
  rw [skipAll, (Prod.mk.inj htake).2]

theorem skipAll_eq_some {u : Unit} (h : skipAll kind cs = some (u, rest)) :
    ∃ row, cs = row ++ rest ∧ ∀ c ∈ row, kind c = true := by
  cases h
  exact ⟨cs.takeWhile kind, takeAll_eq_some rfl⟩

theorem takeSome_append (hne : row ≠ []) (hrow : ∀ c ∈ row, kind c = true)
    (hrest : ∀ c, rest.head? = some c → kind c = false) :
    takeSome kind (row ++ rest) = some (row, rest) := by
  refine (bind_some (takeAll_append hrow hrest)).trans ?_
  rw [if_neg (by simpa using hne)]
  rfl

theorem takeSome_eq_some (h : takeSome kind cs = some (row, rest)) :
    cs = row ++ rest ∧ row ≠ [] ∧ ∀ c ∈ row, kind c = true := by
  obtain ⟨found, more, htake, hdone⟩ := bind_eq_some h
  split at hdone
  · cases hdone
  · rename_i hne
    cases hdone
    obtain ⟨hcs, hrow⟩ := takeAll_eq_some htake
    exact ⟨hcs, by simpa using hne, hrow⟩

end Rows

end Laws

end Daybook.Text
