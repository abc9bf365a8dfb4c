/-
Daybook.Proofs.Procedure.Pool — several procedures over one state.

The members of a pool share a state, and each has a state of its own. In a
turn one member has its next question answered; a schedule is the list of
turns, so any interleaving of the members is a schedule. How a question is
answered may differ from turn to turn.

`play_invariant` is the counterpart of `Obeys.run_invariant`: what every
admitted question of every member keeps holds after any schedule, and each
member still obeys its rule from where it stands. It is proved once, and no
statement about journals over one storage needs an induction of its own.
-/
import Daybook.Proofs.Procedure.Log
import Mathlib.Logic.Function.Basic

namespace Daybook

/-- Procedures over a shared state `σ`, each with a state `τ` of its own. -/
structure Pool (I : Interface) (σ τ : Type) (ι : Type) (α : ι → Type) where
  shared : σ
  own : ι → τ
  /-- What each member has still to do. -/
  rest : (i : ι) → Procedure I (α i)
  /-- What each member has asked and was told so far. -/
  past : ι → List (Exchange I)

namespace Pool

variable {I : Interface} {σ τ ι : Type} {α : ι → Type} [DecidableEq ι]

/-- How a question is answered from the shared state and a member's own. -/
abbrev Answer (I : Interface) (σ τ : Type) :=
  (q : I.Query) → σ × τ → I.Reply q × σ × τ

/-- A pool before the first turn. -/
def start (shared : σ) (own : ι → τ) (work : (i : ι) → Procedure I (α i)) : Pool I σ τ ι α :=
  ⟨shared, own, work, fun _ => []⟩

/-- A member has its next question answered, if it has one. -/
def turn (answer : Answer I σ τ) (i : ι) (pool : Pool I σ τ ι α) : Pool I σ τ ι α :=
  match pool.rest i with
  | .done _ => pool
  | .ask q next =>
    let r := answer q (pool.shared, pool.own i)
    { shared := r.2.1
      own := Function.update pool.own i r.2.2
      rest := Function.update pool.rest i (next r.1)
      past := Function.update pool.past i (pool.past i ++ [⟨q, r.1⟩]) }

/-- The pool after some turns. -/
def play (schedule : List (ι × Answer I σ τ)) (pool : Pool I σ τ ι α) : Pool I σ τ ι α :=
  schedule.foldl (fun pool move => pool.turn move.2 move.1) pool

theorem play_cons (move : ι × Answer I σ τ) (schedule : List (ι × Answer I σ τ))
    (pool : Pool I σ τ ι α) :
    pool.play (move :: schedule) = (pool.turn move.2 move.1).play schedule := rfl

theorem turn_done {answer : Answer I σ τ} {i : ι} {pool : Pool I σ τ ι α} {a : α i}
    (h : pool.rest i = .done a) : pool.turn answer i = pool := by
  rw [turn, h]

theorem turn_ask {answer : Answer I σ τ} {i : ι} {pool : Pool I σ τ ι α} {q : I.Query}
    {next : I.Reply q → Procedure I (α i)} (h : pool.rest i = .ask q next) :
    pool.turn answer i =
      { shared := (answer q (pool.shared, pool.own i)).2.1
        own := Function.update pool.own i (answer q (pool.shared, pool.own i)).2.2
        rest := Function.update pool.rest i (next (answer q (pool.shared, pool.own i)).1)
        past := Function.update pool.past i
          (pool.past i ++ [⟨q, (answer q (pool.shared, pool.own i)).1⟩]) } := by
  rw [turn, h]

/-- What a member has asked and was told stays so. -/
theorem past_turn (answer : Answer I σ τ) (i j : ι) (pool : Pool I σ τ ι α) :
    pool.past j <+: (pool.turn answer i).past j := by
  cases hrest : pool.rest i with
  | done a =>
    have hsame : pool.turn answer i = pool := turn_done hrest
    exact hsame.symm ▸ List.prefix_refl _
  | ask q next =>
    rw [turn_ask hrest]
    by_cases hj : j = i
    · subst hj
      simp
    · simp [Function.update_of_ne hj]

/-! ## Invariants -/

/-- Every member obeys its rule from where it stands. -/
def Obey (rule : ι → List (Exchange I) → I.Query → Prop)
    (goal : (i : ι) → List (Exchange I) → α i → Prop) (pool : Pool I σ τ ι α) : Prop :=
  ∀ i, (pool.rest i).Obeys (rule i) (goal i) (pool.past i)

/-- An answer keeps an invariant when a member asks what its rule admits. The
invariant speaks of the past of all members, the shared state and the states
of their own. -/
def Keeps (rule : ι → List (Exchange I) → I.Query → Prop)
    (Inv : (ι → List (Exchange I)) → σ → (ι → τ) → Prop) (answer : Answer I σ τ) : Prop :=
  ∀ past shared own i q, rule i (past i) q → Inv past shared own →
    Inv (Function.update past i (past i ++ [⟨q, (answer q (shared, own i)).1⟩]))
      (answer q (shared, own i)).2.1
      (Function.update own i (answer q (shared, own i)).2.2)

variable {rule : ι → List (Exchange I) → I.Query → Prop}
  {goal : (i : ι) → List (Exchange I) → α i → Prop}
  {Inv : (ι → List (Exchange I)) → σ → (ι → τ) → Prop}

theorem turn_invariant {answer : Answer I σ τ} (hkeeps : Keeps rule Inv answer) (i : ι)
    {pool : Pool I σ τ ι α} (hobey : pool.Obey rule goal)
    (hinv : Inv pool.past pool.shared pool.own) :
    (pool.turn answer i).Obey rule goal
      ∧ Inv (pool.turn answer i).past (pool.turn answer i).shared (pool.turn answer i).own := by
  cases hrest : pool.rest i with
  | done a =>
    rw [turn_done hrest]
    exact ⟨hobey, hinv⟩
  | ask q next =>
    rw [turn_ask hrest]
    have hi := hobey i
    rw [hrest] at hi
    refine ⟨fun j => ?_, hkeeps _ _ _ i q hi.1 hinv⟩
    by_cases hj : j = i
    · subst hj
      simpa using hi.2 _
    · simpa [Function.update_of_ne hj] using hobey j

/-- What every admitted question keeps holds after any schedule. -/
theorem play_invariant {schedule : List (ι × Answer I σ τ)}
    (hkeeps : ∀ move ∈ schedule, Keeps rule Inv move.2) {pool : Pool I σ τ ι α}
    (hobey : pool.Obey rule goal) (hinv : Inv pool.past pool.shared pool.own) :
    (pool.play schedule).Obey rule goal
      ∧ Inv (pool.play schedule).past (pool.play schedule).shared (pool.play schedule).own := by
  induction schedule generalizing pool with
  | nil => exact ⟨hobey, hinv⟩
  | cons move schedule ih =>
    rw [play_cons]
    obtain ⟨hobey', hinv'⟩ := turn_invariant (hkeeps move List.mem_cons_self) move.1 hobey hinv
    exact ih (fun m hm => hkeeps m (List.mem_cons_of_mem _ hm)) hobey' hinv'

/-! ## Finishing -/

/-- A member that asks at most `n` questions is done after `n` turns of its
own, whatever the others do in between. -/
theorem done_of_within {schedule : List (ι × Answer I σ τ)} {i : ι} :
    ∀ {n : Nat} {pool : Pool I σ τ ι α}, (pool.rest i).Within n →
      n ≤ (schedule.map (·.1)).count i → ∃ a, (pool.play schedule).rest i = .done a := by
  induction schedule with
  | nil =>
    intro n pool hwithin hcount
    cases hrest : pool.rest i with
    | done a => exact ⟨a, hrest⟩
    | ask q next =>
      have hn : n = 0 := by simpa using hcount
      subst hn
      rw [hrest] at hwithin
      exact absurd hwithin id
  | cons move schedule ih =>
    intro n pool hwithin hcount
    rw [play_cons]
    by_cases hmove : move.1 = i
    · subst hmove
      cases hrest : pool.rest move.1 with
      | done a =>
        have hw : ((pool.turn move.2 move.1).rest move.1).Within 0 := by
          rw [turn_done hrest, hrest]
          simp [Procedure.Within]
        exact ih hw (Nat.zero_le _)
      | ask q next =>
        rw [hrest] at hwithin
        cases n with
        | zero => exact absurd hwithin id
        | succ n =>
          refine ih (n := n) ?_ (by simpa using hcount)
          rw [turn_ask hrest]
          simpa using hwithin _
    · refine ih (n := n) ?_ (by simpa [List.count_cons, hmove] using hcount)
      cases hrest : pool.rest move.1 with
      | done a => rwa [turn_done hrest]
      | ask q next =>
        rw [turn_ask hrest]
        simpa [Function.update_of_ne (Ne.symm hmove)] using hwithin

end Pool

end Daybook
