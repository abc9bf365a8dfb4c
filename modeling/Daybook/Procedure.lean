/-
Daybook.Procedure — work that asks its surroundings questions.

A procedure is a tree: it is done, or it asks a question and goes on in a
way that depends on the reply. Nothing happens inside a procedure; who
answers the questions decides what they do. That makes single steps visible:
several procedures can be answered in turn over one state, one can be left
off half-way, and one can be carried out over another kind of questions.
-/
namespace Daybook

/-- A kind of questions, and for each question the type of its replies. -/
structure Interface where
  Query : Type
  Reply : Query → Type

/-- Work over an interface that ends in an `α`. -/
inductive Procedure (I : Interface) (α : Type) : Type where
  /-- The work is done. -/
  | done (result : α)
  /-- A question, and how the work goes on after each reply. -/
  | ask (query : I.Query) (next : I.Reply query → Procedure I α)

namespace Procedure

variable {I J : Interface} {α β γ σ : Type}

/-- One procedure after another. -/
def bind : Procedure I α → (α → Procedure I β) → Procedure I β
  | done a, f => f a
  | ask q next, f => ask q fun reply => (next reply).bind f

instance : Monad (Procedure I) where
  pure := done
  bind := bind

/-- The procedure that asks one question. -/
def query (q : I.Query) : Procedure I (I.Reply q) :=
  ask q done

/-- Answers every question from a state. -/
def run (answer : (q : I.Query) → σ → I.Reply q × σ) : Procedure I α → σ → α × σ
  | done a, s => (a, s)
  | ask q next, s =>
    let (reply, s) := answer q s
    (next reply).run answer s

/-- Answers every question by a procedure over another interface. -/
def interpret (answer : (q : I.Query) → σ → Procedure J (I.Reply q × σ)) :
    Procedure I α → σ → Procedure J (α × σ)
  | done a, s => done (a, s)
  | ask q next, s => (answer q s).bind fun (reply, s) => (next reply).interpret answer s

/-- Asks the questions of a procedure as questions of another interface. -/
def relay (as : (q : I.Query) → Procedure J (I.Reply q)) : Procedure I α → Procedure J α
  | done a => done a
  | ask q next => (as q).bind fun reply => (next reply).relay as

/-! ## Laws -/

@[simp] theorem pure_eq (a : α) : (pure a : Procedure I α) = done a := rfl

@[simp] theorem bind_eq (p : Procedure I α) (f : α → Procedure I β) : p >>= f = p.bind f := rfl

@[simp] theorem bind_done (a : α) (f : α → Procedure I β) : (done a).bind f = f a := rfl

@[simp] theorem bind_ask (q : I.Query) (next : I.Reply q → Procedure I α)
    (f : α → Procedure I β) :
    (ask q next).bind f = ask q fun reply => (next reply).bind f := rfl

theorem bind_assoc (p : Procedure I α) (f : α → Procedure I β) (g : β → Procedure I γ) :
    (p.bind f).bind g = p.bind fun a => (f a).bind g := by
  induction p with
  | done a => rfl
  | ask q next ih => simp [ih]

theorem bind_pure (p : Procedure I α) : p.bind done = p := by
  induction p with
  | done a => rfl
  | ask q next ih => simp [ih]

instance : LawfulMonad (Procedure I) :=
  LawfulMonad.mk' (Procedure I)
    (fun p => by
      show p.bind (fun a => done (id a)) = p
      exact bind_pure p)
    (fun _ _ => rfl)
    (fun p f g => bind_assoc p f g)

/-- Running one procedure after another is running the first and then the
second from the state that the first leaves. -/
theorem run_bind (answer : (q : I.Query) → σ → I.Reply q × σ) (p : Procedure I α)
    (f : α → Procedure I β) (s : σ) :
    (p.bind f).run answer s = (f (p.run answer s).1).run answer (p.run answer s).2 := by
  induction p generalizing s with
  | done a => rfl
  | ask q next ih => simp [run, ih]

@[simp] theorem run_query (answer : (q : I.Query) → σ → I.Reply q × σ) (q : I.Query) (s : σ) :
    (query q : Procedure I (I.Reply q)).run answer s = answer q s := rfl

end Procedure

/-- A procedure that may fail. -/
abbrev Attempt (I : Interface) (ε α : Type) := ExceptT ε (Procedure I) α

/-- The procedure as one that cannot fail. -/
def Procedure.always {I : Interface} {ε α : Type} (p : Procedure I α) : Attempt I ε α :=
  ExceptT.lift p

end Daybook
