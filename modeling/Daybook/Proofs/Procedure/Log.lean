/-
Daybook.Proofs.Procedure.Log — what a procedure asks, and in which order.

A procedure does nothing but ask, so all that can be said of its conduct is
said of its exchanges: the questions with the replies that they got. Two
sides are kept apart here.

* `Obeys rule goal` speaks of the procedure alone. Whatever the replies are,
  every question is one that the `rule` admits after the exchanges before it,
  and the end is one that the `goal` admits. A rule can therefore demand
  evidence: "this is asked only after that was answered so".
* `run_invariant` and its kin speak of whoever answers. An invariant of the
  exchanges and the state that every admitted question keeps holds after a
  whole run.

A proof about a journal uses the first side once and the second side with
the storage of its choice: faulty, shared, or both.
-/
import Daybook.Procedure

namespace Daybook

/-- A question and the reply that it got. -/
structure Exchange (I : Interface) where
  query : I.Query
  reply : I.Reply query

namespace Procedure

variable {I J : Interface} {α β σ : Type}

/-! ## The exchanges of a run -/

/-- The exchanges of a run, the first one first. -/
def log (answer : (q : I.Query) → σ → I.Reply q × σ) : Procedure I α → σ → List (Exchange I)
  | done _, _ => []
  | ask q next, s => ⟨q, (answer q s).1⟩ :: (next (answer q s).1).log answer (answer q s).2

/-- With these exchanges, one after the other, the procedure ends in `a`. -/
inductive Ends : Procedure I α → List (Exchange I) → α → Prop where
  | done (a : α) : Ends (done a) [] a
  | ask {q : I.Query} {next : I.Reply q → Procedure I α} (reply : I.Reply q)
      {more : List (Exchange I)} {a : α} (rest : Ends (next reply) more a) :
      Ends (ask q next) (⟨q, reply⟩ :: more) a

theorem eq_of_ends_done {a b : α} {log : List (Exchange I)} (h : (done a).Ends log b) :
    log = [] ∧ b = a := by
  cases h
  exact ⟨rfl, rfl⟩

theorem reply_of_ends_ask {q : I.Query} {next : I.Reply q → Procedure I α} {log : List (Exchange I)}
    {a : α} (h : (ask q next).Ends log a) :
    ∃ reply more, log = ⟨q, reply⟩ :: more ∧ (next reply).Ends more a := by
  cases h with
  | ask reply rest => exact ⟨reply, _, rfl, rest⟩

theorem log_bind (answer : (q : I.Query) → σ → I.Reply q × σ) (p : Procedure I α)
    (f : α → Procedure I β) (s : σ) :
    (p.bind f).log answer s
      = p.log answer s ++ (f (p.run answer s).1).log answer (p.run answer s).2 := by
  induction p generalizing s with
  | done a => rfl
  | ask q next ih => simp [log, run, ih]

theorem run_mapM_cons (answer : (q : I.Query) → σ → I.Reply q × σ) (f : α → Procedure I β) (a : α)
    (as : List α) (s : σ) :
    ((a :: as).mapM f).run answer s
      = (((f a).run answer s).1 :: ((as.mapM f).run answer ((f a).run answer s).2).1,
        ((as.mapM f).run answer ((f a).run answer s).2).2) := by
  rw [List.mapM_cons, bind_eq, run_bind, bind_eq, run_bind]
  rfl

/-- A row of procedures each of which leaves the state as it is. -/
theorem run_mapM {answer : (q : I.Query) → σ → I.Reply q × σ} {f : α → Procedure I β} {g : α → β}
    {s : σ} (h : ∀ a, (f a).run answer s = (g a, s)) (as : List α) :
    (as.mapM f).run answer s = (as.map g, s) := by
  induction as with
  | nil => rfl
  | cons a as ih =>
    rw [run_mapM_cons, h, ih]
    rfl

/-! ## Obeying a rule -/

/-- Whatever the replies are, each question is one that the rule admits after
the exchanges before it, and the end is one that the goal admits. -/
def Obeys (rule : List (Exchange I) → I.Query → Prop) (goal : List (Exchange I) → α → Prop) :
    Procedure I α → List (Exchange I) → Prop
  | done a, past => goal past a
  | ask q next, past =>
    rule past q ∧ ∀ reply, (next reply).Obeys rule goal (past ++ [⟨q, reply⟩])

variable {rule rule' : List (Exchange I) → I.Query → Prop}
  {goal goal' : List (Exchange I) → α → Prop} {past : List (Exchange I)}

theorem obeys_bind (p : Procedure I α) (f : α → Procedure I β)
    (goal : List (Exchange I) → β → Prop) (past : List (Exchange I)) :
    (p.bind f).Obeys rule goal past
      ↔ p.Obeys rule (fun past a => (f a).Obeys rule goal past) past := by
  induction p generalizing past with
  | done a => rfl
  | ask q next ih => simp only [bind_ask, Obeys, ih]

/-- A rule may be loosened. So may a goal, and what the procedure did may be
counted on for that. -/
theorem Obeys.mono {p : Procedure I α} (h : p.Obeys rule goal past)
    (hrule : ∀ past q, rule past q → rule' past q)
    (hgoal : ∀ new a, p.Ends new a → goal (past ++ new) a → goal' (past ++ new) a) :
    p.Obeys rule' goal' past := by
  induction p generalizing past with
  | done a =>
    have := hgoal [] a (.done a)
    simp only [List.append_nil] at this
    exact this h
  | ask q next ih =>
    refine ⟨hrule _ _ h.1, fun reply => ih reply (h.2 reply) ?_⟩
    intro new a hends hold
    simp only [List.append_assoc, List.singleton_append] at hold ⊢
    exact hgoal _ a (.ask reply hends) hold

/-- A rule may count on the past from which the procedure starts. -/
theorem Obeys.counting {p : Procedure I α} (h : p.Obeys rule goal past) :
    p.Obeys (fun past' q => past <+: past' ∧ rule past' q) goal past := by
  suffices hall : ∀ past', past <+: past' → p.Obeys rule goal past' →
      p.Obeys (fun past' q => past <+: past' ∧ rule past' q) goal past' from
    hall past (List.prefix_refl past) h
  clear h
  induction p with
  | done a => exact fun _ _ h => h
  | ask q next ih =>
    intro past' hpast h
    refine ⟨⟨hpast, h.1⟩, fun reply => ih reply _ ?_ (h.2 reply)⟩
    exact hpast.trans (List.prefix_append _ _)

/-- What every admitted question keeps, a whole run keeps. -/
theorem Obeys.run_invariant {answer : (q : I.Query) → σ → I.Reply q × σ}
    {Inv : List (Exchange I) → σ → Prop} {p : Procedure I α}
    (hstep : ∀ past q s, rule past q → Inv past s →
      Inv (past ++ [⟨q, (answer q s).1⟩]) (answer q s).2)
    (h : p.Obeys rule goal past) {s : σ} (hinv : Inv past s) :
    Inv (past ++ p.log answer s) (p.run answer s).2
      ∧ goal (past ++ p.log answer s) (p.run answer s).1 := by
  induction p generalizing past s with
  | done a => simpa [log, run] using ⟨hinv, h⟩
  | ask q next ih =>
    have hrest := ih _ (h.2 _) (hstep past q s h.1 hinv)
    simpa [log, run] using hrest

/-- However the questions are answered, the goal is met. -/
theorem Obeys.run_goal {p : Procedure I α} (h : p.Obeys rule goal past)
    (answer : (q : I.Query) → σ → I.Reply q × σ) (s : σ) :
    goal (past ++ p.log answer s) (p.run answer s).1 :=
  have hstep : ∀ past q s, rule past q → True →
      (fun _ _ => True : List (Exchange I) → σ → Prop) (past ++ [⟨q, (answer q s).1⟩])
        (answer q s).2 := fun _ _ _ _ _ => trivial
  (h.run_invariant hstep trivial).2

/-- Whatever exchanges lead to an end, the goal is met with them. -/
theorem Obeys.goal_of_ends {p : Procedure I α} {new : List (Exchange I)} {a : α}
    (h : p.Obeys rule goal past) (hends : p.Ends new a) : goal (past ++ new) a := by
  induction hends generalizing past with
  | done a =>
    rw [List.append_nil]
    exact h
  | ask reply rest ih => simpa using ih (h.2 reply)

/-- Once a rule admits every question, it does not matter what is done. -/
theorem Obeys.of_past (p : Procedure I α) (h : ∀ past', past <+: past' → ∀ q, rule past' q) :
    p.Obeys rule (fun _ _ => True) past := by
  induction p generalizing past with
  | done a => exact trivial
  | ask q next ih =>
    refine ⟨h past (List.prefix_refl past) q, fun reply => ih reply fun past' hpast => ?_⟩
    exact h past' ((List.prefix_append past _).trans hpast)

/-- If the admitted questions are answered from a part of the state, or from
another view of it, so is the whole run. -/
theorem Obeys.run_map {τ : Type} {answer : (q : I.Query) → σ → I.Reply q × σ}
    {answer' : (q : I.Query) → τ → I.Reply q × τ} {f : σ → τ} {p : Procedure I α}
    (h : p.Obeys rule goal past)
    (hf : ∀ past q s, rule past q → answer' q (f s) = ((answer q s).1, f (answer q s).2)) (s : σ) :
    p.run answer' (f s) = ((p.run answer s).1, f (p.run answer s).2) := by
  induction p generalizing past s with
  | done a => rfl
  | ask q next ih =>
    simp only [run, hf past q s h.1]
    exact ih _ (h.2 _) _

theorem run_map {τ : Type} {answer : (q : I.Query) → σ → I.Reply q × σ}
    {answer' : (q : I.Query) → τ → I.Reply q × τ} {f : σ → τ}
    (hf : ∀ q s, answer' q (f s) = ((answer q s).1, f (answer q s).2)) (p : Procedure I α) (s : σ) :
    p.run answer' (f s) = ((p.run answer s).1, f (p.run answer s).2) :=
  have hany : p.Obeys (fun _ _ => True) (fun _ _ => True) [] := .of_past p fun _ _ _ => trivial
  hany.run_map (fun _ q s _ => hf q s) s

/-! ## Questions of one kind -/

/-- Whatever the replies are, the procedure asks only such questions. -/
def Asks (only : I.Query → Prop) : Procedure I α → Prop
  | done _ => True
  | ask q next => only q ∧ ∀ reply, (next reply).Asks only

theorem Asks.bind {only : I.Query → Prop} {p : Procedure I α} {f : α → Procedure I β}
    (hp : p.Asks only) (hf : ∀ a, (f a).Asks only) : (p.bind f).Asks only := by
  induction p with
  | done a => exact hf a
  | ask q next ih => exact ⟨hp.1, fun reply => ih reply (hp.2 reply)⟩

theorem Asks.mapM {only : I.Query → Prop} {f : α → Procedure I β}
    (hf : ∀ a, (f a).Asks only) (as : List α) : (as.mapM f).Asks only := by
  induction as with
  | nil => exact trivial
  | cons a as ih =>
    rw [List.mapM_cons]
    exact (hf a).bind fun b => ih.bind fun bs => trivial

theorem Asks.forM {only : I.Query → Prop} {f : α → Procedure I PUnit}
    (hf : ∀ a, (f a).Asks only) (as : List α) : (as.forM f).Asks only := by
  induction as with
  | nil => exact trivial
  | cons a as ih => exact (hf a).bind fun _ => ih

theorem Asks.forIn {only : I.Query → Prop} {f : α → β → Procedure I (ForInStep β)}
    (hf : ∀ a b, (f a b).Asks only) (as : List α) (b : β) : (forIn as b f).Asks only := by
  induction as generalizing b with
  | nil => exact trivial
  | cons a as ih =>
    rw [List.forIn_cons]
    refine (hf a b).bind fun step => ?_
    cases step with
    | done b => exact trivial
    | yield b => exact ih b

theorem Asks.mono {only only' : I.Query → Prop} {p : Procedure I α} (h : p.Asks only)
    (honly : ∀ q, only q → only' q) : p.Asks only' := by
  induction p with
  | done a => exact trivial
  | ask q next ih => exact ⟨honly q h.1, fun reply => ih reply (h.2 reply)⟩

theorem Asks.attempt {ε : Type} {only : I.Query → Prop} {x : Attempt I ε α}
    {f : α → Attempt I ε β} (hx : x.run.Asks only) (hf : ∀ a, (f a).run.Asks only) :
    (x >>= f : Attempt I ε β).run.Asks only := by
  rw [ExceptT.run_bind, bind_eq]
  refine hx.bind fun r => ?_
  cases r with
  | ok a => exact hf a
  | error e => exact trivial

theorem Asks.lift_attempt {ε : Type} {only : I.Query → Prop} {p : Procedure I α}
    {f : α → Attempt I ε β} (hp : p.Asks only) (hf : ∀ a, (f a).run.Asks only) :
    (liftM p >>= f : Attempt I ε β).run.Asks only :=
  Asks.attempt (hp.bind fun _ => trivial) hf

/-- Questions that are answered by asking others ask just those others. -/
theorem Asks.interpret {only : I.Query → Prop} {only' : J.Query → Prop}
    {answer : (q : I.Query) → σ → Procedure J (I.Reply q × σ)} {p : Procedure I α}
    (hp : p.Asks only) (h : ∀ q s, only q → (answer q s).Asks only') (s : σ) :
    (p.interpret answer s).Asks only' := by
  induction p generalizing s with
  | done a => exact trivial
  | ask q next ih => exact (h q s hp.1).bind fun r => ih r.1 (hp.2 r.1) r.2

/-- So do questions that are passed on. -/
theorem Asks.relay {only : I.Query → Prop} {only' : J.Query → Prop}
    {as : (q : I.Query) → Procedure J (I.Reply q)} {p : Procedure I α} (hp : p.Asks only)
    (h : ∀ q, only q → (as q).Asks only') : (p.relay as).Asks only' := by
  induction p with
  | done a => exact trivial
  | ask q next ih => exact (h q hp.1).bind fun reply => ih reply (hp.2 reply)

theorem asks_any (p : Procedure I α) : p.Asks fun _ => True := by
  induction p with
  | done a => exact trivial
  | ask q next ih => exact ⟨trivial, ih⟩

/-- Questions that each leave the state as it is leave it so together. -/
theorem Asks.run_same {only : I.Query → Prop} {answer : (q : I.Query) → σ → I.Reply q × σ}
    {p : Procedure I α} (hp : p.Asks only) (h : ∀ q s, only q → (answer q s).2 = s) (s : σ) :
    p.run answer s = ((p.run answer s).1, s) := by
  induction p with
  | done a => rfl
  | ask q next ih =>
    simp only [Procedure.run, h q s hp.1]
    exact ih _ (hp.2 _)

/-- What a rule never admits is not asked. -/
theorem Obeys.asks {only : I.Query → Prop} {p : Procedure I α} (h : p.Obeys rule goal past)
    (honly : ∀ past q, rule past q → only q) : p.Asks only := by
  induction p generalizing past with
  | done a => exact trivial
  | ask q next ih => exact ⟨honly past q h.1, fun reply => ih reply (h.2 reply)⟩

theorem Asks.obeys {only : I.Query → Prop} {p : Procedure I α} (h : p.Asks only)
    (hrule : ∀ past q, only q → rule past q) (past : List (Exchange I)) :
    p.Obeys rule (fun past' a => ∃ new, past' = past ++ new ∧ p.Ends new a
      ∧ ∀ e ∈ new, only e.query) past := by
  induction p generalizing past with
  | done a => exact ⟨[], by simp, .done a, by simp⟩
  | ask q next ih =>
    refine ⟨hrule past q h.1, fun reply => ?_⟩
    refine (ih reply (h.2 reply) (past ++ [⟨q, reply⟩])).mono (fun _ _ hr => hr) ?_
    rintro new a _ ⟨more, hmore, hends, honly⟩
    refine ⟨⟨q, reply⟩ :: more, by simpa using hmore, .ask reply hends, ?_⟩
    intro e he
    rcases List.mem_cons.mp he with rfl | he
    · exact h.1
    · exact honly e he

/-! ## Length -/

/-- Whatever the replies are, the procedure asks at most `n` questions. -/
def Within : Nat → Procedure I α → Prop
  | _, done _ => True
  | 0, ask _ _ => False
  | n + 1, ask _ next => ∀ reply, (next reply).Within n

theorem Within.mono {m n : Nat} {p : Procedure I α} (h : p.Within m) (hmn : m ≤ n) :
    p.Within n := by
  induction p generalizing m n with
  | done a => simp [Within]
  | ask q next ih =>
    cases m with
    | zero => exact absurd h id
    | succ m =>
      obtain ⟨k, rfl⟩ := Nat.exists_eq_add_of_lt hmn
      exact fun reply => ih reply (h reply) (by omega)

theorem Within.bind {m n : Nat} {p : Procedure I α} {f : α → Procedure I β}
    (hp : p.Within m) (hf : ∀ a, (f a).Within n) : (p.bind f).Within (m + n) := by
  induction p generalizing m with
  | done a => exact (hf a).mono (Nat.le_add_left n m)
  | ask q next ih =>
    cases m with
    | zero => exact absurd hp id
    | succ m =>
      rw [Nat.succ_add]
      exact fun reply => ih reply (hp reply)

/-! ## Attempts -/

section Steps

variable {ε : Type} {answer : (q : I.Query) → σ → I.Reply q × σ} {x : Attempt I ε α}
  (f : α → Attempt I ε β) {s s' : σ}

theorem run_attempt_ok {a : α} (h : x.run.run answer s = (.ok a, s')) :
    (x >>= f : Attempt I ε β).run.run answer s = (f a).run.run answer s' := by
  rw [ExceptT.run_bind, bind_eq, run_bind, h]

theorem run_attempt_error {e : ε} (h : x.run.run answer s = (.error e, s')) :
    (x >>= f : Attempt I ε β).run.run answer s = (.error e, s') := by
  rw [ExceptT.run_bind, bind_eq, run_bind, h]
  rfl

theorem run_attempt_map (g : α → β) (x : Attempt I ε α) (s : σ) :
    (x >>= fun a => pure (g a) : Attempt I ε β).run.run answer s
      = ((x.run.run answer s).1.map g, (x.run.run answer s).2) := by
  rcases h : x.run.run answer s with ⟨e | a, s'⟩
  · exact run_attempt_error _ h
  · exact run_attempt_ok _ h

/-- Work that cannot fail, with an attempt behind it. -/
theorem run_lift_attempt (p : Procedure I α) (s : σ) :
    (liftM p >>= f : Attempt I ε β).run.run answer s
      = (f (p.run answer s).1).run.run answer (p.run answer s).2 := by
  have hlift : (liftM p : Attempt I ε α).run.run answer s
      = (.ok (p.run answer s).1, (p.run answer s).2) := run_bind answer p _ s
  exact run_attempt_ok f hlift

theorem log_attempt_ok {a : α} (h : x.run.run answer s = (.ok a, s')) :
    (x >>= f : Attempt I ε β).run.log answer s
      = x.run.log answer s ++ (f a).run.log answer s' := by
  rw [ExceptT.run_bind, bind_eq, log_bind, h]

theorem log_attempt_error {e : ε} (h : x.run.run answer s = (.error e, s')) :
    (x >>= f : Attempt I ε β).run.log answer s = x.run.log answer s := by
  rw [ExceptT.run_bind, bind_eq, log_bind, h]
  exact List.append_nil _

end Steps

/-- Work that cannot fail, as an attempt, is what it was. -/
theorem run_always {ε : Type} (p : Procedure I α) :
    (p.always : Attempt I ε α).run = p.bind fun a => done (.ok a) := by
  rw [always, ExceptT.run_lift]
  rfl

theorem obeys_attempt {ε : Type} (x : Attempt I ε α) (f : α → Attempt I ε β)
    (goal : List (Exchange I) → Except ε β → Prop) (past : List (Exchange I)) :
    (x >>= f : Attempt I ε β).run.Obeys rule goal past
      ↔ x.run.Obeys rule (fun past r => match r with
          | .ok a => (f a).run.Obeys rule goal past
          | .error e => goal past (.error e)) past := by
  rw [ExceptT.run_bind, bind_eq, obeys_bind]
  refine iff_of_eq (congrArg (fun g => x.run.Obeys rule g past) ?_)
  funext past r
  cases r <;> rfl

/-- A goal about the exchanges since some moment. -/
def Since (past : List (Exchange I)) (goal : List (Exchange I) → α → Prop) :
    List (Exchange I) → α → Prop :=
  fun past' a => ∃ new, past' = past ++ new ∧ goal new a

theorem Within.attempt {ε : Type} {m n : Nat} {x : Attempt I ε α} {f : α → Attempt I ε β}
    (hx : x.run.Within m) (hf : ∀ a, (f a).run.Within n) :
    (x >>= f : Attempt I ε β).run.Within (m + n) := by
  rw [ExceptT.run_bind, bind_eq]
  refine hx.bind fun r => ?_
  cases r with
  | ok a => exact hf a
  | error e => cases n <;> exact trivial

/-- What a procedure did since some moment brought it to its end. -/
theorem Obeys.ends {p : Procedure I α} {goal : List (Exchange I) → α → Prop}
    (h : p.Obeys rule (Since past goal) past) :
    p.Obeys rule (Since past fun new a => p.Ends new a ∧ goal new a) past := by
  refine h.mono (fun _ _ hr => hr) ?_
  rintro new a hends ⟨new', hnew, hgoal⟩
  rw [← List.append_cancel_left hnew] at hgoal
  exact ⟨new, rfl, hends, hgoal⟩

/-- Without any rule it can be said what a procedure did. -/
theorem obeys_ends (p : Procedure I α) (past : List (Exchange I)) :
    p.Obeys (fun _ _ => True) (Since past fun new a => p.Ends new a) past := by
  have hany : p.Obeys (fun _ _ => True) (fun _ _ => True) past :=
    .of_past p fun _ _ _ => trivial
  exact hany.mono (fun _ _ h => h) fun new _ hends _ => ⟨new, rfl, hends⟩

/-- Whatever a procedure does, it does since it started. -/
theorem Obeys.since_start {p : Procedure I α} (h : p.Obeys rule goal past) :
    p.Obeys rule (Since past fun _ _ => True) past :=
  h.mono (fun _ _ hr => hr) fun new _ _ _ => ⟨new, rfl, trivial⟩

/-- The moment to count from can be moved. -/
theorem Obeys.since {p : Procedure I α} {goal : List (Exchange I) → α → Prop}
    (new : List (Exchange I))
    (h : p.Obeys rule (Since (past ++ new) fun more a => goal (new ++ more) a) (past ++ new)) :
    p.Obeys rule (Since past goal) (past ++ new) := by
  refine h.mono (fun _ _ hr => hr) ?_
  rintro more a - ⟨more', hmore, hgoal⟩
  exact ⟨new ++ more', by rw [hmore, List.append_assoc], hgoal⟩

/-- One attempt after another: what the second one does is counted from where
the first one ends. -/
theorem Obeys.andThen {ε : Type} {x : Attempt I ε α} {f : α → Attempt I ε β}
    {first : List (Exchange I) → Except ε α → Prop}
    {goal : List (Exchange I) → Except ε β → Prop}
    (second : List (Exchange I) → α → List (Exchange I) → Except ε β → Prop)
    (hx : x.run.Obeys rule (Since past first) past)
    (hf : ∀ new a, first new (.ok a) →
      (f a).run.Obeys rule (Since (past ++ new) (second new a)) (past ++ new))
    (hok : ∀ new a more r, first new (.ok a) → second new a more r → goal (new ++ more) r)
    (herror : ∀ new e, first new (.error e) → goal new (.error e)) :
    (x >>= f : Attempt I ε β).run.Obeys rule (Since past goal) past := by
  rw [obeys_attempt]
  refine hx.mono (fun _ _ h => h) ?_
  rintro _ r - ⟨new, hnew, hfirst⟩
  rw [hnew]
  cases r with
  | error e => exact ⟨new, rfl, herror new e hfirst⟩
  | ok a =>
    refine (hf new a hfirst).mono (fun _ _ h => h) ?_
    rintro _ r - ⟨more, hmore, hsecond⟩
    exact ⟨new ++ more, by simpa using hmore, hok new a more r hfirst hsecond⟩

/-- One attempt after another, when only the questions matter. -/
theorem Obeys.followed {ε : Type} {x : Attempt I ε α} {f : α → Attempt I ε β}
    {goal : List (Exchange I) → Except ε α → Prop} (hx : x.run.Obeys rule goal past)
    (hf : ∀ a past, (f a).run.Obeys rule (fun _ _ => True) past) :
    (x >>= f : Attempt I ε β).run.Obeys rule (fun _ _ => True) past := by
  rw [obeys_attempt]
  refine hx.mono (fun _ _ h => h) ?_
  intro new r _ _
  cases r with
  | ok a => exact hf a _
  | error e => exact trivial

/-- Work that cannot fail, as an attempt. -/
theorem obeys_always {ε : Type} (p : Procedure I α)
    (goal : List (Exchange I) → Except ε α → Prop) (past : List (Exchange I)) :
    (p.always : Attempt I ε α).run.Obeys rule goal past
      ↔ p.Obeys rule (fun past a => goal past (.ok a)) past := by
  rw [run_always, obeys_bind]
  rfl

end Procedure

end Daybook
