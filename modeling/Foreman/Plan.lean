/-!
# Plans

A plan is a program that has not been run: a result, a halt, or a question with a continuation for every
answer. Who answers is decided later. The same plan runs over a store in memory, over one that fails on
purpose, over a database that only sees statements, or one question at a time between the questions of
other plans.

A plan **halts** in one of two ways. An *error* is a result that the caller is told about. A *crash* is
a computation that has no value, such as an instant beyond the calendar; whatever the plan would have
done after it is not done.

Running is a fold (`Plan.run`), and so is replacing every question by a plan over other questions
(`Plan.translate`); that running a translated plan is running the plan with translated answers is
`run_translate`.
-/

namespace Foreman

/-- Why a plan has no result. -/
inductive Halt (ε : Type) where
  | error (e : ε)
  | crash
deriving DecidableEq

/-- Renames the errors. -/
def Halt.map {ε ε' : Type} (f : ε → ε') : Halt ε → Halt ε'
  | error e => error (f e)
  | crash => crash

/-- A program over questions `Ask`, each with answers of its own type. -/
inductive Plan {Ask : Type} (Reply : Ask → Type) (ε α : Type) : Type where
  | done (a : α)
  | halt (h : Halt ε)
  | ask (q : Ask) (next : Reply q → Plan Reply ε α)

namespace Plan

variable {Ask Ask' : Type} {Reply : Ask → Type} {Reply' : Ask' → Type} {ε ε' α β γ σ : Type}

/-! ### Building plans -/

/-- Goes on with the result of a plan. -/
def bind : Plan Reply ε α → (α → Plan Reply ε β) → Plan Reply ε β
  | done a, f => f a
  | halt h, _ => halt h
  | ask q next, f => ask q fun r ↦ (next r).bind f

instance : Monad (Plan Reply ε) where
  pure := done
  bind := bind

@[simp] theorem pure_eq (a : α) : (pure a : Plan Reply ε α) = done a := rfl

@[simp] theorem done_bind (a : α) (f : α → Plan Reply ε β) : (done a >>= f) = f a := rfl

@[simp] theorem halt_bind (h : Halt ε) (f : α → Plan Reply ε β) : (halt h >>= f) = halt h := rfl

@[simp] theorem ask_bind (q : Ask) (next : Reply q → Plan Reply ε α) (f : α → Plan Reply ε β) :
    (ask q next >>= f) = ask q fun r ↦ next r >>= f := rfl

theorem bind_done (p : Plan Reply ε α) : (p >>= done) = p := by
  induction p with
  | done a => rfl
  | halt h => rfl
  | ask q next ih => simp [ih]

theorem bind_bind (p : Plan Reply ε α) (f : α → Plan Reply ε β) (g : β → Plan Reply ε γ) :
    (p >>= f >>= g) = p >>= fun a ↦ f a >>= g := by
  induction p with
  | done a => rfl
  | halt h => rfl
  | ask q next ih => simp [ih]

/-- Stops with an error. -/
def fail (e : ε) : Plan Reply ε α :=
  halt (.error e)

/-- Stops for want of a value. -/
def crash : Plan Reply ε α :=
  halt .crash

/-- The value, or a crash where there is none. -/
def require : Option α → Plan Reply ε α
  | some a => done a
  | none => crash

/-- Asks one question and passes the answer on. -/
def question (q : Ask) : Plan Reply ε (Reply q) :=
  ask q done

/-- Makes a plan of a value that may be a halt. -/
def ofExcept : Except (Halt ε) α → Plan Reply ε α
  | .ok a => done a
  | .error h => halt h

/-- Renames the errors. -/
def mapError (f : ε → ε') : Plan Reply ε α → Plan Reply ε' α
  | done a => done a
  | halt h => halt (h.map f)
  | ask q next => ask q fun r ↦ (next r).mapError f

/-- Runs a plan to its end and turns an error into a result; a crash stays a crash. -/
def attempt : Plan Reply ε α → Plan Reply ε' (Except ε α)
  | done a => done (.ok a)
  | halt (.error e) => done (.error e)
  | halt .crash => halt .crash
  | ask q next => ask q fun r ↦ (next r).attempt

/-! ### Running plans -/

/-- Runs a plan against a state that answers its questions. -/
def run (answer : (q : Ask) → σ → Reply q × σ) : Plan Reply ε α → σ → Except (Halt ε) α × σ
  | done a, s => (.ok a, s)
  | halt h, s => (.error h, s)
  | ask q next, s => run answer (next (answer q s).1) (answer q s).2

@[simp] theorem run_done (answer : (q : Ask) → σ → Reply q × σ) (a : α) (s : σ) :
    (done a : Plan Reply ε α).run answer s = (.ok a, s) := rfl

@[simp] theorem run_halt (answer : (q : Ask) → σ → Reply q × σ) (h : Halt ε) (s : σ) :
    (halt h : Plan Reply ε α).run answer s = (.error h, s) := rfl

@[simp] theorem run_ask (answer : (q : Ask) → σ → Reply q × σ) (q : Ask)
    (next : Reply q → Plan Reply ε α) (s : σ) :
    (ask q next).run answer s = (next (answer q s).1).run answer (answer q s).2 := rfl

/-- A sequence runs its parts in order; a halt of the first is the halt of the whole. -/
theorem run_bind (answer : (q : Ask) → σ → Reply q × σ) (p : Plan Reply ε α)
    (f : α → Plan Reply ε β) (s : σ) :
    (p >>= f).run answer s =
      match p.run answer s with
      | (.ok a, s') => (f a).run answer s'
      | (.error h, s') => (.error h, s') := by
  induction p generalizing s with
  | done a => rfl
  | halt h => rfl
  | ask q next ih => simp [ih]

/-- Replaces every question by a plan over other questions, which has no errors of its own. -/
def translate (f : (q : Ask) → Plan Reply' Empty (Reply q)) :
    Plan Reply ε α → Plan Reply' ε α
  | done a => done a
  | halt h => halt h
  | ask q next => ((f q).mapError Empty.elim).bind fun r ↦ (next r).translate f

theorem run_mapError (answer : (q : Ask) → σ → Reply q × σ) (f : ε → ε') (p : Plan Reply ε α)
    (s : σ) : (p.mapError f).run answer s =
      ((p.run answer s).1.mapError (Halt.map f), (p.run answer s).2) := by
  induction p generalizing s with
  | done a => rfl
  | halt h => rfl
  | ask q next ih => exact ih _ _

/-- **Running a translated plan is running the plan**, when every replacing plan ends with the answer
that the plan would have got. -/
theorem run_translate (f : (q : Ask) → Plan Reply' Empty (Reply q))
    (answer : (q : Ask') → σ → Reply' q × σ) (answer' : (q : Ask) → σ → Reply q × σ)
    (h : ∀ q s, (f q).run answer s = (.ok (answer' q s).1, (answer' q s).2))
    (p : Plan Reply ε α) (s : σ) : (p.translate f).run answer s = p.run answer' s := by
  induction p generalizing s with
  | done a => rfl
  | halt h => rfl
  | ask q next ih =>
    show ((f q).mapError Empty.elim >>= fun r ↦ (next r).translate f).run answer s = _
    rw [run_bind, run_mapError, h, run_ask]
    exact ih _ _

end Plan

end Foreman
