import Foreman.Plan

/-!
# What a plan can come to

A condition on the results of a plan that is met whatever the answers to its questions are
(`Plan.Always`). It says what may be supposed of a result by whoever goes on with it: two plans that
begin with the same part are equal when they go on equally from every result that this part can have
(`bind_congr`).

A condition on the questions of a plan holds whatever the answers are (`Plan.Asks`), or as long as
the answers are what those who answer can say (`Plan.AsksIf`). In the same way a plan ends with a
result or a halt of some kind as long as the answers are like that (`Plan.Yields`).
-/

namespace Foreman.Plan

variable {Ask : Type} {Reply : Ask → Type} {ε ε' α β γ : Type}

/-! ### Errors of a sequence -/

@[simp] theorem mapError_bind (f : ε → ε') (p : Plan Reply ε α) (g : α → Plan Reply ε β) :
    (p >>= g).mapError f = p.mapError f >>= fun a ↦ (g a).mapError f := by
  induction p with
  | done a => rfl
  | halt h => rfl
  | ask q next ih => simp [mapError, ih]

/-! ### Results -/

/-- Whatever the answers are, a result meets the condition. -/
def Always (P : α → Prop) : Plan Reply ε α → Prop
  | done a => P a
  | halt _ => True
  | ask _ next => ∀ r, (next r).Always P

@[simp] theorem always_done (P : α → Prop) (a : α) : (done a : Plan Reply ε α).Always P ↔ P a :=
  Iff.rfl

@[simp] theorem always_halt (P : α → Prop) (h : Halt ε) : (halt h : Plan Reply ε α).Always P :=
  trivial

theorem always_true (p : Plan Reply ε α) : p.Always fun _ ↦ True := by
  induction p with
  | done a => trivial
  | halt h => trivial
  | ask q next ih => exact ih

/-- The results of a sequence are those of its second part, from any result of the first. -/
theorem Always.bind {P : α → Prop} {Q : β → Prop} {p : Plan Reply ε α} {f : α → Plan Reply ε β}
    (hp : p.Always P) (hf : ∀ a, P a → (f a).Always Q) : (p >>= f).Always Q := by
  induction p with
  | done a => exact hf a hp
  | halt h => trivial
  | ask q next ih => exact fun r ↦ ih r (hp r)

/-- A sequence is determined by how it goes on from the results that its first part can have. -/
theorem Always.bind_congr {P : α → Prop} {p : Plan Reply ε α} {f g : α → Plan Reply ε β}
    (hp : p.Always P) (h : ∀ a, P a → f a = g a) : (p >>= f) = (p >>= g) := by
  induction p with
  | done a => exact h a hp
  | halt e => rfl
  | ask q next ih =>
    simp only [ask_bind]
    congr 1
    funext r
    exact ih r (hp r)

/-! ### Questions -/

/-- Whatever the answers are, the questions are of this kind. -/
def Asks (P : Ask → Prop) : Plan Reply ε α → Prop
  | done _ => True
  | halt _ => True
  | ask q next => P q ∧ ∀ r, (next r).Asks P

variable {P : Ask → Prop}

theorem Asks.mono {Q : Ask → Prop} {p : Plan Reply ε α} (hp : p.Asks P)
    (h : ∀ q, P q → Q q) : p.Asks Q := by
  induction p with
  | done a => trivial
  | halt e => trivial
  | ask q next ih => exact ⟨h q hp.1, fun r ↦ ih r (hp.2 r)⟩

theorem Asks.bind {p : Plan Reply ε α} {f : α → Plan Reply ε β} (hp : p.Asks P)
    (hf : ∀ a, (f a).Asks P) : (p >>= f).Asks P := by
  induction p with
  | done a => exact hf a
  | halt e => trivial
  | ask q next ih => exact ⟨hp.1, fun r ↦ ih r (hp.2 r)⟩

theorem Asks.mapError {f : ε → ε'} {p : Plan Reply ε α} (hp : p.Asks P) :
    (p.mapError f).Asks P := by
  induction p with
  | done a => trivial
  | halt e => trivial
  | ask q next ih => exact ⟨hp.1, fun r ↦ ih r (hp.2 r)⟩

theorem Asks.attempt {p : Plan Reply ε α} (hp : p.Asks P) :
    (p.attempt : Plan Reply ε' (Except ε α)).Asks P := by
  induction p with
  | done a => trivial
  | halt e => cases e <;> trivial
  | ask q next ih => exact ⟨hp.1, fun r ↦ ih r (hp.2 r)⟩

theorem asks_question {q : Ask} (h : P q) : (question q : Plan Reply ε (Reply q)).Asks P :=
  ⟨h, fun _ ↦ trivial⟩

theorem asks_ofExcept (v : Except (Halt ε) α) : (ofExcept v : Plan Reply ε α).Asks P := by
  cases v <;> trivial

theorem asks_require (v : Option α) : (require v : Plan Reply ε α).Asks P := by
  cases v <;> trivial

/-! ### Questions, if the answers are as expected -/

/-- As long as the answers are as expected, the questions are of this kind. -/
def AsksIf (R : (q : Ask) → Reply q → Prop) (P : Ask → Prop) : Plan Reply ε α → Prop
  | done _ => True
  | halt _ => True
  | ask q next => P q ∧ ∀ r, R q r → (next r).AsksIf R P

variable {R : (q : Ask) → Reply q → Prop}

theorem Asks.asksIf {p : Plan Reply ε α} (hp : p.Asks P) : p.AsksIf R P := by
  induction p with
  | done a => trivial
  | halt e => trivial
  | ask q next ih => exact ⟨hp.1, fun r _ ↦ ih r (hp.2 r)⟩

theorem AsksIf.bind {p : Plan Reply ε α} {f : α → Plan Reply ε β} (hp : p.AsksIf R P)
    (hf : ∀ a, (f a).AsksIf R P) : (p >>= f).AsksIf R P := by
  induction p with
  | done a => exact hf a
  | halt e => trivial
  | ask q next ih => exact ⟨hp.1, fun r hr ↦ ih r (hp.2 r hr)⟩

theorem AsksIf.attempt {p : Plan Reply ε α} (hp : p.AsksIf R P) :
    (p.attempt : Plan Reply ε' (Except ε α)).AsksIf R P := by
  induction p with
  | done a => trivial
  | halt e => cases e <;> trivial
  | ask q next ih => exact ⟨hp.1, fun r hr ↦ ih r (hp.2 r hr)⟩

/-! ### Results, if the answers are as expected -/

/-- As long as the answers are as expected, the plan ends in this way, with a result or a halt. -/
def Yields (R : (q : Ask) → Reply q → Prop) (Q : Except (Halt ε) α → Prop) : Plan Reply ε α → Prop
  | done a => Q (.ok a)
  | halt h => Q (.error h)
  | ask q next => ∀ r, R q r → (next r).Yields R Q

theorem Yields.mono {Q Q' : Except (Halt ε) α → Prop} {p : Plan Reply ε α} (hp : p.Yields R Q)
    (h : ∀ result, Q result → Q' result) : p.Yields R Q' := by
  induction p with
  | done a => exact h _ hp
  | halt e => exact h _ hp
  | ask q next ih => exact fun r hr ↦ ih r (hp r hr)

/-- A sequence ends as its first part halts, or as its second part ends. -/
theorem Yields.bind {Q : Except (Halt ε) α → Prop} {Q' : Except (Halt ε) β → Prop}
    {p : Plan Reply ε α} {f : α → Plan Reply ε β} (hp : p.Yields R Q)
    (hhalt : ∀ h, Q (.error h) → Q' (.error h)) (hf : ∀ a, Q (.ok a) → (f a).Yields R Q') :
    (p >>= f).Yields R Q' := by
  induction p with
  | done a => exact hf a hp
  | halt h => exact hhalt h hp
  | ask q next ih => exact fun r hr ↦ ih r (hp r hr)

end Foreman.Plan
