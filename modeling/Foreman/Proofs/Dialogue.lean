import Foreman.Proofs.Plan

/-!
# Dialogues

A dialogue is what a plan and whoever answers it say to each other: the questions in their order,
each with its answer, and the result at the end. Nothing is supposed about the answers, so what
holds of every dialogue of a plan holds with every store, every clock and every bus; what has to be
supposed of them is supposed of the list.

Dialogues are taken apart along the plan. That of a sequence is that of its first part, which
halted, or that of its first part and behind it that of its second (`dialogue_bind`), unless the
first part is only attempted (`dialogue_attempt_bind`). Every run is a dialogue (`dialogue_run`).
-/

namespace Foreman

/-- A question and the answer that it got. -/
structure Answered {Ask : Type} (Reply : Ask → Type) where
  question : Ask
  reply : Reply question

namespace Plan

variable {Ask : Type} {Reply : Ask → Type} {ε ε' α β σ : Type} {es : List (Answered Reply)}

/-- **A dialogue of a plan**: the questions with their answers, and the result. -/
def Dialogue : Plan Reply ε α → List (Answered Reply) → Except (Halt ε) α → Prop
  | done a, es, result => es = [] ∧ result = .ok a
  | halt h, es, result => es = [] ∧ result = .error h
  | ask q next, es, result =>
    ∃ reply rest, es = ⟨q, reply⟩ :: rest ∧ (next reply).Dialogue rest result

@[simp] theorem dialogue_done {a : α} {result : Except (Halt ε) α} :
    (done a : Plan Reply ε α).Dialogue es result ↔ es = [] ∧ result = .ok a := Iff.rfl

@[simp] theorem dialogue_halt {h : Halt ε} {result : Except (Halt ε) α} :
    (halt h : Plan Reply ε α).Dialogue es result ↔ es = [] ∧ result = .error h := Iff.rfl

@[simp] theorem dialogue_ask {q : Ask} {next : Reply q → Plan Reply ε α}
    {result : Except (Halt ε) α} :
    (ask q next).Dialogue es result ↔
      ∃ reply rest, es = ⟨q, reply⟩ :: rest ∧ (next reply).Dialogue rest result := Iff.rfl

/-! ### Dialogues along the plan -/

/-- **The dialogues of a sequence.** -/
theorem dialogue_bind {p : Plan Reply ε α} {f : α → Plan Reply ε β} {result : Except (Halt ε) β} :
    (p >>= f).Dialogue es result ↔
      (∃ h, result = .error h ∧ p.Dialogue es (.error h)) ∨
        ∃ a es₁ es₂, es = es₁ ++ es₂ ∧ p.Dialogue es₁ (.ok a) ∧ (f a).Dialogue es₂ result := by
  induction p generalizing es with
  | done a =>
    simp only [done_bind, dialogue_done]
    constructor
    · exact fun h ↦ .inr ⟨a, [], es, rfl, ⟨rfl, rfl⟩, h⟩
    · rintro (⟨_, -, -, heq⟩ | ⟨_, _, _, rfl, ⟨rfl, heq⟩, h⟩)
      · cases heq
      · obtain rfl := Except.ok.inj heq
        exact h
  | halt h =>
    simp only [halt_bind, dialogue_halt]
    constructor
    · rintro ⟨rfl, rfl⟩
      exact .inl ⟨h, rfl, rfl, rfl⟩
    · rintro (⟨_, rfl, rfl, heq⟩ | ⟨_, _, _, -, ⟨-, heq⟩, -⟩)
      · obtain rfl := Except.error.inj heq
        exact ⟨rfl, rfl⟩
      · cases heq
  | ask q next ih =>
    simp only [ask_bind, dialogue_ask, ih]
    constructor
    · rintro ⟨reply, rest, rfl, ⟨h, rfl, hp⟩ | ⟨a, es₁, es₂, rfl, hp, hf⟩⟩
      · exact .inl ⟨h, rfl, reply, rest, rfl, hp⟩
      · exact .inr ⟨a, ⟨q, reply⟩ :: es₁, es₂, rfl, ⟨reply, es₁, rfl, hp⟩, hf⟩
    · rintro (⟨h, rfl, reply, rest, rfl, hp⟩ | ⟨a, _, es₂, rfl, ⟨reply, es₁, rfl, hp⟩, hf⟩)
      · exact ⟨reply, rest, rfl, .inl ⟨h, rfl, hp⟩⟩
      · exact ⟨reply, es₁ ++ es₂, rfl, .inr ⟨a, es₁, es₂, rfl, hp, hf⟩⟩

theorem dialogue_mapError {f : ε → ε'} {p : Plan Reply ε α} {result : Except (Halt ε') α} :
    (p.mapError f).Dialogue es result ↔
      ∃ inner, p.Dialogue es inner ∧ result = inner.mapError (Halt.map f) := by
  induction p generalizing es with
  | done a =>
    constructor
    · rintro ⟨rfl, rfl⟩
      exact ⟨.ok a, ⟨rfl, rfl⟩, rfl⟩
    · rintro ⟨_, ⟨rfl, rfl⟩, rfl⟩
      exact ⟨rfl, rfl⟩
  | halt h =>
    constructor
    · rintro ⟨rfl, rfl⟩
      exact ⟨.error h, ⟨rfl, rfl⟩, rfl⟩
    · rintro ⟨_, ⟨rfl, rfl⟩, rfl⟩
      exact ⟨rfl, rfl⟩
  | ask q next ih =>
    simp only [mapError, dialogue_ask, ih]
    constructor
    · rintro ⟨reply, rest, rfl, inner, h, rfl⟩
      exact ⟨inner, ⟨reply, rest, rfl, h⟩, rfl⟩
    · rintro ⟨inner, ⟨reply, rest, rfl, h⟩, rfl⟩
      exact ⟨reply, rest, rfl, inner, h, rfl⟩

theorem Dialogue.bind {p : Plan Reply ε α} {f : α → Plan Reply ε β} {a : α}
    {es' : List (Answered Reply)} {result : Except (Halt ε) β} (hp : p.Dialogue es (.ok a))
    (hf : (f a).Dialogue es' result) : (p >>= f).Dialogue (es ++ es') result :=
  dialogue_bind.2 (.inr ⟨a, es, es', rfl, hp, hf⟩)

theorem Dialogue.map {p : Plan Reply ε α} {a : α} (hp : p.Dialogue es (.ok a)) (f : α → β) :
    (p >>= fun a ↦ done (f a)).Dialogue es (.ok (f a)) :=
  dialogue_bind.2 (.inr ⟨a, es, [], (List.append_nil es).symm, hp, rfl, rfl⟩)

/-- An attempt that is gone on from crashes with the plan, or goes on with its result or its error.
-/
theorem dialogue_attempt_bind {p : Plan Reply ε α} {f : Except ε α → Plan Reply ε' β}
    {result : Except (Halt ε') β} :
    (p.attempt >>= f).Dialogue es result ↔
      (p.Dialogue es (.error .crash) ∧ result = .error .crash) ∨
        ∃ (inner : Except ε α) (es₁ es₂ : List (Answered Reply)), es = es₁ ++ es₂ ∧
          p.Dialogue es₁ (inner.mapError .error) ∧ (f inner).Dialogue es₂ result := by
  induction p generalizing es with
  | done a =>
    simp only [attempt, done_bind, dialogue_done]
    constructor
    · exact fun h ↦ .inr ⟨.ok a, [], es, rfl, ⟨rfl, rfl⟩, h⟩
    · rintro (⟨⟨-, heq⟩, -⟩ | ⟨_ | _, _, _, rfl, ⟨rfl, heq⟩, h⟩)
      · cases heq
      · cases heq
      · obtain rfl := Except.ok.inj heq
        exact h
  | halt halt =>
    cases halt with
    | crash =>
      constructor
      · rintro ⟨rfl, rfl⟩
        exact .inl ⟨⟨rfl, rfl⟩, rfl⟩
      · rintro (⟨⟨rfl, -⟩, rfl⟩ | ⟨_ | _, _, _, -, ⟨-, heq⟩, -⟩)
        · exact ⟨rfl, rfl⟩
        · cases heq
        · cases heq
    | error e =>
      simp only [attempt, done_bind, dialogue_halt]
      constructor
      · exact fun h ↦ .inr ⟨.error e, [], es, rfl, ⟨rfl, rfl⟩, h⟩
      · rintro (⟨⟨-, heq⟩, -⟩ | ⟨_ | _, _, _, rfl, ⟨rfl, heq⟩, h⟩)
        · cases heq
        · obtain rfl := Halt.error.inj (Except.error.inj heq)
          exact h
        · cases heq
  | ask q next ih =>
    simp only [attempt, ask_bind, dialogue_ask, ih]
    constructor
    · rintro ⟨reply, rest, rfl, ⟨hp, rfl⟩ | ⟨inner, es₁, es₂, rfl, hp, hf⟩⟩
      · exact .inl ⟨⟨reply, rest, rfl, hp⟩, rfl⟩
      · exact .inr ⟨inner, ⟨q, reply⟩ :: es₁, es₂, rfl, ⟨reply, es₁, rfl, hp⟩, hf⟩
    · rintro (⟨⟨reply, rest, rfl, hp⟩, rfl⟩ | ⟨inner, _, es₂, rfl, ⟨reply, es₁, rfl, hp⟩, hf⟩)
      · exact ⟨reply, rest, rfl, .inl ⟨hp, rfl⟩⟩
      · exact ⟨reply, es₁ ++ es₂, rfl, .inr ⟨inner, es₁, es₂, rfl, hp, hf⟩⟩

theorem dialogue_ofExcept {v result : Except (Halt ε) α} :
    (ofExcept v : Plan Reply ε α).Dialogue es result ↔ es = [] ∧ result = v := by
  cases v <;> simp [ofExcept]

/-- The questions of a dialogue are questions of the plan. -/
theorem Dialogue.forall_of_asks {P : Ask → Prop} {p : Plan Reply ε α} {result : Except (Halt ε) α}
    (h : p.Dialogue es result) (hp : p.Asks P) : ∀ e ∈ es, P e.question := by
  induction p generalizing es with
  | done a =>
    obtain ⟨rfl, -⟩ := h
    exact List.forall_mem_nil _
  | halt e =>
    obtain ⟨rfl, -⟩ := h
    exact List.forall_mem_nil _
  | ask q next ih =>
    obtain ⟨reply, rest, rfl, h⟩ := h
    exact List.forall_mem_cons.2 ⟨hp.1, ih reply h (hp.2 reply)⟩

/-- A dialogue in which the answers are as expected ends as the plan does then. -/
theorem Dialogue.of_yields {R : (q : Ask) → Reply q → Prop} {Q : Except (Halt ε) α → Prop}
    {p : Plan Reply ε α} {result : Except (Halt ε) α} (h : p.Dialogue es result)
    (hes : ∀ e ∈ es, R e.question e.reply) (hp : p.Yields R Q) : Q result := by
  induction p generalizing es with
  | done a =>
    obtain ⟨-, rfl⟩ := h
    exact hp
  | halt halt =>
    obtain ⟨-, rfl⟩ := h
    exact hp
  | ask q next ih =>
    obtain ⟨reply, rest, rfl, h⟩ := h
    obtain ⟨hreply, hrest⟩ := List.forall_mem_cons.1 hes
    exact ih reply h hrest (hp reply hreply)

/-! ### Runs -/

/-- What is said when a plan runs against a state that answers its questions. -/
def transcript (answer : (q : Ask) → σ → Reply q × σ) :
    Plan Reply ε α → σ → List (Answered Reply)
  | done _, _ => []
  | halt _, _ => []
  | ask q next, s =>
    ⟨q, (answer q s).1⟩ :: (next (answer q s).1).transcript answer (answer q s).2

/-- **Every run is a dialogue.** -/
theorem dialogue_run (answer : (q : Ask) → σ → Reply q × σ) (p : Plan Reply ε α) (s : σ) :
    p.Dialogue (p.transcript answer s) (p.run answer s).1 := by
  induction p generalizing s with
  | done a => exact ⟨rfl, rfl⟩
  | halt h => exact ⟨rfl, rfl⟩
  | ask q next ih => exact ⟨_, _, rfl, ih _ _⟩

/-- What holds of every answer holds along a run. -/
theorem forall_mem_transcript {P : Answered Reply → Prop} {answer : (q : Ask) → σ → Reply q × σ}
    (h : ∀ q s, P ⟨q, (answer q s).1⟩) (p : Plan Reply ε α) (s : σ) :
    ∀ e ∈ p.transcript answer s, P e := by
  induction p generalizing s with
  | done a => exact List.forall_mem_nil _
  | halt h => exact List.forall_mem_nil _
  | ask q next ih => exact List.forall_mem_cons.2 ⟨h q s, ih _ _⟩

end Plan

end Foreman
