import Foreman.Proofs.Plan
import Foreman.Proofs.Store.History
import Foreman.Work
import Mathlib.Logic.Function.Basic

/-!
# Work among other clients

Work is carried out one question at a time, and between two of its questions anything may happen:
other clients make requests to the same store, the clock moves, the receiving end of the bus is
given up. There are two ways to look at this.

* A **pool** is several pieces of work over one store, and a list of moves says which of them asks
  its next question, and what other clients do in between. It is a function, so that an interleaving
  is data and a statement about every interleaving is a statement about every list.
* A **course** follows one piece of work, with everybody else as a list of calls before each of its
  questions. It composes: the course of a sequence is the course of its first part, and the course
  of its second part when the first came to a result (`Course.of_bind`).

In both, everything that is not the store is chosen anew for each question (`Moment`), so nothing is
supposed about how clocks move, which identifiers are fresh, or when the bus is closed.
-/

namespace Foreman

open Time Store

/-- What is at hand when a question is asked, the store apart. -/
structure Moment where
  clock : Instant
  fresh : Uuid
  /-- Somebody holds the receiving end of the bus. -/
  receiving : Bool := true
  /-- The signal that can be taken off the bus. -/
  signal : Option Signal := none
  /-- What the collaborator answers. -/
  answer : Option Webhook.Answer := none

/-- Answers one question over a store. -/
def Store.Memory.answer (m : Memory) (moment : Moment) : (q : Ask) → q.Reply × Memory
  | .store request => m.perform moment.clock moment.fresh request
  | .clock => (moment.clock, m)
  | .freshId => (moment.fresh, m)
  | .busOpen => (moment.receiving, m)
  | .enqueue _ => (moment.receiving, m)
  | .receive => (moment.signal, m)
  | .post _ => (moment.answer, m)

@[simp] theorem Store.Memory.answer_store (m : Memory) (moment : Moment) (request : Request) :
    m.answer moment (.store request) = m.perform moment.clock moment.fresh request := rfl

/-- Nothing is left to ask. -/
def Plan.isFinished {Ask : Type} {Reply : Ask → Type} {ε α : Type} : Plan Reply ε α → Bool
  | .ask .. => false
  | _ => true

/-! ### Pools -/

/-- Several pieces of work over one store. -/
structure Pool (n : Nat) (ε α : Type) where
  memory : Memory
  clients : Fin n → Work ε α

/-- One move of an interleaving. -/
inductive Move (n : Nat) where
  /-- A client of the pool asks its next question. -/
  | turn (client : Fin n) (moment : Moment)
  /-- Somebody outside the pool makes a request. -/
  | call (c : Call)

namespace Pool

variable {n : Nat} {ε α : Type}

/-- Makes one move. A turn of a client that is finished changes nothing. -/
def move (p : Pool n ε α) : Move n → Pool n ε α
  | .turn i moment =>
    match p.clients i with
    | .ask q next =>
      let (reply, memory) := p.memory.answer moment q
      ⟨memory, Function.update p.clients i (next reply)⟩
    | _ => p
  | .call c => { p with memory := p.memory.after c }

/-- Makes a list of moves. -/
def play (p : Pool n ε α) (moves : List (Move n)) : Pool n ε α :=
  moves.foldl move p

@[simp] theorem play_nil (p : Pool n ε α) : p.play [] = p := rfl

@[simp] theorem play_cons (p : Pool n ε α) (mv : Move n) (moves : List (Move n)) :
    p.play (mv :: moves) = (p.move mv).play moves := rfl

theorem move_turn {p : Pool n ε α} {i : Fin n} {q : Ask} {next : q.Reply → Work ε α}
    (h : p.clients i = .ask q next) (moment : Moment) :
    p.move (.turn i moment) =
      ⟨(p.memory.answer moment q).2,
        Function.update p.clients i (next (p.memory.answer moment q).1)⟩ := by
  simp only [move, h]

theorem move_turn_of_done {p : Pool n ε α} {i : Fin n} {a : α} (h : p.clients i = .done a)
    (moment : Moment) : p.move (.turn i moment) = p := by
  simp only [move, h]

/-- **The induction over an interleaving.** Let every question of a kind keep an invariant of the
store, which also says what the answers are like, and let the calls of others keep it. Then it is
kept by every interleaving of clients that ask questions of this kind as long as the answers are
like that. -/
theorem invariant {I : Memory → Prop} {R : (q : Ask) → q.Reply → Prop} {P : Ask → Prop}
    {C : Call → Prop}
    (hanswer : ∀ m moment q, I m → P q →
      R q (m.answer moment q).1 ∧ I (m.answer moment q).2)
    (hcall : ∀ m c, I m → C c → I (m.after c)) {p : Pool n ε α} (hp : I p.memory)
    (hclients : ∀ i, (p.clients i).AsksIf R P) {moves : List (Move n)}
    (hmoves : ∀ c, .call c ∈ moves → C c) : I (p.play moves).memory := by
  induction moves generalizing p with
  | nil => exact hp
  | cons mv moves ih =>
    have hrest : ∀ c, .call c ∈ moves → C c := fun c hc ↦ hmoves c (List.mem_cons_of_mem _ hc)
    rw [play_cons]
    cases mv with
    | call c => exact ih (hcall _ c hp (hmoves c (List.mem_cons_self ..))) hclients hrest
    | turn i moment =>
      cases hi : p.clients i with
      | done a =>
        rw [move_turn_of_done hi]
        exact ih hp hclients hrest
      | halt e =>
        simp only [move, hi]
        exact ih hp hclients hrest
      | ask q next =>
        have hask := hclients i
        rw [hi] at hask
        obtain ⟨hreply, hleft⟩ := hanswer p.memory moment q hp hask.1
        rw [move_turn hi]
        refine ih hleft (fun j ↦ ?_) hrest
        change (Function.update p.clients i _ j).AsksIf R P
        by_cases hj : j = i
        · subst hj
          rw [Function.update_self]
          exact hask.2 _ hreply
        · rw [Function.update_of_ne hj]
          exact hclients j

end Pool

/-- The number of turns that a client gets. -/
def Move.turnsOf {n : Nat} (i : Fin n) : List (Move n) → Nat
  | [] => 0
  | .turn j _ :: moves => (if j = i then 1 else 0) + turnsOf i moves
  | .call _ :: moves => turnsOf i moves

theorem Move.turnsOf_cons {n : Nat} (i : Fin n) (mv : Move n) (moves : List (Move n)) :
    turnsOf i (mv :: moves) = turnsOf i [mv] + turnsOf i moves := by
  cases mv <;> simp [turnsOf]

/-! ### Courses -/

/-- One question of a piece of work, as it was asked: after which calls of other clients, and with
what at hand. -/
structure Exchange where
  others : List Call
  moment : Moment
  question : Ask

namespace Exchange

variable (e : Exchange) (m : Memory)

/-- The store that the question finds. -/
def found : Memory :=
  m.afterAll e.others

/-- The answer that it gets. -/
def reply : e.question.Reply :=
  ((e.found m).answer e.moment e.question).1

/-- The store that it leaves. -/
def left : Memory :=
  ((e.found m).answer e.moment e.question).2

end Exchange

/-- An exchange that is not in the first part of a list is in the second. -/
theorem Exchange.mem_right_of_append {e : Exchange} {xs ys before after : List Exchange}
    (h : xs ++ ys = before ++ e :: after) (he : e ∉ xs) :
    ∃ between, before = xs ++ between ∧ ys = between ++ e :: after := by
  rcases List.append_eq_append_iff.1 h with ⟨between, hbefore, hys⟩ | ⟨rest, hxs, hrest⟩
  · exact ⟨between, hbefore, hys⟩
  · cases rest with
    | nil => exact ⟨[], by simpa using hxs.symm, by simpa using hrest.symm⟩
    | cons e' rest =>
      obtain rfl := (List.cons.inj hrest).1
      exact absurd (hxs ▸ List.mem_append_right before (List.mem_cons_self ..)) he

/-- The store behind a list of exchanges. -/
def Store.Memory.through (m : Memory) (es : List Exchange) : Memory :=
  es.foldl (fun m e ↦ e.left m) m

@[simp] theorem Store.Memory.through_nil (m : Memory) : m.through [] = m := rfl

@[simp] theorem Store.Memory.through_cons (m : Memory) (e : Exchange) (es : List Exchange) :
    m.through (e :: es) = (e.left m).through es := rfl

theorem Store.Memory.through_append (m : Memory) (es es' : List Exchange) :
    m.through (es ++ es') = (m.through es).through es' :=
  List.foldl_append ..

/-- Over this store and through these exchanges, a piece of work comes to what is left of it. -/
inductive Course {ε α : Type} : Work ε α → Memory → List Exchange → Work ε α → Prop where
  | here (w : Work ε α) (m : Memory) : Course w m [] w
  | ask {q : Ask} {next : q.Reply → Work ε α} {m : Memory} {others : List Call} {moment : Moment}
    {es : List Exchange} {w : Work ε α}
    (h : Course (next (Exchange.reply ⟨others, moment, q⟩ m))
      (Exchange.left ⟨others, moment, q⟩ m) es w) :
    Course (.ask q next) m (⟨others, moment, q⟩ :: es) w

namespace Course

variable {ε ε' α β : Type} {m : Memory} {es : List Exchange}

/-- What is finished asks nothing. -/
theorem eq_of_done {a : α} {w : Work ε α} (h : Course (.done a) m es w) :
    es = [] ∧ w = .done a := by
  cases h
  exact ⟨rfl, rfl⟩

/-- A course goes on into a sequence. -/
theorem bind {p p' : Work ε α} (h : Course p m es p') (f : α → Work ε β) :
    Course (p >>= f) m es (p' >>= f) := by
  induction h with
  | here => exact .here ..
  | ask h ih => exact .ask ih

theorem mapError {p p' : Work ε α} (h : Course p m es p') (f : ε → ε') :
    Course (p.mapError f) m es (p'.mapError f) := by
  induction h with
  | here => exact .here ..
  | ask h ih => exact .ask ih

theorem attempt {p p' : Work ε α} (h : Course p m es p') :
    Course (p.attempt : Work ε' (Except ε α)) m es p'.attempt := by
  induction h with
  | here => exact .here ..
  | ask h ih => exact .ask ih

/-- **The course of a sequence** stays within its first part, or it goes through the first part to a
result and from there through the second. -/
theorem of_bind {p : Work ε α} {f : α → Work ε β} {w : Work ε β} (h : Course (p >>= f) m es w) :
    (∃ p', Course p m es p' ∧ w = (p' >>= f)) ∨
      ∃ a es₁ es₂, es = es₁ ++ es₂ ∧ Course p m es₁ (.done a) ∧
        Course (f a) (m.through es₁) es₂ w := by
  induction p generalizing m es with
  | done a => exact .inr ⟨a, [], es, rfl, .here .., h⟩
  | halt e =>
    cases h
    exact .inl ⟨_, .here .., rfl⟩
  | ask q next ih =>
    cases h with
    | here => exact .inl ⟨_, .here .., rfl⟩
    | ask h =>
      rcases ih _ h with ⟨p', hp, rfl⟩ | ⟨a, es₁, es₂, rfl, hp, hf⟩
      · exact .inl ⟨p', .ask hp, rfl⟩
      · exact .inr ⟨a, _ :: es₁, es₂, rfl, .ask hp, hf⟩

/-- A sequence whose second part only makes a result of a result goes through its first part. -/
theorem of_bind_done {p : Work ε α} {f : α → Work ε β} {w : Work ε β}
    (hf : ∀ a, ∃ b, f a = .done b) (h : Course (p >>= f) m es w) : ∃ p', Course p m es p' := by
  rcases h.of_bind with ⟨p', hp, -⟩ | ⟨a, es₁, es₂, rfl, hp, hrest⟩
  · exact ⟨p', hp⟩
  · obtain ⟨b, hb⟩ := hf a
    rw [hb] at hrest
    obtain ⟨rfl, -⟩ := hrest.eq_of_done
    exact ⟨_, by simpa using hp⟩

/-- A sequence that begins with a request is still before it, or goes through its answer. -/
theorem of_store_bind {rq : Request} {f : rq.Value → Work StoreError α} {w : Work StoreError α}
    (h : Course (Work.store rq >>= f) m es w) :
    (es = [] ∧ ∃ q next, w = .ask q next) ∨
      ∃ others moment rest, es = ⟨others, moment, .store rq⟩ :: rest ∧
        ∀ v, Exchange.reply ⟨others, moment, .store rq⟩ m = .ok v →
          Course (f v) (Exchange.left ⟨others, moment, .store rq⟩ m) rest w := by
  change Course (.ask (.store rq) fun reply ↦ Plan.ofExcept reply >>= f) m es w at h
  cases h with
  | here => exact .inl ⟨rfl, _, _, rfl⟩
  | @ask _ _ _ others moment rest _ h =>
    refine .inr ⟨others, moment, rest, rfl, fun v hv ↦ ?_⟩
    rw [hv] at h
    exact h

/-- The questions of a course are among those that the work can ask. -/
theorem mem_of_asks {P : Ask → Prop} {p w : Work ε α} (h : Course p m es w) (hp : p.Asks P) :
    ∀ e ∈ es, P e.question := by
  induction h with
  | here =>
    intro e he
    cases he
  | ask h ih =>
    intro e he
    rcases List.mem_cons.1 he with rfl | he
    · exact hp.1
    · exact ih (hp.2 _) e he

end Course

end Foreman
