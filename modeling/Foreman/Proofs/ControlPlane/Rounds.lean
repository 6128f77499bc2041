import Foreman.Proofs.ControlPlane.Outcome

/-!
# Rounds of a dispatcher

A round takes the oldest signal off the bus and dispatches it. `Rounds` is what can happen on a bus
with one dispatcher at its receiving end: rounds, and between and during them arrivals of signals
from elsewhere. It keeps account of every signal that comes onto the bus.

The loop of a dispatcher is rounds until the bus is empty (`Rounds.of_pump`), unless a handler
crashes, which ends the loop in the middle of a dispatch.
-/

namespace Foreman.ControlPlane

/-- One signal taken off the bus and dispatched. -/
structure Round where
  before : Dispatcher
  signal : Signal
  report : DispatchReport
  after : Dispatcher
  /-- What came onto the bus meanwhile, in order and from whomever. -/
  put : List Signal

/-- What the loop of a dispatcher says about a round. -/
def Round.dispatched (r : Round) : Dispatcher.Dispatched :=
  ⟨r.signal, r.report, r.after.current.key⟩

/-- **Rounds of a dispatcher**, from a queue: what came onto the bus, the rounds, and the dispatcher
and the queue behind them. -/
inductive Rounds (arrives : Signal → Prop) (receiving : Bool) :
    Dispatcher → List Signal → List Signal → List Round → Dispatcher → List Signal → Prop where
  | nil (d : Dispatcher) (queue : List Signal) : Rounds arrives receiving d queue [] [] d queue
  | arrival {d d' : Dispatcher} {s : Signal} {queue put queue' : List Signal} {rounds : List Round}
      (hs : arrives s) (h : Rounds arrives receiving d (queue ++ [s]) put rounds d' queue') :
    Rounds arrives receiving d queue (s :: put) rounds d' queue'
  | round {r : Round} {d' : Dispatcher} {queue queue₁ put queue' : List Signal}
      {rounds : List Round}
      (hround : Traffic arrives receiving (r.before.dispatch r.signal) queue r.put
        (.ok (r.report, r.after)) queue₁)
      (h : Rounds arrives receiving r.after queue₁ put rounds d' queue') :
    Rounds arrives receiving r.before (r.signal :: queue) (r.put ++ put) (r :: rounds) d' queue'

namespace Rounds

variable {arrives : Signal → Prop} {receiving : Bool} {d d' : Dispatcher}
  {queue put queue' : List Signal} {rounds : List Round}

/-- Several signals arrive. -/
theorem arrivals {as : List Signal} (has : ∀ s ∈ as, arrives s)
    (h : Rounds arrives receiving d (queue ++ as) put rounds d' queue') :
    Rounds arrives receiving d queue (as ++ put) rounds d' queue' := by
  induction as generalizing queue with
  | nil => simpa using h
  | cons s as ih =>
    refine .arrival (has s (List.mem_cons_self ..)) ?_
    refine ih (fun s' hs' ↦ has s' (List.mem_cons_of_mem _ hs')) ?_
    simpa using h

/-- Rounds change nothing of the dispatcher but its state. -/
theorem dispatcher_eq (h : Rounds arrives receiving d queue put rounds d' queue') :
    ∃ here, d' = { d with current := here } := by
  induction h with
  | nil d queue => exact ⟨d.current, rfl⟩
  | arrival _ _ ih => exact ih
  | @round r d' _ _ _ _ _ hround _ ih =>
    obtain ⟨here, hafter⟩ := hround.always (r.before.dispatch_always r.signal)
    obtain ⟨here', rfl⟩ := ih
    exact ⟨here', by rw [show r.after = _ from hafter]⟩

/-- **First in, first out**: what was on the bus and what came onto it are the signals that were
dispatched, in this order, and those that are left. -/
theorem queue_append_put (h : Rounds arrives receiving d queue put rounds d' queue')
    (hasks : ∀ r ∈ rounds, (r.before.dispatch r.signal).Asks (· ≠ .receive)) :
    queue ++ put = rounds.map Round.signal ++ queue' := by
  induction h with
  | nil d queue => exact List.append_nil queue
  | arrival _ _ ih =>
    rw [← ih hasks, List.append_assoc]
    rfl
  | round hround _ ih =>
    obtain ⟨hfirst, hrest⟩ := List.forall_mem_cons.1 hasks
    have hqueue := hround.queue_eq_append hfirst
    rw [List.map_cons, List.cons_append, List.cons_append, ← ih hrest, hqueue, List.append_assoc]

end Rounds

/-! ### The loop -/

/-- **How a loop ends** behind its rounds: with what it says about each of them, or in the middle of
the next dispatch, whose handler crashed. -/
inductive Ending (arrives : Signal → Prop) (receiving : Bool) (limit : Nat) (rounds : List Round)
    (d : Dispatcher) : List Signal → List Signal →
      Except (Halt Empty) (List Dispatcher.Dispatched × Dispatcher) → List Signal → Prop where
  | finished {queue : List Signal} (h : rounds.length = limit ∨ queue = []) :
    Ending arrives receiving limit rounds d queue [] (.ok (rounds.map Round.dispatched, d)) queue
  | crashed {signal : Signal} {rest put queue' : List Signal}
      (h : Traffic arrives receiving (d.dispatch signal) rest put (.error .crash) queue') :
    Ending arrives receiving limit rounds d (signal :: rest) put (.error .crash) queue'

namespace Dispatcher

variable {arrives : Signal → Prop} {receiving : Bool} {d : Dispatcher}
  {queue put queue' : List Signal} {limit : Nat}
  {result : Except (Halt Empty) (List Dispatched × Dispatcher)}

/-- The questions of the loop: take a signal, dispatch it, go on. -/
theorem pump_succ (d : Dispatcher) (limit : Nat) :
    d.pump (limit + 1) = .ask .receive fun
      | none => .done ([], d)
      | some signal => d.dispatch signal >>= fun x ↦ x.2.pump limit >>= fun y ↦
          .done (⟨signal, x.1, x.2.current.key⟩ :: y.1, y.2) := by
  simp only [pump]
  refine congrArg (Plan.ask Ask.receive) (funext fun signal ↦ ?_)
  cases signal <;> rfl

/-- The traffic of an iteration: after some arrivals the bus is empty, or its oldest signal is
dispatched, which crashes or after which the loop goes on. -/
theorem traffic_pump_succ
    (h : Traffic arrives receiving (d.pump (limit + 1)) queue put result queue') :
    ∃ as put₁, put = as ++ put₁ ∧ (∀ s ∈ as, arrives s) ∧
      ((queue ++ as = [] ∧ put₁ = [] ∧ result = .ok ([], d) ∧ queue' = []) ∨
        ∃ signal rest, queue ++ as = signal :: rest ∧
          ((result = .error .crash ∧
              Traffic arrives receiving (d.dispatch signal) rest put₁ (.error .crash) queue') ∨
            ∃ report next put₂ put₃ queue₁ result₁, put₁ = put₂ ++ put₃ ∧
              Traffic arrives receiving (d.dispatch signal) rest put₂ (.ok (report, next)) queue₁ ∧
              Traffic arrives receiving (next.pump limit) queue₁ put₃ result₁ queue' ∧
              result = result₁.map fun y ↦
                (⟨signal, report, next.current.key⟩ :: y.1, y.2))) := by
  rw [pump_succ] at h
  obtain ⟨as, put₁, taken, rfl, has, htaken, h⟩ := h.of_ask
  obtain rfl : taken = (queue ++ as).head? := htaken
  refine ⟨as, put₁, by simp [Ask.puts], has, ?_⟩
  simp only [Ask.puts, Ask.takes, List.append_nil] at h
  cases hqueue : queue ++ as with
  | nil =>
    rw [hqueue] at h
    obtain ⟨rfl, rfl, rfl⟩ := h.of_done
    exact .inl ⟨rfl, rfl, rfl, rfl⟩
  | cons signal rest =>
    rw [hqueue] at h
    simp only [List.head?_cons, List.drop_one, List.tail_cons] at h
    refine .inr ⟨signal, rest, rfl, ?_⟩
    rcases h.of_bind with ⟨⟨e⟩ | _, rfl, hdispatch⟩ |
      ⟨⟨report, next⟩, put₂, put₃, queue₁, rfl, hdispatch, hrest⟩
    · exact e.elim
    · exact .inl ⟨rfl, hdispatch⟩
    · refine .inr ⟨report, next, put₂, put₃, queue₁, ?_⟩
      rcases hrest.of_bind with ⟨e, rfl, hpump⟩ | ⟨y, put₄, put₅, queue₂, rfl, hpump, hdone⟩
      · exact ⟨.error e, rfl, hdispatch, hpump, rfl⟩
      · obtain ⟨rfl, rfl, rfl⟩ := hdone.of_done
        rw [List.append_nil]
        exact ⟨.ok y, rfl, hdispatch, hpump, rfl⟩

end Dispatcher

/-- One more round ahead does not change how a loop ends. -/
theorem Ending.cons {arrives : Signal → Prop} {receiving : Bool} {limit : Nat} {d : Dispatcher}
    {rounds : List Round} {queue put queue' : List Signal}
    {result : Except (Halt Empty) (List Dispatcher.Dispatched × Dispatcher)}
    (h : Ending arrives receiving limit rounds d queue put result queue') (r : Round) :
    Ending arrives receiving (limit + 1) (r :: rounds) d queue put
      (result.map fun y ↦ (r.dispatched :: y.1, y.2)) queue' := by
  cases h with
  | finished h => exact .finished (h.imp_left (congrArg (· + 1)))
  | crashed h => exact .crashed h

/-- **The loop of a dispatcher is rounds** until the bus is empty or the limit is reached. It ends
before only if a dispatch crashes. -/
theorem Rounds.of_pump {arrives : Signal → Prop} {receiving : Bool} {d : Dispatcher} {limit : Nat}
    {queue put queue' : List Signal}
    {result : Except (Halt Empty) (List Dispatcher.Dispatched × Dispatcher)}
    (h : Traffic arrives receiving (d.pump limit) queue put result queue') :
    ∃ put₁ put₂ rounds d₁ queue₁, put = put₁ ++ put₂ ∧
      Rounds arrives receiving d queue put₁ rounds d₁ queue₁ ∧
      Ending arrives receiving limit rounds d₁ queue₁ put₂ result queue' := by
  induction limit generalizing d queue put result with
  | zero =>
    obtain ⟨rfl, rfl, rfl⟩ := h.of_done
    exact ⟨[], [], [], d, queue', rfl, .nil d queue', .finished (.inl rfl)⟩
  | succ limit ih =>
    obtain ⟨as, put₁, rfl, has, hrest⟩ := Dispatcher.traffic_pump_succ h
    rcases hrest with ⟨hqueue, rfl, rfl, rfl⟩ | ⟨signal, rest, hqueue, hrest⟩
    · refine ⟨as ++ [], [], [], d, [], by simp, arrivals has ?_, .finished (.inr rfl)⟩
      rw [hqueue]
      exact .nil d []
    rcases hrest with ⟨rfl, hcrash⟩ |
      ⟨report, next, put₂, put₃, queue₁, result₁, rfl, hdispatch, hpump, rfl⟩
    · refine ⟨as ++ [], put₁, [], d, signal :: rest, by simp, arrivals has ?_, .crashed hcrash⟩
      rw [hqueue]
      exact .nil d _
    · obtain ⟨put₄, put₅, rounds, d₁, queue₂, rfl, hrounds, hending⟩ := ih hpump
      let r : Round := ⟨d, signal, report, next, put₂⟩
      refine ⟨as ++ (r.put ++ put₄), put₅, r :: rounds, d₁, queue₂, ?_, arrivals has ?_,
        hending.cons r⟩
      · simp only [List.append_assoc, r]
      · rw [hqueue]
        exact .round (r := r) hdispatch hrounds

end Foreman.ControlPlane
