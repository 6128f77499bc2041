import Foreman.ControlPlane.Loop
import Foreman.Proofs.Traffic

/-!
# What a dispatch puts on the bus

A dispatch that runs an action has two parts. The handler comes to a result, and in the meantime it
may do anything; what follows is fixed by this result (`Dispatcher.conclude`) and puts one signal on
the bus, unless the depth breaker withholds it or nobody receives (`Emission`).

The signal is as deep as the breaker takes it to be: its depth is written into the payload last but
for names that do not collide with it, and reading the payload gives the number back
(`depth_outcomeSignal`).
-/

namespace Foreman.ControlPlane.Dispatcher

/-! ### The signal that reports an outcome -/

section Signals

variable {birth : Signal.Birth} {type : String} {trigger : Signal} {fields : Payload}

@[simp] theorem type_outcomeSignal : (outcomeSignal birth type trigger fields).type = type := by
  simp only [outcomeSignal, Signal.withCorrelation]
  split <;> rfl

theorem durable_outcomeSignal : (outcomeSignal birth type trigger fields).durable = false := by
  simp only [outcomeSignal, Signal.withCorrelation]
  split <;> rfl

@[simp] theorem payload_outcomeSignal :
    (outcomeSignal birth type trigger fields).payload = outcomePayload trigger fields := by
  simp only [outcomeSignal, Signal.withCorrelation]
  split <;> rfl

/-- An outcome goes under the correlation of its trigger, if that has one. -/
theorem correlation_outcomeSignal (h : trigger.correlation ≠ "") :
    (outcomeSignal birth type trigger fields).correlation = trigger.correlation :=
  Signal.correlation_withCorrelation h

theorem find?_depth_outcomePayload :
    Keyed.find? "depth" (outcomePayload trigger fields) = some (.int (outcomeDepth trigger)) := by
  have hmarked : Keyed.find? "depth" (Keyed.merge fields
      [("depth", .int (outcomeDepth trigger)), ("trigger_signal_id", .str trigger.id.render),
       ("trigger_type", .str trigger.type)]) = some (.int (outcomeDepth trigger)) := by
    simp only [Keyed.merge, List.foldl_cons, List.foldl_nil]
    rw [Keyed.find?_insert_of_ne (by decide), Keyed.find?_insert_of_ne (by decide),
      Keyed.find?_insert_self]
  simp only [outcomePayload]
  split
  · rw [Keyed.find?_insert_of_ne (by decide), hmarked]
  · exact hmarked

/-- What happened is in the payload under the names that mean nothing else there. -/
theorem find?_outcomePayload {key : String}
    (hkey : key ∉ ["depth", "trigger_signal_id", "trigger_type", "task_id"]) :
    Keyed.find? key (outcomePayload trigger fields) = Keyed.find? key fields := by
  simp only [List.mem_cons, List.not_mem_nil, or_false, not_or] at hkey
  obtain ⟨hdepth, hid, htype, htask⟩ := hkey
  have hmarked : Keyed.find? key (Keyed.merge fields
      [("depth", .int (outcomeDepth trigger)), ("trigger_signal_id", .str trigger.id.render),
       ("trigger_type", .str trigger.type)]) = Keyed.find? key fields :=
    Keyed.find?_merge_of_not_mem (by simp [hdepth, hid, htype]) fields
  simp only [outcomePayload]
  split
  · rw [Keyed.find?_insert_of_ne htask, hmarked]
  · exact hmarked

/-- The task that the trigger names is named again. -/
theorem find?_task_outcomePayload {task : Json}
    (h : Keyed.find? "task_id" trigger.payload = some task) :
    Keyed.find? "task_id" (outcomePayload trigger fields) = some task := by
  simp only [outcomePayload, h]
  exact Keyed.find?_insert_self ..

/-- **The depth of an outcome**, as it is read from its payload. -/
theorem depth_outcomeSignal :
    (outcomeSignal birth type trigger fields).depth = outcomeDepth trigger := by
  have hlimit : outcomeDepth trigger < Machine.limit64 := by
    have hle : outcomeDepth trigger ≤ Machine.limit64 - 1 := Nat.min_le_right _ _
    unfold Machine.limit64 at hle ⊢
    omega
  have hread : (Json.int (outcomeDepth trigger)).unsigned? = some (outcomeDepth trigger) := by
    simp [Json.unsigned?, hlimit]
  rw [Signal.depth, payload_outcomeSignal, find?_depth_outcomePayload, Option.bind_some, hread,
    Option.getD_some]

/-- An outcome is one deeper than its trigger, unless that is as deep as can be written. -/
theorem outcomeDepth_eq {maxDepth : Nat} (hmax : maxDepth < Machine.limit64 - 1)
    (h : outcomeDepth trigger ≤ maxDepth) : outcomeDepth trigger = trigger.depth + 1 := by
  unfold outcomeDepth at h ⊢
  omega

theorem outcomeDepth_le (trigger : Signal) : outcomeDepth trigger ≤ trigger.depth + 1 :=
  Nat.min_le_left _ _

end Signals

/-! ### Emission -/

/-- What is put on the bus for an outcome, and what the dispatch reports of it. -/
inductive Emission (maxDepth : Nat) (receiving : Bool) (type : String) (trigger : Signal)
    (fields : Payload) : List Signal → Bool → Prop where
  | withheld (h : maxDepth < outcomeDepth trigger ∨ receiving = false) :
    Emission maxDepth receiving type trigger fields [] false
  | sent (birth : Signal.Birth) (hdepth : outcomeDepth trigger ≤ maxDepth)
      (hreceiving : receiving = true) :
    Emission maxDepth receiving type trigger fields [outcomeSignal birth type trigger fields] true

/-- An outcome that is not too deep is sent on an open bus. -/
theorem Emission.eq_sent {maxDepth : Nat} {type : String} {trigger : Signal} {fields : Payload}
    {sent : List Signal} {emitted : Bool} (hdepth : outcomeDepth trigger ≤ maxDepth)
    (h : Emission maxDepth true type trigger fields sent emitted) :
    ∃ s, sent = [s] ∧ s.type = type := by
  cases h with
  | withheld h =>
    rcases h with hdeep | hclosed
    · exact absurd hdepth (Nat.not_le_of_lt hdeep)
    · cases hclosed
  | sent birth _ _ => exact ⟨_, rfl, type_outcomeSignal⟩

/-- A signal that is not durable goes straight to the bus. -/
theorem emit_eq_of_not_durable (bus : Bus) {s : Signal} (h : s.durable = false) :
    bus.emit s = .ask .busOpen fun isOpen ↦
      if isOpen then
        .ask (.enqueue s) fun received ↦ if received then .done () else Plan.fail .closed
      else Plan.fail .closed := by
  have hrecord : bus.record s = .done () := by simp [Bus.record, h]
  simp only [Bus.emit, hrecord]
  rfl

/-- The questions of an emission. An outcome is not durable, so the log is not asked. -/
theorem emitOutcome_eq (d : Dispatcher) (type : String) (trigger : Signal) (fields : Payload) :
    d.emitOutcome type trigger fields =
      if d.config.maxDepth < outcomeDepth trigger then .done false
      else .ask .freshId fun id ↦ .ask .freshId fun correlation ↦ .ask .clock fun now ↦
        .ask .busOpen fun isOpen ↦
          if isOpen then
            .ask (.enqueue (outcomeSignal ⟨id, correlation, now⟩ type trigger fields)) .done
          else .done false := by
  simp only [emitOutcome, emit_eq_of_not_durable d.bus durable_outcomeSignal]
  split
  · rfl
  · refine congrArg (Plan.ask Ask.freshId) (funext fun id ↦ ?_)
    refine congrArg (Plan.ask Ask.freshId) (funext fun correlation ↦ ?_)
    refine congrArg (Plan.ask Ask.clock) (funext fun now ↦ ?_)
    refine congrArg (Plan.ask Ask.busOpen) (funext fun isOpen ↦ ?_)
    cases isOpen with
    | false => rfl
    | true =>
      refine congrArg (Plan.ask (Ask.enqueue _)) (funext fun received ↦ ?_)
      cases received <;> rfl

/-- An emission takes nothing off the bus. -/
theorem emitOutcome_asks (d : Dispatcher) (type : String) (signal : Signal) (fields : Payload) :
    (d.emitOutcome type signal fields).Asks (· ≠ .receive) := by
  rw [emitOutcome_eq]
  split
  · trivial
  · refine ⟨nofun, fun _ ↦ ⟨nofun, fun _ ↦ ⟨nofun, fun _ ↦ ⟨nofun, fun isOpen ↦ ?_⟩⟩⟩⟩
    cases isOpen with
    | false => trivial
    | true => exact ⟨nofun, fun _ ↦ trivial⟩

variable {d : Dispatcher} {arrives : Signal → Prop} {receiving : Bool} {signal : Signal}
  {queue put queue' : List Signal}

/-- **The traffic of an emission**: whatever others put on the bus before, and then the outcome. -/
theorem traffic_emitOutcome {type : String} {fields : Payload} {result : Except (Halt Empty) Bool}
    (h : Traffic arrives receiving (d.emitOutcome type signal fields) queue put result queue') :
    ∃ arrivals sent emitted, (∀ s ∈ arrivals, arrives s) ∧ put = arrivals ++ sent ∧
      result = .ok emitted ∧
      Emission d.config.maxDepth receiving type signal fields sent emitted := by
  rw [emitOutcome_eq] at h
  split at h
  · next hdeep =>
    obtain ⟨rfl, rfl, -⟩ := h.of_done
    exact ⟨[], [], false, List.forall_mem_nil _, rfl, rfl, .withheld (.inl hdeep)⟩
  · next hdepth =>
    obtain ⟨as₁, put, id, rfl, h₁, -, h⟩ := h.of_ask
    obtain ⟨as₂, put, correlation, rfl, h₂, -, h⟩ := h.of_ask
    obtain ⟨as₃, put, now, rfl, h₃, -, h⟩ := h.of_ask
    obtain ⟨as₄, put, isOpen, rfl, h₄, rfl, h⟩ := h.of_ask
    cases isOpen with
    | false =>
      obtain ⟨rfl, rfl, -⟩ := h.of_done
      refine ⟨as₁ ++ (as₂ ++ (as₃ ++ as₄)), [], false, ?_, by simp [Ask.puts], rfl,
        .withheld (.inr rfl)⟩
      simp only [List.forall_mem_append]
      exact ⟨h₁, h₂, h₃, h₄⟩
    | true =>
      obtain ⟨as₅, put, received, rfl, h₅, rfl, h⟩ := h.of_ask
      obtain ⟨rfl, rfl, -⟩ := h.of_done
      refine ⟨as₁ ++ (as₂ ++ (as₃ ++ (as₄ ++ as₅))), _, true, ?_, by simp [Ask.puts], rfl,
        .sent ⟨id, correlation, now⟩ (Nat.le_of_not_lt hdepth) rfl⟩
      simp only [List.forall_mem_append]
      exact ⟨h₁, h₂, h₃, h₄, h₅⟩

/-- The traffic of an emission and of a report that only says whether it was made. -/
theorem traffic_report {type : String} {fields : Payload} {report : Bool → DispatchReport}
    {result : Except (Halt Empty) (DispatchReport × Dispatcher)}
    (h : Traffic arrives receiving (d.emitOutcome type signal fields >>= fun emitted ↦
      .done (report emitted, d)) queue put result queue') :
    ∃ arrivals sent emitted, (∀ s ∈ arrivals, arrives s) ∧ put = arrivals ++ sent ∧
      result = .ok (report emitted, d) ∧
      Emission d.config.maxDepth receiving type signal fields sent emitted := by
  rcases h.of_bind with ⟨e, -, hemit⟩ | ⟨emitted, put₁, put₂, queue₁, rfl, hemit, hreport⟩
  · obtain ⟨_, _, _, -, -, hresult, -⟩ := traffic_emitOutcome hemit
    cases hresult
  · obtain ⟨rfl, rfl, -⟩ := hreport.of_done
    obtain ⟨arrivals, sent, emitted', harrivals, rfl, hresult, hemission⟩ :=
      traffic_emitOutcome hemit
    obtain rfl := Except.ok.inj hresult
    exact ⟨arrivals, sent, emitted, harrivals, List.append_nil _, rfl, hemission⟩

/-! ### The two parts of a dispatch -/

/-- What follows when the handler of an action has come to a result. -/
def conclude (d : Dispatcher) (signal : Signal) (action : String) (next : Option String) :
    Except Failure Json → Work Empty (DispatchReport × Dispatcher)
  | .ok output => do
    let moved := { d with current := d.table.advance d.current next }
    let emitted ← moved.emitOutcome SignalType.actionSucceeded signal <| Keyed.ofList
      [("action_key", .str action), ("state", .str d.current.key),
       ("next_state", .str moved.current.key), ("output", output)]
    pure (.succeeded action d.current.key moved.current.key emitted, moved)
  | .error failure => do
    let emitted ← d.emitOutcome SignalType.actionFailed signal <| Keyed.ofList
      [("action_key", .str action), ("state", .str d.current.key), ("error", .str failure.render)]
    pure (.failed action d.current.key failure.render emitted, d)

/-- **A dispatch that runs an action** runs its handler, once, and goes on with what that came to.
-/
theorem dispatchAction_eq (d : Dispatcher) (signal : Signal) (action : String)
    (next : Option String) :
    d.dispatchAction signal action next =
      d.runAction action signal >>= d.conclude signal action next := by
  refine (Plan.always_true (d.runAction action signal)).bind_congr fun result _ ↦ ?_
  cases result <;> rfl

/-- What follows a result takes nothing off the bus. -/
theorem conclude_asks (d : Dispatcher) (signal : Signal) (action : String) (next : Option String)
    (handled : Except Failure Json) :
    (d.conclude signal action next handled).Asks (· ≠ .receive) := by
  cases handled with
  | ok output => exact (emitOutcome_asks ..).bind fun _ ↦ trivial
  | error failure => exact (emitOutcome_asks ..).bind fun _ ↦ trivial

theorem runAction_asks {P : Ask → Prop} {action : String}
    (h : ∀ handler, d.registry.find? action = some handler → (handler signal d.current).Asks P) :
    (d.runAction action signal).Asks P := by
  simp only [runAction]
  split
  · next handler hfind => exact (h handler hfind).attempt
  · trivial

/-- **A dispatch** asks nothing of anyone, or runs an action. -/
theorem dispatch_cases (d : Dispatcher) (signal : Signal) :
    (∃ report here, d.dispatch signal = .done (report, { d with current := here })) ∨
      ∃ action next, d.dispatch signal =
        d.runAction action signal >>= d.conclude signal action next := by
  simp only [dispatch]
  split
  · exact .inl ⟨_, d.current, rfl⟩
  · exact .inl ⟨_, _, rfl⟩
  · next action next _ => exact .inr ⟨action, next, dispatchAction_eq ..⟩

/-- **A dispatch changes nothing of the dispatcher but its state.** -/
theorem dispatch_always (d : Dispatcher) (signal : Signal) :
    (d.dispatch signal).Always fun x ↦ ∃ here, x.2 = { d with current := here } := by
  rcases d.dispatch_cases signal with ⟨report, here, h⟩ | ⟨action, next, h⟩
  · rw [h]
    exact ⟨here, rfl⟩
  · rw [h]
    refine (Plan.always_true _).bind fun result _ ↦ ?_
    cases result with
    | ok output => exact (Plan.always_true _).bind fun _ _ ↦ ⟨_, rfl⟩
    | error failure => exact (Plan.always_true _).bind fun _ _ ↦ ⟨d.current, rfl⟩

/-- The type of the signal that reports a result. -/
def outcomeType : Except Failure Json → String
  | .ok _ => SignalType.actionSucceeded
  | .error _ => SignalType.actionFailed

/-- The dispatcher behind a result: it moves when the action succeeded. -/
def behind (d : Dispatcher) (next : Option String) : Except Failure Json → Dispatcher
  | .ok _ => { d with current := d.table.advance d.current next }
  | .error _ => d

/-- **The traffic of what follows a result**: whatever others put on the bus before, and then the
outcome. -/
theorem traffic_conclude {action : String} {next : Option String} {handled : Except Failure Json}
    {result : Except (Halt Empty) (DispatchReport × Dispatcher)}
    (h : Traffic arrives receiving (d.conclude signal action next handled) queue put result
      queue') :
    ∃ arrivals sent emitted fields report, (∀ s ∈ arrivals, arrives s) ∧ put = arrivals ++ sent ∧
      result = .ok (report, d.behind next handled) ∧
      Emission d.config.maxDepth receiving (outcomeType handled) signal fields sent emitted := by
  cases handled with
  | ok output =>
    obtain ⟨arrivals, sent, emitted, harrivals, hput, hresult, hemission⟩ :=
      traffic_report (d := { d with current := d.table.advance d.current next }) h
    exact ⟨arrivals, sent, emitted, _, _, harrivals, hput, hresult, hemission⟩
  | error failure =>
    obtain ⟨arrivals, sent, emitted, harrivals, hput, hresult, hemission⟩ := traffic_report h
    exact ⟨arrivals, sent, emitted, _, _, harrivals, hput, hresult, hemission⟩

end Foreman.ControlPlane.Dispatcher
