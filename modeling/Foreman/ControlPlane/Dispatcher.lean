import Foreman.ControlPlane.Action

/-!
# The dispatcher

The dispatcher holds the current state and routes one signal at a time through the table. A route without
an action only moves. A route with an action runs its handler first: if that succeeds the dispatcher
moves, and if it fails the dispatcher stays where it is; either way the outcome goes back to the bus as
a signal of its own.

**The depth breaker.** An outcome is one deeper than the signal that led to it, and outcomes deeper than
`maxDepth` are not emitted, so no cascade of outcomes goes on for ever.
-/

namespace Foreman.ControlPlane

/-- Settings of a dispatcher. -/
structure DispatcherConfig where
  /-- How long to wait for a signal before the housekeepers run. -/
  tickIntervalMs : Nat := 1000
  maxDepth : Nat := 8
  /-- Replaces the initial state of the table. -/
  initial : Option String := none
deriving DecidableEq, Repr

/-- Maintenance between signals. It has no say in the current state. -/
structure Housekeeper where
  name : String
  work : Work Failure Unit

/-- What became of one signal. -/
inductive DispatchReport where
  /-- The signal leads nowhere from here. -/
  | unmatched
  | transitioned (origin target : String)
  | succeeded (action origin target : String) (emitted : Bool)
  | failed (action state error : String) (emitted : Bool)
deriving DecidableEq, Repr

/-- A dispatcher in some state. -/
structure Dispatcher where
  table : Table
  registry : Registry
  bus : Bus
  config : DispatcherConfig
  current : State
  housekeepers : List Housekeeper := []
  ticks : Nat := 0

namespace DispatcherConfig

/-- The names of the settings, in the order of the record. -/
def fieldNames : List String := ["tick_interval_ms", "max_depth", "initial_state"]

/-- The settings as a JSON object. -/
def toJson (c : DispatcherConfig) : Json :=
  .record
    [("tick_interval_ms", .int c.tickIntervalMs), ("max_depth", .int c.maxDepth),
     ("initial_state", .ofText? c.initial)]

/-- Reads settings; each that is missing is the default. -/
def ofJson? (v : Json) : Option DispatcherConfig := do
  let d : DispatcherConfig := {}
  let f ← v.fields? fieldNames
  some
    { tickIntervalMs := ← f.defaulted "tick_interval_ms" Json.unsigned? d.tickIntervalMs
      maxDepth := ← f.defaulted "max_depth" Json.unsigned? d.maxDepth
      initial := ← f.optional "initial_state" Json.text? }

end DispatcherConfig

namespace Dispatcher

/-- A dispatcher in the initial state of its table, or in the one that the settings name. -/
def start? (table : Table) (registry : Registry) (bus : Bus) (config : DispatcherConfig)
    (housekeepers : List Housekeeper) : Except TableError Dispatcher :=
  let make (current : State) : Dispatcher :=
    { table, registry, bus, config, current, housekeepers }
  match config.initial with
  | none => .ok (make table.initial)
  | some key =>
    match table.state? key with
    | some s => .ok (make s)
    | none => .error (.unknownInitialState key)

/-! ### Outcomes -/

/-- The depth of an outcome, within an unsigned word. -/
def outcomeDepth (trigger : Signal) : Nat :=
  min (trigger.depth + 1) (Machine.limit64 - 1)

/-- The payload of an outcome: what happened, how deep, and on which signal; a task that the trigger
names is named again. -/
def outcomePayload (trigger : Signal) (fields : Payload) : Payload :=
  let marked := Keyed.merge fields
    [("depth", .int (outcomeDepth trigger)), ("trigger_signal_id", .str trigger.id.render),
     ("trigger_type", .str trigger.type)]
  match Keyed.find? "task_id" trigger.payload with
  | some task => Keyed.insert "task_id" task marked
  | none => marked

/-- The signal that reports an outcome. -/
def outcomeSignal (birth : Signal.Birth) (type : String) (trigger : Signal) (fields : Payload) :
    Signal :=
  (Signal.new birth type
    |>.withPayload (outcomePayload trigger fields)
    |>.withSource Source.dispatcher
    |>.withCorrelation trigger.correlation)

/-- Emits the outcome of an action unless it is too deep; says whether it is on the bus. -/
def emitOutcome (d : Dispatcher) (type : String) (trigger : Signal) (fields : Payload) :
    Work Empty Bool := do
  if d.config.maxDepth < outcomeDepth trigger then pure false
  else
    let birth ← Work.birth
    match ← (d.bus.emit (outcomeSignal birth type trigger fields)).attempt with
    | .ok () => pure true
    | .error _ => pure false

/-! ### Dispatch -/

/-- Runs the handler of an action; an action without a handler fails. -/
def runAction (d : Dispatcher) (action : String) (signal : Signal) :
    Work Empty (Except Failure Json) :=
  match d.registry.find? action with
  | some handler => (handler signal d.current).attempt
  | none => pure (.error (.because s!"no handler registered for action {action}"))

/-- Runs an action, and moves if it succeeds. -/
def dispatchAction (d : Dispatcher) (signal : Signal) (action : String) (next : Option String) :
    Work Empty (DispatchReport × Dispatcher) := do
  let origin := d.current.key
  match ← d.runAction action signal with
  | .ok output =>
    let moved := { d with current := d.table.advance d.current next }
    let target := moved.current.key
    let emitted ← moved.emitOutcome SignalType.actionSucceeded signal <| Keyed.ofList
      [("action_key", .str action), ("state", .str origin), ("next_state", .str target),
       ("output", output)]
    pure (.succeeded action origin target emitted, moved)
  | .error failure =>
    let error := failure.render
    let emitted ← d.emitOutcome SignalType.actionFailed signal <| Keyed.ofList
      [("action_key", .str action), ("state", .str origin), ("error", .str error)]
    pure (.failed action origin error emitted, d)

/-- **Routes one signal**: what became of it, and the dispatcher behind it. -/
def dispatch (d : Dispatcher) (signal : Signal) : Work Empty (DispatchReport × Dispatcher) :=
  match d.table.lookup d.current.id signal.type with
  | none => pure (.unmatched, d)
  | some ⟨none, next⟩ =>
    let moved := { d with current := d.table.advance d.current next }
    pure (.transitioned d.current.key moved.current.key, moved)
  | some ⟨some action, next⟩ => d.dispatchAction signal action next

/-- Runs housekeepers in order; one that fails does not keep the others from running. -/
def keepHouse : List Housekeeper → Work Empty Unit
  | [] => pure ()
  | keeper :: rest => do
    let _ ← keeper.work.attempt
    keepHouse rest

/-- One round of housekeeping. -/
def housekeep (d : Dispatcher) : Work Empty Dispatcher := do
  keepHouse d.housekeepers
  pure { d with ticks := d.ticks + 1 }

end Dispatcher

/-- A report as a JSON object. -/
def DispatchReport.toJson : DispatchReport → Json
  | unmatched => .record [("report", .str "unmatched")]
  | transitioned origin target =>
    .record [("report", .str "transitioned"), ("from", .str origin), ("to", .str target)]
  | succeeded action origin target emitted =>
    .record [("report", .str "succeeded"), ("action_key", .str action), ("from", .str origin),
      ("to", .str target), ("emitted", .bool emitted)]
  | failed action state error emitted =>
    .record [("report", .str "failed"), ("action_key", .str action), ("state", .str state),
      ("error", .str error), ("emitted", .bool emitted)]

end Foreman.ControlPlane
