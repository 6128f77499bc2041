import Foreman.Json.Fields
import Foreman.Vocabulary

/-!
# Definitions of the control plane

The control plane is a state machine. Its definition, as people provision it, is a list of states and a
list of transitions; nothing in it is checked yet. `Foreman.ControlPlane.Table` is what a definition
becomes when it is.
-/

namespace Foreman.ControlPlane

/-- A state as defined. Without an identifier it gets its position, counted from one; without a name it
is called by its key. -/
structure StateDefinition where
  id : Option Int := none
  key : String
  name : String := ""
  enabled : Bool := true
deriving DecidableEq, Repr

/-- A transition as defined: in this state, on this signal. It may run an action, and it may move to
another state. -/
structure Transition where
  state : String
  signal : String
  action : Option String := none
  next : Option String := none
deriving DecidableEq, Repr

/-- A state machine as defined. -/
structure Definition where
  initial : String
  states : List StateDefinition
  transitions : List Transition := []
deriving DecidableEq, Repr

/-! ### Record form -/

/-- A number, or null. -/
def optionalInt : Option Int → Json
  | some n => .int n
  | none => .null

namespace StateDefinition

/-- The record as a JSON object. -/
def toJson (s : StateDefinition) : Json :=
  .record
    [("id", optionalInt s.id), ("key", .str s.key), ("name", .str s.name), ("enabled", .bool s.enabled)]

/-- Reads a record. -/
def ofJson? (v : Json) : Option StateDefinition := do
  let f ← v.fields? ["id", "key", "name", "enabled"]
  some
    { id := ← f.optional "id" Json.signed?
      key := ← f.required "key" Json.text?
      name := ← f.defaulted "name" Json.text? ""
      enabled := ← f.defaulted "enabled" Json.bool? true }

end StateDefinition

namespace Transition

/-- The record as a JSON object. -/
def toJson (t : Transition) : Json :=
  .record
    [("state_key", .str t.state), ("signal_key", .str t.signal), ("action_key", .ofText? t.action),
     ("next_state_key", .ofText? t.next)]

/-- Reads a record. -/
def ofJson? (v : Json) : Option Transition := do
  let f ← v.fields? ["state_key", "signal_key", "action_key", "next_state_key"]
  some
    { state := ← f.required "state_key" Json.text?
      signal := ← f.required "signal_key" Json.text?
      action := ← f.optional "action_key" Json.text?
      next := ← f.optional "next_state_key" Json.text? }

end Transition

namespace Definition

/-- The record as a JSON object. -/
def toJson (d : Definition) : Json :=
  .record
    [("initial_state", .str d.initial), ("states", .arr (d.states.map StateDefinition.toJson)),
     ("transitions", .arr (d.transitions.map Transition.toJson))]

/-- Reads a record. -/
def ofJson? (v : Json) : Option Definition := do
  let f ← v.fields? ["initial_state", "states", "transitions"]
  some
    { initial := ← f.required "initial_state" Json.text?
      states := ← f.required "states" (Json.listOf? StateDefinition.ofJson?)
      transitions := ← f.defaulted "transitions" (Json.listOf? Transition.ofJson?) [] }

end Definition

/-! ### The built-in control plane -/

namespace Builtin

/-- Nothing is going on. -/
def idle : String := "idle"

/-- A slice has been handed out. -/
def working : String := "working"

/-- The last slice could not be handed out. -/
def degraded : String := "degraded"

/-- The action that hands a slice to whoever executes it. -/
def runSlice : String := "run_slice"

/-- The control plane used when none is provisioned: every state hands requested slices out; a failed
action degrades it until the next success. -/
def definition : Definition where
  initial := idle
  states :=
    [{ key := idle, name := "Idle" }, { key := working, name := "Working" },
     { key := degraded, name := "Degraded" }]
  transitions :=
    [⟨idle, SignalType.sliceRequested, some runSlice, some working⟩,
     ⟨idle, SignalType.actionFailed, none, some degraded⟩,
     ⟨working, SignalType.sliceRequested, some runSlice, some working⟩,
     ⟨working, SignalType.actionSucceeded, none, some idle⟩,
     ⟨working, SignalType.actionFailed, none, some degraded⟩,
     ⟨degraded, SignalType.sliceRequested, some runSlice, some working⟩,
     ⟨degraded, SignalType.actionSucceeded, none, some idle⟩]

end Builtin

end Foreman.ControlPlane
