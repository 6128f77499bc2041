import Foreman.Bus
import Foreman.Checkpoint.Update
import Foreman.ControlPlane.Table
import Foreman.Slice.Record
import Foreman.Slice.Request

/-!
# Actions

An action is a side effect that the state machine names by a key. Its **handler** gets the signal and
the state in which it arrived, and answers a JSON value or a failure; what it does in between is work
like any other. A registry resolves keys to handlers.

The stock handlers below cover the common cases: acknowledging a request when nobody executes slices,
recording the outcome of a slice on the spot, relaying signals, and answering or failing at once.
-/

namespace Foreman.ControlPlane

open Store

/-- A side effect. -/
abbrev Handler := Signal → State → Work Failure Json

/-- Handlers by key. -/
abbrev Registry := Register Handler

namespace Handler

/-- Answers what it was given: the type of the signal and the state. -/
def echo : Handler := fun signal state ↦
  pure (.record [("type", .str signal.type), ("state", .str state.key), ("state_id", .int state.id)])

/-- Always answers the same value. -/
def constant (v : Json) : Handler := fun _ _ ↦
  pure v

/-- Always fails. -/
def failing (f : Failure) : Handler := fun _ _ ↦
  Plan.fail f

/-- Acknowledges a request for a slice without executing it. -/
def acknowledge : Handler := fun signal _ ↦
  match SliceRequest.ofSignal? signal with
  | some request => pure (.record [("acknowledged", request.toJson)])
  | none => Plan.fail (.because s!"not a slice request: {signal.type}")

/-- Counts a slice in the checkpoint of its task and keeps the correlation id of the last one. -/
def countSlice (correlation : String) : Checkpoint.Edit :=
  { set := [("last_slice", .str correlation)], increment := some "slices" }

/-- Executes a request for a slice on the spot: its checkpoint is updated and its outcome recorded. -/
def completing (outcome : SliceOutcome) : Handler := fun signal _ ↦
  match SliceRequest.ofSignal? signal with
  | none => Plan.fail (.because "not a slice request")
  | some request => do
    let version ← (Checkpoint.update request.task 3 (countSlice request.correlation).apply).mapError
      Failure.ofStore
    let _ ← (outcome.record request.task (some request.correlation)).mapError Failure.ofStore
    pure (.record [("task_id", .str request.task), ("checkpoint_version", .int version)])

/-- Emits signals one after the other under the correlation id given; answers their number. -/
def emitEach (bus : Bus) (correlation : String) : List Json → Work Failure Nat
  | [] => pure 0
  | v :: rest => do
    let birth ← Work.birth
    match Signal.ofJson? birth v with
    | none => Plan.fail (.because "invalid signal")
    | some signal =>
      (bus.emit (signal.withCorrelation correlation)).mapError BusError.toFailure
      let n ← emitEach bus correlation rest
      pure (n + 1)

/-- Emits the same signals every time it is run. -/
def relaying (bus : Bus) (signals : List Json) : Handler := fun signal _ ↦ do
  let n ← emitEach bus signal.correlation signals
  pure (.int n)

end Handler

end Foreman.ControlPlane
