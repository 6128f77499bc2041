import Foreman.Signal
import Foreman.Vocabulary

/-!
# Slice requests

What a collaborator reads out of the signal that asks for a slice.
-/

namespace Foreman

/-- A request to execute one slice of a task. -/
structure SliceRequest where
  task : String
  owner : String
  conversation : String
  session : String
  correlation : String
deriving DecidableEq, Repr

namespace SliceRequest

/-- Reads a request. Only the task must be named; a payload without a correlation id leaves that of
the signal. -/
def ofSignal? (s : Signal) : Option SliceRequest :=
  if s.type = SignalType.sliceRequested then
    (s.text? "task_id").map fun task ↦
      { task := task
        owner := (s.text? "owner_id").getD ""
        conversation := (s.text? "conversation_key").getD ""
        session := (s.text? "session_id").getD ""
        correlation := (s.text? "correlation_id").getD s.correlation }
  else none

/-- The request as a JSON object. -/
def toJson (r : SliceRequest) : Json :=
  .record
    [("task_id", .str r.task), ("owner_id", .str r.owner),
     ("conversation_key", .str r.conversation), ("session_id", .str r.session),
     ("correlation_id", .str r.correlation)]

end SliceRequest

end Foreman
