import Foreman.Json.Fields
import Foreman.Time.Json

/-!
# Checkpoints

A checkpoint keeps the work in progress of a task: two payloads under a version that counts the writes.
A write names the version it expects to replace; version zero stands for no checkpoint.
-/

namespace Foreman

open Time

/-- The work in progress of a task. -/
structure Checkpoint where
  task : String
  state : Payload
  taskState : Payload
  version : Int
  createdAt : Instant
  updatedAt : Instant
deriving DecidableEq

/-- What became of a guarded write. -/
inductive CheckpointWrite where
  | saved (version : Int)
  /-- Another version than the expected one is stored; zero when there is none. -/
  | conflict (current : Int)
deriving DecidableEq, Repr

namespace Checkpoint

/-- The record as a JSON object. -/
def toJson (c : Checkpoint) : Json :=
  .record
    [("task_id", .str c.task), ("state", .obj c.state), ("task_state", .obj c.taskState),
     ("version", .int c.version), ("created_at", c.createdAt.toJson),
     ("updated_at", c.updatedAt.toJson)]

end Checkpoint

namespace CheckpointWrite

/-- The write happened. -/
def isSaved : CheckpointWrite → Bool
  | saved _ => true
  | conflict _ => false

/-- The result as a JSON object. -/
def toJson : CheckpointWrite → Json
  | saved v => .record [("result", .str "saved"), ("version", .int v)]
  | conflict v => .record [("result", .str "conflict"), ("current_version", .int v)]

end CheckpointWrite

end Foreman
