import Foreman.Checkpoint
import Foreman.Event
import Foreman.Task.Basic

/-!
# What a store is asked

A store keeps the records of tasks, their leases, checkpoints and the event log. It is used through
twelve requests, each of which it carries out at once and as a whole; nothing else coordinates the
runners that share it. `Request.Value` is what each of them is answered with when it succeeds.
-/

namespace Foreman.Store

open Time

/-- One request to a store. -/
inductive Request where
  /-- Stores a record under its own identifier and answers it as stored. -/
  | upsert (task : Task)
  | getTask (id : String)
  | listTasks
  /-- The best runnable tasks at `now`. -/
  | listRunnable (now : Instant) (limit : Nat)
  /-- Takes the lease of a task unless one is in force, and says whether it did. -/
  | acquireLease (id worker : String) (seconds : Int) (now : Instant)
  /-- Gives the lease back, if this worker holds it. -/
  | releaseLease (id worker : String)
  /-- Changes due time and status while this worker holds the lease and the task is schedulable. -/
  | reschedule (id worker : String) (nextRun : Option Instant) (status : Status)
  | getCheckpoint (id : String)
  /-- Writes a checkpoint if the stored version is the expected one. -/
  | saveCheckpoint (id : String) (state taskState : Payload) (expected : Int)
  | appendEvent (task : Option String) (type : String) (payload : Payload)
      (correlation : Option String)
  | eventsSince (since : Instant)
  /-- The last event of a type that names a task. -/
  | latestEvent (task type : String)
deriving DecidableEq

namespace Request

/-- What a request is answered with. -/
abbrev Value : Request → Type
  | upsert _ => Task
  | getTask _ => Option Task
  | listTasks => List Task
  | listRunnable .. => List Task
  | acquireLease .. => Bool
  | releaseLease .. => Unit
  | reschedule .. => Bool
  | getCheckpoint _ => Option Checkpoint
  | saveCheckpoint .. => CheckpointWrite
  | appendEvent .. => Event
  | eventsSince _ => List Event
  | latestEvent .. => Option Event

/-- The name of a request. -/
def name : Request → String
  | upsert _ => "upsert"
  | getTask _ => "get_task"
  | listTasks => "list_tasks"
  | listRunnable .. => "list_runnable"
  | acquireLease .. => "acquire_lease"
  | releaseLease .. => "release_lease"
  | reschedule .. => "reschedule"
  | getCheckpoint _ => "get_checkpoint"
  | saveCheckpoint .. => "save_checkpoint"
  | appendEvent .. => "append_event"
  | eventsSince _ => "list_events_since"
  | latestEvent .. => "latest_event"

end Request

/-! ### Errors -/

/-- Why a store did not do what it was asked. -/
inductive StoreError where
  /-- A statement failed, or a row did not hold what it must. -/
  | database
  /-- A computation crashed while it held the table. -/
  | lockPoisoned
  | taskNotFound (id : String)
  /-- Every attempt to write a checkpoint met a version that another writer had stored. -/
  | checkpointConflict (id : String) (expected current : Int)
deriving DecidableEq, Repr

namespace StoreError

/-- The wording of an error. -/
def message : StoreError → String
  | database => "database error"
  | lockPoisoned => "store lock poisoned"
  | taskNotFound id => s!"task not found: {id}"
  | checkpointConflict id expected current =>
    s!"checkpoint conflict for task {id}: expected version {expected}, stored {current}"

end StoreError

end Foreman.Store
