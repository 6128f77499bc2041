import Foreman.Machine
import Foreman.Sql.Row

/-!
# Statements

Everything that is ever asked of a database. A statement goes to the server as its text and a list of
values; what stands for the text here is its **kind**, the verb and the table. The values that hold for a
row are given with their columns, so that a statement says which record it writes.
-/

namespace Foreman.Sql

open Time

/-- One statement. -/
inductive Statement where
  /-- Creates the tables. -/
  | createSchema
  /-- Inserts or replaces a record; the row comes back. -/
  | upsertTask (task : Task)
  | selectTask (id : String)
  | selectTasks
  | selectRunnable (now : Instant) (limit : Nat)
  /-- Takes the lease of a task whose lease is not in force. -/
  | leaseTask (id worker : String) (until_ now : Instant)
  | unleaseTask (id worker : String)
  | rescheduleTask (id worker : String) (nextRun : Option Instant) (status : Status)
  | selectCheckpoint (id : String)
  /-- Writes the first version of a checkpoint, if there is none; the version comes back. -/
  | insertCheckpoint (id : String) (state taskState : Payload)
  /-- Writes the next version over the expected one; the version comes back. -/
  | updateCheckpoint (id : String) (state taskState : Payload) (expected : Int)
  | selectVersion (id : String)
  | insertEvent (event : Event)
  | selectEventsSince (since : Instant)
  | selectLatestEvent (task type : String)
  | selectStates
  | selectTransitions
deriving DecidableEq

namespace Statement

/-- The verb of a statement and its table. -/
def kind : Statement → String
  | createSchema => "MIGRATE"
  | upsertTask _ => "INSERT pdca_tasks"
  | selectTask _ | selectTasks | selectRunnable .. => "SELECT pdca_tasks"
  | leaseTask .. | unleaseTask .. | rescheduleTask .. => "UPDATE pdca_tasks"
  | selectCheckpoint _ | selectVersion _ => "SELECT pdca_checkpoints"
  | insertCheckpoint .. => "INSERT pdca_checkpoints"
  | updateCheckpoint .. => "UPDATE pdca_checkpoints"
  | insertEvent _ => "INSERT pdca_events"
  | selectEventsSince _ | selectLatestEvent .. => "SELECT pdca_events"
  | selectStates => "SELECT states"
  | selectTransitions => "SELECT transitions"

/-- The values of a statement in order, with the columns that they are compared with or written to. A
limit goes as an integer of 64 bits with sign. -/
def columns : Statement → Row
  | createSchema | selectTasks | selectStates | selectTransitions => []
  | upsertTask t => t.toRow
  | selectTask id | selectCheckpoint id | selectVersion id => [("task_id", .text id)]
  | selectRunnable now limit =>
    [("next_run_at", .ofInstant now), ("limit", .int (Machine.wrap limit))]
  | leaseTask id worker until_ now =>
    [("task_id", .text id), ("worker_id", .text worker), ("lease_until", .ofInstant until_),
     ("updated_at", .ofInstant now)]
  | unleaseTask id worker => [("task_id", .text id), ("worker_id", .text worker)]
  | rescheduleTask id worker nextRun status =>
    [("task_id", .text id), ("worker_id", .text worker), ("next_run_at", .orNull .ofInstant nextRun),
     ("status", .text status.name)]
  | insertCheckpoint id state taskState =>
    [("task_id", .text id), ("state", .json (.obj state)), ("task_state", .json (.obj taskState))]
  | updateCheckpoint id state taskState expected =>
    [("task_id", .text id), ("state", .json (.obj state)), ("task_state", .json (.obj taskState)),
     ("version", .int expected)]
  | insertEvent e => e.toRow
  | selectEventsSince since => [("created_at", .ofInstant since)]
  | selectLatestEvent task type => [("task_id", .text task), ("event_type", .text type)]

/-- The values of a statement in order. -/
def parameters (s : Statement) : List Datum :=
  s.columns.map (·.2)

end Statement

end Foreman.Sql
