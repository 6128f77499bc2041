import Foreman.Checkpoint
import Foreman.ControlPlane.Definition
import Foreman.Event
import Foreman.Task.Basic

/-!
# Rows

What a database keeps of a record is a row of named values. A row is read column by column: a value that
must be there is refused when it is missing or null, and a column that holds a document reads as a
payload, the empty one if the document is no object. Statuses are read as leniently as everywhere.

A database counts time in microseconds, so an instant loses what is finer (`Datum.ofInstant`).
-/

namespace Foreman.Sql

open Time ControlPlane

/-- A value in a row or a statement. -/
inductive Datum where
  | null
  | bool (b : Bool)
  | int (n : Int)
  | text (s : String)
  | uuid (id : Uuid)
  | time (t : Instant)
  | json (v : Json)
deriving DecidableEq

/-- A row: its values by column. -/
abbrev Row := List (String × Datum)

namespace Datum

/-- An instant as a database keeps it. -/
def ofInstant (t : Instant) : Datum :=
  .time t.cutToMicros

/-- A value or null. -/
def orNull {α : Type} (f : α → Datum) : Option α → Datum
  | some a => f a
  | none => .null

/-- A text. -/
def text? : Datum → Option String
  | .text s => some s
  | _ => none

/-- An integer. -/
def int? : Datum → Option Int
  | .int n => some n
  | _ => none

/-- A truth value. -/
def bool? : Datum → Option Bool
  | .bool b => some b
  | _ => none

/-- An instant. -/
def time? : Datum → Option Instant
  | .time t => some t
  | _ => none

/-- An identifier. -/
def uuid? : Datum → Option Uuid
  | .uuid id => some id
  | _ => none

/-- The payload of a document. -/
def payload? : Datum → Option Payload
  | .json v => some (v.members?.getD [])
  | _ => none

end Datum

namespace Row

/-- The value of a column; a column that is missing is null. -/
def value (row : Row) (column : String) : Datum :=
  ((row.find? fun e ↦ e.1 == column).map (·.2)).getD .null

/-- A value that must be there. -/
def required {α : Type} (row : Row) (column : String) (read : Datum → Option α) : Option α :=
  read (row.value column)

/-- A value that may be null. -/
def optional {α : Type} (row : Row) (column : String) (read : Datum → Option α) :
    Option (Option α) :=
  match row.value column with
  | .null => some none
  | d => (read d).map some

end Row

end Sql

/-! ### Tasks -/

namespace Task

open Sql

/-- The values of a new or changed record, in the order of the columns. The database itself says when the
row was updated. -/
def toRow (t : Task) : Row :=
  [("task_id", .text t.id), ("owner_id", .text t.owner), ("conversation_key", .text t.conversation),
   ("session_id", .text t.session), ("status", .text t.status.name), ("priority", .int t.priority),
   ("next_run_at", .orNull .ofInstant t.nextRun), ("lease_until", .orNull .ofInstant t.leaseUntil),
   ("worker_id", .orNull .text t.worker), ("slice_cycles", .int t.sliceCycles),
   ("max_cycles", .int t.maxCycles), ("max_runtime_seconds", .int t.maxRuntimeSeconds),
   ("token_budget_remaining", .int t.tokenBudget), ("failure_streak", .int t.failureStreak),
   ("last_error", .orNull .text t.lastError), ("metadata", .json (.obj t.metadata)),
   ("created_at", .ofInstant t.createdAt)]

/-- **Reads a row** as the record of a task. -/
def ofRow? (r : Row) : Option Task := do
  some
    { id := ← r.required "task_id" Datum.text?
      owner := ← r.required "owner_id" Datum.text?
      conversation := ← r.required "conversation_key" Datum.text?
      session := ← r.required "session_id" Datum.text?
      status := .ofString (← r.required "status" Datum.text?)
      priority := ← r.required "priority" Datum.int?
      nextRun := ← r.optional "next_run_at" Datum.time?
      leaseUntil := ← r.optional "lease_until" Datum.time?
      worker := ← r.optional "worker_id" Datum.text?
      sliceCycles := ← r.required "slice_cycles" Datum.int?
      maxCycles := ← r.required "max_cycles" Datum.int?
      maxRuntimeSeconds := ← r.required "max_runtime_seconds" Datum.int?
      tokenBudget := ← r.required "token_budget_remaining" Datum.int?
      failureStreak := ← r.required "failure_streak" Datum.int?
      lastError := ← r.optional "last_error" Datum.text?
      metadata := ← r.required "metadata" Datum.payload?
      createdAt := ← r.required "created_at" Datum.time?
      updatedAt := ← r.required "updated_at" Datum.time? }

end Task

/-! ### Checkpoints and events -/

/-- Reads a row as a checkpoint. -/
def Checkpoint.ofRow? (r : Sql.Row) : Option Checkpoint := do
  some
    { task := ← r.required "task_id" Sql.Datum.text?
      state := ← r.required "state" Sql.Datum.payload?
      taskState := ← r.required "task_state" Sql.Datum.payload?
      version := ← r.required "version" Sql.Datum.int?
      createdAt := ← r.required "created_at" Sql.Datum.time?
      updatedAt := ← r.required "updated_at" Sql.Datum.time? }

/-- The values of an event, in the order of the columns. -/
def Event.toRow (e : Event) : Sql.Row :=
  [("event_id", .uuid e.id), ("task_id", .orNull .text e.task), ("event_type", .text e.type),
   ("payload", .json (.obj e.payload)), ("correlation_id", .orNull .text e.correlation),
   ("created_at", .ofInstant e.createdAt)]

/-- Reads a row as an event. -/
def Event.ofRow? (r : Sql.Row) : Option Event := do
  some
    { id := ← r.required "event_id" Sql.Datum.uuid?
      task := ← r.optional "task_id" Sql.Datum.text?
      type := ← r.required "event_type" Sql.Datum.text?
      payload := ← r.required "payload" Sql.Datum.payload?
      correlation := ← r.optional "correlation_id" Sql.Datum.text?
      createdAt := ← r.required "created_at" Sql.Datum.time? }

/-! ### The control plane -/

namespace ControlPlane

/-- Reads a row as a state, and whether the row is marked as the initial one. -/
def StateDefinition.ofRow? (r : Sql.Row) : Option (StateDefinition × Bool) := do
  let key ← r.required "key" Sql.Datum.text?
  let isInitial ← r.required "is_initial" Sql.Datum.bool?
  some (
    { id := some (← r.required "id" Sql.Datum.int?)
      key := key
      name := ← r.required "name" Sql.Datum.text?
      enabled := ← r.required "enabled" Sql.Datum.bool? }, isInitial)

/-- Reads a row as a transition. -/
def Transition.ofRow? (r : Sql.Row) : Option Transition := do
  some
    { state := ← r.required "state_key" Sql.Datum.text?
      signal := ← r.required "signal_key" Sql.Datum.text?
      action := ← r.optional "action_key" Sql.Datum.text?
      next := ← r.optional "next_state_key" Sql.Datum.text? }

/-- The initial state of rows: the first one that is marked, or else the first one of all. -/
def initialOf (states : List (StateDefinition × Bool)) : String :=
  (((states.find? (·.2)).or states.head?).map fun s ↦ s.1.key).getD ""

end ControlPlane

end Foreman
