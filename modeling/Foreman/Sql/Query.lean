import Foreman.Plan
import Foreman.Sql.Statement
import Foreman.Store.Memory

/-!
# Carrying requests out on a database

Each request to a store is a plan of one or two statements; the database keeps each of them atomic, and
nothing is remembered between requests. A statement that fails, a row that is missing where there must
be one, and a row that cannot be read end the plan with `StoreError.database`.
-/

namespace Foreman.Sql

open Time Store ControlPlane

/-- What a statement brought back: rows, and the number of rows that it affected. -/
structure Outcome where
  rows : List Row := []
  affected : Nat := 0
deriving DecidableEq

/-- A question that carrying out a request raises. -/
inductive Question where
  | execute (statement : Statement)
  | clock
  | freshId
deriving DecidableEq

/-- The answers to a question; a statement may fail. -/
abbrev Question.Reply : Question → Type
  | execute _ => Option Outcome
  | clock => Instant
  | freshId => Uuid

/-- A plan over statements. -/
abbrev Query (α : Type) := Plan Question.Reply StoreError α

namespace Query

/-- Executes a statement. -/
def execute (s : Statement) : Query Outcome :=
  .ask (.execute s) fun
    | some outcome => pure outcome
    | none => Plan.fail .database

/-- A value that has been read, or a failure where there is none. -/
def decoded {α : Type} : Option α → Query α
  | some a => pure a
  | none => Plan.fail .database

/-- The first row, if there is one. -/
def first? {α : Type} (s : Statement) (read : Row → Option α) : Query (Option α) := do
  match (← execute s).rows with
  | row :: _ => do
    let a ← decoded (read row)
    pure (some a)
  | [] => pure none

/-- Every row. -/
def rows {α : Type} (s : Statement) (read : Row → Option α) : Query (List α) := do
  decoded ((← execute s).rows.mapM read)

/-- The version in a row. -/
def versionOf (r : Row) : Option Int :=
  r.required "version" Datum.int?

/-- Stores a record; the row comes back. -/
def upsert (t : Task) : Query Task := do
  decoded (← first? (.upsertTask t.normalize) Task.ofRow?)

/-- Takes a lease, if exactly one row says so. The end of the lease may lie beyond the calendar. -/
def acquireLease (id worker : String) (seconds : Int) (now : Instant) : Query Bool := do
  let until_ ← Plan.require (leaseEnd? seconds now)
  let outcome ← execute (.leaseTask id worker until_ now)
  pure (outcome.affected == 1)

/-- Changes due time and status, if exactly one row says so. -/
def reschedule (id worker : String) (nextRun : Option Instant) (status : Status) : Query Bool := do
  let outcome ← execute (.rescheduleTask id worker nextRun status)
  pure (outcome.affected == 1)

/-- The statement that writes a checkpoint over an expected version. -/
def checkpointWrite (id : String) (state taskState : Payload) (expected : Int) : Statement :=
  if expected = 0 then .insertCheckpoint id state taskState
  else .updateCheckpoint id state taskState expected

/-- Writes a checkpoint; when no row comes back, another statement asks for the version that stands
there. -/
def saveCheckpoint (id : String) (state taskState : Payload) (expected : Int) :
    Query CheckpointWrite := do
  match ← first? (checkpointWrite id state taskState expected) versionOf with
  | some version => pure (.saved version)
  | none => do
    let current ← first? (.selectVersion id) versionOf
    pure (.conflict (current.getD 0))

/-- Adds an event; it is answered as it was made. -/
def appendEvent (task : Option String) (type : String) (payload : Payload)
    (correlation : Option String) : Query Event := do
  let id ← Plan.question Question.freshId
  let now ← Plan.question Question.clock
  let event : Event := ⟨id, task, type, payload, correlation, now⟩
  let _ ← execute (.insertEvent event)
  pure event

/-- **Carries out one request.** -/
def ofRequest : (request : Request) → Query request.Value
  | .upsert t => upsert t
  | .getTask id => first? (.selectTask id) Task.ofRow?
  | .listTasks => rows .selectTasks Task.ofRow?
  | .listRunnable now limit => rows (.selectRunnable now limit) Task.ofRow?
  | .acquireLease id worker seconds now => acquireLease id worker seconds now
  | .releaseLease id worker => do
    let _ ← execute (.unleaseTask id worker)
    pure ()
  | .reschedule id worker nextRun status => reschedule id worker nextRun status
  | .getCheckpoint id => first? (.selectCheckpoint id) Checkpoint.ofRow?
  | .saveCheckpoint id state taskState expected => saveCheckpoint id state taskState expected
  | .appendEvent task type payload correlation => appendEvent task type payload correlation
  | .eventsSince since => rows (.selectEventsSince since) Event.ofRow?
  | .latestEvent task type => first? (.selectLatestEvent task type) Event.ofRow?

/-- Creates the tables. -/
def migrate : Query Unit := do
  let _ ← execute .createSchema
  pure ()

/-- The control plane that is provisioned in the database. -/
def definition : Query Definition := do
  let states ← rows .selectStates StateDefinition.ofRow?
  let transitions ← rows .selectTransitions Transition.ofRow?
  pure ⟨initialOf states, states.map (·.1), transitions⟩

end Query

end Foreman.Sql
