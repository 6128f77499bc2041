import Foreman.Machine
import Foreman.Plan
import Foreman.Register
import Foreman.Store.Request
import Foreman.Task.Order

/-!
# A store in memory

Three tables: tasks by identifier, checkpoints by task, and the log. Each request is one function of the
whole store, which is what makes leases and checkpoint versions atomic.

The end of a lease may lie beyond the calendar. The request then crashes before it has changed the
record, but while it holds the table of tasks; from then on the table is **poisoned** and every request
that needs it fails. Checkpoints and the log are not affected.
-/

namespace Foreman.Store

open Time

/-- The contents of a store. -/
structure Memory where
  tasks : Register Task := ∅
  poisoned : Bool := false
  checkpoints : Register Checkpoint := ∅
  events : List Event := []
deriving DecidableEq, Inhabited

/-- The end of a lease taken at `now`; a negative length counts as none. -/
def leaseEnd? (seconds : Int) (now : Instant) : Option Instant :=
  (Span.ofSeconds? (max seconds 0)).bind now.add?

end Store

/-! ### Records under leases -/

namespace Task

open Time

/-- The record once a worker has taken the lease. A queued task is running from then on. -/
def leasedBy (t : Task) (worker : String) (until_ now : Instant) : Task :=
  { t with
    leaseUntil := some until_
    worker := some worker
    status := if t.status = .queued then .running else t.status
    updatedAt := now }

/-- The record once the lease has been given back. -/
def unleased (t : Task) : Task :=
  { t with leaseUntil := none, worker := none }

/-- A worker may reschedule the tasks whose lease it holds, unless they have been stopped. -/
def isReschedulableBy (t : Task) (worker : String) : Bool :=
  t.worker == some worker && t.status.isSchedulable

/-- The record with another due time and status. -/
def rescheduled (t : Task) (nextRun : Option Instant) (status : Status) (clock : Instant) : Task :=
  { t with nextRun := nextRun, status := status, updatedAt := clock }

/-- The record as a store keeps it: counters not negative, made when the record it replaces was made,
and updated now. -/
def storedOver (t : Task) (existing : Option Task) (clock : Instant) : Task :=
  { t.normalize with
    createdAt := (existing.map (·.createdAt)).getD t.createdAt
    updatedAt := clock }

@[simp] theorem leasedBy_id (t : Task) (worker : String) (until_ now : Instant) :
    (t.leasedBy worker until_ now).id = t.id := rfl

@[simp] theorem storedOver_id (t : Task) (existing : Option Task) (clock : Instant) :
    (t.storedOver existing clock).id = t.id := rfl

end Task

namespace Checkpoint

open Time

/-- The checkpoint behind one more write. Versions are 64 bits wide. -/
def rewritten (c : Checkpoint) (state taskState : Payload) (clock : Instant) : Checkpoint :=
  { c with
    state := state
    taskState := taskState
    version := Machine.wrap (c.version + 1)
    updatedAt := clock }

end Checkpoint

namespace Store.Memory

open Time

/-! ### Tasks -/

/-- Stores a record. -/
def upsert (m : Memory) (clock : Instant) (t : Task) : Task × Memory :=
  let stored := t.storedOver (m.tasks.find? t.id) clock
  (stored, { m with tasks := m.tasks.insert t.id stored })

/-- Every task, the oldest first. -/
def listTasks (m : Memory) : List Task :=
  m.tasks.values.mergeSort fun a b ↦ decide (a.createdAt ≤ b.createdAt)

/-- The best runnable tasks. -/
def listRunnable (m : Memory) (now : Instant) (limit : Nat) : List Task :=
  Task.bestRunnable m.tasks.values now limit

/-- Takes a lease. -/
def acquireLease (m : Memory) (id worker : String) (seconds : Int) (now : Instant) :
    Except (Halt StoreError) Bool × Memory :=
  match m.tasks.find? id with
  | none => (.ok false, m)
  | some t =>
    if t.isLeasedAt now then (.ok false, m)
    else
      match leaseEnd? seconds now with
      | none => (.error .crash, { m with poisoned := true })
      | some until_ => (.ok true, { m with tasks := m.tasks.insert id (t.leasedBy worker until_ now) })

/-- Gives a lease back. -/
def releaseLease (m : Memory) (id worker : String) : Memory :=
  match m.tasks.find? id with
  | some t =>
    if t.worker = some worker then { m with tasks := m.tasks.insert id t.unleased } else m
  | none => m

/-- Changes due time and status. -/
def reschedule (m : Memory) (clock : Instant) (id worker : String) (nextRun : Option Instant)
    (status : Status) : Bool × Memory :=
  match m.tasks.find? id with
  | some t =>
    if t.isReschedulableBy worker then
      (true, { m with tasks := m.tasks.insert id (t.rescheduled nextRun status clock) })
    else (false, m)
  | none => (false, m)

/-! ### Checkpoints -/

/-- Writes a checkpoint over the expected version. -/
def saveCheckpoint (m : Memory) (clock : Instant) (id : String) (state taskState : Payload)
    (expected : Int) : CheckpointWrite × Memory :=
  match m.checkpoints.find? id with
  | some c =>
    if c.version = expected then
      let c' := c.rewritten state taskState clock
      (.saved c'.version, { m with checkpoints := m.checkpoints.insert id c' })
    else (.conflict c.version, m)
  | none =>
    if expected = 0 then
      let c : Checkpoint := ⟨id, state, taskState, 1, clock, clock⟩
      (.saved 1, { m with checkpoints := m.checkpoints.insert id c })
    else (.conflict 0, m)

/-! ### The log -/

/-- Adds an event at the end. -/
def appendEvent (m : Memory) (clock : Instant) (fresh : Uuid) (task : Option String) (type : String)
    (payload : Payload) (correlation : Option String) : Event × Memory :=
  let e : Event := ⟨fresh, task, type, payload, correlation, clock⟩
  (e, { m with events := m.events ++ [e] })

/-- The events not older than an instant. -/
def eventsSince (m : Memory) (since : Instant) : List Event :=
  m.events.filter fun e ↦ decide (since ≤ e.createdAt)

/-- The last event of a type that names a task. -/
def latestEvent (m : Memory) (task type : String) : Option Event :=
  m.events.reverse.find? fun e ↦ e.task == some task && e.type == type

/-! ### Requests -/

/-- A request that needs the table of tasks fails when that table is poisoned. -/
def withTasks {α : Type} (m : Memory) (act : Except (Halt StoreError) α × Memory) :
    Except (Halt StoreError) α × Memory :=
  if m.poisoned then (.error (.error .lockPoisoned), m) else act

/-- A request that succeeds. -/
def answered {α : Type} (r : α × Memory) : Except (Halt StoreError) α × Memory :=
  (.ok r.1, r.2)

/-- **Carries out one request.** The time and a fresh identifier are at hand for those that need them. -/
def perform (m : Memory) (clock : Instant) (fresh : Uuid) :
    (request : Request) → Except (Halt StoreError) request.Value × Memory
  | .upsert t => m.withTasks (answered (m.upsert clock t))
  | .getTask id => m.withTasks (.ok (m.tasks.find? id), m)
  | .listTasks => m.withTasks (.ok m.listTasks, m)
  | .listRunnable now limit => m.withTasks (.ok (m.listRunnable now limit), m)
  | .acquireLease id worker seconds now => m.withTasks (m.acquireLease id worker seconds now)
  | .releaseLease id worker => m.withTasks (.ok (), m.releaseLease id worker)
  | .reschedule id worker nextRun status =>
    m.withTasks (answered (m.reschedule clock id worker nextRun status))
  | .getCheckpoint id => (.ok (m.checkpoints.find? id), m)
  | .saveCheckpoint id state taskState expected =>
    answered (m.saveCheckpoint clock id state taskState expected)
  | .appendEvent task type payload correlation =>
    answered (m.appendEvent clock fresh task type payload correlation)
  | .eventsSince since => (.ok (m.eventsSince since), m)
  | .latestEvent task type => (.ok (m.latestEvent task type), m)

end Store.Memory

end Foreman
