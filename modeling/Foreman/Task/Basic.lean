import Foreman.Json.Fields
import Foreman.Task.Status
import Foreman.Time.Json

/-!
# Tasks

A task is long-running work that is executed in slices. Its record says who owns it, where it stands,
when it is due, who holds its lease and what is left of its budgets.

A lease is a worker name and an instant; the holder keeps the task to itself until that instant. A task
is **runnable** when its status is schedulable, it is due and no lease on it is in force.
-/

namespace Foreman

open Time

/-- The record of a task. -/
structure Task where
  id : String
  owner : String
  conversation : String
  session : String
  status : Status
  priority : Int
  /-- When the task is due; a task without a due time is due at once. -/
  nextRun : Option Instant
  /-- The end of the lease. -/
  leaseUntil : Option Instant
  /-- The holder of the lease. -/
  worker : Option String
  sliceCycles : Int
  maxCycles : Int
  maxRuntimeSeconds : Int
  tokenBudget : Int
  failureStreak : Int
  lastError : Option String
  metadata : Payload
  createdAt : Instant
  updatedAt : Instant
deriving DecidableEq

/-- Who waits for a task: a user in a conversation, or nobody. -/
inductive TaskClass where
  | interactive
  | background
deriving DecidableEq, Repr

namespace TaskClass

/-- The written name. -/
def name : TaskClass → String
  | interactive => "interactive"
  | background => "background"

/-- Reads a written name. -/
def ofString? : String → Option TaskClass
  | "interactive" => some interactive
  | "background" => some background
  | _ => none

@[simp] theorem ofString?_name (c : TaskClass) : ofString? c.name = some c := by
  cases c <;> rfl

end TaskClass

namespace Task

/-! ### New tasks -/

/-- Slices a task may take when nothing else is said. -/
def defaultMaxCycles : Int := 12

/-- Seconds a task may run when nothing else is said. -/
def defaultMaxRuntimeSeconds : Int := 1800

/-- Tokens a task may use when nothing else is said. -/
def defaultTokenBudget : Int := 50000

/-- A queued task with the default budgets. -/
def new (id owner conversation session : String) (now : Instant) : Task where
  id := id
  owner := owner
  conversation := conversation
  session := session
  status := .queued
  priority := 0
  nextRun := none
  leaseUntil := none
  worker := none
  sliceCycles := 0
  maxCycles := defaultMaxCycles
  maxRuntimeSeconds := defaultMaxRuntimeSeconds
  tokenBudget := defaultTokenBudget
  failureStreak := 0
  lastError := none
  metadata := []
  createdAt := now
  updatedAt := now

/-- The name under which the metadata keeps the class. -/
def classKey : String := "task_class"

/-- Names the class of a task in its metadata. -/
def withClass (t : Task) (c : TaskClass) : Task :=
  { t with metadata := Keyed.insert classKey (.str c.name) t.metadata }

/-! ### Facts -/

/-- The class that the metadata names, when it is a known one. -/
def class? (t : Task) : Option TaskClass :=
  (Payload.text? classKey t.metadata).bind TaskClass.ofString?

@[simp] theorem class?_withClass (t : Task) (c : TaskClass) : (t.withClass c).class? = some c := by
  simp [class?, withClass, Payload.text?_insert_self]

/-- A user waits for the task. -/
def isInteractive (t : Task) : Bool :=
  t.class? == some .interactive

/-- A lease is in force: it ends strictly after `now`. -/
def isLeasedAt (t : Task) (now : Instant) : Bool :=
  match t.leaseUntil with
  | some until_ => decide (now < until_)
  | none => false

/-- The task is due: at once, or no later than `now`. -/
def isDueAt (t : Task) (now : Instant) : Bool :=
  match t.nextRun with
  | some due => decide (due ≤ now)
  | none => true

/-- **Runnable**: schedulable, due and not leased. -/
def isRunnable (t : Task) (now : Instant) : Bool :=
  t.status.isSchedulable && t.isDueAt now && !t.isLeasedAt now

/-- Whole seconds since the task became due, `none` unless there is at least one. -/
def waitSeconds? (t : Task) (now : Instant) : Option Int :=
  t.nextRun.bind fun due ↦
    let wait := (now.since due).wholeSeconds
    if 0 < wait then some wait else none

theorem waitSeconds?_pos {t : Task} {now : Instant} {w : Int} (h : t.waitSeconds? now = some w) :
    0 < w := by
  simp only [waitSeconds?, Option.bind_eq_some_iff] at h
  obtain ⟨_, -, h⟩ := h
  split at h <;> simp_all

/-- Raises the counters that are below zero to zero. -/
def normalize (t : Task) : Task :=
  { t with
    priority := max t.priority 0
    sliceCycles := max t.sliceCycles 0
    failureStreak := max t.failureStreak 0 }

@[simp] theorem normalize_id (t : Task) : t.normalize.id = t.id := rfl

/-! ### Record form -/

/-- The names of the fields, in the order of the record. -/
def fieldNames : List String :=
  ["task_id", "owner_id", "conversation_key", "session_id", "status", "priority", "next_run_at",
   "lease_until", "worker_id", "slice_cycles", "max_cycles", "max_runtime_seconds",
   "token_budget_remaining", "failure_streak", "last_error", "metadata", "created_at", "updated_at"]

/-- The record as a JSON object, every field present. -/
def toJson (t : Task) : Json :=
  .record
    [("task_id", .str t.id), ("owner_id", .str t.owner),
     ("conversation_key", .str t.conversation), ("session_id", .str t.session),
     ("status", .str t.status.name), ("priority", .int t.priority),
     ("next_run_at", Instant.optionJson t.nextRun), ("lease_until", Instant.optionJson t.leaseUntil),
     ("worker_id", .ofText? t.worker), ("slice_cycles", .int t.sliceCycles),
     ("max_cycles", .int t.maxCycles), ("max_runtime_seconds", .int t.maxRuntimeSeconds),
     ("token_budget_remaining", .int t.tokenBudget), ("failure_streak", .int t.failureStreak),
     ("last_error", .ofText? t.lastError), ("metadata", .obj t.metadata),
     ("created_at", t.createdAt.toJson), ("updated_at", t.updatedAt.toJson)]

/-- Reads a record. Only the identifiers of task and owner are required; a task without timestamps is
made at `now`. -/
def ofJson? (now : Instant) (v : Json) : Option Task := do
  let f ← v.fields? fieldNames
  some
    { id := ← f.required "task_id" Json.text?
      owner := ← f.required "owner_id" Json.text?
      conversation := ← f.defaulted "conversation_key" Json.text? ""
      session := ← f.defaulted "session_id" Json.text? ""
      status := ← f.defaulted "status" (fun v ↦ v.text?.map Status.ofString) .queued
      priority := ← f.defaulted "priority" Json.signed? 0
      nextRun := ← f.optional "next_run_at" Instant.ofJson?
      leaseUntil := ← f.optional "lease_until" Instant.ofJson?
      worker := ← f.optional "worker_id" Json.text?
      sliceCycles := ← f.defaulted "slice_cycles" Json.signed? 0
      maxCycles := ← f.defaulted "max_cycles" Json.signed? defaultMaxCycles
      maxRuntimeSeconds := ← f.defaulted "max_runtime_seconds" Json.signed? defaultMaxRuntimeSeconds
      tokenBudget := ← f.defaulted "token_budget_remaining" Json.signed? defaultTokenBudget
      failureStreak := ← f.defaulted "failure_streak" Json.signed? 0
      lastError := ← f.optional "last_error" Json.text?
      metadata := ← f.defaulted "metadata" Json.members? []
      createdAt := ← f.defaulted "created_at" Instant.ofJson? now
      updatedAt := ← f.defaulted "updated_at" Instant.ofJson? now }

end Task

end Foreman
