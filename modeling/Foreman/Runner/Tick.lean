import Foreman.Bus
import Foreman.Runner.Config
import Foreman.Task.Order

/-!
# One scheduling pass

A tick lists the best runnable tasks, warns about those that starve, and dispatches at most one: the
first candidate whose lease the runner gets. To dispatch is to put the request for a slice on the bus,
to record it, and to set the task due again after the cooldown; the lease is given back afterwards,
whether that went well or not. A lease that is refused is counted, and the next candidate is tried.

Several runners may share one store. What keeps them apart is `acquireLease` alone.
-/

namespace Foreman

open Time Store

/-- Why a tick failed. -/
inductive TickError where
  | store (e : StoreError)
  | bus (e : BusError)
deriving DecidableEq, Repr

namespace TickError

/-- The failure that an error of a tick is. -/
def toFailure : TickError → Failure
  | store e => .ofStore e
  | bus e => e.toFailure

end TickError

/-- What one tick did. -/
structure TickReport where
  candidates : Nat
  dispatched : Option Task := none
  leaseConflicts : Nat := 0
  starvationWarnings : Nat := 0
deriving DecidableEq

/-- The report as a JSON object; the task is named. -/
def TickReport.toJson (r : TickReport) : Json :=
  .record
    [("candidates", .int r.candidates), ("dispatched", .ofText? (r.dispatched.map Task.id)),
     ("lease_conflicts", .int r.leaseConflicts),
     ("starvation_warnings", .int r.starvationWarnings)]

/-- A scheduler that polls a store and emits on a bus. -/
structure Runner where
  config : RunnerConfig
  bus : Bus
  /-- The owner of the task dispatched last. -/
  lastOwner : Option String := none
deriving DecidableEq

namespace Runner

/-- A request of a tick to the store. -/
def request (r : Request) : Work TickError r.Value :=
  (Work.store r).mapError .store

/-! ### Starvation -/

/-- What the log says about a task that starves. -/
def warningPayload (r : Runner) (t : Task) (wait : Int) (depth : Nat) : Payload :=
  Keyed.ofList
    [("owner_id", .str t.owner), ("wait_seconds", .int wait),
     ("threshold_seconds", .int r.config.starvationSeconds), ("queue_depth", .int depth)]

/-- A warning is recent when it is younger than the cooldown. -/
def isRecent (now : Instant) (cooldown : Span) (warning : Event) : Bool :=
  decide ((now.since warning.createdAt).nanos < cooldown.nanos)

/-- Warns about one task if it starves and has no recent warning; says whether it did. -/
def warnAbout (r : Runner) (now : Instant) (cooldown : Span) (depth : Nat) (t : Task) :
    Work TickError Bool := do
  match t.waitSeconds? now with
  | none => pure false
  | some wait =>
    if wait ≤ r.config.starvationSeconds then pure false
    else
      let last ← request (.latestEvent t.id EventType.starvationWarning)
      if last.any (isRecent now cooldown) then pure false
      else
        let _ ← request (.appendEvent (some t.id) EventType.starvationWarning
          (r.warningPayload t wait depth) none)
        pure true

/-- Warns about each task of a list in order and counts the warnings. -/
def warnEach (r : Runner) (now : Instant) (cooldown : Span) (depth : Nat) :
    List Task → Work TickError Nat
  | [] => pure 0
  | t :: rest => do
    let warned ← r.warnAbout now cooldown depth t
    let more ← r.warnEach now cooldown depth rest
    pure (more + if warned then 1 else 0)

/-- Warns about the tasks of a list that starve. The cooldown must be a span of time. -/
def warnStarving (r : Runner) (now : Instant) (tasks : List Task) : Work TickError Nat := do
  let cooldown ← Plan.require (Span.ofSeconds? (max r.config.warningCooldownSeconds 0))
  r.warnEach now cooldown tasks.length tasks

/-- The starvation check of a tick. A batch that is short holds every runnable task already, and one
that is no shorter than the scan needs no second listing. -/
def checkStarvation (r : Runner) (now : Instant) (batch : List Task) : Work TickError Nat := do
  if batch.length < r.config.batchLimit ∨ r.config.starvationScanLimit ≤ batch.length then
    r.warnStarving now batch
  else
    let backlog ← request (.listRunnable now r.config.starvationScanLimit)
    r.warnStarving now backlog

/-! ### Dispatch -/

/-- The signal that asks for a slice of a task. -/
def sliceSignal (birth : Signal.Birth) (correlation : String) (t : Task) : Signal :=
  (Signal.new birth SignalType.sliceRequested
    |>.withField "task_id" (.str t.id)
    |>.withField "owner_id" (.str t.owner)
    |>.withField "conversation_key" (.str t.conversation)
    |>.withField "session_id" (.str t.session)
    |>.withField "correlation_id" (.str correlation)
    |>.withSource Source.queueRunner
    |>.withCorrelation correlation)

/-- What the log says about a dispatch. -/
def dispatchPayload (r : Runner) (t : Task) : Payload :=
  Keyed.ofList
    [("owner_id", .str t.owner), ("worker_id", .str r.config.worker), ("priority", .int t.priority),
     ("effective_priority", .int (t.effectivePriority r.config.interactiveBoost))]

/-- Dispatches a task whose lease the runner holds. A store that refuses to reschedule has seen the
task stopped meanwhile; that is no error. -/
def dispatchLeased (r : Runner) (now : Instant) (t : Task) : Work TickError Unit := do
  let correlation := (← Work.freshId).render
  let signal := sliceSignal (← Work.birth) correlation t
  (r.bus.emit signal).mapError .bus
  let _ ← request
    (.appendEvent (some t.id) EventType.sliceRequested (r.dispatchPayload t) (some correlation))
  let cooldown ← Plan.require (Span.ofSeconds? (max r.config.cooldownSeconds 0))
  let nextRun ← Plan.require (now.add? cooldown)
  let _ ← request (.reschedule t.id r.config.worker (some nextRun) .running)
  pure ()

/-- Dispatches the task and gives the lease back. Of two errors that of the dispatch is reported. -/
def dispatchAndRelease (r : Runner) (now : Instant) (t : Task) : Work TickError Unit := do
  let dispatched ← (r.dispatchLeased now t).attempt
  let released ← (request (.releaseLease t.id r.config.worker)).attempt
  match dispatched, released with
  | .error e, _ => Plan.fail e
  | .ok (), .error e => Plan.fail e
  | .ok (), .ok () => pure ()

/-- Tries candidates in order until one is dispatched; answers it and the number of leases refused
before. -/
def dispatchFirst (r : Runner) (now : Instant) : List Task → Work TickError (Option Task × Nat)
  | [] => pure (none, 0)
  | t :: rest => do
    let leased ← request (.acquireLease t.id r.config.worker r.config.leaseSeconds now)
    if leased then
      r.dispatchAndRelease now t
      pure (some t, 0)
    else
      let (dispatched, conflicts) ← r.dispatchFirst now rest
      pure (dispatched, conflicts + 1)

/-- **One scheduling pass** at `now`: the report and the runner behind it. -/
def tick (r : Runner) (now : Instant) : Work TickError (TickReport × Runner) := do
  let batch ← request (.listRunnable now r.config.batchLimit)
  if batch.isEmpty then pure ({ candidates := 0 }, r)
  else
    let warnings ← r.checkStarvation now batch
    let (dispatched, conflicts) ←
      r.dispatchFirst now (Task.candidates batch r.config.interactiveBoost r.lastOwner)
    let report : TickReport := ⟨batch.length, dispatched, conflicts, warnings⟩
    pure (report, { r with lastOwner := (dispatched.map (·.owner)).or r.lastOwner })

end Runner

end Foreman
