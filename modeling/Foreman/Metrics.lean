import Foreman.Register
import Foreman.Slice.Outcome
import Foreman.Event
import Foreman.Work

/-!
# Queue metrics

A view of the queue at one instant: a census of the tasks, and what the log says about the last
minutes. Every number is a count over one of the two lists, or a ratio of such counts.

An owner's **fairness ratio** is the owner's share of the dispatches divided by the owner's share of the
tasks that have not ended; it is zero while nothing has been dispatched.
-/

namespace Foreman

open Time Store

/-- Slices that ended for good, by how they ended. -/
structure TerminalOutcomes where
  done : Nat
  waitingUser : Nat
  failed : Nat
deriving DecidableEq, Repr

/-- The view. -/
structure Metrics where
  generatedAt : Instant
  lookbackMinutes : Nat
  depthTotal : Nat
  depthByStatus : Register Nat
  depthByOwner : Register Nat
  oldestWait : Int
  oldestWaitByOwner : Register Int
  dispatchRate : Float
  dispatchRateByOwner : Register Float
  exhaustionsTotal : Nat
  exhaustionsByReason : Register Nat
  starvationWarnings : Nat
  fairnessByOwner : Register Float
  terminal : TerminalOutcomes

namespace Metrics

/-! ### Census -/

/-- The number of tasks in each status, also those in which there is none. -/
def countByStatus (tasks : List Task) : Register Nat :=
  .ofList (Status.all.map fun s ↦ (s.name, tasks.countP fun t ↦ t.status == s))

/-- Owners and waiting times of the tasks that wait. -/
def waits (tasks : List Task) (now : Instant) : List (String × Int) :=
  tasks.filterMap fun t ↦ (t.waitSeconds? now).map fun w ↦ (t.owner, w)

/-- The longest of the waiting times, zero when there is none. -/
def longest (waits : List Int) : Int :=
  waits.foldl max 0

/-- The longest waiting time of each owner. -/
def longestByOwner (waits : List (String × Int)) : Register Int :=
  waits.foldl (fun r (owner, w) ↦ r.alter owner fun v ↦ max (v.getD 0) w) ∅

/-- The number of tasks of each owner that have not ended. -/
def activeByOwner (tasks : List Task) : Register Nat :=
  .tally ((tasks.filter fun t ↦ !t.status.isTerminal).map (·.owner))

/-! ### Log -/

/-- The events of a type. -/
def ofType (type : String) (events : List Event) : List Event :=
  events.filter fun e ↦ e.type == type

theorem mem_ofType {type : String} {events : List Event} {e : Event} :
    e ∈ ofType type events ↔ e ∈ events ∧ e.type = type := by
  simp [ofType]

@[simp] theorem ofType_append (type : String) (events events' : List Event) :
    ofType type (events ++ events') = ofType type events ++ ofType type events' :=
  List.filter_append ..

/-- Entries of one type are all or none of the entries of a type. -/
theorem ofType_of_forall {type : String} {events : List Event} (h : ∀ e ∈ events, e.type = type)
    (type' : String) : ofType type' events = if type = type' then events else [] := by
  split
  · next heq => exact List.filter_eq_self.2 fun e he ↦ by simp [h e he, heq]
  · next hne => exact List.filter_eq_nil_iff.2 fun e he ↦ by simp [h e he, hne]

/-- The owner to whom a dispatch counts: that of the task, or the one that the event names. -/
def dispatchOwner? (owners : Register String) (e : Event) : Option String :=
  (e.task.bind owners.find?).or (e.text? "owner_id")

/-- The owners of the tasks, by task. -/
def ownersByTask (tasks : List Task) : Register String :=
  .ofList (tasks.map fun t ↦ (t.id, t.owner))

/-- The number of dispatches of each owner. -/
def dispatchesByOwner (tasks : List Task) (events : List Event) : Register Nat :=
  .tally ((ofType EventType.sliceRequested events).filterMap
    (dispatchOwner? (ownersByTask tasks)))

/-- The number of used-up budgets, by reason. -/
def exhaustions (events : List Event) : Register Nat :=
  .tally ((ofType EventType.blockedBudget events).map fun e ↦ (e.text? "reason").getD "unknown")

/-- The number of events that count towards a terminal status. -/
def countTerminal (s : Status) (events : List Event) : Nat :=
  events.countP fun e ↦ SliceOutcome.terminalStatus? e.type == some s

/-! ### Ratios -/

/-- A count per minute. -/
def perMinute (count minutes : Nat) : Float :=
  .ofNat count / .ofNat minutes

/-- An owner's share of the dispatches over the owner's share of the active tasks. -/
def fairness (dispatched dispatches active activeTotal : Nat) : Float :=
  if dispatches = 0 ∨ activeTotal = 0 then 0.0
  else
    let dispatchShare := Float.ofNat dispatched / Float.ofNat dispatches
    let backlogShare := Float.ofNat active / Float.ofNat activeTotal
    dispatchShare / backlogShare

/-- **The view** of a list of tasks and a list of events; the period is at least one minute. -/
def compute (tasks : List Task) (events : List Event) (now : Instant) (lookback : Nat) : Metrics :=
  let minutes := max lookback 1
  let waiting := waits tasks now
  let active := activeByOwner tasks
  let dispatches := (ofType EventType.sliceRequested events).length
  let byOwner := dispatchesByOwner tasks events
  { generatedAt := now
    lookbackMinutes := minutes
    depthTotal := tasks.length
    depthByStatus := countByStatus tasks
    depthByOwner := .tally (tasks.map (·.owner))
    oldestWait := longest (waiting.map (·.2))
    oldestWaitByOwner := longestByOwner waiting
    dispatchRate := perMinute dispatches minutes
    dispatchRateByOwner := byOwner.map fun _ n ↦ perMinute n minutes
    exhaustionsTotal := (ofType EventType.blockedBudget events).length
    exhaustionsByReason := exhaustions events
    starvationWarnings := (ofType EventType.starvationWarning events).length
    fairnessByOwner := active.map fun owner n ↦
      fairness ((byOwner.find? owner).getD 0) dispatches n active.total
    terminal :=
      ⟨countTerminal .done events, countTerminal .waitingUser events, countTerminal .failed events⟩ }

/-- The view of a store: the census and the log since the beginning of the period. -/
def ofStore (now : Instant) (lookback : Nat) : Work StoreError Metrics := do
  let minutes := max lookback 1
  let tasks ← Work.store .listTasks
  let period ← Plan.require (Span.ofSeconds? (60 * minutes))
  let since ← Plan.require (now.add? period.neg)
  let events ← Work.store (.eventsSince since)
  pure (compute tasks events now minutes)

/-! ### Record form -/

/-- A register as a JSON object. -/
def registerJson {α : Type} (value : α → Json) (r : Register α) : Json :=
  .obj (r.toList.map fun e ↦ (e.1, value e.2))

/-- A count. -/
def natJson (n : Nat) : Json := .int n

/-- A ratio. -/
def floatJson (f : Float) : Json := .float f.toBits

/-- The view as a JSON object, its members in the order in which they are printed. -/
def toJson (m : Metrics) : Json :=
  .obj
    [("generated_at", m.generatedAt.toJson), ("lookback_minutes", natJson m.lookbackMinutes),
     ("queue_depth_total", natJson m.depthTotal),
     ("queue_depth_by_status", registerJson natJson m.depthByStatus),
     ("queue_depth_by_owner", registerJson natJson m.depthByOwner),
     ("oldest_wait_seconds", .int m.oldestWait),
     ("oldest_wait_seconds_by_owner", registerJson .int m.oldestWaitByOwner),
     ("dispatch_rate_per_minute", floatJson m.dispatchRate),
     ("dispatch_rate_per_minute_by_owner", registerJson floatJson m.dispatchRateByOwner),
     ("budget_exhaustions_total", natJson m.exhaustionsTotal),
     ("budget_exhaustions_by_reason", registerJson natJson m.exhaustionsByReason),
     ("starvation_warnings_total", natJson m.starvationWarnings),
     ("owner_fairness_ratio", registerJson floatJson m.fairnessByOwner),
     ("terminal_outcomes_total", .obj
       [("done", natJson m.terminal.done), ("waiting_user", natJson m.terminal.waitingUser),
        ("failed", natJson m.terminal.failed)])]

end Metrics

end Foreman
