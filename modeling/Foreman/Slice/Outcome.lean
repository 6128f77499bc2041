import Foreman.Json.Fields
import Foreman.Machine
import Foreman.Task.Basic
import Foreman.Vocabulary

/-!
# How a slice ends

A slice is one bounded piece of a task's work. It ends in one of seven ways, each with the event that
records it and the status it leaves. Two of them count as failures: the task itself failed, or only this
slice did and the task will be tried again.

Budgets are checked before a slice starts; the first one that is used up is the reason not to.
-/

namespace Foreman

/-- Which budget is used up. -/
inductive BudgetReason where
  | maxCyclesReached
  | tokenBudgetExhausted
  | runtimeExceeded
deriving DecidableEq, Repr

namespace BudgetReason

/-- The written name. -/
def name : BudgetReason → String
  | maxCyclesReached => "max_cycles_reached"
  | tokenBudgetExhausted => "token_budget_exhausted"
  | runtimeExceeded => "runtime_exceeded"

/-- Reads a written name. -/
def ofString? : String → Option BudgetReason
  | "max_cycles_reached" => some maxCyclesReached
  | "token_budget_exhausted" => some tokenBudgetExhausted
  | "runtime_exceeded" => some runtimeExceeded
  | _ => none

@[simp] theorem ofString?_name (r : BudgetReason) : ofString? r.name = some r := by
  cases r <;> rfl

end BudgetReason

/-- The first budget that a task has used up: slices, tokens, running time. A limit on slices or
running time that is not positive is no limit. -/
def Task.usedUp? (t : Task) (elapsedSeconds : Int) : Option BudgetReason :=
  if 0 < t.maxCycles ∧ t.maxCycles ≤ t.sliceCycles then some .maxCyclesReached
  else if t.tokenBudget ≤ 0 then some .tokenBudgetExhausted
  else if 0 < t.maxRuntimeSeconds ∧ t.maxRuntimeSeconds ≤ elapsedSeconds then some .runtimeExceeded
  else none

/-- How a slice ended. -/
inductive SliceOutcome where
  | done
  /-- More work remains. -/
  | queued
  | waitingUser
  /-- The task failed. -/
  | failed (error : String)
  /-- The slice failed; the task stays in the queue. -/
  | sliceFailed (error : String)
  | missingText
  | budgetExhausted (reason : BudgetReason)
deriving DecidableEq, Repr

namespace SliceOutcome

/-- The type of the event that records the outcome. -/
def eventType : SliceOutcome → String
  | done => EventType.completedDone
  | queued => EventType.completedQueued
  | waitingUser => EventType.completedWaitingUser
  | failed _ => EventType.completedFailed
  | sliceFailed _ => EventType.sliceFailed
  | missingText => EventType.blockedMissingText
  | budgetExhausted _ => EventType.blockedBudget

/-- The status in which the outcome leaves the task. -/
def status : SliceOutcome → Status
  | done => .done
  | queued | sliceFailed _ => .queued
  | waitingUser | missingText => .waitingUser
  | failed _ | budgetExhausted _ => .failed

/-- The text that the task keeps as its last error. -/
def error? : SliceOutcome → Option String
  | failed e | sliceFailed e => some e
  | budgetExhausted r => some r.name
  | _ => none

/-- What the recording event says beside owner, status and number of slices. -/
def details : SliceOutcome → Option (String × String)
  | failed e | sliceFailed e => some ("error", e)
  | budgetExhausted r => some ("reason", r.name)
  | _ => none

/-- The streak of failures behind the outcome: raised by a failure, kept by a used-up budget, and
broken by everything else. -/
def streakAfter (streak : Int) : SliceOutcome → Int
  | failed _ | sliceFailed _ => Machine.wrap (streak + 1)
  | budgetExhausted _ => streak
  | _ => 0

/-- The status that an event of the given type counts towards, when it ends a slice for good: done,
waiting for the user, or failed. -/
def terminalStatus? (eventType : String) : Option Status :=
  if eventType = EventType.completedDone then some .done
  else if eventType = EventType.completedWaitingUser
      ∨ eventType = EventType.blockedMissingText then some .waitingUser
  else if eventType = EventType.completedFailed ∨ eventType = EventType.sliceFailed
      ∨ eventType = EventType.blockedBudget then some .failed
  else none

/-- The record of a task behind one more slice that ended in this way. Counters are 64 bits wide. -/
def applyTo (o : SliceOutcome) (t : Task) : Task :=
  { t with
    sliceCycles := Machine.wrap (t.sliceCycles + 1)
    status := o.status
    failureStreak := o.streakAfter t.failureStreak
    lastError := o.error?.or t.lastError }

/-- The payload of the recording event, taken from the record as it was stored. -/
def eventPayload (o : SliceOutcome) (stored : Task) : Payload :=
  let base := Keyed.ofList
    [("owner_id", .str stored.owner), ("status", .str stored.status.name),
     ("slice_cycles", .int stored.sliceCycles)]
  match o.details with
  | some (key, text) => Keyed.insert key (.str text) base
  | none => base

/-! ### Record form -/

/-- Reads an outcome: its kind, and the error or the budget where there is one. -/
def ofJson? (v : Json) : Option SliceOutcome := do
  let f ← v.fields? ["kind", "error", "reason"]
  let error := f.required "error" Json.text?
  match ← f.required "kind" Json.text? with
  | "done" => some done
  | "queued" => some queued
  | "waiting_user" => some waitingUser
  | "failed" => error.map failed
  | "slice_failed" => error.map sliceFailed
  | "missing_text" => some missingText
  | "budget" => (f.required "reason" fun r ↦ r.text?.bind BudgetReason.ofString?).map budgetExhausted
  | _ => none

end SliceOutcome

end Foreman
