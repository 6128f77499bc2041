/-!
# Names of signals and events

The words that the dispatcher, the queue runner and the collaborators that execute slices share.
-/

namespace Foreman

namespace SignalType

/-- A runner asks for a slice of a task to be executed. -/
def sliceRequested : String := "pdca.slice.requested"

/-- An action ended well. -/
def actionSucceeded : String := "action.succeeded"

/-- An action failed. -/
def actionFailed : String := "action.failed"

end SignalType

namespace EventType

/-- A slice was requested. -/
def sliceRequested : String := "slice.requested"

/-- A slice ended and so did its task. -/
def completedDone : String := "slice.completed.done"

/-- A slice ended because its task failed. -/
def completedFailed : String := "slice.completed.failed"

/-- A slice ended and its task waits for its user. -/
def completedWaitingUser : String := "slice.completed.waiting_user"

/-- A slice ended and its task goes back to the queue. -/
def completedQueued : String := "slice.completed.queued"

/-- A slice failed and its task will be tried again. -/
def sliceFailed : String := "slice.failed"

/-- A slice could not start without a text from the user. -/
def blockedMissingText : String := "slice.blocked.missing_text"

/-- A slice could not start because a budget of its task is used up. -/
def blockedBudget : String := "slice.blocked.budget_exhausted"

/-- A task has waited too long. -/
def starvationWarning : String := "queue.starvation_warning"

/-- A durable signal was put on the bus. -/
def signalEmitted : String := "signal.emitted"

end EventType

namespace Source

/-- Signals that report on an action. -/
def dispatcher : String := "dispatcher"

/-- Signals that ask for a slice. -/
def queueRunner : String := "queue_runner"

end Source

end Foreman
