import Foreman.Slice.Outcome
import Foreman.Work

/-!
# Recording how a slice ended

Three requests: the record of the task is read, stored behind the outcome, and the outcome is added to
the log.
-/

namespace Foreman.SliceOutcome

open Store

/-- **Records an outcome** and answers the record as stored. -/
def record (outcome : SliceOutcome) (task : String) (correlation : Option String) :
    Work StoreError Task := do
  match ← Work.store (.getTask task) with
  | none => Plan.fail (.taskNotFound task)
  | some t =>
    let stored ← Work.store (.upsert (outcome.applyTo t))
    let _ ← Work.store
      (.appendEvent (some task) outcome.eventType (outcome.eventPayload stored) correlation)
    pure stored

end Foreman.SliceOutcome
