import Foreman.Json.Fields
import Foreman.Time.Json
import Foreman.Uuid

/-!
# Events

An event is one entry of the audit log. Entries are only ever added.
-/

namespace Foreman

open Time

/-- An entry of the log. -/
structure Event where
  id : Uuid
  task : Option String
  type : String
  payload : Payload
  correlation : Option String
  createdAt : Instant
deriving DecidableEq

namespace Event

/-- The text under a name of the payload. -/
def text? (e : Event) (key : String) : Option String :=
  Payload.text? key e.payload

/-- The record as a JSON object, every field present. -/
def toJson (e : Event) : Json :=
  .record
    [("event_id", .str e.id.render), ("task_id", .ofText? e.task), ("event_type", .str e.type),
     ("payload", .obj e.payload), ("correlation_id", .ofText? e.correlation),
     ("created_at", e.createdAt.toJson)]

/-- Reads a record. -/
def ofJson? (v : Json) : Option Event := do
  let f ← v.fields? ["event_id", "task_id", "event_type", "payload", "correlation_id", "created_at"]
  some
    { id := ← f.required "event_id" fun v ↦ v.text?.bind Uuid.ofString?
      task := ← f.nullable "task_id" Json.text?
      type := ← f.required "event_type" Json.text?
      payload := ← f.required "payload" Json.members?
      correlation := ← f.nullable "correlation_id" Json.text?
      createdAt := ← f.required "created_at" Instant.ofJson? }

end Event

end Foreman
