import Foreman.Json.Fields
import Foreman.Time.Json
import Foreman.Uuid

/-!
# Signals

A signal is an immutable, typed message on the bus. Its payload is free; two names in it have a meaning
everywhere: `depth`, how many outcomes of actions led to the signal, and `task_id`.

What a signal does not say for itself comes from its **birth**: two fresh identifiers and the time.
-/

namespace Foreman

open Time

/-- A message routed through the bus. -/
structure Signal where
  id : Uuid
  type : String
  payload : Payload
  source : String
  correlation : String
  createdAt : Instant
  /-- A durable signal is written to the event log before it is put on the bus. -/
  durable : Bool
deriving DecidableEq

namespace Signal

/-- What a signal gets when it is made. -/
structure Birth where
  id : Uuid
  correlation : Uuid
  at_ : Instant
deriving DecidableEq

/-! ### Making signals -/

/-- A signal of some type, without payload and source. -/
def new (birth : Birth) (type : String) : Signal :=
  ⟨birth.id, type, [], "", birth.correlation.render, birth.at_, false⟩

/-- Replaces the payload. -/
def withPayload (s : Signal) (payload : Payload) : Signal :=
  { s with payload := payload }

/-- Puts one value into the payload. -/
def withField (s : Signal) (key : String) (value : Json) : Signal :=
  { s with payload := Keyed.insert key value s.payload }

/-- Names the source. -/
def withSource (s : Signal) (source : String) : Signal :=
  { s with source := source }

/-- Sets the correlation id; the empty one is ignored. -/
def withCorrelation (s : Signal) (correlation : String) : Signal :=
  if correlation = "" then s else { s with correlation := correlation }

/-- Makes the signal durable. -/
def makeDurable (s : Signal) : Signal :=
  { s with durable := true }

theorem correlation_withCorrelation {s : Signal} {c : String} (h : c ≠ "") :
    (s.withCorrelation c).correlation = c := by
  simp [withCorrelation, h]

/-! ### Views -/

/-- The text under a name of the payload. -/
def text? (s : Signal) (key : String) : Option String :=
  Payload.text? key s.payload

/-- The depth of feedback, zero when the payload holds none. -/
def depth (s : Signal) : Nat :=
  ((Keyed.find? "depth" s.payload).bind Json.unsigned?).getD 0

/-! ### Record form -/

/-- The record as a JSON object, every field present. -/
def toJson (s : Signal) : Json :=
  .record
    [("id", .str s.id.render), ("type", .str s.type), ("payload", .obj s.payload),
     ("source", .str s.source), ("correlation_id", .str s.correlation),
     ("created_at", s.createdAt.toJson), ("durable", .bool s.durable)]

/-- Reads a record. Only the type is required. -/
def ofJson? (birth : Birth) (v : Json) : Option Signal := do
  let f ← v.fields?
    ["id", "type", "payload", "source", "correlation_id", "created_at", "durable"]
  some
    { id := ← f.defaulted "id" (fun v ↦ v.text?.bind Uuid.ofString?) birth.id
      type := ← f.required "type" Json.text?
      payload := ← f.defaulted "payload" Json.members? []
      source := ← f.defaulted "source" Json.text? ""
      correlation := ← f.defaulted "correlation_id" Json.text? birth.correlation.render
      createdAt := ← f.defaulted "created_at" Instant.ofJson? birth.at_
      durable := ← f.defaulted "durable" Json.bool? false }

end Signal

end Foreman
