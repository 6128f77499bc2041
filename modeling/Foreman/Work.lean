import Foreman.Plan
import Foreman.Signal
import Foreman.Store.Request
import Foreman.Webhook.Message

/-!
# Work

The questions that runners, dispatchers and handlers ask of the world around them: requests to the
store, the time, fresh identifiers, the bus and the collaborator. `Work` is the type of plans over these
questions.
-/

namespace Foreman

open Time Store

/-- A question to the surrounding world. -/
inductive Ask where
  | store (request : Request)
  | clock
  | freshId
  /-- Whether somebody still holds the receiving end of the bus. -/
  | busOpen
  /-- Puts a signal on the bus; the answer says whether anybody can receive it. -/
  | enqueue (signal : Signal)
  /-- Takes the oldest signal off the bus, if there is one. -/
  | receive
  /-- Posts a document to a collaborator; there is no answer when it cannot be sent. -/
  | post (document : Webhook.Post)
deriving DecidableEq

/-- The answers to a question. -/
abbrev Ask.Reply : Ask → Type
  | store request => Except (Halt StoreError) request.Value
  | clock => Instant
  | freshId => Uuid
  | busOpen => Bool
  | enqueue _ => Bool
  | receive => Option Signal
  | post _ => Option Webhook.Answer

/-- A plan over the questions of the world. -/
abbrev Work (ε α : Type) := Plan Ask.Reply ε α

namespace Work

variable {ε : Type}

/-- Makes one request; a halt of the store is a halt of the work. -/
def store (request : Request) : Work StoreError request.Value :=
  .ask (.store request) .ofExcept

/-- The time. -/
def clock : Work ε Instant :=
  .question Ask.clock

/-- A fresh identifier. -/
def freshId : Work ε Uuid :=
  .question Ask.freshId

/-- What a new signal gets. -/
def birth : Work ε Signal.Birth := do
  let id ← freshId
  let correlation ← freshId
  let now ← clock
  pure ⟨id, correlation, now⟩

end Work

end Foreman
