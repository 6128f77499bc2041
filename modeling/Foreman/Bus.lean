import Foreman.Failure
import Foreman.Vocabulary
import Foreman.Work

/-!
# The signal bus

The bus is a queue with any number of emitters and one receiver. It does no routing. A durable signal is
written to the event log **before** it is put on the queue, so that nothing is delivered unrecorded; a
bus without a log records nothing.
-/

namespace Foreman

open Store

/-- Why a signal was not put on the bus. -/
inductive BusError where
  /-- The receiver is gone. -/
  | closed
  /-- The log refused the entry of a durable signal. -/
  | persist (e : StoreError)
deriving DecidableEq, Repr

namespace BusError

/-- The wording of an error. -/
def message : BusError → String
  | closed => "signal bus closed"
  | persist e => s!"failed to persist durable signal: {e.message}"

/-- The failure that an error of the bus is; its text already contains that of its cause. -/
def toFailure : BusError → Failure
  | closed => .because (message closed)
  | persist e => (Failure.ofStore e).inContext (persist e).message

end BusError

/-- The emitting end of the bus. -/
structure Bus where
  /-- Durable signals go to the log. -/
  audited : Bool
deriving DecidableEq, Repr

namespace Bus

/-- What the log says about a durable signal. -/
def auditPayload (s : Signal) : Payload :=
  Keyed.ofList
    [("signal_id", .str s.id.render), ("signal_type", .str s.type), ("source", .str s.source),
     ("payload", .obj s.payload)]

/-- The request that records a durable signal. -/
def auditRequest (s : Signal) : Request :=
  .appendEvent (s.text? "task_id") EventType.signalEmitted (auditPayload s) (some s.correlation)

/-- Records a signal, if it has to be. -/
def record (bus : Bus) (s : Signal) : Work BusError Unit :=
  if s.durable && bus.audited then do
    let _ ← (Work.store (auditRequest s)).mapError .persist
  else pure ()

/-- **Puts a signal on the bus.** -/
def emit (bus : Bus) (s : Signal) : Work BusError Unit := do
  let isOpen ← Plan.question Ask.busOpen
  if isOpen then
    bus.record s
    let received ← Plan.question (Ask.enqueue s)
    if received then pure () else Plan.fail .closed
  else Plan.fail .closed

end Bus

end Foreman
