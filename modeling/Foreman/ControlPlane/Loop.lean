import Foreman.ControlPlane.Dispatcher
import Foreman.Shutdown

/-!
# The dispatcher's loop

Signals are taken off the bus and dispatched as long as there are any; then the loop waits, and each
time the wait runs out the housekeepers run. A nudge only restarts the wait.
-/

namespace Foreman.ControlPlane.Dispatcher

/-- One signal, what became of it, and the key of the state behind it. -/
structure Dispatched where
  signal : Signal
  report : DispatchReport
  state : String

/-- The signal as its type, depth, source, correlation and payload, with the report and the state. -/
def Dispatched.toJson (d : Dispatched) : Json :=
  .record
    [("signal", .record
       [("type", .str d.signal.type), ("depth", .int d.signal.depth),
        ("source", .str d.signal.source), ("correlation_id", .str d.signal.correlation),
        ("payload", .obj d.signal.payload)]),
     ("report", d.report.toJson), ("state", .str d.state)]

/-- Takes and dispatches signals until none is left, at most `limit` of them. -/
def pump (d : Dispatcher) : (limit : Nat) → Work Empty (List Dispatched × Dispatcher)
  | 0 => pure ([], d)
  | limit + 1 => do
    match ← Plan.question Ask.receive with
    | none => pure ([], d)
    | some signal =>
      let (report, next) ← d.dispatch signal
      let (more, last) ← next.pump limit
      pure (⟨signal, report, next.current.key⟩ :: more, last)

/-- Runs the housekeepers a number of times, the bus drained after each. -/
def serve (d : Dispatcher) (limit : Nat) : (rounds : Nat) → Work Empty Dispatcher
  | 0 => pure d
  | rounds + 1 => do
    let d ← d.housekeep
    let (_, d) ← d.pump limit
    d.serve limit rounds

/-- **The loop**, until it is shut down. At most `limit` signals are taken between two waits. -/
def loop (d : Dispatcher) (limit : Nat) (shutdown : Shutdown) : Work Empty Dispatcher :=
  if shutdown.raised then pure d
  else do
    let (_, d) ← d.pump limit
    let interval := d.config.tickIntervalMs
    d.serve limit (shutdown.timeoutsBefore interval + shutdown.timeoutsBehind interval)

end Foreman.ControlPlane.Dispatcher
