import Foreman.Runner.Tick
import Foreman.Shutdown

/-!
# The runner's loop

A tick, a wait, and again. A tick that fails is made up for by the next one; a nudge ends the wait, so the
next tick follows at once.
-/

namespace Foreman.Runner

/-- Ticks a number of times; errors are passed over. -/
def tickTimes (r : Runner) : (rounds : Nat) → Work Empty Runner
  | 0 => pure r
  | rounds + 1 => do
    let now ← Work.clock
    match ← (r.tick now).attempt with
    | .ok (_, r) => r.tickTimes rounds
    | .error _ => r.tickTimes rounds

/-- The number of ticks before a shutdown: one at once, one after each wait that runs out, and one at the
nudge. -/
def rounds (r : Runner) (shutdown : Shutdown) : Nat :=
  let interval := r.config.pollIntervalMs
  if shutdown.raised then 0
  else 1 + shutdown.timeoutsBefore interval
    + (match shutdown.nudge with
      | some _ => 1 + shutdown.timeoutsBehind interval
      | none => 0)

/-- **The loop**, until it is shut down. -/
def loop (r : Runner) (shutdown : Shutdown) : Work Empty Runner :=
  r.tickTimes (r.rounds shutdown)

end Foreman.Runner
