/-!
# Shutting down

Runners and dispatchers loop until they are told to stop. What they are told is a course of events in
loop time: the flag may be up from the beginning; it may be put down again at some moment, which
interrupts whoever waits; in the end it goes up, or whoever held it goes away, which comes to the same.

Nothing but waiting takes loop time, so between two of these events a loop that waits for some interval
is timed out a number of times that is plain division.
-/

namespace Foreman

/-- The course of a shutdown, in milliseconds of loop time. -/
structure Shutdown where
  /-- The flag is up from the beginning. -/
  raised : Bool := false
  /-- When the flag is put down again. -/
  nudge : Option Nat := none
  /-- When the loop ends, the nudge aside. -/
  after : Nat
deriving DecidableEq, Repr

namespace Shutdown

/-- How often an interval passes strictly within a stretch of time. -/
def timeouts (stretch interval : Nat) : Nat :=
  (stretch - 1) / max interval 1

/-- How often a wait of that interval times out before the nudge. -/
def timeoutsBefore (s : Shutdown) (interval : Nat) : Nat :=
  timeouts (s.nudge.getD s.after) interval

/-- How often a wait of that interval times out behind the nudge. -/
def timeoutsBehind (s : Shutdown) (interval : Nat) : Nat :=
  match s.nudge with
  | some n => timeouts (s.after - n) interval
  | none => 0

end Shutdown

end Foreman
