import Foreman.Text.Blank

/-!
# Task status

The six positions in the life of a task. Reading a status never fails: a word that names none of them
puts the task back to the queue, so a record written by a newer or a careless client is retried and not
lost.
-/

namespace Foreman

/-- Where a task stands. -/
inductive Status where
  | queued
  | running
  | waitingUser
  | paused
  | done
  | failed
deriving DecidableEq, Repr, Inhabited

namespace Status

/-- Every status, in the order of their declaration. -/
def all : List Status :=
  [queued, running, waitingUser, paused, done, failed]

/-- The written name. -/
def name : Status → String
  | queued => "queued"
  | running => "running"
  | waitingUser => "waiting_user"
  | paused => "paused"
  | done => "done"
  | failed => "failed"

/-- Reads a name, blanks around it and the case of its letters aside; every other word is `queued`. -/
def ofString (s : String) : Status :=
  match Text.lowerAscii (Text.trim s) with
  | "running" => running
  | "waiting_user" => waitingUser
  | "paused" => paused
  | "done" => done
  | "failed" => failed
  | _ => queued

/-- The task has ended. -/
def isTerminal : Status → Bool
  | done | failed => true
  | _ => false

theorem isTerminal_eq_false_iff {s : Status} : s.isTerminal = false ↔ s ≠ done ∧ s ≠ failed := by
  cases s <;> simp [isTerminal]

/-- The task may be picked up. -/
def isSchedulable : Status → Bool
  | queued | running => true
  | _ => false

end Status

end Foreman
