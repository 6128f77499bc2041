import Foreman.Store.Memory

/-!
# A store for rehearsals

A store in memory whose failures are planned: some requests are refused, some leases are lost to another
worker, and some checkpoints are written by somebody else just before they are written. It serves to
rehearse how runners and handlers behave when the store does not cooperate; with nothing planned it is
the store in memory.
-/

namespace Foreman.Store

open Time

/-- A store in memory and what is planned for it. -/
structure Rehearsal where
  memory : Memory := {}
  /-- The names of the requests that are refused; `append_event:` and a type refuses those events
  only. -/
  refused : List String := []
  /-- The tasks whose leases always go to another worker. -/
  contended : List String := []
  /-- How many more checkpoints are written by another writer first. -/
  races : Nat := 0
deriving Inhabited

namespace Rehearsal

/-- Whether a request is refused. -/
def refuses (r : Rehearsal) (request : Request) : Bool :=
  r.refused.contains request.name ||
    match request with
    | .appendEvent _ type _ _ => r.refused.contains ("append_event:" ++ type)
    | _ => false

/-- What the other writer makes of a state: it counts its own writes. -/
def raced (state : Payload) : Payload :=
  let n := ((Keyed.find? "raced" state).bind Json.signed?).getD 0
  Keyed.insert "raced" (.int (Machine.wrap (n + 1))) state

/-- The other writer's write. -/
def race (r : Rehearsal) (clock : Instant) (id : String) : Rehearsal :=
  match r.races with
  | 0 => r
  | n + 1 =>
    let (version, state, taskState) : Int × Payload × Payload :=
      match r.memory.checkpoints.find? id with
      | some c => (c.version, c.state, c.taskState)
      | none => (0, [], [])
    { r with races := n, memory := (r.memory.saveCheckpoint clock id (raced state) taskState version).2 }

/-- Passes a request on to the store in memory. -/
def pass (r : Rehearsal) (clock : Instant) (fresh : Uuid) (request : Request) :
    Except (Halt StoreError) request.Value × Rehearsal :=
  let (value, memory) := r.memory.perform clock fresh request
  (value, { r with memory := memory })

/-- Carries out one request, unless something else is planned for it. -/
def perform (r : Rehearsal) (clock : Instant) (fresh : Uuid) (request : Request) :
    Except (Halt StoreError) request.Value × Rehearsal :=
  if r.refuses request then (.error (.error .lockPoisoned), r)
  else
    match request with
    | .acquireLease id worker seconds now =>
      if r.contended.contains id then (.ok false, r)
      else r.pass clock fresh (.acquireLease id worker seconds now)
    | .saveCheckpoint id state taskState expected =>
      (r.race clock id).pass clock fresh (.saveCheckpoint id state taskState expected)
    | other => r.pass clock fresh other

end Rehearsal

end Foreman.Store
