import Foreman.Work

/-!
# Updating a checkpoint

Read, change, write under the version that was read; when another writer came in between, again from the
reading, a bounded number of times. The change is a function of both payloads and may be applied more
than once; the version that is written over is always the one that the change was applied to.
-/

namespace Foreman.Checkpoint

open Store

/-- A change of state and task state. -/
abbrev Change := Payload → Payload → Payload × Payload

/-- The version and the payloads of a checkpoint, zero and empty when there is none. -/
def snapshot : Option Checkpoint → Int × Payload × Payload
  | some c => (c.version, c.state, c.taskState)
  | none => (0, [], [])

/-- A change that is described and not programmed. -/
structure Edit where
  /-- Both payloads are emptied first. -/
  clear : Bool := false
  /-- Members put into the state. -/
  set : Payload := []
  /-- Members put into the task state. -/
  taskSet : Payload := []
  /-- A counter of the state that is raised by one; what is no number counts as zero. -/
  increment : Option String := none

/-- Reads an edit; a part that is missing or null changes nothing. -/
def Edit.ofJson? (v : Json) : Option Edit := do
  let m ← v.members?
  let given (key : String) : Option Json := (Keyed.find? key m).filter (· != .null)
  some
    { clear := ← ((given "clear").map Json.bool?).getD (some false)
      set := ← ((given "set").map Json.members?).getD (some [])
      taskSet := ← ((given "task_set").map Json.members?).getD (some [])
      increment := ← ((given "incr").map fun x ↦ x.text?.map some).getD (some none) }

/-- The integer under a name, zero when there is none. -/
def counter (key : String) (state : Payload) : Int :=
  ((Keyed.find? key state).bind Json.signed?).getD 0

/-- The change that an edit describes. -/
def Edit.apply (e : Edit) : Change := fun state taskState ↦
  let state := Keyed.merge (if e.clear then [] else state) e.set
  let taskState := Keyed.merge (if e.clear then [] else taskState) e.taskSet
  match e.increment with
  | some key => (Keyed.insert key (.int (Machine.wrap (counter key state + 1))) state, taskState)
  | none => (state, taskState)

/-- What an update did. -/
structure Update where
  /-- The payloads that the change was applied to, first attempt first. -/
  seen : List (Payload × Payload)
  /-- The version written, or why none was. -/
  result : Except StoreError Int

/-- Adds the payloads of one attempt in front. -/
def Update.after (seen : Payload × Payload) (u : Update) : Update :=
  { u with seen := seen :: u.seen }

/-- One attempt: read, change, write. What follows a conflict is given, as a function of the version
expected and the version stored. -/
def attempt (task : String) (change : Change) (onConflict : Int → Int → Work Empty Update) :
    Work Empty Update := do
  match ← (Work.store (.getCheckpoint task)).attempt with
  | .error e => pure ⟨[], .error e⟩
  | .ok current =>
    let (version, state, taskState) := snapshot current
    let (state', taskState') := change state taskState
    match ← (Work.store (.saveCheckpoint task state' taskState' version)).attempt with
    | .error e => pure ⟨[(state, taskState)], .error e⟩
    | .ok (.saved v) => pure ⟨[(state, taskState)], .ok v⟩
    | .ok (.conflict stored) => do
      let rest ← onConflict version stored
      pure (rest.after (state, taskState))

/-- At most `more + 1` attempts. -/
def updateWithin (task : String) (change : Change) : (more : Nat) → Work Empty Update
  | 0 => attempt task change fun expected stored ↦
      pure ⟨[], .error (.checkpointConflict task expected stored)⟩
  | more + 1 => attempt task change fun _ _ ↦ updateWithin task change more

/-- **Updates a checkpoint** in at most `attempts` attempts, but at least one, and reports what the
change was applied to. -/
def updateReporting (task : String) (attempts : Nat) (change : Change) : Work Empty Update :=
  updateWithin task change (attempts - 1)

/-- Updates a checkpoint and answers the version written. -/
def update (task : String) (attempts : Nat) (change : Change) : Work StoreError Int := do
  let u ← (updateReporting task attempts change).mapError nofun
  Plan.ofExcept (u.result.mapError .error)

end Foreman.Checkpoint
