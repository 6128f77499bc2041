import Foreman.Checkpoint.Update
import Foreman.Proofs.Plan
import Foreman.Proofs.Store.History

/-!
# Updating a checkpoint, round by round

`Checkpoint.update` is written as one attempt after the other, each of which reports what the change
was applied to. Whoever stops it between two of its requests sees something simpler: either it is
about to read, or it has read and is about to write over the version that it read.
`update_eq_rounds` says that this is all there is to it.

The other half of the story is the store's: `perform_saveCheckpoint_of_eq` and
`perform_saveCheckpoint_of_ne` describe a guarded write by the **snapshot** of the record alone, so
that a record that is absent is the record of version zero and needs no case of its own.
-/

namespace Foreman

open Time Store

namespace Checkpoint

variable {task : String} {change : Change}

/-! ### The rounds of an update -/

/-- The second half of a round: the change of what was read is written over the version that was
read. -/
def writing (task : String) (change : Change) (seen : Int × Payload × Payload)
    (onConflict : Int → Int → Work StoreError Int) : Work StoreError Int :=
  let changed := change seen.2.1 seen.2.2
  .ask (.store (.saveCheckpoint task changed.1 changed.2 seen.1)) fun
    | .error h => .halt h
    | .ok (.saved version) => .done version
    | .ok (.conflict stored) => onConflict seen.1 stored

/-- A whole round: the checkpoint is read, and what was read goes into the second half. -/
def reading (task : String) (change : Change) (onConflict : Int → Int → Work StoreError Int) :
    Work StoreError Int :=
  .ask (.store (.getCheckpoint task)) fun
    | .error h => .halt h
    | .ok current => writing task change (snapshot current) onConflict

/-- What follows a conflict while so many more rounds are allowed. -/
def retry (task : String) (change : Change) : Nat → Int → Int → Work StoreError Int
  | 0, expected, stored => .halt (.error (.checkpointConflict task expected stored))
  | more + 1, _, _ => reading task change (retry task change more)

/-- At most `more + 1` rounds. -/
def rounds (task : String) (change : Change) (more : Nat) : Work StoreError Int :=
  reading task change (retry task change more)

@[simp] theorem retry_succ (more : Nat) (expected stored : Int) :
    retry task change (more + 1) expected stored = rounds task change more := rfl

/-- The answer of an update, once it is known what it did. -/
def Update.version (u : Update) : Work StoreError Int :=
  .ofExcept (u.result.mapError .error)

/-- An attempt is a round, when what follows its conflicts is the same. -/
theorem attempt_bind_version {onConflict : Int → Int → Work Empty Update}
    {onConflict' : Int → Int → Work StoreError Int}
    (h : ∀ expected stored,
      ((onConflict expected stored).mapError nofun >>= Update.version) =
        onConflict' expected stored) :
    ((attempt task change onConflict).mapError nofun >>= Update.version) =
      reading task change onConflict' := by
  have hafter (seen : Payload × Payload) (expected stored : Int) :
      (((onConflict expected stored).mapError nofun >>= fun rest ↦ .done (rest.after seen)) >>=
        Update.version) = onConflict' expected stored := by
    rw [Plan.bind_bind, ← h]
    rfl
  simp only [attempt, reading, Work.store, Plan.attempt, Plan.ask_bind, Plan.mapError]
  congr 1
  funext reply
  rcases reply with (e | _) | current
  · rfl
  · rfl
  · simp only [Plan.ofExcept, Plan.attempt, Plan.done_bind, Plan.ask_bind, Plan.mapError, writing]
    congr 1
    funext reply
    rcases reply with (e | _) | (version | stored)
    · rfl
    · rfl
    · rfl
    · simpa only [Plan.ofExcept, Plan.attempt, Plan.done_bind, Plan.mapError_bind, Plan.pure_eq,
        Plan.mapError] using hafter _ _ stored

theorem updateWithin_bind_version (more : Nat) :
    ((updateWithin task change more).mapError nofun >>= Update.version) =
      rounds task change more := by
  induction more with
  | zero => exact attempt_bind_version fun _ _ ↦ rfl
  | succ more ih => exact attempt_bind_version fun _ _ ↦ ih

/-- **An update is its rounds**: one, and one more for each attempt beyond the first. -/
theorem update_eq_rounds (task : String) (attempts : Nat) (change : Change) :
    update task attempts change = rounds task change (attempts - 1) :=
  updateWithin_bind_version (attempts - 1)

end Checkpoint

/-! ### Guarded writes -/

namespace Store

open Checkpoint (snapshot)

variable {m : Memory} {clock : Instant} {fresh : Uuid} {id : String} {expected : Int}

/-- A write over the version that is stored is done, whether there is a record yet or not. -/
theorem Memory.perform_saveCheckpoint_of_eq (h : (snapshot (m.checkpoints.find? id)).1 = expected)
    (clock : Instant) (fresh : Uuid) (state taskState : Payload) :
    (m.perform clock fresh (.saveCheckpoint id state taskState expected)).1 =
        .ok (.saved (Machine.wrap (expected + 1))) ∧
      snapshot ((m.perform clock fresh
          (.saveCheckpoint id state taskState expected)).2.checkpoints.find? id) =
        (Machine.wrap (expected + 1), state, taskState) := by
  subst h
  cases hc : m.checkpoints.find? id with
  | none =>
    have hone : Machine.wrap 1 = 1 := rfl
    simp [perform, answered, saveCheckpoint, hc, snapshot, hone]
  | some c => simp [perform, answered, saveCheckpoint, hc, snapshot, Checkpoint.rewritten]

/-- A write over another version is refused and changes nothing. -/
theorem Memory.perform_saveCheckpoint_of_ne {state taskState : Payload}
    (h : (snapshot (m.checkpoints.find? id)).1 ≠ expected) :
    m.perform clock fresh (.saveCheckpoint id state taskState expected) =
      (.ok (.conflict (snapshot (m.checkpoints.find? id)).1), m) := by
  cases hc : m.checkpoints.find? id with
  | none =>
    have hne : expected ≠ 0 := fun h0 ↦ h (by rw [hc, h0, snapshot])
    simp [perform, answered, saveCheckpoint, hc, snapshot, hne]
  | some c =>
    have hne : c.version ≠ expected := by simpa [hc, snapshot] using h
    simp [perform, answered, saveCheckpoint, hc, snapshot, hne]

/-- The call writes the checkpoint of a task, or tries to. -/
def Call.WritesCheckpoint (c : Call) (id : String) : Prop :=
  ∃ state taskState expected, c.request = .saveCheckpoint id state taskState expected

/-- Whatever does not write a checkpoint leaves it. -/
theorem Memory.find?_checkpoints_after {c : Call} (h : ¬ c.WritesCheckpoint id) :
    (m.after c).checkpoints.find? id = m.checkpoints.find? id := by
  obtain ⟨clock, fresh, request⟩ := c
  cases request with
  | saveCheckpoint other state taskState expected =>
    have hne : id ≠ other := by
      rintro rfl
      exact h ⟨state, taskState, expected, rfl⟩
    simp only [after, perform, answered, saveCheckpoint]
    split <;> split <;> simp [Register.find?_insert_of_ne hne]
  | _ =>
    simp only [after, perform, withTasks, answered, acquireLease, releaseLease, reschedule,
      appendEvent, upsert]
    repeat' split
    all_goals rfl

end Store

end Foreman
