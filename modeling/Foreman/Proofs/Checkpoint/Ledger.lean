import Foreman.Proofs.Checkpoint.Rounds
import Mathlib.Data.List.Induction

/-!
# What a checkpoint remembers of its history

A checkpoint is written under the version that the writer expects, and the store either saves the
write or refuses it. The **ledger** of a checkpoint is the list of the writes that were saved, read
off the answers that the store gave (`Memory.saves`). It is all that the checkpoint remembers of a
history, whatever else was asked of the store: what is stored under an identifier is a function of
its ledger and of nothing else (`find?_checkpoints_afterAll`), and so is the answer to the next
write (`checkpoint_of_ledger`).

A record that is absent is the record of an empty ledger, so that the version zero, which stands for
no checkpoint, and the number zero of saved writes are one thing. Versions have 64 bits with sign;
they are the number of saved writes brought into that range, which is this number itself for the
first `2 ^ 63 - 1` writes.
-/

namespace Foreman

open Time Store

namespace Store

/-- A write of a checkpoint that was saved. -/
structure Save where
  clock : Instant
  state : Payload
  taskState : Payload
deriving DecidableEq

/-- The write of this checkpoint that a call is, if the store saves it. -/
def Call.saved? (c : Call) (m : Memory) (id : String) : Option Save :=
  match c.request with
  | .saveCheckpoint other state taskState expected =>
    match (m.perform c.clock c.fresh (.saveCheckpoint other state taskState expected)).1 with
    | .ok (.saved _) => if other = id then some ⟨c.clock, state, taskState⟩ else none
    | _ => none
  | _ => none

/-- **The ledger** of a checkpoint over a history: the writes of it that were saved, the first one
first. -/
def Memory.saves (id : String) : Memory → List Call → List Save
  | _, [] => []
  | m, c :: rest => (c.saved? m id).toList ++ saves id (m.after c) rest

end Store

/-- The version behind so many saved writes. -/
def Checkpoint.versionAfter (writes : Nat) : Int :=
  Machine.wrap writes

/-- The checkpoint of a ledger: the payloads of the last write, under the number of all of them,
made with the first and updated with the last. -/
def Checkpoint.ofSaves? (id : String) (saves : List Save) : Option Checkpoint :=
  saves.getLast?.map fun last ↦
    ⟨id, last.state, last.taskState, versionAfter saves.length, (saves.headD last).clock,
      last.clock⟩

namespace Checkpoint

/-! ### Versions and ledgers -/

theorem versionAfter_zero : versionAfter 0 = 0 := rfl

theorem versionAfter_one : versionAfter 1 = 1 := rfl

theorem wrap_versionAfter_add_one (writes : Nat) :
    Machine.wrap (versionAfter writes + 1) = versionAfter (writes + 1) := by
  simp [versionAfter, Machine.wrap]

/-- The version is the number of writes, as long as it has its place in 64 bits. -/
theorem versionAfter_eq {writes : Nat} (h : (writes : Int) ≤ Machine.greatest) :
    versionAfter writes = writes := by
  refine Machine.wrap_of_isSigned (Machine.isSigned_iff.2 ⟨?_, h⟩)
  rw [Machine.least]
  omega

/-- Another write behind a ledger does not change which write is its first. -/
theorem headD_concat (saves : List Save) (s default : Save) :
    (saves ++ [s]).headD default = saves.headD s := by
  cases saves <;> rfl

theorem ofSaves?_concat (id : String) (saves : List Save) (s : Save) :
    ofSaves? id (saves ++ [s]) =
      some ⟨id, s.state, s.taskState, versionAfter (saves.length + 1), (saves.headD s).clock,
        s.clock⟩ := by
  simp [ofSaves?, -List.headD_eq_head?_getD, headD_concat]

/-- The version that the next write has to expect is that of the ledger. -/
theorem version_ofSaves? (id : String) (saves : List Save) :
    (snapshot (ofSaves? id saves)).1 = versionAfter saves.length := by
  induction saves using List.reverseRecOn with
  | nil => rfl
  | append_singleton saves s => simp [ofSaves?_concat, snapshot]

end Checkpoint

namespace Store

open Checkpoint (ofSaves? ofSaves?_concat headD_concat version_ofSaves? versionAfter
  versionAfter_zero versionAfter_one wrap_versionAfter_add_one)

variable {m : Memory} {id : String} {saves : List Save}

/-! ### One call -/

/-- A write that expects the version of the ledger is saved, and is the last of the ledger then. -/
theorem Memory.perform_saveCheckpoint_of_ledger (h : m.checkpoints.find? id = ofSaves? id saves)
    (clock : Instant) (fresh : Uuid) (state taskState : Payload) :
    (m.perform clock fresh
        (.saveCheckpoint id state taskState (versionAfter saves.length))).1 =
        .ok (.saved (versionAfter (saves.length + 1))) ∧
      (m.perform clock fresh
          (.saveCheckpoint id state taskState (versionAfter saves.length))).2.checkpoints.find? id =
        ofSaves? id (saves ++ [⟨clock, state, taskState⟩]) := by
  have hversion := version_ofSaves? id saves
  rw [← h] at hversion
  refine ⟨?_, ?_⟩
  · rw [(perform_saveCheckpoint_of_eq hversion ..).1, wrap_versionAfter_add_one]
  · rw [ofSaves?_concat]
    cases saves using List.reverseRecOn with
    | nil =>
      have hnone : m.checkpoints.find? id = none := h
      simp [perform, answered, saveCheckpoint, hnone, versionAfter_zero, versionAfter_one]
    | append_singleton saves s =>
      rw [ofSaves?_concat] at h
      rw [List.length_append, List.length_singleton]
      simp only [perform, answered, saveCheckpoint, h, if_true, Checkpoint.rewritten,
        wrap_versionAfter_add_one, Register.find?_insert_self, headD_concat]

/-- A write that expects another version is refused with that of the ledger, and changes nothing. -/
theorem Memory.perform_saveCheckpoint_of_stale (h : m.checkpoints.find? id = ofSaves? id saves)
    {expected : Int} (hne : expected ≠ versionAfter saves.length) (clock : Instant) (fresh : Uuid)
    (state taskState : Payload) :
    m.perform clock fresh (.saveCheckpoint id state taskState expected) =
      (.ok (.conflict (versionAfter saves.length)), m) := by
  have hversion := version_ofSaves? id saves
  rw [← h] at hversion
  rw [perform_saveCheckpoint_of_ne (by rw [hversion]; exact hne.symm), hversion]

/-- A call that does not write the checkpoint is none of its saved writes. -/
theorem Call.saved?_eq_none {c : Call} (h : ¬ c.WritesCheckpoint id) : c.saved? m id = none := by
  obtain ⟨clock, fresh, request⟩ := c
  cases request with
  | saveCheckpoint other state taskState expected =>
    have hne : other ≠ id := by
      rintro rfl
      exact h ⟨state, taskState, expected, rfl⟩
    simp only [saved?, if_neg hne]
    split <;> rfl
  | _ => rfl

/-- **One call** writes into the ledger of a checkpoint what it saves of it, and nothing else
happens to the checkpoint. -/
theorem Memory.find?_checkpoints_after_of_ledger (h : m.checkpoints.find? id = ofSaves? id saves)
    (c : Call) :
    (m.after c).checkpoints.find? id = ofSaves? id (saves ++ (c.saved? m id).toList) := by
  by_cases hwrites : c.WritesCheckpoint id
  · obtain ⟨clock, fresh, request⟩ := c
    obtain ⟨state, taskState, expected, rfl⟩ := hwrites
    by_cases hexpected : expected = versionAfter saves.length
    · rw [hexpected]
      obtain ⟨hanswer, hfind⟩ := perform_saveCheckpoint_of_ledger h clock fresh state taskState
      have hsaved : Call.saved? ⟨clock, fresh, .saveCheckpoint id state taskState
          (versionAfter saves.length)⟩ m id = some ⟨clock, state, taskState⟩ := by
        simp only [Call.saved?, hanswer, if_true]
      rw [hsaved, Option.toList_some, Memory.after]
      exact hfind
    · have hstale := perform_saveCheckpoint_of_stale h hexpected clock fresh state taskState
      simp only [Call.saved?, Memory.after, hstale, h, Option.toList_none, List.append_nil]
  · rw [find?_checkpoints_after hwrites, h, Call.saved?_eq_none hwrites, Option.toList_none,
      List.append_nil]

/-! ### Histories -/

/-- **A checkpoint is a function of its ledger.** -/
theorem Memory.find?_checkpoints_afterAll (h : m.checkpoints.find? id = ofSaves? id saves)
    (calls : List Call) :
    (m.afterAll calls).checkpoints.find? id = ofSaves? id (saves ++ m.saves id calls) := by
  induction calls generalizing m saves with
  | nil => simp [Memory.saves, h]
  | cons c rest ih =>
    rw [afterAll_cons, ih (find?_checkpoints_after_of_ledger h c), List.append_assoc]
    rfl

/-- **The next write of a checkpoint**, behind any history of a store that began empty. It is saved
if and only if it expects the version of the ledger, which is the number of writes saved so far, as
long as the next number has its place in 64 bits. Then it is answered the version that follows, and
the checkpoint holds exactly what was written, made with the first write of the ledger; otherwise it
is answered the version of the ledger, and the store stays as it is. A checkpoint is left alone by
every call that does not write that very checkpoint. -/
theorem saveCheckpoint_of_history (calls : List Call) (id : String) (clock : Instant)
    (fresh : Uuid) (state taskState : Payload) (expected : Int) :
    let m := Memory.afterAll {} calls
    let saves := Memory.saves id {} calls
    let write := m.perform clock fresh (.saveCheckpoint id state taskState expected)
    ((∃ version, write.1 = .ok (.saved version)) ↔ expected = versionAfter saves.length) ∧
    (expected = versionAfter saves.length →
      write.1 = .ok (.saved (versionAfter (saves.length + 1))) ∧
      write.2.checkpoints.find? id = some ⟨id, state, taskState, versionAfter (saves.length + 1),
        (saves.headD ⟨clock, state, taskState⟩).clock, clock⟩) ∧
    (expected ≠ versionAfter saves.length →
      write = (.ok (.conflict (versionAfter saves.length)), m)) ∧
    ((saves.length : Int) < Machine.greatest → versionAfter saves.length = saves.length ∧
      versionAfter (saves.length + 1) = saves.length + 1) ∧
    ∀ (other : String) (c : Call), ¬ c.WritesCheckpoint other →
      (m.after c).checkpoints.find? other = m.checkpoints.find? other := by
  intro m saves write
  have hempty : ({} : Memory).checkpoints.find? id = ofSaves? id [] := rfl
  have hledger : m.checkpoints.find? id = ofSaves? id saves :=
    Memory.find?_checkpoints_afterAll hempty calls
  have hsaved : expected = versionAfter saves.length →
      write.1 = .ok (.saved (versionAfter (saves.length + 1))) ∧
      write.2.checkpoints.find? id = some ⟨id, state, taskState, versionAfter (saves.length + 1),
        (saves.headD ⟨clock, state, taskState⟩).clock, clock⟩ := by
    intro hexpected
    have hwrite := Memory.perform_saveCheckpoint_of_ledger hledger clock fresh state taskState
    rw [ofSaves?_concat, ← hexpected] at hwrite
    exact hwrite
  have hstale : expected ≠ versionAfter saves.length →
      write = (.ok (.conflict (versionAfter saves.length)), m) :=
    fun hne ↦ Memory.perform_saveCheckpoint_of_stale hledger hne clock fresh state taskState
  refine ⟨⟨?_, fun hexpected ↦ ⟨_, (hsaved hexpected).1⟩⟩, hsaved, hstale, ?_,
    fun other c ↦ Memory.find?_checkpoints_after⟩
  · rintro ⟨version, hversion⟩
    by_contra hne
    rw [hstale hne] at hversion
    cases hversion
  · intro hroom
    exact ⟨Checkpoint.versionAfter_eq (by omega), Checkpoint.versionAfter_eq hroom⟩

/-- Behind one saved write, one that was refused and one of another task, a checkpoint is at its
first version, whatever the writer that is refused says. -/
theorem saveCheckpoint_behind_conflict :
    let calls : List Call :=
      [⟨⟨1, 0⟩, ⟨1⟩, .saveCheckpoint "x" [] [] 0⟩, ⟨⟨2, 0⟩, ⟨2⟩, .saveCheckpoint "x" [] [] 0⟩,
        ⟨⟨3, 0⟩, ⟨3⟩, .saveCheckpoint "y" [] [] 0⟩]
    let m := Memory.afterAll {} calls
    (m.perform ⟨4, 0⟩ ⟨4⟩ (.saveCheckpoint "x" [] [] 1)).1 = .ok (.saved 2) ∧
      m.perform ⟨4, 0⟩ ⟨4⟩ (.saveCheckpoint "x" [] [] (-1)) = (.ok (.conflict 1), m) ∧
      (m.after ⟨⟨4, 0⟩, ⟨4⟩, .saveCheckpoint "y" [] [] 1⟩).checkpoints.find? "x" =
        m.checkpoints.find? "x" ∧
      versionAfter (Memory.saves "x" {} calls).length = 1 := by
  intro calls m
  obtain ⟨-, hsaved, -, hroom, hothers⟩ :=
    saveCheckpoint_of_history calls "x" ⟨4, 0⟩ ⟨4⟩ [] [] 1
  obtain ⟨-, -, hstale, -⟩ := saveCheckpoint_of_history calls "x" ⟨4, 0⟩ ⟨4⟩ [] [] (-1)
  have hlength : (Memory.saves "x" {} calls).length = 1 := rfl
  rw [hlength] at hsaved hstale hroom
  refine ⟨(hsaved rfl).1, hstale (by decide), hothers "x" _ ?_, ?_⟩
  · rintro ⟨_, _, _, hrequest⟩
    have hid : "y" = "x" := (Request.saveCheckpoint.inj hrequest).1
    exact absurd hid (by decide)
  · rw [hlength]
    exact (hroom (by decide)).1

end Store

end Foreman
