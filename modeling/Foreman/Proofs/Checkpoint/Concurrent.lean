import Foreman.Proofs.Checkpoint.Rounds
import Foreman.Proofs.Interleaving
import Mathlib.Data.Fintype.Card

/-!
# No update of a checkpoint is lost

Any number of clients update the checkpoint of one task at the same time, each with a change of its
own and with as many attempts as there are clients. However their requests are interleaved, and
whatever else is asked of the store in between, every update lands, exactly once, and the versions
answered are the order in which they landed (`update_lands`).

## The record of what has landed

The proof follows one list: the clients whose write went through, in the order in which they wrote.
It only grows, and it determines what is stored (`reached`). Each client stands in one of three
places (`Stands`): it is about to read; or it has read, and what it read is what was stored when
some first part of the list had landed; or it is in the list, and has answered its place there.

## Why there are enough attempts

A write is refused only when somebody landed since the client has read. So each refusal of one
client is paid for by the landing of another, a client lands once, and a client that is not done yet
can have been refused at most `n - 1` times. `Stands` keeps this account twice: once for the rounds
that are left and once for the turns that were taken, which bounds the turns that a client needs by
`2 * n`.
-/

namespace Foreman.Checkpoint

open Store

variable {n : Nat}

section Landing

variable (task : String) (changes : Fin n → Change) (start : Int × Payload × Payload)

/-- The version and the payloads once these clients have written, one after the other. -/
def reached (landed : List (Fin n)) : Int × Payload × Payload :=
  (start.1 + landed.length, landed.foldl (fun stored i ↦ changes i stored.1 stored.2) start.2)

@[simp] theorem reached_nil : reached changes start [] = start := by
  simp [reached]

/-- One more client writes its change of what is stored. -/
theorem reached_concat (landed : List (Fin n)) (i : Fin n) :
    reached changes start (landed ++ [i]) =
      ((reached changes start landed).1 + 1,
        changes i (reached changes start landed).2.1 (reached changes start landed).2.2) := by
  simp [reached, List.foldl_append, Int.add_assoc]

/-- Where a client stands, after these clients have landed and this client has had so many turns. -/
inductive Stands (landed : List (Fin n)) (i : Fin n) (turns : Nat) :
    Work StoreError Int → Prop where
  /-- It is about to read. -/
  | reading (more : Nat) (hi : i ∉ landed) (hmore : n ≤ landed.length + more + 1)
    (hturns : turns ≤ 2 * landed.length) :
    Stands landed i turns (rounds task (changes i) more)
  /-- It read when the first `seen` of them had landed, and is about to write. -/
  | writing (more seen : Nat) (hi : i ∉ landed) (hseen : seen ≤ landed.length)
    (hmore : n ≤ seen + more + 1) (hturns : turns ≤ 2 * seen + 1) :
    Stands landed i turns
      (writing task (changes i) (reached changes start (landed.take seen))
        (retry task (changes i) more))
  /-- It has landed and answered its place. -/
  | landed (place : Nat) (hplace : landed[place]? = some i) :
    Stands landed i turns (.done (start.1 + place + 1))

/-- How far a pool of updates has come. -/
structure Progress (landed : List (Fin n)) (turns : Fin n → Nat) (p : Pool n StoreError Int) :
    Prop where
  nodup : landed.Nodup
  stored : snapshot (p.memory.checkpoints.find? task) = reached changes start landed
  stands : ∀ i, Stands task changes start landed i (turns i) (p.clients i)

end Landing

variable {task : String} {changes : Fin n → Change} {start : Int × Payload × Payload}
  {landed : List (Fin n)} {turns : Fin n → Nat} {p : Pool n StoreError Int}

/-- As long as one of `n` clients has not landed, fewer than `n` have. -/
theorem length_lt_of_not_mem {i : Fin n} (h : landed.Nodup) (hi : i ∉ landed) :
    landed.length < n := by
  have hcons : (i :: landed).Nodup := List.nodup_cons.2 ⟨hi, h⟩
  have hle : landed.length + 1 ≤ n := by simpa using hcons.length_le_card
  omega

/-! ### What a landing means to the others -/

/-- Where a client stands does not change when another one lands. -/
theorem Stands.concat {i j : Fin n} {t : Nat} {w : Work StoreError Int}
    (h : Stands task changes start landed i t w) (hne : i ≠ j) :
    Stands task changes start (landed ++ [j]) i t w := by
  have hmem (hi : i ∉ landed) : i ∉ landed ++ [j] := by
    simpa [hne] using hi
  cases h with
  | reading more hi hmore hturns =>
    refine .reading more (hmem hi) ?_ ?_ <;> simp <;> omega
  | writing more seen hi hseen hmore hturns =>
    have htake : (landed ++ [j]).take seen = landed.take seen := List.take_append_of_le_length hseen
    rw [← htake]
    exact .writing more seen (hmem hi) (by simp; omega) hmore hturns
  | landed place hplace =>
    refine .landed place ?_
    rw [List.getElem?_append_left (List.getElem?_eq_some_iff.1 hplace).1]
    exact hplace

/-! ### One move -/

/-- After a turn only the client whose turn it was has to be looked at, and the store. -/
theorem Progress.turn {landed' : List (Fin n)} {i : Fin n} {m : Memory} {w : Work StoreError Int}
    (hnodup : landed'.Nodup)
    (hstored : snapshot (m.checkpoints.find? task) = reached changes start landed')
    (hclient : Stands task changes start landed' i (turns i + 1) w)
    (hothers : ∀ j, j ≠ i → Stands task changes start landed' j (turns j) (p.clients j)) :
    Progress task changes start landed' (Function.update turns i (turns i + 1))
      ⟨m, Function.update p.clients i w⟩ := by
  refine ⟨hnodup, hstored, fun j ↦ ?_⟩
  by_cases hj : j = i
  · subst hj
    simpa using hclient
  · simpa [hj] using hothers j hj

/-- A client that was about to read has read. -/
theorem Progress.read (h : Progress task changes start landed turns p) {i : Fin n} {more : Nat}
    (hi : i ∉ landed) (hmore : n ≤ landed.length + more + 1) (hturns : turns i ≤ 2 * landed.length)
    (hclient : p.clients i = rounds task (changes i) more) (moment : Moment) :
    Progress task changes start landed (Function.update turns i (turns i + 1))
      (p.move (.turn i moment)) := by
  have hmove := Pool.move_turn hclient moment
  simp only [Memory.answer_store, Memory.perform, h.stored] at hmove
  rw [hmove]
  refine .turn h.nodup h.stored ?_ fun j _ ↦ h.stands j
  have hwriting : Stands task changes start landed i (turns i + 1)
      (writing task (changes i) (reached changes start (landed.take landed.length))
        (retry task (changes i) more)) :=
    .writing more landed.length hi (Nat.le_refl _) hmore (by omega)
  rwa [List.take_length] at hwriting

/-- A client that writes over what is stored lands. -/
theorem Progress.land (h : Progress task changes start landed turns p)
    (hfirst : Machine.isSigned start.1 = true) (hlast : Machine.isSigned (start.1 + n) = true)
    {i : Fin n} {onConflict : Int → Int → Work StoreError Int} (hi : i ∉ landed)
    (hclient : p.clients i = writing task (changes i) (reached changes start landed) onConflict)
    (moment : Moment) :
    Progress task changes start (landed ++ [i]) (Function.update turns i (turns i + 1))
      (p.move (.turn i moment)) := by
  have hversion : Machine.wrap ((reached changes start landed).1 + 1) =
      (reached changes start landed).1 + 1 := by
    have hlength := length_lt_of_not_mem h.nodup hi
    rw [Machine.isSigned_iff] at hfirst hlast
    refine Machine.wrap_of_isSigned (Machine.isSigned_iff.2 ?_)
    simp only [reached]
    omega
  obtain ⟨hsaved, hstored⟩ := Memory.perform_saveCheckpoint_of_eq (congrArg Prod.fst h.stored)
    moment.clock moment.fresh
    (changes i (reached changes start landed).2.1 (reached changes start landed).2.2).1
    (changes i (reached changes start landed).2.1 (reached changes start landed).2.2).2
  rw [hversion] at hsaved hstored
  rw [Pool.move_turn hclient moment]
  simp only [Memory.answer_store, hsaved]
  refine .turn ?_ (hstored.trans (reached_concat ..).symm) ?_ fun j hj ↦ (h.stands j).concat hj
  · exact h.nodup.append (List.nodup_singleton i) (by simpa using hi)
  · exact .landed landed.length (by simp)

/-- A client that writes over what is no longer stored is refused, and has rounds left. -/
theorem Progress.refused (h : Progress task changes start landed turns p) {i : Fin n}
    {more seen : Nat} (hi : i ∉ landed) (hseen : seen < landed.length) (hmore : n ≤ seen + more + 1)
    (hturns : turns i ≤ 2 * seen + 1)
    (hclient : p.clients i = writing task (changes i) (reached changes start (landed.take seen))
      (retry task (changes i) more)) (moment : Moment) :
    Progress task changes start landed (Function.update turns i (turns i + 1))
      (p.move (.turn i moment)) := by
  have hne : (snapshot (p.memory.checkpoints.find? task)).1 ≠
      (reached changes start (landed.take seen)).1 := by
    simp only [h.stored, reached, List.length_take]
    omega
  rw [Pool.move_turn hclient moment]
  simp only [Memory.answer_store, Memory.perform_saveCheckpoint_of_ne hne]
  refine .turn h.nodup h.stored ?_ fun j _ ↦ h.stands j
  cases more with
  | zero =>
    -- All `n` clients would have landed but for this one, which is one of them.
    have hlength := length_lt_of_not_mem h.nodup hi
    omega
  | succ more => exact .reading more hi (by omega) (by omega)

/-- **One move** brings the pool forward, and nobody who has landed is forgotten. -/
theorem Progress.move (h : Progress task changes start landed turns p)
    (hfirst : Machine.isSigned start.1 = true) (hlast : Machine.isSigned (start.1 + n) = true)
    (mv : Move n) (hmv : ∀ c, mv = .call c → ¬ c.WritesCheckpoint task) :
    ∃ landed', Progress task changes start landed' (fun i ↦ turns i + Move.turnsOf i [mv])
      (p.move mv) := by
  cases mv with
  | call c =>
    refine ⟨landed, h.nodup, ?_, h.stands⟩
    exact (congrArg snapshot (Memory.find?_checkpoints_after (hmv c rfl))).trans h.stored
  | turn i moment =>
    have hturnsOf : (fun j ↦ turns j + Move.turnsOf j [.turn i moment]) =
        Function.update turns i (turns i + 1) := by
      funext j
      by_cases hj : j = i
      · subst hj; simp [Move.turnsOf]
      · simp [Move.turnsOf, hj, Ne.symm hj]
    rw [hturnsOf]
    have hstands := h.stands i
    generalize hclient : p.clients i = w at hstands
    cases hstands with
    | reading more hi hmore hturns => exact ⟨landed, h.read hi hmore hturns hclient moment⟩
    | writing more seen hi hseen hmore hturns =>
      rcases Nat.eq_or_lt_of_le hseen with rfl | hlt
      · rw [List.take_length] at hclient
        exact ⟨_, h.land hfirst hlast hi hclient moment⟩
      · exact ⟨landed, h.refused hi hlt hmore hturns hclient moment⟩
    | landed place hplace =>
      have hlanded :
          Stands task changes start landed i (turns i + 1) (.done (start.1 + place + 1)) :=
        .landed place hplace
      have hsame := Progress.turn h.nodup h.stored hlanded fun j _ ↦ h.stands j
      rw [← hclient, Function.update_eq_self] at hsame
      rw [Pool.move_turn_of_done hclient]
      exact ⟨landed, hsame⟩

/-- **A run** of moves brings the pool forward. -/
theorem Progress.play (h : Progress task changes start landed turns p)
    (hfirst : Machine.isSigned start.1 = true) (hlast : Machine.isSigned (start.1 + n) = true)
    {moves : List (Move n)} (hmoves : ∀ c, .call c ∈ moves → ¬ c.WritesCheckpoint task) :
    ∃ landed', Progress task changes start landed' (fun i ↦ turns i + Move.turnsOf i moves)
      (p.play moves) := by
  induction moves generalizing p landed turns with
  | nil => exact ⟨landed, h⟩
  | cons mv moves ih =>
    obtain ⟨landed', h'⟩ := h.move hfirst hlast mv
      fun c hc ↦ hmoves c (by simp [hc])
    obtain ⟨landed'', h''⟩ := ih h' fun c hc ↦ hmoves c (List.mem_cons_of_mem _ hc)
    refine ⟨landed'', ?_⟩
    simpa only [Pool.play_cons, Nat.add_assoc, ← Move.turnsOf_cons] using h''

/-! ### The end of a run -/

/-- A client that is not finished has not had `2 * n` turns. -/
theorem Progress.isFinished (h : Progress task changes start landed turns p) {i : Fin n}
    (hturns : 2 * n ≤ turns i) : (p.clients i).isFinished = true := by
  have hstands := h.stands i
  generalize p.clients i = w at hstands
  cases hstands with
  | reading more hi _ hleft =>
    have hlength := length_lt_of_not_mem h.nodup hi
    omega
  | writing more seen hi hseen _ hleft =>
    have hlength := length_lt_of_not_mem h.nodup hi
    omega
  | landed place _ => rfl

/-- A client that is finished has landed. -/
theorem Progress.landed_of_isFinished (h : Progress task changes start landed turns p) {i : Fin n}
    (hfinished : (p.clients i).isFinished = true) :
    ∃ place : Nat, landed[place]? = some i ∧ p.clients i = .done (start.1 + place + 1) := by
  have hstands := h.stands i
  generalize p.clients i = w at hstands hfinished
  cases hstands with
  | reading => cases hfinished
  | writing => cases hfinished
  | landed place hplace => exact ⟨place, hplace, rfl⟩

/-- Every update has landed: the clients can be put into an order in which each has answered its
place, counted from the version before all of them, and what is stored is what their changes make of
the first payloads when they are applied in this order, each of them once. -/
structure Landed (task : String) (changes : Fin n → Change) (start : Int × Payload × Payload)
    (p : Pool n StoreError Int) (order : List (Fin n)) : Prop where
  everyone : order.Perm (List.finRange n)
  answers : ∀ (place : Nat) (i : Fin n), order[place]? = some i →
    p.clients i = .done (start.1 + place + 1)
  stored : snapshot (p.memory.checkpoints.find? task) =
    (start.1 + n, order.foldl (fun stored i ↦ changes i stored.1 stored.2) start.2)

/-- When all clients are finished, every update has landed. -/
theorem Progress.allLanded (h : Progress task changes start landed turns p)
    (hfinished : ∀ i, (p.clients i).isFinished = true) : Landed task changes start p landed := by
  have hmem (i : Fin n) : i ∈ landed := by
    obtain ⟨place, hplace, -⟩ := h.landed_of_isFinished (hfinished i)
    exact List.mem_of_getElem? hplace
  have heveryone : landed.Perm (List.finRange n) :=
    (List.perm_ext_iff_of_nodup h.nodup (List.nodup_finRange n)).2 fun i ↦ by simp [hmem i]
  refine ⟨heveryone, fun place i hplace ↦ ?_, ?_⟩
  · -- A client is in the list once, so the place it answered is this one.
    obtain ⟨place', hplace', hdone⟩ := h.landed_of_isFinished (hfinished i)
    have hlt : place < landed.length := (List.getElem?_eq_some_iff.1 hplace).1
    obtain rfl : place = place' :=
      (List.getElem?_inj hlt h.nodup).1 (hplace.trans hplace'.symm)
    exact hdone
  · rw [h.stored, reached, heveryone.length_eq, List.length_finRange]

/-- **No update is lost.** Let `n` clients update the checkpoint of one task over one store, with
any changes and at least `n` attempts each, and let their requests be interleaved in any way with
each other and with requests that do not write this checkpoint. A client that has had `2 * n` turns
is finished; and when all are finished, every update has landed. -/
theorem update_lands {m : Memory} {attempts : Fin n → Nat} {moves : List (Move n)}
    (hstart : snapshot (m.checkpoints.find? task) = start) (hattempts : ∀ i, n ≤ attempts i)
    (hfirst : Machine.isSigned start.1 = true) (hlast : Machine.isSigned (start.1 + n) = true)
    (hmoves : ∀ c, .call c ∈ moves → ¬ c.WritesCheckpoint task) :
    let stop := Pool.play ⟨m, fun i ↦ update task (attempts i) (changes i)⟩ moves
    (∀ i, 2 * n ≤ Move.turnsOf i moves → (stop.clients i).isFinished = true) ∧
      ((∀ i, (stop.clients i).isFinished = true) →
        ∃ order, Landed task changes start stop order) := by
  intro stop
  have hbegin : Progress task changes start [] (fun _ ↦ 0)
      ⟨m, fun i ↦ update task (attempts i) (changes i)⟩ := by
    refine ⟨List.nodup_nil, by simpa using hstart, fun i ↦ ?_⟩
    have hi := hattempts i
    simp only [update_eq_rounds]
    exact .reading _ (by simp) (by simp; omega) (by simp)
  obtain ⟨landed, h⟩ := hbegin.play hfirst hlast hmoves
  exact ⟨fun i hi ↦ h.isFinished (by simpa using hi), fun hall ↦ ⟨landed, h.allLanded hall⟩⟩

/-- Two clients count in one counter, and both read before either writes; the second is refused, and
reads and writes again. Somebody else lists the tasks in between. -/
theorem update_lands_two :
    let counting : Change := Edit.apply { increment := some "slices" }
    let moment : Moment := { clock := ⟨0, 0⟩, fresh := ⟨0⟩ }
    let moves : List (Move 2) :=
      [.turn 0 moment, .turn 1 moment, .turn 0 moment, .call ⟨⟨1, 0⟩, ⟨1⟩, .listTasks⟩,
       .turn 1 moment, .turn 1 moment, .turn 1 moment]
    (∀ i, ((Pool.play ⟨{}, fun _ ↦ update "t" 2 counting⟩ moves).clients i).isFinished = true) ∧
      ∃ order, Landed "t" (fun _ ↦ counting) (0, [], [])
        (Pool.play ⟨{}, fun _ ↦ update "t" 2 counting⟩ moves) order := by
  intro counting moment moves
  have hfinished (i : Fin 2) :
      ((Pool.play ⟨{}, fun _ ↦ update "t" 2 counting⟩ moves).clients i).isFinished = true := by
    decide +kernel +revert
  have hmoves : ∀ c, .call c ∈ moves → ¬ c.WritesCheckpoint "t" := by
    intro c hc
    obtain rfl : c = ⟨⟨1, 0⟩, ⟨1⟩, .listTasks⟩ := by simpa [moves] using hc
    rintro ⟨state, taskState, expected, hrequest⟩
    cases hrequest
  have hlands := @update_lands 2 "t" (fun _ ↦ counting) (0, [], []) {} (fun _ ↦ 2) moves rfl
    (fun _ ↦ Nat.le_refl _) (by decide) (by decide) hmoves
  exact ⟨hfinished, hlands.2 hfinished⟩

end Foreman.Checkpoint
