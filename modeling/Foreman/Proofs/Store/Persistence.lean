import Foreman.Proofs.Checkpoint.Rounds
import Foreman.Proofs.Log
import Foreman.Proofs.Slice.History

/-!
# What a store keeps

A store in memory is written by many requests, and most of them change a record in place. This
module collects what they all respect, whoever makes them and in whatever order. A record stays
where it was filed, its counters are not negative, and it remembers when the first record under its
identifier was made. Nothing that is stored goes away again: neither a task, nor a checkpoint, nor
an entry of the log. And a request that names one task leaves all others alone.

Each of these is a fact about one call first; what carries them is that a call rewrites one record
at most, under its own identifier, and with one of four guards (`find?_after`). Where the first
record under an identifier is concerned one call does not suffice: that nothing is stored has to
mean that nothing was asked for (`Dated`), and over a poisoned table it does not, but there nothing
is stored any more.
-/

namespace Foreman

open Time Store

/-- A record says who holds its lease if and only if it says until when. -/
def Task.LeaseIsWhole (t : Task) : Prop :=
  t.leaseUntil.isSome = t.worker.isSome

namespace Store

/-- The task that a request names. -/
def Request.subject? : Request → Option String
  | upsert t => some t.id
  | getTask id | acquireLease id .. | releaseLease id _ | reschedule id ..
  | getCheckpoint id | saveCheckpoint id .. => some id
  | appendEvent task .. => task
  | latestEvent task _ => some task
  | listTasks | listRunnable .. | eventsSince _ => none

/-- The record that a call asks to be stored under an identifier. -/
def Call.upserted? (id : String) (c : Call) : Option Task :=
  match c.request with
  | .upsert t => if t.id = id then some t else none
  | _ => none

/-- The record that was asked to be stored under an identifier before all others. -/
def firstUpsert? (id : String) (calls : List Call) : Option Task :=
  calls.findSome? (Call.upserted? id)

namespace Memory

variable {m : Memory} {c : Call} {id : String}

/-! ### One call -/

/-- A call that names another task, or none, leaves the record. -/
theorem find?_after_of_subject_ne (m : Memory) (hc : c.request.subject? ≠ some id) :
    (m.after c).tasks.find? id = m.tasks.find? id := by
  rcases find?_after m c id with hsame | ⟨-, t, hrewrites, -⟩
  · exact hsame
  · refine absurd ?_ hc
    cases hrewrites with
    | upsert _ _ hid => exact congrArg some hid
    | lease => rfl
    | unlease => rfl
    | reschedule => rfl

/-- A call that names another task, or none, leaves the checkpoint. -/
theorem find?_checkpoints_after_of_subject_ne (m : Memory) (hc : c.request.subject? ≠ some id) :
    (m.after c).checkpoints.find? id = m.checkpoints.find? id := by
  refine find?_checkpoints_after ?_
  rintro ⟨state, taskState, expected, hrequest⟩
  exact hc (by rw [hrequest]; rfl)

/-- A checkpoint that is stored stays stored. -/
theorem isSome_checkpoint_after (h : (m.checkpoints.find? id).isSome) (c : Call) :
    ((m.after c).checkpoints.find? id).isSome := by
  by_cases hwrites : c.WritesCheckpoint id
  · obtain ⟨clock, fresh, request⟩ := c
    obtain ⟨state, taskState, expected, rfl⟩ := hwrites
    obtain ⟨stored, hstored⟩ := Option.isSome_iff_exists.1 h
    simp only [after, perform, answered, saveCheckpoint, hstored]
    split
    · rw [Register.find?_insert_self]
      rfl
    · exact h
  · rwa [find?_checkpoints_after hwrites]

/-- The log grows at its end. -/
theorem events_prefix_after (m : Memory) (c : Call) : m.events <+: (m.after c).events := by
  rw [after, events_perform]
  exact List.prefix_append ..

/-- A table that is poisoned stays poisoned. -/
theorem poisoned_after_of_poisoned (hm : m.poisoned = true) (c : Call) :
    (m.after c).poisoned = true := by
  obtain ⟨clock, fresh, request⟩ := c
  cases request with
  | saveCheckpoint id state taskState expected =>
    simp only [after, perform, answered, saveCheckpoint]
    split <;> split <;> exact hm
  | _ => simp [after, perform, withTasks, answered, appendEvent, hm]

/-- A call keeps leases whole, unless it stores a record whose lease is not. -/
theorem leaseIsWhole_after (h : ∀ id t, m.tasks.find? id = some t → t.LeaseIsWhole)
    (hc : ∀ t, c.request = .upsert t → t.LeaseIsWhole) :
    ∀ id t, (m.after c).tasks.find? id = some t → t.LeaseIsWhole := by
  intro id t ht
  rcases find?_or_rewrites ht with hfound | ⟨-, hrewrites⟩
  · exact h id t hfound
  · cases hrewrites with
    | @upsert _ _ t =>
      have hwhole := hc t rfl
      exact hwhole
    | lease => rfl
    | unlease => rfl
    | reschedule _ _ hfound =>
      have hwhole := h id _ hfound
      exact hwhole

/-! ### The first record under an identifier -/

theorem firstUpsert?_concat (id : String) (calls : List Call) (c : Call) :
    firstUpsert? id (calls ++ [c]) = (firstUpsert? id calls).or (c.upserted? id) := by
  rw [firstUpsert?, List.findSome?_append]
  cases hc : c.upserted? id <;> simp [firstUpsert?, hc]

/-- **Records are dated** by these calls: each was made when the first of them that stored a record
under its identifier says; and where nothing is stored none of them asked for it, as long as the
table is not poisoned. -/
structure Dated (calls : List Call) (m : Memory) : Prop where
  created : ∀ id t, m.tasks.find? id = some t →
    ∃ first, firstUpsert? id calls = some first ∧ t.createdAt = first.createdAt
  absent : m.poisoned = false → ∀ id, m.tasks.find? id = none → firstUpsert? id calls = none

/-- A call that is asked to store a record has stored one, unless the table is poisoned. -/
theorem upserted?_of_absent (hm : m.poisoned = false) (h : (m.after c).tasks.find? id = none) :
    c.upserted? id = none := by
  obtain ⟨clock, fresh, request⟩ := c
  cases request with
  | upsert t =>
    refine if_neg ?_
    rintro rfl
    rw [after, find?_upsert hm] at h
    cases h
  | _ => rfl

/-- **One more call** keeps records dated. -/
theorem Dated.after {calls : List Call} (h : Dated calls m) (c : Call) :
    Dated (calls ++ [c]) (m.after c) := by
  -- What is first among the calls so far stays first.
  have hkept {id : String} {t : Task} (ht : m.tasks.find? id = some t) :
      ∃ first, firstUpsert? id (calls ++ [c]) = some first ∧ t.createdAt = first.createdAt := by
    obtain ⟨first, hfirst, hcreated⟩ := h.created id t ht
    exact ⟨first, by rw [firstUpsert?_concat, hfirst, Option.some_or], hcreated⟩
  constructor
  · intro id t ht
    rcases find?_or_rewrites ht with hfound | ⟨hm, hrewrites⟩
    · exact hkept hfound
    · cases hrewrites with
      | @upsert clock fresh t hid =>
        cases hfound : m.tasks.find? id with
        | some existing =>
          have hdated := hkept hfound
          exact hdated
        | none =>
          refine ⟨t, ?_, rfl⟩
          rw [firstUpsert?_concat, h.absent hm id hfound, Option.none_or]
          exact if_pos hid
      | lease _ _ hfound =>
        have hdated := hkept hfound
        exact hdated
      | unlease _ _ hfound =>
        have hdated := hkept hfound
        exact hdated
      | reschedule _ _ hfound =>
        have hdated := hkept hfound
        exact hdated
  · intro hafter id hnone
    have hm : m.poisoned = false := by
      refine Bool.eq_false_iff.2 fun hm ↦ ?_
      rw [poisoned_after_of_poisoned hm c] at hafter
      cases hafter
    have habsent : m.tasks.find? id = none := by
      refine Option.not_isSome_iff_eq_none.1 fun hsome ↦ ?_
      have hstays := isSome_find?_after hsome c
      rw [hnone] at hstays
      cases hstays
    rw [firstUpsert?_concat, h.absent hm id habsent, Option.none_or,
      upserted?_of_absent hm hnone]

theorem dated_afterAll_empty (calls : List Call) : Dated calls (afterAll {} calls) := by
  induction calls using List.reverseRecOn with
  | nil =>
    refine ⟨fun id t ht ↦ ?_, fun _ _ _ ↦ rfl⟩
    cases ht
  | append_singleton calls c ih =>
    rw [afterAll, List.foldl_append]
    exact ih.after c

end Memory

/-- **What a store keeps.** Take the store behind any calls on one that began empty. Every record is
filed under its own identifier, none of its counters is negative, and it was made when the first
record that was asked to be stored under that identifier says. Whatever calls come later, no task
and no checkpoint goes away, and the log is the beginning of the later log. A call changes neither
record nor checkpoint of any task but the one that it names. And if the records that were asked to
be stored say who holds their lease if and only if they say until when, then so does every record
that is stored. -/
theorem store_keeps (calls : List Call) :
    let m := Memory.afterAll {} calls
    (∀ id t, m.tasks.find? id = some t →
      t.id = id ∧ 0 ≤ t.priority ∧ 0 ≤ t.sliceCycles ∧ 0 ≤ t.failureStreak ∧
        ∃ first, firstUpsert? id calls = some first ∧ t.createdAt = first.createdAt) ∧
    (∀ later id, (m.tasks.find? id).isSome → ((m.afterAll later).tasks.find? id).isSome) ∧
    (∀ later id, (m.checkpoints.find? id).isSome →
      ((m.afterAll later).checkpoints.find? id).isSome) ∧
    (∀ later, m.events <+: (m.afterAll later).events) ∧
    (∀ (c : Call) (id : String), c.request.subject? ≠ some id →
      (m.after c).tasks.find? id = m.tasks.find? id ∧
        (m.after c).checkpoints.find? id = m.checkpoints.find? id) ∧
    ((∀ c ∈ calls, ∀ t, c.request = .upsert t → t.LeaseIsWhole) →
      ∀ id t, m.tasks.find? id = some t → t.LeaseIsWhole) := by
  intro m
  refine ⟨fun id t ht ↦ ?_, fun later id h ↦ ?_, fun later id h ↦ ?_, fun later ↦ ?_,
    fun c id hc ↦ ?_, fun hcalls ↦ ?_⟩
  · have hcounters := Task.normalize_eq_self.1 (Memory.normal_afterAll_empty calls id t ht)
    exact ⟨Memory.filed_afterAll_empty calls id t ht, hcounters.1, hcounters.2.1, hcounters.2.2,
      (Memory.dated_afterAll_empty calls).created id t ht⟩
  · exact Memory.invariant_afterAll (I := fun s ↦ (s.tasks.find? id).isSome)
      (fun _ c h ↦ Memory.isSome_find?_after h c) h later
  · exact Memory.invariant_afterAll (I := fun s ↦ (s.checkpoints.find? id).isSome)
      (fun _ c h ↦ Memory.isSome_checkpoint_after h c) h later
  · exact Memory.invariant_afterAll (I := fun s ↦ m.events <+: s.events)
      (fun s c h ↦ h.trans (s.events_prefix_after c)) (List.prefix_refl _) later
  · exact ⟨Memory.find?_after_of_subject_ne m hc, Memory.find?_checkpoints_after_of_subject_ne m hc⟩
  · have hempty : ∀ id t, ({} : Memory).tasks.find? id = some t → t.LeaseIsWhole := by
      intro id t ht
      cases ht
    exact Along.invariant (I := fun s ↦ ∀ id t, s.tasks.find? id = some t → t.LeaseIsWhole)
      (fun _ _ h hc ↦ Memory.leaseIsWhole_after h hc) hempty (Along.of_forall hcalls _)

/-- A task that is stored again with a later date and a negative priority, and is leased then, has
its first date and no negative priority. Giving back the lease of another task leaves it alone. -/
theorem store_keeps_first_date :
    let calls : List Call :=
      [⟨⟨1, 0⟩, ⟨1⟩, .upsert (.new "a" "o" "c" "s" ⟨1, 0⟩)⟩,
        ⟨⟨2, 0⟩, ⟨2⟩, .upsert { Task.new "a" "o" "c" "s" ⟨2, 0⟩ with priority := -3 }⟩,
        ⟨⟨3, 0⟩, ⟨3⟩, .acquireLease "a" "w" 30 ⟨3, 0⟩⟩]
    let m := Memory.afterAll {} calls
    ∃ t, m.tasks.find? "a" = some t ∧ t.createdAt = ⟨1, 0⟩ ∧ 0 ≤ t.priority ∧ t.LeaseIsWhole ∧
      (m.after ⟨⟨4, 0⟩, ⟨4⟩, .releaseLease "b" "w"⟩).tasks.find? "a" = some t := by
  intro calls m
  obtain ⟨hrecords, -, -, -, hothers, hwhole⟩ := store_keeps calls
  have hleases : ∀ c ∈ calls, ∀ t, c.request = .upsert t → t.LeaseIsWhole := by
    intro c hc t ht
    simp only [calls, List.mem_cons, List.not_mem_nil, or_false] at hc
    rcases hc with rfl | rfl | rfl <;> cases ht <;> rfl
  obtain ⟨t, ht⟩ : ∃ t, m.tasks.find? "a" = some t := ⟨_, rfl⟩
  obtain ⟨-, hpriority, -, -, first, hfirst, hcreated⟩ := hrecords "a" t ht
  obtain rfl : Task.new "a" "o" "c" "s" ⟨1, 0⟩ = first := Option.some.inj hfirst
  exact ⟨t, ht, hcreated, hpriority, hwhole hleases "a" t ht,
    (hothers ⟨⟨4, 0⟩, ⟨4⟩, .releaseLease "b" "w"⟩ "a" (by decide)).1.trans ht⟩

end Store

end Foreman
