import Foreman.Proofs.Store.Readiness
import Foreman.Slice.Record

/-!
# Recording an outcome among other clients

To record the outcome of a slice, the record of the task is read, changed, and stored whole. What
runners write about a task, its lease and when it is due (`Booking`), is not changed by the outcome,
but it is stored with the rest as it was read. So between the two requests it must stay as it is.
The other requests that write it are guarded, and look at the record again under the lock; this one
is not, and has nothing to compare the record with.

`booked_of_record` says what this comes to, for every course of such a record: behind the second
request, the booking is that of the record that the first one read. What others booked in between is
undone, unless it is the same, or the table is poisoned and nothing can be stored. If no other
client makes a request that books the task, nothing is undone (`Memory.booked?_afterAll`).

The requests of a runner behind a dispatch, rescheduling and giving the lease back, come when the
signal is on the bus already, so they can meet the record of a fast slice
(`record_restores_released_lease`).
-/

namespace Foreman

open Time Store

/-- What runners write about a task: its lease, and when it is due. -/
structure Booking where
  leaseUntil : Option Instant
  worker : Option String
  nextRun : Option Instant
deriving DecidableEq

/-- The booking in a record. -/
def Task.booking (t : Task) : Booking :=
  ⟨t.leaseUntil, t.worker, t.nextRun⟩

@[simp] theorem SliceOutcome.booking_applyTo (outcome : SliceOutcome) (t : Task) :
    (outcome.applyTo t).booking = t.booking := rfl

@[simp] theorem Task.booking_storedOver (t : Task) (existing : Option Task) (clock : Instant) :
    (t.storedOver existing clock).booking = t.booking := rfl

namespace Store

/-- The booking of a task, if it is stored. -/
def Memory.booked? (m : Memory) (id : String) : Option Booking :=
  (m.tasks.find? id).map Task.booking

/-- The request can change the booking of a task. -/
inductive Request.Books (id : String) : Request → Prop where
  | upsert {t : Task} (hid : t.id = id) : Books id (.upsert t)
  | lease (worker : String) (seconds : Int) (now : Instant) :
    Books id (.acquireLease id worker seconds now)
  | unlease (worker : String) : Books id (.releaseLease id worker)
  | reschedule (worker : String) (nextRun : Option Instant) (status : Status) :
    Books id (.reschedule id worker nextRun status)

variable {m : Memory} {id : String}

/-- **One call** leaves the booking of a task, unless it is of those kinds. -/
theorem Memory.booked?_after {c : Call} (hc : ¬ c.request.Books id) :
    (m.after c).booked? id = m.booked? id := by
  rcases Memory.find?_after m c id with hsame | ⟨-, t, hrewrites, -⟩
  · rw [booked?, hsame, booked?]
  · refine absurd ?_ hc
    cases hrewrites with
    | upsert _ _ hid => exact .upsert hid
    | lease => exact .lease ..
    | unlease => exact .unlease _
    | reschedule => exact .reschedule ..

/-- A history leaves the booking of a task in which nobody books it. -/
theorem Memory.booked?_afterAll {calls : List Call} (hcalls : ∀ c ∈ calls, ¬ c.request.Books id) :
    (m.afterAll calls).booked? id = m.booked? id :=
  Along.invariant (I := fun s ↦ s.booked? id = m.booked? id)
    (fun _ _ h hc ↦ (booked?_after hc).trans h) rfl (Along.of_forall hcalls m)

end Store

namespace SliceOutcome

variable {outcome : SliceOutcome} {id : String} {correlation : Option String} {m : Memory}
  {read write : Exchange} {rest : List Exchange} {w : Work StoreError Task}

/-- **The first two requests**: a record is read, and stored behind the outcome. -/
theorem exchanges_of_record
    (h : Course (outcome.record id correlation) m (read :: write :: rest) w) :
    read.question = .store (.getTask id) ∧ ∃ t, (read.found m).tasks.find? id = some t ∧
      write.question = .store (.upsert (outcome.applyTo t)) := by
  change Course (.ask (.store (.getTask id)) fun reply ↦ Plan.ofExcept reply >>= _) m _ w at h
  cases h with
  | @ask _ _ _ others moment _ _ h =>
    generalize hreply : Exchange.reply ⟨others, moment, .store (.getTask id)⟩ m = reply at h
    have hanswer : reply = ((m.afterAll others).perform moment.clock moment.fresh
      (.getTask id)).1 := hreply.symm
    simp only [Memory.perform, Memory.withTasks] at hanswer
    split at hanswer
    · subst hanswer
      cases h
    · subst hanswer
      cases hfind : (m.afterAll others).tasks.find? id with
      | none =>
        rw [hfind] at h
        cases h
      | some t =>
        rw [hfind] at h
        change Course (.ask (.store (.upsert (outcome.applyTo t))) fun reply ↦
          Plan.ofExcept reply >>= _) _ _ w at h
        cases h with
        | ask h => exact ⟨rfl, t, hfind, rfl⟩

/-- **What is stored**: the record that was read behind the outcome, over whatever is there by then,
unless the table is poisoned. -/
theorem stored_of_record (h : Course (outcome.record id correlation) m (read :: write :: rest) w)
    (hm : m.Filed) :
    ∃ t, (read.found m).tasks.find? id = some t ∧
      ((write.found (read.left m)).poisoned = true →
        write.left (read.left m) = write.found (read.left m)) ∧
      ((write.found (read.left m)).poisoned = false →
        (write.left (read.left m)).tasks.find? id =
          some ((outcome.applyTo t).storedOver ((write.found (read.left m)).tasks.find? id)
            write.moment.clock)) := by
  obtain ⟨-, t, hfind, hwrite⟩ := exchanges_of_record h
  have hid : (outcome.applyTo t).id = id := (hm.afterAll read.others) id t hfind
  obtain ⟨others, moment, question⟩ := write
  dsimp only at hwrite
  subst hwrite
  refine ⟨t, hfind, fun hpoisoned ↦ ?_, fun hpoisoned ↦ ?_⟩
  · exact Memory.perform_upsert_of_poisoned hpoisoned moment.clock moment.fresh _
  · have hstored := Memory.find?_upsert hpoisoned moment.clock moment.fresh (outcome.applyTo t)
    rw [hid] at hstored
    exact hstored

/-- **What an outcome does to a booking.** Recording an outcome reads the record of the task and then
stores it behind the outcome. Whatever other clients do before and in between, the record that is
stored has the booking of the record that was read, unless the table is poisoned by then and keeps
what it has. So the booking that is found when the record is stored is kept if and only if it is the
one that was read, or the table is poisoned; and it is kept if nobody else has booked the task in
between. -/
theorem booked_of_record (h : Course (outcome.record id correlation) m (read :: write :: rest) w)
    (hm : m.Filed) :
    (read.question = .store (.getTask id) ∧ ∃ t, (read.found m).tasks.find? id = some t ∧
        write.question = .store (.upsert (outcome.applyTo t))) ∧
      ((write.left (read.left m)).booked? id =
        if (write.found (read.left m)).poisoned then (write.found (read.left m)).booked? id
        else (read.found m).booked? id) ∧
      ((write.left (read.left m)).booked? id = (write.found (read.left m)).booked? id ↔
        (write.found (read.left m)).poisoned = true ∨
          (write.found (read.left m)).booked? id = (read.found m).booked? id) ∧
      ((∀ c ∈ write.others, ¬ c.request.Books id) →
        (write.left (read.left m)).booked? id = (write.found (read.left m)).booked? id) := by
  obtain ⟨t, hfind, hpoisoned, hstored⟩ := stored_of_record h hm
  -- The outcome changes other fields of the record, so its booking is the one that was read.
  have hleft : (write.left (read.left m)).booked? id =
      if (write.found (read.left m)).poisoned then (write.found (read.left m)).booked? id
      else (read.found m).booked? id := by
    split
    · next hp => rw [hpoisoned hp]
    · next hp =>
      rw [Memory.booked?, hstored (by simpa using hp), Memory.booked?, hfind]
      simp only [Option.map_some, Task.booking_storedOver, SliceOutcome.booking_applyTo]
  rw [hleft]
  refine ⟨exchanges_of_record h, rfl, ?_, fun hothers ↦ ?_⟩
  · split
    · next hp => simp [hp]
    · next hp => simp [hp, eq_comm]
  · have hread : read.left m = read.found m := by
      obtain ⟨others, moment, question⟩ := read
      obtain ⟨hquestion, -⟩ := exchanges_of_record h
      dsimp only at hquestion
      subst hquestion
      exact Memory.perform_getTask_snd _ moment.clock moment.fresh id
    have hfound : (write.found (read.left m)).booked? id = (read.left m).booked? id :=
      Memory.booked?_afterAll hothers
    rw [hfound, hread, ite_self]

/-! ### A lease that was given back -/

/-- While a task is stored and the table is not poisoned, its record is read and stored, whatever
other clients do in between. -/
theorem course_record (outcome : SliceOutcome) (correlation : Option String) {t : Task}
    (hm : m.poisoned = false) (ht : m.tasks.find? id = some t) (moment : Moment)
    (others : List Call) :
    ∃ w, Course (outcome.record id correlation) m
      [⟨[], moment, .store (.getTask id)⟩,
       ⟨others, moment, .store (.upsert (outcome.applyTo t))⟩] w := by
  have hreply : Exchange.reply ⟨[], moment, .store (.getTask id)⟩ m = .ok (some t) := by
    simp [Exchange.reply, Exchange.found, Memory.perform, Memory.withTasks, hm, ht]
  apply Exists.intro
  apply Course.ask
  change Course (Plan.ofExcept (Exchange.reply ⟨[], moment, .store (.getTask id)⟩ m) >>= _) _ _ _
  rw [hreply]
  exact .ask (.here ..)

/-- A store with one task, whose lease a runner has taken. -/
def leasedStore : Memory :=
  Memory.afterAll {}
    [⟨⟨0, 0⟩, ⟨0⟩, .upsert (.new "a" "o" "c" "s" ⟨0, 0⟩)⟩,
     ⟨⟨5, 0⟩, ⟨1⟩, .acquireLease "a" "r" 30 ⟨5, 0⟩⟩]

/-- The record of the task. -/
def leasedTask : Task :=
  { Task.new "a" "o" "c" "s" ⟨0, 0⟩ with
    leaseUntil := some ⟨35, 0⟩, worker := some "r", status := .running, updatedAt := ⟨5, 0⟩ }

theorem find?_leasedStore : leasedStore.tasks.find? "a" = some leasedTask := rfl

/-- What is at hand when the outcome is recorded. -/
def lateMoment : Moment :=
  { clock := ⟨7, 0⟩, fresh := ⟨4⟩ }

/-- What the runner asks of the store after the signal is on the bus. -/
def behindDispatch : List Call :=
  [⟨⟨6, 0⟩, ⟨2⟩, .reschedule "a" "r" (some ⟨10, 0⟩) .running⟩,
   ⟨⟨6, 0⟩, ⟨3⟩, .releaseLease "a" "r"⟩]

/-- Another task is stored, and something is logged about the first. -/
def elsewhere : List Call :=
  [⟨⟨6, 0⟩, ⟨2⟩, .upsert (.new "b" "o" "c" "s" ⟨6, 0⟩)⟩,
   ⟨⟨6, 0⟩, ⟨3⟩, .appendEvent (some "a") EventType.starvationWarning [] none⟩]

/-- An outcome leaves the lease where it is when this is all that others do meanwhile. -/
theorem record_keeps_lease :
    ∃ read write w, Course (queued.record "a" none) leasedStore [read, write] w ∧
      leasedStore.Filed ∧ write.others = elsewhere ∧
      (∀ c ∈ write.others, ¬ c.request.Books "a") ∧
      (write.left (read.left leasedStore)).booked? "a" =
        some ⟨some ⟨35, 0⟩, some "r", none⟩ := by
  obtain ⟨w, h⟩ := course_record queued none rfl find?_leasedStore lateMoment elsewhere
  have hfiled : leasedStore.Filed := Memory.filed_afterAll_empty _
  have hothers : ∀ c ∈ elsewhere, ¬ c.request.Books "a" := by
    simp only [elsewhere, List.forall_mem_cons]
    refine ⟨?_, ?_, List.forall_mem_nil _⟩
    · rintro ⟨hid⟩
      exact absurd hid (by decide)
    · rintro ⟨⟩
  have hkept := (booked_of_record h hfiled).2.2.2 hothers
  have hread : Exchange.left ⟨[], lateMoment, .store (.getTask "a")⟩ leasedStore = leasedStore :=
    Memory.perform_getTask_snd _ lateMoment.clock lateMoment.fresh "a"
  rw [hread] at hkept
  refine ⟨_, _, w, h, hfiled, rfl, hothers, ?_⟩
  rw [hread, hkept]
  exact (Memory.booked?_afterAll hothers).trans
    (congrArg (Option.map Task.booking) find?_leasedStore)

/-- **An outcome can take back what a runner has written.** The record is read while the runner
holds the lease; the runner sets the task due again and gives the lease back; then the record is
stored with the lease that was given back, and due at once. -/
theorem record_restores_released_lease :
    ¬ ∀ (outcome : SliceOutcome) (id : String) (correlation : Option String) (m : Memory)
        (read write : Exchange) (rest : List Exchange) (w : Work StoreError Task),
      Course (outcome.record id correlation) m (read :: write :: rest) w → m.Filed →
        (write.left (read.left m)).booked? id = (write.found (read.left m)).booked? id := by
  intro h
  obtain ⟨w, hcourse⟩ := course_record queued none rfl find?_leasedStore lateMoment behindDispatch
  have hsame := h queued "a" none leasedStore _ _ [] w hcourse (Memory.filed_afterAll_empty _)
  have hfound : (leasedStore.afterAll behindDispatch).booked? "a" =
      some ⟨none, none, some ⟨10, 0⟩⟩ := rfl
  have hleft : some (leasedTask.booking) = some ⟨none, none, some ⟨10, 0⟩⟩ := hsame.trans hfound
  cases hleft

end SliceOutcome

end Foreman
