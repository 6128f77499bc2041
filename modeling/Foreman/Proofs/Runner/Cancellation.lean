import Foreman.Proofs.Runner.Dispatch
import Foreman.Proofs.Slice.Record

/-!
# Tasks that are stopped

A task is stopped by storing it with a status under which it is not picked up. The slice that may be
in flight then is not interrupted; whoever executes it records its outcome when it is over, and
runners go on with what they have begun. The question is which of these requests can put the task
back.

Leases and rescheduling cannot: a lease changes only the status `queued`, and rescheduling looks at
the status under the lock (`Stopped.after`). Ticks make no other requests that write tasks
(`tick_asks`), so however many of them are under way, a stopped task stays stopped. What is left is
recording an outcome, which stores the status of the outcome whatever the status of the task is by
then (`SliceOutcome.status_of_record`). It keeps a task stopped if the outcome is one that leaves it
so; outcomes after which there is more work to do put the task back to the queue, also if it was
stopped while the slice was in flight (`record_restarts_stopped_task`).
-/

namespace Foreman

open Time Store

/-! ### The status of a record -/

namespace Store

/-- The task of an identifier is stored, and is not picked up. -/
def Memory.Stopped (m : Memory) (id : String) : Prop :=
  ∃ t, m.tasks.find? id = some t ∧ t.status.isSchedulable = false

/-- The request does not store the task of this identifier as one that may be picked up. -/
def Request.KeepsStopped (id : String) : Request → Prop
  | .upsert t => t.id = id → t.status.isSchedulable = false
  | _ => True

variable {m : Memory} {id : String}

theorem Request.keepsStopped_of_ne {rq : Request} (h : ∀ t, rq = .upsert t → t.id ≠ id) :
    rq.KeepsStopped id := by
  cases rq with
  | upsert t => exact fun hid ↦ absurd hid (h t rfl)
  | _ => trivial

/-- **One call** leaves a task stopped, unless it stores it as one that may be picked up. -/
theorem Memory.Stopped.after (h : m.Stopped id) {c : Call} (hc : c.request.KeepsStopped id) :
    (m.after c).Stopped id := by
  obtain ⟨t, ht, hstatus⟩ := h
  rcases Memory.find?_after m c id with hsame | ⟨-, t', hrewrites, hfind⟩
  · exact ⟨t, hsame.trans ht, hstatus⟩
  · refine ⟨t', hfind, ?_⟩
    cases hrewrites with
    | upsert _ _ hid => exact hc hid
    | lease _ _ ht' _ _ =>
      obtain rfl := Option.some.inj (ht.symm.trans ht')
      -- A lease promotes a queued task only.
      simp only [Task.leasedBy]
      split
      · next hqueued =>
        rw [hqueued] at hstatus
        cases hstatus
      · exact hstatus
    | unlease _ _ ht' _ =>
      obtain rfl := Option.some.inj (ht.symm.trans ht')
      exact hstatus
    | reschedule _ _ ht' _ hschedulable =>
      obtain rfl := Option.some.inj (ht.symm.trans ht')
      rw [hschedulable] at hstatus
      cases hstatus

/-- A stopped task is on no list of runnable tasks. -/
theorem Memory.Stopped.id_ne_of_mem_listRunnable (h : m.Stopped id) (hm : m.Filed) {now : Instant}
    {limit : Nat} {t : Task} (ht : t ∈ m.listRunnable now limit) : t.id ≠ id := by
  rintro rfl
  obtain ⟨hfind, hrunnable⟩ := hm.find?_of_mem_listRunnable ht
  obtain ⟨t', hfind', hstatus⟩ := h
  obtain rfl := Option.some.inj (hfind.symm.trans hfind')
  simp [Task.isRunnable, hstatus] at hrunnable

end Store

/-- **An outcome brings its status with it**, whatever other clients do before it is recorded and
while it is, unless the table is poisoned. -/
theorem SliceOutcome.status_of_record {outcome : SliceOutcome} {id : String}
    {correlation : Option String} {m : Memory} {read write : Exchange} {rest : List Exchange}
    {w : Work StoreError Task}
    (h : Course (outcome.record id correlation) m (read :: write :: rest) w) (hm : m.Filed)
    (hpoisoned : (write.found (read.left m)).poisoned = false) :
    ∃ t, (write.left (read.left m)).tasks.find? id = some t ∧ t.status = outcome.status := by
  obtain ⟨t, -, -, hstored⟩ := stored_of_record h hm
  exact ⟨_, hstored hpoisoned, rfl⟩

/-! ### What schedulers and executors ask -/

namespace Runner

/-- A question that stores no task. -/
def StoresNothing : Ask → Prop
  | .store (.upsert _) => False
  | _ => True

theorem Watches.storesNothing {q : Ask} (h : Watches q) : StoresNothing q := by
  cases h <;> trivial

theorem Dispatches.storesNothing {t : Task} {q : Ask} (h : Dispatches t q) : StoresNothing q := by
  cases h <;> trivial

/-- **A tick stores no task.** -/
theorem tick_asks (r : Runner) (now : Instant) : (r.tick now).Asks StoresNothing :=
  tick_asks_of (fun _ h ↦ h.storesNothing) (fun _ ↦ trivial) fun _ _ h ↦ h.storesNothing

end Runner

/-- A record that is read is the one that was asked for. -/
def IsFiledReply : (q : Ask) → q.Reply → Prop
  | .store (.getTask id), reply => ∀ t, reply = .ok (some t) → t.id = id
  | _, _ => True

/-- The question does not store the task of this identifier as one that may be picked up. -/
def LeavesStopped (id : String) : Ask → Prop
  | .store rq => rq.KeepsStopped id
  | _ => True

theorem Runner.StoresNothing.leavesStopped {q : Ask} (h : StoresNothing q) (id : String) :
    LeavesStopped id q := by
  cases q with
  | store rq =>
    cases rq with
    | upsert t => exact h.elim
    | _ => trivial
  | _ => trivial

/-- **Recording an outcome** stores no task that may be picked up, unless the outcome says so of
this very task. -/
theorem SliceOutcome.record_asksIf {outcome : SliceOutcome} {task id : String}
    (h : task = id → outcome.status.isSchedulable = false) (correlation : Option String) :
    (outcome.record task correlation).AsksIf IsFiledReply (LeavesStopped id) := by
  have hlast (stored : Task) : (Work.store (.appendEvent (some task) outcome.eventType
      (outcome.eventPayload stored) correlation)).AsksIf IsFiledReply (LeavesStopped id) := by
    exact Plan.Asks.asksIf ⟨trivial, fun v ↦ Plan.asks_ofExcept v⟩
  refine ⟨trivial, fun reply hreply ↦ ?_⟩
  match reply, hreply with
  | .error e, _ => trivial
  | .ok none, _ => trivial
  | .ok (some t), hreply =>
    -- The record that is stored is that of the task that was read.
    have hid : t.id = task := hreply t rfl
    refine ⟨fun hid' ↦ h (hid.symm.trans hid'), fun reply _ ↦ ?_⟩
    cases reply with
    | error e => trivial
    | ok stored => exact (hlast stored).bind fun _ ↦ trivial

/-- Work of a scheduler or of whoever executes slices. -/
inductive Operation where
  | tick (r : Runner) (now : Instant)
  | record (outcome : SliceOutcome) (task : String) (correlation : Option String)

namespace Operation

/-- The work, whatever it comes to. -/
def work : Operation → Work Empty Unit
  | tick r now => (r.tick now).attempt >>= fun _ ↦ .done ()
  | record outcome task correlation =>
    (outcome.record task correlation).attempt >>= fun _ ↦ .done ()

/-- An outcome after which the task is to be picked up again. -/
def Requeues (id : String) : Operation → Prop
  | tick .. => False
  | record outcome task _ => task = id ∧ outcome.status.isSchedulable = true

theorem work_asksIf {op : Operation} {id : String} (h : ¬ op.Requeues id) :
    op.work.AsksIf IsFiledReply (LeavesStopped id) := by
  cases op with
  | tick r now =>
    have hasks := (Runner.tick_asks r now).mono fun _ hq ↦ hq.leavesStopped id
    exact hasks.asksIf.attempt.bind fun _ ↦ trivial
  | record outcome task correlation =>
    have hstatus : task = id → outcome.status.isSchedulable = false := fun htask ↦ by
      simpa using fun hs ↦ h ⟨htask, hs⟩
    exact (SliceOutcome.record_asksIf hstatus correlation).attempt.bind fun _ ↦ trivial

end Operation

/-! ### Interleavings -/

variable {id : String} {m : Memory}

/-- A filed store answers with the record that was asked for. -/
theorem isFiledReply_answer (hm : m.Filed) (moment : Moment) (q : Ask) :
    IsFiledReply q (m.answer moment q).1 := by
  cases q with
  | store rq =>
    cases rq with
    | getTask id =>
      intro t ht
      simp only [Memory.answer_store, Memory.perform, Memory.withTasks] at ht
      split at ht
      · cases ht
      · exact hm id t (Except.ok.inj ht)
    | _ => trivial
  | _ => trivial

/-- **One question** that does not store the task as one that may be picked up leaves it stopped. -/
theorem Store.Memory.Stopped.answer (h : m.Filed ∧ m.Stopped id) (moment : Moment) {q : Ask}
    (hq : LeavesStopped id q) : (m.answer moment q).2.Filed ∧ (m.answer moment q).2.Stopped id := by
  cases q with
  | store rq =>
    have hc : (Call.mk moment.clock moment.fresh rq).request.KeepsStopped id := hq
    exact ⟨h.1.after ⟨moment.clock, moment.fresh, rq⟩, h.2.after hc⟩
  | _ => exact h

/-- **Interleavings** that do not put the task back to the queue leave it stopped. -/
theorem Store.Memory.Stopped.play {n : Nat} {ops : Fin n → Operation} {moves : List (Move n)}
    (hm : m.Filed) (h : m.Stopped id) (hops : ∀ i, ¬ (ops i).Requeues id)
    (hcalls : ∀ c, .call c ∈ moves → c.request.KeepsStopped id) :
    (Pool.play ⟨m, fun i ↦ (ops i).work⟩ moves).memory.Filed ∧
      (Pool.play ⟨m, fun i ↦ (ops i).work⟩ moves).memory.Stopped id := by
  refine Pool.invariant (I := fun m ↦ m.Filed ∧ m.Stopped id) (R := IsFiledReply)
    (P := LeavesStopped id) (C := fun c ↦ c.request.KeepsStopped id) ?_ ?_ ⟨hm, h⟩
    (fun i ↦ Operation.work_asksIf (hops i)) hcalls
  · exact fun m moment q h hq ↦ ⟨isFiledReply_answer h.1 moment q, Stopped.answer h moment hq⟩
  · exact fun m c h hc ↦ ⟨h.1.after c, h.2.after hc⟩

/-- **A stopped task stays out of the queue** as long as no outcome puts it back there. Let a task
be stored with a status under which it is not picked up, and let any number of runners tick and any
number of outcomes be recorded, interleaved with each other and with any requests of other clients
that do not store this task. If no outcome that is recorded for this task leaves it to be picked up,
its status does not allow that at any time, and it is never listed as runnable. And it depends on
nothing else: when an outcome has been stored for the task, however this was interleaved, the task
is stopped if and only if the outcome leaves it so, unless the table was poisoned. -/
theorem stopped_until_requeued {n : Nat} {ops : Fin n → Operation} {moves : List (Move n)}
    (hm : m.Filed) (hstopped : m.Stopped id)
    (hcalls : ∀ c, .call c ∈ moves → ∀ t, c.request = .upsert t → t.id ≠ id) :
    ((∀ i, ¬ (ops i).Requeues id) →
        (Pool.play ⟨m, fun i ↦ (ops i).work⟩ moves).memory.Stopped id ∧
          ∀ now limit,
            ∀ t ∈ (Pool.play ⟨m, fun i ↦ (ops i).work⟩ moves).memory.listRunnable now limit,
              t.id ≠ id) ∧
      ∀ (outcome : SliceOutcome) (correlation : Option String) (read write : Exchange)
        (rest : List Exchange) (w : Work StoreError Task),
        Course (outcome.record id correlation) m (read :: write :: rest) w →
        (write.found (read.left m)).poisoned = false →
          ((write.left (read.left m)).Stopped id ↔ outcome.status.isSchedulable = false) := by
  constructor
  · intro hops
    obtain ⟨hfiled, hend⟩ := hstopped.play hm hops fun c hc ↦
      Request.keepsStopped_of_ne (hcalls c hc)
    exact ⟨hend, fun _ _ _ ht ↦ hend.id_ne_of_mem_listRunnable hfiled ht⟩
  · intro outcome correlation read write rest w h hpoisoned
    obtain ⟨t, hfind, hstatus⟩ := SliceOutcome.status_of_record h hm hpoisoned
    constructor
    · rintro ⟨t', hfind', hstopped'⟩
      obtain rfl := Option.some.inj (hfind.symm.trans hfind')
      rwa [hstatus] at hstopped'
    · intro hoff
      exact ⟨t, hfind, by rwa [hstatus]⟩

/-- A store with one task, which has been paused since it was handed out. -/
def pausedStore : Memory :=
  Memory.afterAll {}
    [⟨⟨0, 0⟩, ⟨0⟩, .upsert (.new "a" "o" "c" "s" ⟨0, 0⟩)⟩,
     ⟨⟨5, 0⟩, ⟨1⟩, .acquireLease "a" "r" 30 ⟨5, 0⟩⟩,
     ⟨⟨6, 0⟩, ⟨2⟩, .upsert { Task.new "a" "o" "c" "s" ⟨0, 0⟩ with status := .paused }⟩]

theorem stopped_pausedStore : pausedStore.Stopped "a" :=
  ⟨_, rfl, rfl⟩

/-- A tick, and the record of a slice that is done. -/
def tickAndDone : Fin 2 → Operation
  | 0 => .tick { config := { worker := "r" }, bus := ⟨false⟩ } ⟨9, 0⟩
  | 1 => .record .done "a" none

/-- They are interleaved with a rescheduling under a lease that is gone. -/
theorem stopped_until_requeued_done :
    let moment : Moment := { clock := ⟨9, 0⟩, fresh := ⟨3⟩ }
    let moves : List (Move 2) := [.turn 1 moment, .turn 0 moment,
      .call ⟨⟨9, 0⟩, ⟨4⟩, .reschedule "a" "r" none .running⟩, .turn 1 moment]
    pausedStore.Filed ∧
      (Pool.play ⟨pausedStore, fun i ↦ (tickAndDone i).work⟩ moves).memory.Stopped "a" := by
  intro moment moves
  have hfiled : pausedStore.Filed := Memory.filed_afterAll_empty _
  have hops : ∀ i, ¬ (tickAndDone i).Requeues "a" := by
    intro i
    match i with
    | 0 => exact not_false
    | 1 => exact fun h ↦ absurd h.2 (by decide)
  have hcalls : ∀ c, .call c ∈ moves → ∀ t, c.request = .upsert t → t.id ≠ "a" := by
    intro c hc t ht
    simp only [moves, List.mem_cons, List.not_mem_nil, or_false, reduceCtorEq, false_or,
      Move.call.injEq] at hc
    subst hc
    cases ht
  exact ⟨hfiled, ((stopped_until_requeued hfiled stopped_pausedStore hcalls).1 hops).1⟩

/-- **A stopped task can be put back to the queue.** A task is paused while a slice of it is in
flight; the slice ends, with more work to do, and its outcome is recorded; the task is queued again.
-/
theorem record_restarts_stopped_task :
    ¬ ∀ (n : Nat) (ops : Fin n → Operation) (moves : List (Move n)) (id : String) (m : Memory),
      m.Filed → m.Stopped id →
      (∀ c, .call c ∈ moves → ∀ t, c.request = .upsert t → t.id ≠ id) →
        (Pool.play ⟨m, fun i ↦ (ops i).work⟩ moves).memory.Stopped id := by
  intro h
  let ops : Fin 1 → Operation := fun _ ↦ .record .queued "a" none
  let moment : Moment := { clock := ⟨9, 0⟩, fresh := ⟨3⟩ }
  have hstopped := h 1 ops [.turn 0 moment, .turn 0 moment] "a" pausedStore
    (Memory.filed_afterAll_empty _) stopped_pausedStore (by simp)
  have hqueued : ((Pool.play ⟨pausedStore, fun i ↦ (ops i).work⟩
      [.turn 0 moment, .turn 0 moment]).memory.tasks.find? "a").map Task.status =
        some .queued := rfl
  obtain ⟨t, hfind, hstatus⟩ := hstopped
  rw [hfind, Option.map_some, Option.some.injEq] at hqueued
  rw [hqueued] at hstatus
  cases hstatus

end Foreman
