import Foreman.Store.Memory

/-!
# Histories of a store

A store in memory is shared by any number of clients, and each of their requests is carried out as a
whole. What has happened to it is therefore a list of **calls**, and a statement about every order
in which clients come is a statement about every list.

Two facts carry what is said about histories elsewhere. `find?_after` says once what a single call
can do to the record of a task, with the guards under which it does it; whoever follows a record
through a history splits on it, or on `find?_or_rewrites` where the record is one that is found
behind the call, and never opens a request. `Along.invariant` is the induction: what every call that
meets a condition preserves is preserved by a history along which every call meets that condition.
-/

namespace Foreman.Store

open Time

/-- One request of some client, with the time and the fresh identifier that were at hand. -/
structure Call where
  clock : Instant
  fresh : Uuid
  request : Request
deriving DecidableEq

namespace Memory

/-- The store behind a call. -/
def after (m : Memory) (c : Call) : Memory :=
  (m.perform c.clock c.fresh c.request).2

/-- The store behind a history. -/
def afterAll (m : Memory) (calls : List Call) : Memory :=
  calls.foldl after m

@[simp] theorem afterAll_nil (m : Memory) : m.afterAll [] = m := rfl

@[simp] theorem afterAll_cons (m : Memory) (c : Call) (calls : List Call) :
    m.afterAll (c :: calls) = (m.after c).afterAll calls := rfl

/-- The answer of a guarded request that does nothing: `false`, and an error once the table of tasks
is poisoned. -/
def refusal (m : Memory) : Except (Halt StoreError) Bool :=
  if m.poisoned then .error (.error .lockPoisoned) else .ok false

/-! ### Taking a lease -/

variable {m : Memory} {clock now : Instant} {fresh : Uuid} {id worker : String} {seconds : Int}

/-- **When a lease is granted**: the table is not poisoned, the task is there, no lease on it is in
force, and the new one ends within the calendar. -/
theorem perform_acquireLease_eq_true :
    (m.perform clock fresh (.acquireLease id worker seconds now)).1 = .ok true ↔
      m.poisoned = false ∧ ∃ t until_, m.tasks.find? id = some t ∧ t.isLeasedAt now = false ∧
        leaseEnd? seconds now = some until_ := by
  simp only [perform, withTasks, acquireLease]
  cases m.poisoned with
  | true => simp
  | false =>
    cases m.tasks.find? id with
    | none => simp
    | some t =>
      cases ht : t.isLeasedAt now with
      | true => simp [ht]
      | false => cases leaseEnd? seconds now <;> simp [ht]

/-- The store behind a lease that was granted. -/
theorem perform_acquireLease_of_free {t : Task} {until_ : Instant} (hm : m.poisoned = false)
    (ht : m.tasks.find? id = some t) (hfree : t.isLeasedAt now = false)
    (hend : leaseEnd? seconds now = some until_) :
    m.perform clock fresh (.acquireLease id worker seconds now) =
      (.ok true, { m with tasks := m.tasks.insert id (t.leasedBy worker until_ now) }) := by
  simp [perform, withTasks, acquireLease, hm, ht, hfree, hend]

/-- While a lease is in force none is granted, and the store stays as it is. -/
theorem perform_acquireLease_of_leased {t : Task} (ht : m.tasks.find? id = some t)
    (hleased : t.isLeasedAt now = true) :
    m.perform clock fresh (.acquireLease id worker seconds now) = (m.refusal, m) := by
  cases hm : m.poisoned <;> simp [perform, withTasks, acquireLease, refusal, hm, ht, hleased]

/-! ### Giving it back, and rescheduling under it -/

/-- Whoever does not hold the lease gives nothing back. -/
theorem perform_releaseLease_of_not_holder
    (h : ∀ t, m.tasks.find? id = some t → t.worker ≠ some worker) :
    (m.perform clock fresh (.releaseLease id worker)).2 = m := by
  simp only [perform, withTasks, releaseLease]
  cases m.poisoned with
  | true => rfl
  | false =>
    cases ht : m.tasks.find? id with
    | none => rfl
    | some t => simp [h t ht]

/-- Whoever does not hold the lease reschedules nothing. -/
theorem perform_reschedule_of_not_holder {nextRun : Option Instant} {status : Status}
    (h : ∀ t, m.tasks.find? id = some t → t.worker ≠ some worker) :
    m.perform clock fresh (.reschedule id worker nextRun status) = (m.refusal, m) := by
  simp only [perform, withTasks, reschedule, answered, refusal]
  cases m.poisoned with
  | true => rfl
  | false =>
    cases ht : m.tasks.find? id with
    | none => rfl
    | some t => simp [Task.isReschedulableBy, h t ht]

/-! ### Reading and storing a record -/

/-- A record that is stored replaces the one under its identifier, unless the table is poisoned. -/
theorem find?_upsert (hm : m.poisoned = false) (clock : Instant) (fresh : Uuid) (t : Task) :
    (m.perform clock fresh (.upsert t)).2.tasks.find? t.id =
      some (t.storedOver (m.tasks.find? t.id) clock) := by
  simp only [perform, withTasks, hm, Bool.false_eq_true, if_false, answered, upsert]
  exact Register.find?_insert_self ..

theorem perform_upsert_of_poisoned (hm : m.poisoned = true) (clock : Instant)
    (fresh : Uuid) (t : Task) : (m.perform clock fresh (.upsert t)).2 = m := by
  simp only [perform, withTasks, hm, if_true]

/-- Reading a record changes nothing. -/
theorem perform_getTask_snd (m : Memory) (clock : Instant) (fresh : Uuid) (id : String) :
    (m.perform clock fresh (.getTask id)).2 = m := by
  simp only [perform, withTasks]
  split <;> rfl

/-! ### What a call does to the record of a task -/

/-- The ways in which a call puts a new record under an identifier, each with its guard. -/
inductive Rewrites (m : Memory) (id : String) : Call → Task → Prop where
  | upsert (clock : Instant) (fresh : Uuid) {t : Task} (hid : t.id = id) :
    Rewrites m id ⟨clock, fresh, .upsert t⟩ (t.storedOver (m.tasks.find? id) clock)
  | lease (clock : Instant) (fresh : Uuid) {t : Task} {worker : String} {seconds : Int}
      {now until_ : Instant} (ht : m.tasks.find? id = some t) (hfree : t.isLeasedAt now = false)
      (hend : leaseEnd? seconds now = some until_) :
    Rewrites m id ⟨clock, fresh, .acquireLease id worker seconds now⟩ (t.leasedBy worker until_ now)
  | unlease (clock : Instant) (fresh : Uuid) {t : Task} {worker : String}
      (ht : m.tasks.find? id = some t) (hworker : t.worker = some worker) :
    Rewrites m id ⟨clock, fresh, .releaseLease id worker⟩ t.unleased
  | reschedule (clock : Instant) (fresh : Uuid) {t : Task} {worker : String}
      {nextRun : Option Instant} {status : Status} (ht : m.tasks.find? id = some t)
      (hworker : t.worker = some worker) (hstatus : t.status.isSchedulable = true) :
    Rewrites m id ⟨clock, fresh, .reschedule id worker nextRun status⟩
      (t.rescheduled nextRun status clock)

/-- **What a call does to the table of tasks**: nothing, or one of four rewritings of one record,
and those only while the table is not poisoned. -/
theorem tasks_after (m : Memory) (c : Call) :
    (m.after c).tasks = m.tasks ∨
      m.poisoned = false ∧ ∃ id t, Rewrites m id c t ∧ (m.after c).tasks = m.tasks.insert id t := by
  obtain ⟨clock, fresh, request⟩ := c
  cases hm : m.poisoned with
  | true =>
    left
    cases request <;> simp only [after, perform, withTasks, hm, if_true, answered, appendEvent]
    case saveCheckpoint => simp only [saveCheckpoint]; split <;> split <;> rfl
  | false =>
    cases request with
    | upsert t =>
      refine .inr ⟨rfl, t.id, _, .upsert clock fresh rfl, ?_⟩
      simp [after, perform, withTasks, answered, upsert, hm]
    | acquireLease id worker seconds now =>
      cases ht : m.tasks.find? id with
      | none => left; simp [after, perform, withTasks, acquireLease, hm, ht]
      | some t =>
        cases hfree : t.isLeasedAt now with
        | true => left; rw [after, perform_acquireLease_of_leased ht hfree]
        | false =>
          cases hend : leaseEnd? seconds now with
          | none => left; simp [after, perform, withTasks, acquireLease, hm, ht, hfree, hend]
          | some until_ =>
            refine .inr ⟨rfl, id, _, .lease clock fresh ht hfree hend, ?_⟩
            rw [after, perform_acquireLease_of_free hm ht hfree hend]
    | releaseLease id worker =>
      by_cases hholder : ∃ t, m.tasks.find? id = some t ∧ t.worker = some worker
      · obtain ⟨t, ht, hworker⟩ := hholder
        refine .inr ⟨rfl, id, _, .unlease clock fresh ht hworker, ?_⟩
        simp [after, perform, withTasks, releaseLease, hm, ht, hworker]
      · left
        rw [after, perform_releaseLease_of_not_holder fun t ht hw ↦ hholder ⟨t, ht, hw⟩]
    | reschedule id worker nextRun status =>
      cases ht : m.tasks.find? id with
      | none => left; simp [after, perform, withTasks, answered, reschedule, hm, ht]
      | some t =>
        cases hmay : t.isReschedulableBy worker with
        | false => left; simp [after, perform, withTasks, answered, reschedule, hm, ht, hmay]
        | true =>
          have hguard : t.worker = some worker ∧ t.status.isSchedulable = true := by
            simpa [Task.isReschedulableBy] using hmay
          refine .inr ⟨rfl, id, _, .reschedule clock fresh ht hguard.1 hguard.2, ?_⟩
          simp [after, perform, withTasks, answered, reschedule, hm, ht, hmay]
    | saveCheckpoint =>
      left
      simp only [after, perform, answered, saveCheckpoint]
      split <;> split <;> rfl
    | _ => left; simp [after, perform, withTasks, answered, appendEvent, hm]

/-- **What a call does to a record**: it stays, or the call rewrites it under its own identifier. -/
theorem find?_after (m : Memory) (c : Call) (id : String) :
    (m.after c).tasks.find? id = m.tasks.find? id ∨
      m.poisoned = false ∧ ∃ t, Rewrites m id c t ∧ (m.after c).tasks.find? id = some t := by
  rcases tasks_after m c with h | ⟨hm, other, t, hrewrites, h⟩
  · exact .inl (by rw [h])
  · rw [h]
    by_cases hid : id = other
    · subst hid
      exact .inr ⟨hm, t, hrewrites, Register.find?_insert_self ..⟩
    · exact .inl (Register.find?_insert_of_ne hid ..)

/-- A record that is found behind a call was there before it, or the call put it there. -/
theorem find?_or_rewrites {m : Memory} {c : Call} {id : String} {t : Task}
    (h : (m.after c).tasks.find? id = some t) :
    m.tasks.find? id = some t ∨ m.poisoned = false ∧ Rewrites m id c t := by
  rcases find?_after m c id with hsame | ⟨hm, t', hrewrites, hfind⟩
  · exact .inl (hsame.symm.trans h)
  · obtain rfl : t' = t := Option.some.inj (hfind.symm.trans h)
    exact .inr ⟨hm, hrewrites⟩

/-- A record that is stored stays stored. -/
theorem isSome_find?_after {m : Memory} {id : String} (h : (m.tasks.find? id).isSome) (c : Call) :
    ((m.after c).tasks.find? id).isSome := by
  rcases find?_after m c id with hsame | ⟨-, t, -, hfind⟩
  · rwa [hsame]
  · rw [hfind]
    rfl

/-! ### Poison -/

/-- A call cannot poison the table unless it asks for a lease that ends beyond the calendar. -/
theorem poisoned_after {c : Call} (hm : m.poisoned = false)
    (hend : ∀ id worker seconds now, c.request = .acquireLease id worker seconds now →
      (leaseEnd? seconds now).isSome) : (m.after c).poisoned = false := by
  obtain ⟨clock, fresh, request⟩ := c
  cases request with
  | acquireLease id worker seconds now =>
    obtain ⟨until_, hu⟩ := Option.isSome_iff_exists.1 (hend id worker seconds now rfl)
    simp only [after, perform, withTasks, acquireLease, hm, hu, Bool.false_eq_true, if_false]
    split
    · exact hm
    · split <;> simp only [hm]
  | releaseLease id worker =>
    simp only [after, perform, withTasks, releaseLease, hm, Bool.false_eq_true, if_false]
    split
    · split <;> simp only [hm]
    · exact hm
  | reschedule id worker nextRun status =>
    simp only [after, perform, withTasks, answered, reschedule, hm, Bool.false_eq_true, if_false]
    split
    · split <;> simp only [hm]
    · exact hm
  | saveCheckpoint id state taskState expected =>
    simp only [after, perform, answered, saveCheckpoint]
    split <;> split <;> exact hm
  | _ => simp [after, perform, withTasks, answered, appendEvent, upsert, hm]

end Memory

/-! ### Histories under a condition -/

/-- Every call of a history meets a condition on itself and on the store that it finds. -/
def Along (P : Memory → Call → Prop) : Memory → List Call → Prop
  | _, [] => True
  | m, c :: rest => P m c ∧ Along P (m.after c) rest

/-- **The induction over a history**: what each call preserves under a condition, a history
preserves along which the condition is met. -/
theorem Along.invariant {P : Memory → Call → Prop} {I : Memory → Prop}
    (hstep : ∀ m c, I m → P m c → I (m.after c)) {calls : List Call} {m : Memory} (hm : I m)
    (h : Along P m calls) : I (m.afterAll calls) := by
  induction calls generalizing m with
  | nil => exact hm
  | cons c rest ih => exact ih (hstep m c hm h.1) h.2

/-- A condition that does not look at the store is met along a history when every call meets it. -/
theorem Along.of_forall {P : Call → Prop} {calls : List Call} (h : ∀ c ∈ calls, P c) (m : Memory) :
    Along (fun _ c ↦ P c) m calls := by
  induction calls generalizing m with
  | nil => trivial
  | cons c rest ih =>
    exact ⟨h c List.mem_cons_self, ih (fun d hd ↦ h d (List.mem_cons_of_mem _ hd)) _⟩

/-- What every call preserves, every history preserves. -/
theorem Memory.invariant_afterAll {I : Memory → Prop} (hstep : ∀ m c, I m → I (m.after c))
    {m : Memory} (hm : I m) (calls : List Call) : I (m.afterAll calls) :=
  Along.invariant (P := fun _ _ ↦ True) (fun m c h _ ↦ hstep m c h) hm
    (Along.of_forall (P := fun _ ↦ True) (fun _ _ ↦ trivial) m)

end Foreman.Store
