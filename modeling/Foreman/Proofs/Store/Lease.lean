import Foreman.Proofs.Store.History

/-!
# Leases exclude

Three requests are guarded by the lease of a task, each in its own way: taking it looks at the end
of the lease in force, giving it back and rescheduling look at the name of the holder. What they add
up to is said here over whole histories, in which any clients make any requests at any times, with
clocks that need not agree or move forward; only whole records of the task are not stored over it.

The invariant is the pair of fields that the last grant wrote (`HeldUntil`). It is lost in two ways
only, by the holder giving the lease back and by the next grant, and until then it refuses everybody
else (`lease_exclusive`). The next grant cannot come before the end of the lease, and from then on
the old holder has lost its hold on the record (`NotHeldBy`) until it is granted the lease anew.

A refusal is the answer `false`, with one exception. A lease whose end lies beyond the calendar
crashes the computation that holds the table of tasks, whatever task it was asked for, and from then
on every request on tasks is answered with an error (`refusal_need_not_be_false`); it still changes
nothing.
-/

namespace Foreman.Store

open Time

/-- The record of a task names this holder and this end of its lease. -/
def HeldUntil (m : Memory) (id worker : String) (until_ : Instant) : Prop :=
  ∃ t, m.tasks.find? id = some t ∧ t.worker = some worker ∧ t.leaseUntil = some until_

/-- The record of a task, if there is one, does not name this holder. -/
def NotHeldBy (m : Memory) (id worker : String) : Prop :=
  ∀ t, m.tasks.find? id = some t → t.worker ≠ some worker

namespace Call

/-- The call stores a whole record under an identifier. -/
def Stores (c : Call) (id : String) : Prop :=
  ∃ t, c.request = .upsert t ∧ t.id = id

/-- The call gives back the lease of a task in the name of a worker. -/
def GivesBack (c : Call) (id worker : String) : Prop :=
  c.request = .releaseLease id worker

/-- The call is granted the lease of a task, for this worker and at this time. -/
def Takes (m : Memory) (c : Call) (id worker : String) (now : Instant) : Prop :=
  ∃ seconds, c.request = .acquireLease id worker seconds now ∧
    (m.perform c.clock c.fresh (.acquireLease id worker seconds now)).1 = .ok true

end Call

/-- The calls that leave a lease to its holder: no record is stored over that of the task, the
holder does not give the lease back, and nobody is granted it. -/
def LeavesLease (id worker : String) (m : Memory) (c : Call) : Prop :=
  ¬ c.Stores id ∧ ¬ c.GivesBack id worker ∧ ∀ other now, ¬ c.Takes m id other now

/-- The calls that do not put a worker in possession of a task: no record is stored over that of the
task, and this worker is not granted its lease. -/
def WithholdsLease (id worker : String) (m : Memory) (c : Call) : Prop :=
  ¬ c.Stores id ∧ ∀ now, ¬ c.Takes m id worker now

/-! ### What a hold on a record refuses -/

section Refusals

variable {m : Memory} {id worker other : String} {until_ : Instant}

theorem HeldUntil.notHeldBy (h : HeldUntil m id worker until_) (hne : other ≠ worker) :
    NotHeldBy m id other := by
  obtain ⟨t, ht, hworker, -⟩ := h
  intro t' ht' hother
  obtain rfl : t = t' := Option.some.inj (ht.symm.trans ht')
  exact hne (Option.some.inj (hother.symm.trans hworker))

/-- Before its end a lease refuses every other, also to its own holder. -/
theorem HeldUntil.perform_acquireLease (h : HeldUntil m id worker until_) {now : Instant}
    (hnow : now < until_) (clock : Instant) (fresh : Uuid) (seconds : Int) :
    m.perform clock fresh (.acquireLease id other seconds now) = (m.refusal, m) := by
  obtain ⟨t, ht, -, hu⟩ := h
  exact Memory.perform_acquireLease_of_leased ht (by simp [Task.isLeasedAt, hu, hnow])

/-- So a lease that is granted over it is granted no sooner than at its end. -/
theorem HeldUntil.le_of_takes (h : HeldUntil m id worker until_) {c : Call} {now : Instant}
    (hc : c.Takes m id other now) : until_ ≤ now := by
  obtain ⟨seconds, -, hgranted⟩ := hc
  intro hnow
  rw [h.perform_acquireLease hnow, Memory.refusal] at hgranted
  split at hgranted <;> simp at hgranted

/-- A granted lease names the worker and the end that was asked for. -/
theorem heldUntil_of_takes (c : Call) {seconds : Int} {now : Instant}
    (hc : c.request = .acquireLease id worker seconds now)
    (hgranted : (m.perform c.clock c.fresh (.acquireLease id worker seconds now)).1 = .ok true) :
    ∃ until_, leaseEnd? seconds now = some until_ ∧ HeldUntil (m.after c) id worker until_ := by
  obtain ⟨hm, t, until_, ht, hfree, hend⟩ := Memory.perform_acquireLease_eq_true.1 hgranted
  refine ⟨until_, hend, t.leasedBy worker until_ now, ?_, rfl, rfl⟩
  rw [Memory.after, hc, Memory.perform_acquireLease_of_free hm ht hfree hend]
  exact Register.find?_insert_self ..

end Refusals

/-! ### What keeps a hold, and what keeps one away -/

/-- A rewriting of the record that takes a lease is a grant. -/
theorem takes_of_lease {m : Memory} {id worker : String} {seconds : Int}
    {clock now until_ : Instant} {fresh : Uuid} {t : Task} (hm : m.poisoned = false)
    (ht : m.tasks.find? id = some t) (hfree : t.isLeasedAt now = false)
    (hend : leaseEnd? seconds now = some until_) :
    Call.Takes m ⟨clock, fresh, .acquireLease id worker seconds now⟩ id worker now :=
  ⟨seconds, rfl, Memory.perform_acquireLease_eq_true.2 ⟨hm, t, until_, ht, hfree, hend⟩⟩

/-- A request for a lease that is not granted leaves the leases in force to their holders. -/
theorem leavesLease_of_not_granted {m : Memory} {id worker asked other : String} {seconds : Int}
    {clock now : Instant} {fresh : Uuid}
    (h : asked = id →
      (m.perform clock fresh (.acquireLease asked other seconds now)).1 ≠ .ok true) :
    LeavesLease id worker m ⟨clock, fresh, .acquireLease asked other seconds now⟩ := by
  refine ⟨?_, ?_, ?_⟩
  · rintro ⟨t, hrequest, -⟩
    cases hrequest
  · intro hrequest
    cases hrequest
  · rintro _ _ ⟨seconds', hrequest, hgranted⟩
    obtain ⟨rfl, rfl, rfl, rfl⟩ := Request.acquireLease.inj hrequest
    exact h rfl hgranted

/-- A lease given back by another leaves it to its holder. -/
theorem leavesLease_of_other {m : Memory} {id worker other : String} {clock : Instant}
    {fresh : Uuid} (hne : other ≠ worker) :
    LeavesLease id worker m ⟨clock, fresh, .releaseLease id other⟩ := by
  refine ⟨?_, ?_, ?_⟩
  · rintro ⟨t, hrequest, -⟩
    cases hrequest
  · intro hrequest
    exact hne (Request.releaseLease.inj hrequest).2
  · rintro _ _ ⟨seconds, hrequest, -⟩
    cases hrequest

/-- **One call keeps a hold**, unless it is one of the two that end it. -/
theorem HeldUntil.after {m : Memory} {id worker : String} {until_ : Instant} {c : Call}
    (h : HeldUntil m id worker until_) (hc : LeavesLease id worker m c) :
    HeldUntil (m.after c) id worker until_ := by
  obtain ⟨t, ht, hworker, hu⟩ := h
  obtain ⟨hstores, hback, htakes⟩ := hc
  rcases Memory.find?_after m c id with hsame | ⟨hm, t', hrewrites, hfind⟩
  · exact ⟨t, hsame.trans ht, hworker, hu⟩
  · cases hrewrites with
    | upsert clock fresh hid => exact absurd ⟨_, rfl, hid⟩ hstores
    | lease clock fresh ht' hfree hend =>
      exact absurd (takes_of_lease hm ht' hfree hend) (htakes _ _)
    | unlease clock fresh ht' hw =>
      -- Only the holder gives a lease back, and the holder does not.
      obtain rfl := Option.some.inj (ht.symm.trans ht')
      obtain rfl := Option.some.inj (hworker.symm.trans hw)
      exact absurd rfl hback
    | reschedule clock fresh ht' hw hstatus =>
      obtain rfl := Option.some.inj (ht.symm.trans ht')
      exact ⟨_, hfind, hworker, hu⟩

/-- A history keeps a hold. -/
theorem HeldUntil.afterAll {m : Memory} {id worker : String} {until_ : Instant} {calls : List Call}
    (h : HeldUntil m id worker until_) (hcalls : Along (LeavesLease id worker) m calls) :
    HeldUntil (m.afterAll calls) id worker until_ :=
  Along.invariant (I := fun s ↦ HeldUntil s id worker until_) (fun _ _ h hc ↦ h.after hc) h hcalls

/-- **One call gives nobody a hold** but whom it grants the lease. -/
theorem NotHeldBy.after {m : Memory} {id worker : String} {c : Call} (h : NotHeldBy m id worker)
    (hc : WithholdsLease id worker m c) : NotHeldBy (m.after c) id worker := by
  obtain ⟨hstores, htakes⟩ := hc
  intro t' ht'
  rcases Memory.find?_or_rewrites ht' with hfound | ⟨hm, hrewrites⟩
  · exact h t' hfound
  · cases hrewrites with
    | upsert clock fresh hid => exact absurd ⟨_, rfl, hid⟩ hstores
    | lease clock fresh ht hfree hend =>
      intro hworker
      obtain rfl := Option.some.inj hworker
      exact htakes _ (takes_of_lease hm ht hfree hend)
    | unlease clock fresh ht hw => exact nofun
    | reschedule clock fresh ht hw hstatus => exact fun hworker ↦ h _ ht hworker

/-- A history gives nobody a hold but whom it grants the lease. -/
theorem NotHeldBy.afterAll {m : Memory} {id worker : String} {calls : List Call}
    (h : NotHeldBy m id worker) (hcalls : Along (WithholdsLease id worker) m calls) :
    NotHeldBy (m.afterAll calls) id worker :=
  Along.invariant (I := fun s ↦ NotHeldBy s id worker) (fun _ _ h hc ↦ h.after hc) h hcalls

/-! ### The guarantee -/

/-- **Everybody but the holder is excluded** from a task until an instant: a lease asked for sooner
is refused, and whoever is not the holder reschedules nothing and gives nothing back. None of these
requests changes anything. -/
structure Excludes (s : Memory) (id worker : String) (until_ : Instant) : Prop where
  acquireLease : ∀ clock fresh other seconds now, now < until_ →
    s.perform clock fresh (.acquireLease id other seconds now) = (s.refusal, s)
  reschedule : ∀ clock fresh other nextRun status, other ≠ worker →
    s.perform clock fresh (.reschedule id other nextRun status) = (s.refusal, s)
  releaseLease : ∀ clock fresh other, other ≠ worker →
    (s.perform clock fresh (.releaseLease id other)).2 = s

/-- A worker has no power over a task: it neither gives its lease back nor reschedules it. -/
structure Powerless (s : Memory) (id worker : String) : Prop where
  releaseLease : ∀ clock fresh, (s.perform clock fresh (.releaseLease id worker)).2 = s
  reschedule : ∀ clock fresh nextRun status,
    s.perform clock fresh (.reschedule id worker nextRun status) = (s.refusal, s)

theorem NotHeldBy.powerless {m : Memory} {id worker : String} (h : NotHeldBy m id worker) :
    Powerless m id worker where
  releaseLease _ _ := Memory.perform_releaseLease_of_not_holder h
  reschedule _ _ _ _ := Memory.perform_reschedule_of_not_holder h

theorem HeldUntil.excludes {m : Memory} {id worker : String} {until_ : Instant}
    (h : HeldUntil m id worker until_) : Excludes m id worker until_ where
  acquireLease clock fresh _ seconds _ hnow := h.perform_acquireLease hnow clock fresh seconds
  reschedule clock fresh _ nextRun status hne :=
    (h.notHeldBy hne).powerless.reschedule clock fresh nextRun status
  releaseLease clock fresh _ hne := (h.notHeldBy hne).powerless.releaseLease clock fresh

/-- In a history whose leases all end within the calendar, a refusal stays the answer `false`. -/
theorem refusal_afterAll {m : Memory} (hm : m.poisoned = false) {calls : List Call}
    (hcalendar : ∀ c ∈ calls, ∀ id worker seconds now,
      c.request = .acquireLease id worker seconds now → (leaseEnd? seconds now).isSome) :
    (m.afterAll calls).refusal = .ok false := by
  have h := Along.invariant (I := fun s ↦ s.poisoned = false)
    (fun _ _ h hc ↦ Memory.poisoned_after h hc) hm (Along.of_forall hcalendar m)
  simp [Memory.refusal, h]

/-- **A lease excludes everybody but its holder.** Take any store that grants a lease, and any
history behind the grant that leaves the lease to its holder; in the store that it ends with,
everybody else is excluded until the lease ends. A refusal is the answer `false` as long as no lease
was asked for whose end lies beyond the calendar.

If the next thing is another grant, its time is not before the end of this lease; and when it goes
to another worker, the old holder is without power in every store that is reached before it is
granted the lease itself. -/
theorem lease_exclusive {m s : Memory} {id worker : String} {seconds : Int} {clock now : Instant}
    {fresh : Uuid} {calls : List Call}
    (hgranted : (m.perform clock fresh (.acquireLease id worker seconds now)).1 = .ok true)
    (hcalls : Along (LeavesLease id worker)
      (m.after ⟨clock, fresh, .acquireLease id worker seconds now⟩) calls)
    (hs : s = (m.after ⟨clock, fresh, .acquireLease id worker seconds now⟩).afterAll calls) :
    ∃ until_, leaseEnd? seconds now = some until_ ∧ Excludes s id worker until_ ∧
      ((∀ c ∈ calls, ∀ id' worker' seconds' now',
          c.request = .acquireLease id' worker' seconds' now' → (leaseEnd? seconds' now').isSome) →
        s.refusal = .ok false) ∧
      ∀ c other now', c.Takes s id other now' → until_ ≤ now' ∧
        (other ≠ worker → ∀ later, Along (WithholdsLease id worker) (s.after c) later →
          Powerless ((s.after c).afterAll later) id worker) := by
  obtain ⟨until_, hend, hheld⟩ :=
    heldUntil_of_takes ⟨clock, fresh, .acquireLease id worker seconds now⟩ rfl hgranted
  have hlast : HeldUntil s id worker until_ := hs ▸ hheld.afterAll hcalls
  refine ⟨until_, hend, hlast.excludes, fun hcalendar ↦ ?_, fun c other now' htakes ↦ ?_⟩
  · have hunpoisoned : m.poisoned = false := (Memory.perform_acquireLease_eq_true.1 hgranted).1
    refine hs ▸ refusal_afterAll (Memory.poisoned_after hunpoisoned ?_) hcalendar
    rintro _ _ _ _ ⟨⟩
    exact Option.isSome_iff_exists.2 ⟨until_, hend⟩
  · refine ⟨hlast.le_of_takes htakes, fun hne later hlater ↦ ?_⟩
    obtain ⟨seconds', hrequest, hgranted'⟩ := htakes
    obtain ⟨_, -, hheld'⟩ := heldUntil_of_takes c hrequest hgranted'
    exact ((hheld'.notHeldBy hne.symm).afterAll hlater).powerless

/-- Two queued tasks, due and without a lease. -/
def twoTasks : Memory where
  tasks := .ofList [("a", .new "a" "o" "" "" ⟨0, 0⟩), ("b", .new "b" "o" "" "" ⟨0, 0⟩)]

/-- Worker `v` tries for the lease of `w` one second before its end, tries to give it back, and
takes another task. -/
theorem lease_exclusive_against_rival :
    let first : Call := ⟨⟨0, 0⟩, ⟨0⟩, .acquireLease "a" "w" 30 ⟨0, 0⟩⟩
    let calls : List Call :=
      [⟨⟨50, 0⟩, ⟨1⟩, .acquireLease "a" "v" 60 ⟨29, 0⟩⟩, ⟨⟨40, 0⟩, ⟨2⟩, .releaseLease "a" "v"⟩,
       ⟨⟨45, 0⟩, ⟨3⟩, .acquireLease "b" "v" 0 ⟨31, 0⟩⟩]
    (twoTasks.perform ⟨0, 0⟩ ⟨0⟩ (.acquireLease "a" "w" 30 ⟨0, 0⟩)).1 = .ok true ∧
      Along (LeavesLease "a" "w") (twoTasks.after first) calls ∧
      ∃ until_, leaseEnd? 30 ⟨0, 0⟩ = some until_ ∧
        Excludes ((twoTasks.after first).afterAll calls) "a" "w" until_ := by
  intro first calls
  have hgranted : (twoTasks.perform ⟨0, 0⟩ ⟨0⟩ (.acquireLease "a" "w" 30 ⟨0, 0⟩)).1 = .ok true :=
    rfl
  have hcalls : Along (LeavesLease "a" "w") (twoTasks.after first) calls := by
    refine ⟨leavesLease_of_not_granted fun _ ↦ ?_, leavesLease_of_other (by decide),
      leavesLease_of_not_granted fun h ↦ absurd h (by decide), trivial⟩
    have hrefused : ((twoTasks.after first).perform ⟨50, 0⟩ ⟨1⟩
        (.acquireLease "a" "v" 60 ⟨29, 0⟩)).1 = .ok false := rfl
    simp [hrefused]
  obtain ⟨until_, hend, hexcludes, -⟩ := lease_exclusive hgranted hcalls rfl
  exact ⟨hgranted, hcalls, until_, hend, hexcludes⟩

/-- **A refusal need not be the answer `false`.** Behind a grant of `a`, its holder asks for `b` for
as long as can be written; the end of that lease lies beyond the calendar, and the next worker that
asks for `a` is answered with an error. -/
theorem refusal_need_not_be_false :
    ¬ ∀ (m : Memory) (id worker other : String) (seconds seconds' : Int)
        (clock clock' now now' until_ : Instant) (fresh fresh' : Uuid) (calls : List Call),
      (m.perform clock fresh (.acquireLease id worker seconds now)).1 = .ok true →
      Along (LeavesLease id worker)
        (m.after ⟨clock, fresh, .acquireLease id worker seconds now⟩) calls →
      leaseEnd? seconds now = some until_ → now' < until_ →
      (((m.after ⟨clock, fresh, .acquireLease id worker seconds now⟩).afterAll calls).perform
        clock' fresh' (.acquireLease id other seconds' now')).1 = .ok false := by
  intro h
  have hcalls : Along (LeavesLease "a" "w")
      (twoTasks.after ⟨⟨0, 0⟩, ⟨0⟩, .acquireLease "a" "w" 30 ⟨0, 0⟩⟩)
      [⟨⟨1, 0⟩, ⟨1⟩, .acquireLease "b" "w" Machine.greatest ⟨1, 0⟩⟩] := by
    exact ⟨leavesLease_of_not_granted fun h ↦ absurd h (by decide), trivial⟩
  have hfalse := h twoTasks "a" "w" "v" 30 30 ⟨0, 0⟩ ⟨2, 0⟩ ⟨0, 0⟩ ⟨2, 0⟩ ⟨30, 0⟩ ⟨0⟩ ⟨2⟩ _
    rfl hcalls rfl (by decide)
  have herror : (((twoTasks.after ⟨⟨0, 0⟩, ⟨0⟩, .acquireLease "a" "w" 30 ⟨0, 0⟩⟩).afterAll
      [⟨⟨1, 0⟩, ⟨1⟩, .acquireLease "b" "w" Machine.greatest ⟨1, 0⟩⟩]).perform ⟨2, 0⟩ ⟨2⟩
        (.acquireLease "a" "v" 30 ⟨2, 0⟩)).1 = .error (.error .lockPoisoned) := rfl
  rw [herror] at hfalse
  cases hfalse

end Foreman.Store
