import Foreman.Proofs.Runner.Stages

/-!
# A tick that has the store to itself

While nobody else uses a store in memory, what a tick lists is still there when it asks for a lease:
every candidate is stored, due and not leased. So the first candidate is granted its lease, and no
lease is ever refused (`Ticked.grants_alone`); before that, the tick has done nothing to the store
but add warnings to the log (`warned_of_checkStarvation`).
-/

namespace Foreman

open Time Store

/-- A task that is runnable is not leased. -/
theorem Task.free_of_isRunnable {t : Task} {now : Instant} (h : t.isRunnable now = true) :
    t.isLeasedAt now = false := by
  simp only [isRunnable, Bool.and_eq_true, Bool.not_eq_true'] at h
  exact h.2

namespace Runner

variable {mayFail : Request → Prop} {m m' : Memory} {r : Runner} {now : Instant} {t : Task}
  {es : List (Answered Ask.Reply)}

/-! ### Up to the lease -/

/-- The log has been added to, and by warnings only. -/
def Warned (m m' : Memory) : Prop :=
  ∃ warnings : List Event, (∀ e ∈ warnings, e.type = EventType.starvationWarning) ∧
    m' = { m with events := m.events ++ warnings }

theorem Warned.tasks (h : Warned m m') : m'.tasks = m.tasks := by
  obtain ⟨_, -, rfl⟩ := h
  rfl

theorem Warned.poisoned (h : Warned m m') : m'.poisoned = m.poisoned := by
  obtain ⟨_, -, rfl⟩ := h
  rfl

/-- **The starvation check** does nothing to a store but add warnings to the log. -/
theorem warned_of_checkStarvation {batch : List Task} {result : Except (Halt TickError) Nat}
    (h : (r.checkStarvation now batch).Dialogue es result) (hserves : m.Serves mayFail es m') :
    Warned m m' := by
  refine hserves.invariant (I := Warned m) (P := Warns) (fun m₁ c hwarned hc ↦ ?_)
    (h.forall_of_asks (checkStarvation_asks_warns r now batch)) ⟨[], List.forall_mem_nil _, by simp⟩
  obtain ⟨clock, fresh, request⟩ := c
  cases hc with
  | list now limit => rwa [Memory.after, Memory.perform_listRunnable_snd]
  | latest task type => exact hwarned
  | append task payload correlation =>
    obtain ⟨warnings, hwarnings, rfl⟩ := hwarned
    refine ⟨warnings ++ [⟨fresh, task, EventType.starvationWarning, payload, correlation, clock⟩],
      ?_, ?_⟩
    · simpa [or_imp, forall_and] using hwarnings
    · simp [Memory.after, Memory.perform, Memory.answered, Memory.appendEvent]

/-- A task that is not leased is granted its lease. -/
theorem perform_lease_of_free {record : Task} {until_ : Instant} (hm : m.poisoned = false)
    (hfind : m.tasks.find? t.id = some record) (hfree : record.isLeasedAt now = false)
    (hend : leaseEnd? r.config.leaseSeconds now = some until_) (clock : Instant) (fresh : Uuid) :
    m.perform clock fresh (r.lease now t) =
      (.ok true,
        { m with tasks := m.tasks.insert t.id (record.leasedBy r.config.worker until_ now) }) :=
  Memory.perform_acquireLease_of_free hm hfind hfree hend

/-- A lease that is granted is in force from then on. -/
theorem perform_lease_of_granted {clock : Instant} {fresh : Uuid} {m₁ : Memory}
    (h : m.perform clock fresh (r.lease now t) = (.ok true, m₁)) :
    m.poisoned = false ∧ ∃ record until_, m.tasks.find? t.id = some record ∧
      record.isLeasedAt now = false ∧ leaseEnd? r.config.leaseSeconds now = some until_ ∧
      m₁ =
        { m with tasks := m.tasks.insert t.id (record.leasedBy r.config.worker until_ now) } := by
  obtain ⟨hm, record, until_, hfind, hfree, hend⟩ :=
    Memory.perform_acquireLease_eq_true.1 (congrArg Prod.fst h)
  have hgranted := perform_lease_of_free hm hfind hfree hend clock fresh
  exact ⟨hm, record, until_, hfind, hfree, hend, congrArg Prod.snd (h.symm.trans hgranted)⟩

/-- The lease of a task that is stored and not leased is not refused. -/
theorem perform_lease_ne_refused {clock : Instant} {fresh : Uuid} {m₁ : Memory}
    (hfind : m.tasks.find? t.id = some t) (hfree : t.isLeasedAt now = false) :
    m.perform clock fresh (r.lease now t) ≠ (.ok false, m₁) := by
  intro h
  simp only [Memory.perform, Memory.withTasks, Memory.acquireLease, hfind, hfree] at h
  split at h
  · cases h
  · split at h
    · next hleased => cases hleased
    · split at h <;> cases h

/-- The lease of a task is given back by the worker that holds it. -/
theorem perform_release {record : Task} (hm : m.poisoned = false)
    (hfind : m.tasks.find? t.id = some record) (hworker : record.worker = some r.config.worker)
    (clock : Instant) (fresh : Uuid) :
    m.perform clock fresh (.releaseLease t.id r.config.worker) =
      (.ok (), { m with tasks := m.tasks.insert t.id record.unleased }) := by
  simp [Memory.perform, Memory.withTasks, Memory.releaseLease, hm, hfind, hworker]

/-- A task is put off by the worker that holds its lease, unless it has been stopped. -/
theorem perform_putOff {record : Task} (due : Instant) (hm : m.poisoned = false)
    (hfind : m.tasks.find? t.id = some record) (hworker : record.worker = some r.config.worker)
    (hstatus : record.status.isSchedulable = true) (clock : Instant) (fresh : Uuid) :
    m.perform clock fresh (r.putOff t due) =
      (.ok true, { m with
        tasks := m.tasks.insert t.id (record.rescheduled (some due) .running clock) }) := by
  simp [Memory.perform, Memory.withTasks, Memory.answered, Memory.reschedule,
    Task.isReschedulableBy, hm, hfind, hworker, hstatus]

/-- **A tick alone with a store is granted a lease**: of a task that is stored and runnable, before
which it has asked for no other and handed nothing to the bus. The dispatch finds the store with
this lease and some warnings, and its result is that of the tick. -/
structure GrantsAlone (mayFail : Request → Prop) (r : Runner) (now : Instant) (m : Memory)
    (es : List (Answered Ask.Reply)) (result : Except (Halt TickError) (TickReport × Runner))
    (m' : Memory) (t : Task) (before dispatch : List (Answered Ask.Reply))
    (outcome : Except (Halt TickError) Unit) : Prop where
  asked : es = before ++ ⟨.store (r.lease now t), .ok true⟩ :: dispatch
  leases : leases before = []
  signals : signals before = []
  healthy : m.poisoned = false
  stored : m.tasks.find? t.id = some t
  runnable : t.isRunnable now = true
  dialogue : (r.dispatchAndRelease now t).Dialogue dispatch outcome
  serves : ∃ until_ warned, leaseEnd? r.config.leaseSeconds now = some until_ ∧ Warned m warned ∧
    Memory.Serves mayFail
      { warned with tasks := m.tasks.insert t.id (t.leasedBy r.config.worker until_ now) }
      dispatch m'
  result : ∃ candidates warnings,
    result = outcome.map fun _ ↦ (⟨candidates, some t, 0, warnings⟩, r.served (some t))

/-- **Alone with a store nobody is refused a lease**: what was listed is stored and runnable, so the
candidates left behind the refusals are all of them. -/
theorem tried_alone {batch refused rest : List Task} {warnings : Nat}
    {es' : List (Answered Ask.Reply)}
    (hserves : m.Serves mayFail (⟨.store (r.listing now), .ok batch⟩ ::
      (es ++ (r.refusals now refused ++ es'))) m') (hm : m.Filed)
    (hcheck : (r.checkStarvation now batch).Dialogue es (.ok warnings))
    (hcandidates : Task.candidates batch r.config.interactiveBoost r.lastOwner = refused ++ rest) :
    refused = [] ∧ (∀ t ∈ rest, m.tasks.find? t.id = some t ∧ t.isRunnable now = true) ∧
      ∃ warned, Warned m warned ∧ warned.Serves mayFail es' m' := by
  obtain ⟨-, rfl, hrest⟩ := hserves.listed
  have hlist (u : Task) (hu : u ∈ refused ++ rest) :
      m.tasks.find? u.id = some u ∧ u.isRunnable now = true := by
    rw [← hcandidates] at hu
    exact hm.find?_of_mem_listRunnable ((Task.candidates_perm ..).mem_iff.1 hu)
  obtain ⟨warned, hchecked, htries⟩ := Memory.serves_append.1 hrest
  have hwarned := warned_of_checkStarvation hcheck hchecked
  rcases refused with _ | ⟨u, refused⟩
  · exact ⟨rfl, hlist, warned, hwarned, htries⟩
  · -- A candidate would have been refused that is stored and not leased.
    obtain ⟨clock, fresh, m₂, hlease, -⟩ := Memory.Serves.of_ok htries
    obtain ⟨hstored, hrunnable⟩ := hlist u (List.mem_cons_self ..)
    rw [← hwarned.tasks] at hstored
    exact absurd hlease (perform_lease_ne_refused hstored (Task.free_of_isRunnable hrunnable))

/-- **The lease that is granted alone** is that of the first candidate, which is stored and runnable,
and its dispatch finds the store with this lease and some warnings. -/
theorem granted_alone {batch refused untried : List Task} {warnings : Nat}
    {checked dispatch : List (Answered Ask.Reply)}
    (hserves : m.Serves mayFail (⟨.store (r.listing now), .ok batch⟩ ::
      (checked ++ (r.refusals now refused ++ ⟨.store (r.lease now t), .ok true⟩ :: dispatch))) m')
    (hm : m.Filed) (hcheck : (r.checkStarvation now batch).Dialogue checked (.ok warnings))
    (hcandidates : Task.candidates batch r.config.interactiveBoost r.lastOwner =
      refused ++ t :: untried) :
    refused = [] ∧ m.poisoned = false ∧ m.tasks.find? t.id = some t ∧ t.isRunnable now = true ∧
      ∃ until_ warned, leaseEnd? r.config.leaseSeconds now = some until_ ∧ Warned m warned ∧
        Memory.Serves mayFail
          { warned with tasks := m.tasks.insert t.id (t.leasedBy r.config.worker until_ now) }
          dispatch m' := by
  obtain ⟨rfl, hlist, warned, hwarned, htries⟩ := tried_alone hserves hm hcheck hcandidates
  obtain ⟨hstored, hrunnable⟩ := hlist t (List.mem_cons_self ..)
  obtain ⟨clock, fresh, m₁, hlease, hrest⟩ := Memory.Serves.of_ok htries
  obtain ⟨hhealthy, record, until_, hfind, -, hend, rfl⟩ := perform_lease_of_granted hlease
  rw [hwarned.tasks] at hfind hrest
  obtain rfl := Option.some.inj (hstored.symm.trans hfind)
  exact ⟨rfl, hwarned.poisoned ▸ hhealthy, hstored, hrunnable, until_, warned, hend, hwarned, hrest⟩

/-- If a tick alone with a store is granted a lease at all, it is granted one in this way. -/
theorem Ticked.grants_alone {result : Except (Halt TickError) (TickReport × Runner)}
    (h : Ticked r now es result) (hserves : m.Serves mayFail es m') (hm : m.Filed)
    (hgranted : ∃ rq, (rq, true) ∈ leases es) :
    ∃ t before dispatch outcome,
      GrantsAlone mayFail r now m es result m' t before dispatch outcome := by
  obtain ⟨batch, refused, untried, t, warnings, checked, dispatch, outcome, hcheck, hcandidates,
    hdispatch, rfl, rfl⟩ := h.of_granted hgranted
  obtain ⟨rfl, hhealthy, hstored, hrunnable, hrest⟩ := granted_alone hserves hm hcheck hcandidates
  refine ⟨t, ⟨.store (r.listing now), .ok batch⟩ :: checked, dispatch, outcome, rfl, ?_, ?_, hhealthy,
    hstored, hrunnable, hdispatch, hrest, batch.length, warnings, rfl⟩
  · rw [leases_listing, leases_checkStarvation hcheck]
  · rw [signals_store, signals_checkStarvation hcheck]

end Runner

end Foreman
