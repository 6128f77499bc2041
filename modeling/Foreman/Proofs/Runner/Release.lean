import Foreman.Proofs.Runner.Alone
import Foreman.Runner.Loop

/-!
# A failing tick gives its lease back

Between the lease that a tick is granted and the end of the tick three things can fail: the bus, the
log, and the request that puts the task off. Whichever of them does, and whether it is a store in
memory or a database, the lease is given back before the tick returns (`GivesBack`). The tick fails
with the first thing that failed, asks for no other lease, and leaves its runner as it was.

Over a store in memory this leaves the task as runnable as it was (`GrantsAlone.undone`). The record
is not quite the one that was listed. Taking the lease has promoted a queued task and has set the
time of the last update; and giving it back clears the fields of the lease, also where a lease that
had run out was still written there (`stale_lease_cleared`).
-/

namespace Foreman

open Time Store

/-- The record of a task whose lease was taken and given back. -/
def Task.handedBack (t : Task) (now : Instant) : Task :=
  { t with
    leaseUntil := none
    worker := none
    status := if t.status = .queued then .running else t.status
    updatedAt := now }

namespace Runner

variable {mayFail : Request → Prop} {m m' : Memory} {r : Runner} {now due : Instant} {t : Task}
  {es : List (Answered Ask.Reply)}

/-! ### Faults -/

/-- The error that an answer is, if it is one. -/
def faultOf? : Answered Ask.Reply → Option TickError
  | ⟨.busOpen, false⟩ => some (.bus .closed)
  | ⟨.enqueue _, false⟩ => some (.bus .closed)
  | ⟨.store _, .error (.error e)⟩ => some (.store e)
  | _ => none

/-- The first error in a dialogue. -/
def fault? (es : List (Answered Ask.Reply)) : Option TickError :=
  es.findSome? faultOf?

/-- The result of work that fails with its first error. -/
def failing : Option TickError → Except (Halt TickError) Unit
  | some e => .error (.error e)
  | none => .ok ()

/-- **A dispatch fails with its first error**, over a store that is steady and within the calendar.
-/
theorem Dispatched.eq_failing {stamp : Stamp} {result : Except (Halt TickError) Unit}
    (h : Dispatched r now t stamp es result) (hsteady : Answers Ask.Steady es)
    (hdue : r.config.due? now = some due) : result = failing (fault? es) := by
  cases h with
  | closed => rfl
  | hungUp => rfl
  | unlogged halt =>
    cases halt with
    | error e => rfl
    | crash => simp [Ask.Steady, Ask.AsksLease] at hsteady
  | endless e hnone => exact absurd (hdue.symm.trans hnone) (Option.some_ne_none _)
  | putOff e hdue' reply =>
    rcases reply with (_ | _) | _
    · rfl
    · simp [Ask.Steady, Ask.AsksLease] at hsteady
    · rfl

/-! ### Every store -/

/-- The runner with which a loop goes on behind a tick (`dialogue_tickTimes_succ`). -/
def behind (r : Runner) : Except (Halt TickError) (TickReport × Runner) → Runner
  | .ok (_, r') => r'
  | .error _ => r

/-- A loop of ticks goes on with that runner, unless the tick crashed. -/
theorem dialogue_tickTimes_succ {rounds : Nat} {result : Except (Halt Empty) Runner}
    (h : (r.tickTimes (rounds + 1)).Dialogue es result) :
    ∃ now es₁ es₂ ticked, es = ⟨.clock, now⟩ :: (es₁ ++ es₂) ∧ (r.tick now).Dialogue es₁ ticked ∧
      (ticked = .error .crash ∧ es₂ = [] ∧ result = .error .crash ∨
        ((r.behind ticked).tickTimes rounds).Dialogue es₂ result) := by
  obtain ⟨now, _, rfl, h⟩ := h
  rcases Plan.dialogue_attempt_bind.1 h with ⟨hcrash, rfl⟩ | ⟨ticked, es₁, es₂, rfl, htick, hrest⟩
  · exact ⟨now, _, [], _, by rw [List.append_nil], hcrash, .inl ⟨rfl, rfl, rfl⟩⟩
  · refine ⟨now, es₁, es₂, _, rfl, htick, .inr ?_⟩
    rcases ticked with _ | ⟨_, _⟩ <;> exact hrest

/-- **A tick gives its lease back**: of the task for which it was granted, as the last thing it
does, and without asking for another one. It fails with the first error behind the lease, if there
is one, and otherwise it has served the task. -/
structure GivesBack (r : Runner) (now : Instant) (es : List (Answered Ask.Reply))
    (result : Except (Halt TickError) (TickReport × Runner)) (t : Task)
    (before body : List (Answered Ask.Reply)) (released : Except (Halt StoreError) Unit) :
    Prop where
  asked : es = before ++ ⟨.store (r.lease now t), .ok true⟩ ::
    (body ++ [⟨.store (.releaseLease t.id r.config.worker), released⟩])
  refused : ∀ p ∈ leases before, p.2 = false
  last : ∀ e ∈ body, ¬ e.question.AsksLease
  failed : ∀ e,
    fault? (body ++ [⟨.store (.releaseLease t.id r.config.worker), released⟩]) = some e →
    result = .error (.error e) ∧ r.behind result = r
  served : fault? (body ++ [⟨.store (.releaseLease t.id r.config.worker), released⟩]) = none →
    ∃ report, result = .ok (report, r.served (some t)) ∧ report.dispatched = some t

/-- Over a steady store a dispatch and the giving back of its lease fail with their first error. -/
theorem settled_eq_failing {dispatched : Except TickError Unit}
    {released : Except (Halt StoreError) Unit} {body : List (Answered Ask.Reply)}
    (hbody : dispatched.mapError Halt.error = failing (fault? body))
    (hreleased : released ≠ .error .crash) :
    settled dispatched released =
      failing (fault? (body ++ [⟨.store (.releaseLease t.id r.config.worker), released⟩])) := by
  rw [fault?, List.findSome?_append]
  change _ = failing ((fault? body).or _)
  rcases hfault : fault? body with _ | e
  · rw [hfault] at hbody
    rcases dispatched with _ | _
    · cases hbody
    rcases released with (_ | _) | _
    · rfl
    · exact absurd rfl hreleased
    · rfl
  · rw [hfault] at hbody
    rcases dispatched with e' | _
    · obtain rfl := Halt.error.inj (Except.error.inj hbody)
      rcases released with (_ | _) | _
      · rfl
      · exact absurd rfl hreleased
      · rfl
    · cases hbody

theorem released_of_dispatch {outcome : Except (Halt TickError) Unit}
    (h : (r.dispatchAndRelease now t).Dialogue es outcome) (hsteady : Answers Ask.Steady es)
    (hdue : r.config.due? now = some due) :
    ∃ body released, es = body ++ [⟨.store (.releaseLease t.id r.config.worker), released⟩] ∧
      outcome = failing (fault? es) := by
  have hleased {body : List (Answered Ask.Reply)} {result : Except (Halt TickError) Unit}
      (h : (r.dispatchLeased now t).Dialogue body result) (hsteady : Answers Ask.Steady body) :
      result = failing (fault? body) := by
    obtain ⟨stamp, es', rfl, hdispatched⟩ := dispatched_of_dialogue h
    have hfault : fault? (stamp.asked ++ es') = fault? es' := rfl
    rw [hfault]
    exact hdispatched.eq_failing (answers_append.1 hsteady).2 hdue
  rcases dialogue_dispatchAndRelease h with ⟨hdispatch, rfl⟩ |
    ⟨body, dispatched, released, hdispatch, rfl, rfl⟩
  · have hcrash := hleased hdispatch hsteady
    rcases hfault : fault? es with _ | e <;> rw [hfault] at hcrash <;> cases hcrash
  · obtain ⟨hbody, hrelease⟩ := answers_append.1 hsteady
    refine ⟨body, released, rfl, settled_eq_failing (hleased hdispatch hbody) ?_⟩
    rintro rfl
    simp [Ask.Steady, Ask.AsksLease] at hrelease

/-- **Every lease that a tick is granted is given back.** -/
theorem Ticked.gives_back {result : Except (Halt TickError) (TickReport × Runner)}
    (h : Ticked r now es result) (hsteady : Answers Ask.Steady es)
    (hdue : r.config.due? now = some due) (hgranted : ∃ rq, (rq, true) ∈ leases es) :
    ∃ t before body released, GivesBack r now es result t before body released := by
  obtain ⟨batch, refused, untried, t, warnings, checked, dispatch, outcome, hcheck, hcandidates,
    hdispatch, rfl, rfl⟩ := h.of_granted hgranted
  simp only [answers_cons, answers_append] at hsteady
  obtain ⟨-, -, -, -, hsteady⟩ := hsteady
  obtain ⟨body, released, rfl, houtcome⟩ := released_of_dispatch hdispatch hsteady hdue
  refine ⟨t, ⟨.store (r.listing now), .ok batch⟩ :: (checked ++ r.refusals now refused), body,
    released, ?_, ?_, ?_, ?_, ?_⟩
  · simp
  · rw [leases_listing, leases_append, leases_checkStarvation hcheck, leases_refusals]
    simp
  · intro e he
    have hasks := hdispatch.forall_of_asks (dispatchAndRelease_asks_dispatches r now t) e
    exact (hasks (List.mem_append_left _ he)).not_asksLease
  · intro e he
    rw [houtcome, he]
    exact ⟨rfl, rfl⟩
  · intro hnone
    rw [houtcome, hnone]
    exact ⟨_, rfl, rfl⟩

/-! ### A store in memory -/

/-- A request for an entry in the log fails or adds an event, and does nothing to the tasks. -/
theorem tasks_of_entry {m₁ : Memory} {stamp : Stamp} {reply : Except (Halt StoreError) Event}
    (h : m.Replies mayFail (.store (stamp.entry r t)) reply m₁) :
    m₁.tasks = m.tasks ∧ m₁.poisoned = m.poisoned := by
  rcases h with ⟨clock, fresh, hperform⟩ | ⟨-, -, rfl⟩
  · obtain rfl := congrArg Prod.snd hperform
    exact ⟨rfl, rfl⟩
  · exact ⟨rfl, rfl⟩

/-- **A dispatch that fails has done nothing to the tasks.** -/
theorem Dispatched.tasks_of_failed {stamp : Stamp} {e : TickError}
    (h : Dispatched r now t stamp es (.error (.error e)))
    (hserves : m.Serves mayFail (stamp.asked ++ es) m') (hm : m.poisoned = false) :
    m'.tasks = m.tasks := by
  obtain ⟨_, rfl, _, rfl, _, rfl, _, rfl, hserves⟩ := hserves
  generalize hresult : (Except.error (Halt.error e) : Except (Halt TickError) Unit) = result at h
  cases h with
  | closed =>
    obtain ⟨_, rfl, rfl⟩ := hserves
    rfl
  | hungUp =>
    obtain ⟨_, rfl, _, rfl, rfl⟩ := hserves
    rfl
  | unlogged halt =>
    obtain ⟨_, rfl, _, rfl, _, hentry, rfl⟩ := hserves
    exact (tasks_of_entry hentry).1
  | endless e hnone => cases hresult
  | @putOff e due hdue reply =>
    obtain ⟨_, rfl, _, rfl, m₁, hentry, _, hput, rfl⟩ := hserves
    obtain ⟨htasks, hpoisoned⟩ := tasks_of_entry hentry
    rcases hput with ⟨clock, fresh, hperform⟩ | ⟨-, -, rfl⟩
    · have hok : ∃ v, (m₁.perform clock fresh (r.putOff t due)).1 = .ok v :=
        Memory.perform_isOk (hpoisoned.trans hm) clock fresh trivial
      obtain ⟨v, hv⟩ := hok
      rw [hperform] at hv
      obtain rfl : reply = .ok v := hv
      cases hresult
    · exact htasks

/-- A task that was runnable is runnable when its lease has been given back. -/
theorem isRunnable_handedBack (h : t.isRunnable now = true) :
    (t.handedBack now).isRunnable now = true := by
  simp only [Task.isRunnable, Bool.and_eq_true, Bool.not_eq_true'] at h ⊢
  refine ⟨⟨?_, h.1.2⟩, rfl⟩
  simp only [Task.handedBack]
  split
  · rfl
  · exact h.1.1

/-- **A dispatch that fails is undone**, up to the promotion of a queued task and the time of the
last update, when giving the lease back does not fail. -/
theorem GrantsAlone.undone {result : Except (Halt TickError) (TickReport × Runner)}
    {before dispatch : List (Answered Ask.Reply)} {e : TickError}
    (h : GrantsAlone mayFail r now m es result m' t before dispatch (.error (.error e)))
    (hrelease : ∀ id worker, ¬ mayFail (.releaseLease id worker)) :
    m'.tasks.find? t.id = some (t.handedBack now) ∧
      ∀ id, id ≠ t.id → m'.tasks.find? id = m.tasks.find? id := by
  obtain ⟨until_, warned, -, hwarned, hserves⟩ := h.serves
  have hhealthy : warned.poisoned = false := hwarned.poisoned.trans h.healthy
  have hends : ∀ e ∈ dispatch, e.question.LeaseEnds := fun e he ↦
    .of_not_asksLease (not_asksLease_of_dispatchAndRelease h.dialogue e he)
  rcases dialogue_dispatchAndRelease h.dialogue with ⟨-, hcrash⟩ |
    ⟨body, dispatched, released, hdispatch, rfl, hsettled⟩
  · cases hcrash
  obtain ⟨m₁, hbody, hreleased⟩ := Memory.serves_append.1 hserves
  have hm₁ : m₁.poisoned = false :=
    hbody.poisoned hhealthy fun e he ↦ hends e (List.mem_append_left _ he)
  obtain ⟨_, ⟨clock, fresh, hperform⟩ | ⟨hmay, -⟩, rfl⟩ := hreleased
  · rcases dispatched with e' | _
    · obtain ⟨stamp, _, rfl, hdispatched⟩ := dispatched_of_dialogue hdispatch
      have htasks := hdispatched.tasks_of_failed hbody hhealthy
      have hfind : m₁.tasks.find? t.id = some (t.leasedBy r.config.worker until_ now) := by
        rw [htasks, Register.find?_insert_self]
      obtain rfl := congrArg Prod.snd
        ((perform_release hm₁ hfind rfl clock fresh).symm.trans hperform)
      refine ⟨Register.find?_insert_self .., fun id hid ↦ ?_⟩
      simp only [Register.find?_insert_of_ne hid, htasks]
    · -- The dispatch went well, and giving the lease back does not fail.
      have hdone : ∃ v, (m₁.perform clock fresh (.releaseLease t.id r.config.worker)).1 = .ok v :=
        Memory.perform_isOk hm₁ clock fresh trivial
      obtain ⟨_, hok⟩ := hdone
      rw [hperform] at hok
      obtain rfl : released = .ok () := hok
      cases hsettled
  · exact absurd hmay (hrelease _ _)

/-! ### A bus that nobody receives from -/

/-- A tick that lists one task, is granted its lease, and finds the bus closed. -/
def closedTick (r : Runner) (now : Instant) (t : Task) (stamp : Stamp) :
    List (Answered Ask.Reply) :=
  ⟨.store (r.listing now), .ok [t]⟩ :: ([] ++ (r.refusals now [] ++
    ⟨.store (r.lease now t), .ok true⟩ :: (stamp.asked ++ [⟨.busOpen, false⟩] ++
      [⟨.store (.releaseLease t.id r.config.worker), .ok ()⟩])))

theorem dialogue_closedTick (stamp : Stamp)
    (hcheck : (r.checkStarvation now [t]).Dialogue [] (.ok 0)) :
    (r.tick now).Dialogue (r.closedTick now t stamp) (.error (.error (.bus .closed))) := by
  have hcandidates : Task.candidates [t] r.config.interactiveBoost r.lastOwner = [] ++ t :: [] :=
    List.perm_singleton.1 (Task.candidates_perm ..)
  exact dialogue_tick_of_granted (List.cons_ne_nil t []) hcheck hcandidates
    (dialogue_of_released (.error (.bus .closed)) (dialogue_of_dispatched .closed) (.ok ()))

theorem serves_closedTick {until_ : Instant} (stamp : Stamp) (hm : m.poisoned = false)
    (hlist : m.listRunnable now r.config.batchLimit = [t]) (hfind : m.tasks.find? t.id = some t)
    (hfree : t.isLeasedAt now = false)
    (hend : leaseEnd? r.config.leaseSeconds now = some until_) :
    ∃ m', m.Serves mayFail (r.closedTick now t stamp) m' := by
  have hlisted : m.perform ⟨0, 0⟩ ⟨0⟩ (r.listing now) = (.ok [t], m) := by
    simp [Memory.perform, Memory.withTasks, hm, hlist]
  have hleased := perform_lease_of_free hm hfind hfree hend ⟨0, 0⟩ ⟨0⟩
  let leased := { m with tasks := m.tasks.insert t.id (t.leasedBy r.config.worker until_ now) }
  have hfound : leased.tasks.find? t.id = some (t.leasedBy r.config.worker until_ now) :=
    Register.find?_insert_self ..
  have hreleased := perform_release (r := r) (m := leased) hm hfound rfl ⟨0, 0⟩ ⟨0⟩
  exact ⟨_, _, .inl ⟨_, _, hlisted⟩, _, .inl ⟨_, _, hleased⟩, _, rfl, _, rfl, _, rfl, _, rfl,
    _, rfl, _, .inl ⟨_, _, hreleased⟩, rfl⟩

/-! ### The lease of a failing tick -/

/-- The requests that may fail while a lease can always be given back. -/
def ReleaseWorks (rq : Request) : Prop :=
  ∀ id worker, rq ≠ .releaseLease id worker

/-- **A failing tick gives its lease back.** Over every store, a tick that was granted a lease gives
it back as the last thing it does, however the steps in between ended. A site and a database are
such stores, whatever happens to them. When a tick fails over a store in memory, the task is as
runnable as before: its record is the one that was listed, but for the promotion from the queue, the
time of the last update, and the fields of its lease, which are empty; and no other task has
changed. -/
theorem failing_tick_gives_back (r : Runner) (now due : Instant)
    (hdue : r.config.due? now = some due) :
    (∀ (es : List (Answered Ask.Reply)) (result : Except (Halt TickError) (TickReport × Runner)),
      (r.tick now).Dialogue es result → Answers Ask.Steady es → (∃ rq, (rq, true) ∈ leases es) →
      ∃ t before body released, GivesBack r now es result t before body released) ∧
    (∀ s : Site,
      (r.tick now).Dialogue ((r.tick now).transcript Site.answer s) (s.run (r.tick now)).1 ∧
      Answers Ask.Steady ((r.tick now).transcript Site.answer s)) ∧
    (∀ p : Sql.Premises,
      (r.tick now).Dialogue ((r.tick now).transcript Sql.Premises.answer p) (p.run (r.tick now)).1 ∧
      Answers Ask.Steady ((r.tick now).transcript Sql.Premises.answer p)) ∧
    ∀ (m m' : Memory) (es : List (Answered Ask.Reply)) (e : TickError), m.Filed →
      (r.tick now).Dialogue es (.error (.error e)) → m.Serves ReleaseWorks es m' →
      (∃ rq, (rq, true) ∈ leases es) →
      ∃ t, (r.lease now t, true) ∈ leases es ∧ m.tasks.find? t.id = some t ∧
        m'.tasks.find? t.id = some (t.handedBack now) ∧
        (t.handedBack now).isRunnable now = true ∧
        ∀ id, id ≠ t.id → m'.tasks.find? id = m.tasks.find? id := by
  refine ⟨fun es result h hsteady ↦ (ticked_of_dialogue h).gives_back hsteady hdue,
    fun s ↦ ⟨(r.tick now).dialogue_run Site.answer s, s.steady_transcript _⟩,
    fun p ↦ ⟨(r.tick now).dialogue_run Sql.Premises.answer p, p.steady_transcript _⟩, ?_⟩
  intro m m' es e hm h hserves hgranted
  obtain ⟨t, before, dispatch, outcome, hgrants⟩ :=
    (ticked_of_dialogue h).grants_alone hserves hm hgranted
  obtain ⟨_, _, hresult⟩ := hgrants.result
  obtain rfl : outcome = .error (.error e) := by
    cases outcome with
    | error halt => exact congrArg Except.error (Except.error.inj hresult.symm)
    | ok _ => cases hresult
  obtain ⟨hrecord, hothers⟩ := hgrants.undone fun id worker hworks ↦ hworks id worker rfl
  refine ⟨t, ?_, hgrants.stored, hrecord, isRunnable_handedBack hgrants.runnable, hothers⟩
  rw [hgrants.asked, leases_append, leases_lease]
  exact List.mem_append_right _ (List.mem_cons_self ..)

/-- The plain runner finds the bus closed: it gives the lease of its task back, and the task is
runnable as before. -/
theorem lease_given_back_over_closed_bus :
    let es := plainRunner.closedTick ⟨5, 0⟩ plainTask (.plain ⟨5, 0⟩)
    (∃ t before body released, GivesBack plainRunner ⟨5, 0⟩ es (.error (.error (.bus .closed))) t
      before body released) ∧
    ∃ (m' : Memory) (t : Task), oneTask.Serves ReleaseWorks es m' ∧
      m'.tasks.find? t.id = some (t.handedBack ⟨5, 0⟩) := by
  intro es
  have hdue : plainRunner.config.due? ⟨5, 0⟩ = some ⟨10, 0⟩ := by decide
  have hdialogue : (plainRunner.tick ⟨5, 0⟩).Dialogue es (.error (.error (.bus .closed))) :=
    dialogue_closedTick (.plain ⟨5, 0⟩) ⟨rfl, rfl⟩
  have hsteady : Answers Ask.Steady es := by
    simp [es, closedTick, Stamp.asked, refusals, Ask.Steady]
  have hgranted : (plainRunner.lease ⟨5, 0⟩ plainTask, true) ∈ leases es := List.mem_cons_self ..
  have hend : leaseEnd? plainRunner.config.leaseSeconds ⟨5, 0⟩ = some ⟨35, 0⟩ := by decide
  obtain ⟨m', hserves⟩ : ∃ m', oneTask.Serves ReleaseWorks es m' :=
    serves_closedTick (.plain ⟨5, 0⟩) rfl listRunnable_oneTask rfl rfl hend
  obtain ⟨hgives, -, -, hmemory⟩ := failing_tick_gives_back plainRunner ⟨5, 0⟩ ⟨10, 0⟩ hdue
  obtain ⟨t, -, -, hrecord, -⟩ :=
    hmemory oneTask m' es _ filed_oneTask hdialogue hserves ⟨_, hgranted⟩
  exact ⟨hgives es _ hdialogue hsteady ⟨_, hgranted⟩, m', t, hserves, hrecord⟩

/-- A task with a lease that has run out and was not given back. -/
def staleTask : Task :=
  { plainTask with leaseUntil := some ⟨1, 0⟩, worker := some "w" }

/-- A store that holds this task only. -/
def oneStaleTask : Memory where
  tasks := .ofList [("a", staleTask)]

theorem listRunnable_oneStaleTask : oneStaleTask.listRunnable ⟨5, 0⟩ 20 = [staleTask] := by
  have hvalues : oneStaleTask.tasks.values = [staleTask] := rfl
  have hrunnable : staleTask.isRunnable ⟨5, 0⟩ = true := rfl
  simp [Memory.listRunnable, Task.bestRunnable, hvalues, hrunnable]

/-- **More than status and time of update can change**: when the lease of an earlier worker has run
out without being given back, it is still written in the record, and a tick that fails clears it. -/
theorem stale_lease_cleared :
    ¬ ∀ (r : Runner) (now due : Instant) (m m' : Memory) (es : List (Answered Ask.Reply))
        (e : TickError),
      r.config.due? now = some due → m.Filed → (r.tick now).Dialogue es (.error (.error e)) →
      m.Serves ReleaseWorks es m' → (∃ rq, (rq, true) ∈ leases es) →
      ∃ t t', (r.lease now t, true) ∈ leases es ∧ m.tasks.find? t.id = some t ∧
        m'.tasks.find? t.id = some t' ∧ t'.leaseUntil = none ∧ t'.worker = none ∧
        { t' with status := t.status, updatedAt := t.updatedAt } = t := by
  intro h
  let es := plainRunner.closedTick ⟨5, 0⟩ staleTask (.plain ⟨5, 0⟩)
  have hdue : plainRunner.config.due? ⟨5, 0⟩ = some ⟨10, 0⟩ := by decide
  have hdialogue : (plainRunner.tick ⟨5, 0⟩).Dialogue es (.error (.error (.bus .closed))) :=
    dialogue_closedTick (.plain ⟨5, 0⟩) ⟨rfl, rfl⟩
  have hend : leaseEnd? plainRunner.config.leaseSeconds ⟨5, 0⟩ = some ⟨35, 0⟩ := by decide
  obtain ⟨m', hserves⟩ : ∃ m', oneStaleTask.Serves ReleaseWorks es m' :=
    serves_closedTick (.plain ⟨5, 0⟩) rfl listRunnable_oneStaleTask rfl (by decide) hend
  obtain ⟨t, t', -, hfind, -, hlease, -, heq⟩ := h plainRunner ⟨5, 0⟩ ⟨10, 0⟩ oneStaleTask m' es _
    hdue (fun _ _ hfind ↦ (find?_single (t := staleTask) hfind).2) hdialogue hserves
    ⟨_, List.mem_cons_self ..⟩
  obtain ⟨rfl, -⟩ := find?_single (t := staleTask) hfind
  have hstale : t'.leaseUntil = some ⟨1, 0⟩ := congrArg Task.leaseUntil heq
  rw [hlease] at hstale
  cases hstale

end Runner

end Foreman
