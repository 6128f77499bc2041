import Foreman.Proofs.Store.Readiness
import Foreman.Runner.Tick

/-!
# What a tick knows of the task that it dispatches

Between two questions of a tick the store belongs to everybody. A tick has listed the runnable
tasks, and it puts a request for a slice on the bus for one of them; how much of *runnable* is still
true then is decided by the one request in between that looks at the record again, the lease.

`slice_requested_of_lease` says how much that is, for every course of a tick. Behind each request
for a slice stands a lease that this tick was granted, and the record that the lease found was not
leased. The lease does not look at status and due time. So the record was runnable exactly when it
was schedulable and due; and it was both if nobody else stored or rescheduled it since it was
listed.

Otherwise it need not have been: a granted lease is enough for the request to go out
(`course_of_grants`), and two runners that have listed one task can both dispatch it, although the
first has put it off (`slice_requested_twice`).

The proof goes along the tick. Its questions are of three kinds: those that only watch, the leases,
and those of a dispatch; and a dispatch is entered through a lease that was granted and in no other
way.
-/

namespace Foreman.Runner

open Time Store

variable {r : Runner} {now : Instant} {m : Memory} {es : List Exchange}

/-! ### The questions of a tick -/

/-- **The signal asks for a slice of this task**: it is addressed to the control plane by its type,
comes from a runner, and names the task, whose it is, and the conversation and the session in which
it goes on. The correlation identifier is fresh, and the payload repeats it. -/
structure IsSliceOf (t : Task) (s : Signal) : Prop where
  type : s.type = "pdca.slice.requested"
  source : s.source = "queue_runner"
  payload : s.payload =
    [("conversation_key", .str t.conversation), ("correlation_id", .str s.correlation),
      ("owner_id", .str t.owner), ("session_id", .str t.session), ("task_id", .str t.id)]
  correlation : ∃ id : Uuid, s.correlation = id.render
  durable : s.durable = false

theorem correlation_sliceSignal (birth : Signal.Birth) (id : Uuid) (t : Task) :
    (sliceSignal birth id.render t).correlation = id.render :=
  Signal.correlation_withCorrelation id.render_ne_empty

/-- The signal that a runner makes asks for a slice. -/
theorem isSliceOf_sliceSignal (birth : Signal.Birth) (id : Uuid) (t : Task) :
    IsSliceOf t (sliceSignal birth id.render t) := by
  have hcorrelation := correlation_sliceSignal birth id t
  refine ⟨?_, ?_, ?_, ⟨id, hcorrelation⟩, ?_⟩
  · simp only [sliceSignal, Signal.withCorrelation, if_neg id.render_ne_empty]
    rfl
  · simp only [sliceSignal, Signal.withCorrelation, if_neg id.render_ne_empty]
    rfl
  · rw [hcorrelation]
    simp only [sliceSignal, Signal.withCorrelation, if_neg id.render_ne_empty]
    simp only [Signal.withSource, Signal.withField, Signal.new, Keyed.insert, String.reduceEq,
      String.reduceLT, reduceIte]
  · simp only [sliceSignal, Signal.withCorrelation, if_neg id.render_ne_empty]
    rfl

/-- A question that looks at tasks and events or writes an event, and does nothing else. -/
inductive Watches : Ask → Prop where
  | list (now : Instant) (limit : Nat) : Watches (.store (.listRunnable now limit))
  | latest (task type : String) : Watches (.store (.latestEvent task type))
  | append (task : Option String) (type : String) (payload : Payload)
    (correlation : Option String) :
    Watches (.store (.appendEvent task type payload correlation))

/-- A question of the starvation check: what it writes is a warning. -/
inductive Warns : Ask → Prop where
  | list (now : Instant) (limit : Nat) : Warns (.store (.listRunnable now limit))
  | latest (task type : String) : Warns (.store (.latestEvent task type))
  | append (task : Option String) (payload : Payload) (correlation : Option String) :
    Warns (.store (.appendEvent task EventType.starvationWarning payload correlation))

theorem Warns.watches {q : Ask} (h : Warns q) : Watches q := by
  cases h with
  | list now limit => exact .list now limit
  | latest task type => exact .latest task type
  | append task payload correlation => exact .append task _ payload correlation

/-- What is put on the bus, if anything, asks for a slice of this task. -/
def EmitsOnly (t : Task) (q : Ask) : Prop :=
  ∀ s, q = .enqueue s → IsSliceOf t s

theorem asks_request {P : Ask → Prop} {rq : Request} (h : P (.store rq)) : (request rq).Asks P :=
  Plan.Asks.mapError ⟨h, fun v ↦ Plan.asks_ofExcept v⟩

/-- A request of a tick that was answered is one exchange. -/
theorem exchange_of_request {rq : Request} {a : rq.Value} (h : Course (request rq) m es (.done a)) :
    ∃ others moment, es = [⟨others, moment, .store rq⟩] ∧
      ((m.afterAll others).perform moment.clock moment.fresh rq).1 = .ok a := by
  cases h with
  | @ask _ _ _ others moment es _ h =>
    generalize hreply : (Exchange.reply ⟨others, moment, .store rq⟩ m) = reply at h
    cases reply with
    | error e => cases h
    | ok value =>
      obtain ⟨rfl, hvalue⟩ := h.eq_of_done
      obtain rfl : a = value := by simpa using hvalue
      exact ⟨others, moment, rfl, hreply⟩

/-- The starvation check looks at tasks and events and writes warnings. -/
theorem checkStarvation_asks_warns (r : Runner) (now : Instant) (batch : List Task) :
    (r.checkStarvation now batch).Asks Warns := by
  have hwarn (cooldown : Span) (depth : Nat) (t : Task) :
      (r.warnAbout now cooldown depth t).Asks Warns := by
    simp only [warnAbout]
    split
    · trivial
    · split
      · trivial
      · refine (asks_request (.latest ..)).bind fun last ↦ ?_
        split
        · trivial
        · exact (asks_request (.append ..)).bind fun _ ↦ trivial
  have hwarnEach (cooldown : Span) (depth : Nat) (tasks : List Task) :
      (r.warnEach now cooldown depth tasks).Asks Warns := by
    induction tasks with
    | nil => trivial
    | cons t rest ih => exact (hwarn ..).bind fun _ ↦ ih.bind fun _ ↦ trivial
  have hwarnStarving (tasks : List Task) : (r.warnStarving now tasks).Asks Warns :=
    (Plan.asks_require _).bind fun _ ↦ hwarnEach ..
  simp only [checkStarvation]
  split
  · exact hwarnStarving batch
  · exact (asks_request (.list ..)).bind fun _ ↦ hwarnStarving _

/-- The starvation check watches. -/
theorem checkStarvation_asks (r : Runner) (now : Instant) (batch : List Task) :
    (r.checkStarvation now batch).Asks Watches :=
  (checkStarvation_asks_warns r now batch).mono fun _ ↦ Warns.watches

/-- A question of a dispatch: what the signal is made of, the bus, the log, and the requests with
which the runner puts the task off and gives its lease back. -/
inductive Dispatches (t : Task) : Ask → Prop where
  | freshId : Dispatches t .freshId
  | clock : Dispatches t .clock
  | busOpen : Dispatches t .busOpen
  | emit {s : Signal} (hs : IsSliceOf t s) : Dispatches t (.enqueue s)
  | append (task : Option String) (type : String) (payload : Payload)
    (correlation : Option String) :
    Dispatches t (.store (.appendEvent task type payload correlation))
  | reschedule (worker : String) (nextRun : Option Instant) (status : Status) :
    Dispatches t (.store (.reschedule t.id worker nextRun status))
  | release (worker : String) : Dispatches t (.store (.releaseLease t.id worker))

theorem asks_emit {t : Task} (bus : Bus) {s : Signal} (hs : IsSliceOf t s) :
    (bus.emit s).Asks (Dispatches t) := by
  refine (Plan.asks_question .busOpen).bind fun isOpen ↦ ?_
  split
  · refine Plan.Asks.bind ?_ fun _ ↦ (Plan.asks_question (.emit hs)).bind fun received ↦ ?_
    · simp only [Bus.record]
      split
      · refine Plan.Asks.bind (Plan.Asks.mapError ?_) fun _ ↦ trivial
        exact ⟨.append .., fun v ↦ Plan.asks_ofExcept v⟩
      · trivial
    · split <;> trivial
  · trivial

/-- The questions of a dispatch. -/
theorem dispatchAndRelease_asks_dispatches (r : Runner) (now : Instant) (t : Task) :
    (r.dispatchAndRelease now t).Asks (Dispatches t) := by
  have hleased : (r.dispatchLeased now t).Asks (Dispatches t) := by
    refine (Plan.asks_question .freshId).bind fun id ↦ ?_
    refine Plan.Asks.bind ?_ fun birth ↦ ?_
    · exact ⟨.freshId, fun _ ↦ ⟨.freshId, fun _ ↦ ⟨.clock, fun _ ↦ trivial⟩⟩⟩
    · refine (asks_emit _ (isSliceOf_sliceSignal birth id t)).mapError.bind fun _ ↦ ?_
      refine (asks_request (.append ..)).bind fun _ ↦ ?_
      refine (Plan.asks_require _).bind fun _ ↦ (Plan.asks_require _).bind fun _ ↦ ?_
      exact (asks_request (.reschedule ..)).bind fun _ ↦ trivial
  refine hleased.attempt.bind fun dispatched ↦ ?_
  refine (asks_request (.release _)).attempt.bind fun released ↦ ?_
  split <;> trivial

/-- **The questions of a tick** watch, ask for a lease as the settings say, or dispatch a task. -/
theorem tick_asks_of {P : Ask → Prop} (hwatch : ∀ q, Watches q → P q)
    (hlease : ∀ t : Task, P (.store (.acquireLease t.id r.config.worker r.config.leaseSeconds now)))
    (hdispatch : ∀ t q, Dispatches t q → P q) : (r.tick now).Asks P := by
  have hfirst (tasks : List Task) : (r.dispatchFirst now tasks).Asks P := by
    induction tasks with
    | nil => trivial
    | cons t rest ih =>
      refine (asks_request (hlease t)).bind fun leased ↦ ?_
      split
      · have hdispatched := (dispatchAndRelease_asks_dispatches r now t).mono (hdispatch t)
        exact hdispatched.bind fun _ ↦ trivial
      · exact ih.bind fun _ ↦ trivial
  refine (asks_request (hwatch _ (.list ..))).bind fun batch ↦ ?_
  split
  · trivial
  · have hchecked := (checkStarvation_asks r now batch).mono hwatch
    exact hchecked.bind fun _ ↦ (hfirst _).bind fun _ ↦ trivial

/-- A dispatch puts nothing on the bus but the request for a slice of its task. -/
theorem dispatchAndRelease_asks (r : Runner) (now : Instant) (t : Task) :
    (r.dispatchAndRelease now t).Asks (EmitsOnly t) := by
  refine (dispatchAndRelease_asks_dispatches r now t).mono ?_
  rintro _ hq s rfl
  cases hq with
  | emit hs => exact hs

/-! ### The lease behind a request for a slice -/

/-- An exchange in which the runner asks the store for the lease of a task, and is granted it. -/
structure Grants (r : Runner) (now : Instant) (id : String) (lease : Exchange) (m : Memory) :
    Prop where
  question : lease.question = .store (.acquireLease id r.config.worker r.config.leaseSeconds now)
  granted : ((lease.found m).perform lease.moment.clock lease.moment.fresh
    (.acquireLease id r.config.worker r.config.leaseSeconds now)).1 = .ok true

/-- The record that a granted lease finds is not leased, and nothing more is known of it: whether it
is runnable is left to its status and its due time. -/
theorem Grants.record {id : String} {lease : Exchange} (h : Grants r now id lease m) :
    ∃ record, (lease.found m).tasks.find? id = some record ∧ record.isLeasedAt now = false ∧
      (record.isRunnable now = true ↔
        record.status.isSchedulable = true ∧ record.isDueAt now = true) := by
  obtain ⟨-, record, _, hfind, hfree, -⟩ := Memory.perform_acquireLease_eq_true.1 h.granted
  exact ⟨record, hfind, hfree, by simp [Task.isRunnable, hfree]⟩

/-- A question that does not put anything on the bus. -/
def Silent (q : Ask) : Prop :=
  ∀ s, q ≠ .enqueue s

theorem Watches.silent {q : Ask} (h : Watches q) : Silent q := by
  cases h <;> exact nofun

/-- Nothing is put on the bus by work whose questions are all silent. -/
theorem enqueue_not_mem {ε α : Type} {P : Ask → Prop} {p w : Work ε α} (h : Course p m es w)
    (hp : p.Asks P) (hsilent : ∀ {q}, P q → Silent q) {others : List Call} {moment : Moment}
    {s : Signal} : (⟨others, moment, .enqueue s⟩ : Exchange) ∉ es := by
  intro hmem
  exact hsilent (h.mem_of_asks hp _ hmem) s rfl

/-- **Trying candidates**: whatever is put on the bus asks for a slice of one of them, and it comes
after the lease of this candidate, before which there were refused leases only. -/
theorem lease_of_dispatchFirst {tasks : List Task} {w : Work TickError (Option Task × Nat)}
    (h : Course (r.dispatchFirst now tasks) m es w) {before after : List Exchange}
    {others : List Call} {moment : Moment} {s : Signal}
    (hes : es = before ++ ⟨others, moment, .enqueue s⟩ :: after) :
    ∃ t ∈ tasks, IsSliceOf t s ∧ ∃ refused lease rest, before = refused ++ lease :: rest ∧
      Grants r now t.id lease (m.through refused) ∧
      ∀ e ∈ refused, ∃ id,
        e.question = .store (.acquireLease id r.config.worker r.config.leaseSeconds now) := by
  induction tasks generalizing m es before w with
  | nil =>
    obtain ⟨rfl, -⟩ := h.eq_of_done
    simp at hes
  | cons t rest ih =>
    rcases h.of_bind with ⟨p', hp, -⟩ | ⟨leased, es₁, es₂, rfl, hlease, hrest⟩
    · have hmem : ⟨others, moment, .enqueue s⟩ ∈ es := by simp [hes]
      exact absurd hmem (enqueue_not_mem hp (asks_request nofun) id)
    · obtain ⟨others', moment', rfl, hreply⟩ := exchange_of_request hlease
      obtain ⟨between, rfl, rfl⟩ := Exchange.mem_right_of_append hes (by simp)
      cases leased with
      | true =>
        obtain ⟨p', hp⟩ := Course.of_bind_done (fun _ ↦ ⟨_, rfl⟩) hrest
        have hemits := hp.mem_of_asks (dispatchAndRelease_asks r now t) ⟨others, moment, .enqueue s⟩
          (by simp)
        exact ⟨t, List.mem_cons_self .., hemits s rfl, [], _, between, rfl, ⟨rfl, hreply⟩, by simp⟩
      | false =>
        obtain ⟨p', hp⟩ := Course.of_bind_done (fun _ ↦ ⟨_, rfl⟩) hrest
        obtain ⟨t', ht', hslice, refused, lease, rest', rfl, hgrants, hrefused⟩ := ih hp rfl
        refine ⟨t', List.mem_cons_of_mem _ ht', hslice, _ :: refused, lease, rest', rfl, hgrants,
          ?_⟩
        intro e he
        rcases List.mem_cons.1 he with rfl | he
        · exact ⟨t.id, rfl⟩
        · exact hrefused e he

/-- A question that neither stores nor reschedules a task. -/
def Settles (q : Ask) : Prop :=
  ∀ rq id, q = .store rq → ¬ rq.Unsettles id

theorem Watches.settles {q : Ask} (h : Watches q) : Settles q := by
  rintro rq id rfl hunsettles
  cases hunsettles <;> cases h

theorem settles_acquireLease (id worker : String) (seconds : Int) (now : Instant) :
    Settles (.store (.acquireLease id worker seconds now)) := by
  rintro rq id' hrq hunsettles
  obtain rfl := Ask.store.inj hrq
  cases hunsettles

/-- **The way of a tick to the bus**: it lists the runnable tasks, settles for one of them, is
granted its lease, and asks for a slice of it. In between it stores and reschedules nothing. -/
theorem lease_of_tick {w : Work TickError (TickReport × Runner)} (h : Course (r.tick now) m es w)
    {before after : List Exchange} {others : List Call} {moment : Moment} {s : Signal}
    (hes : es = before ++ ⟨others, moment, .enqueue s⟩ :: after) :
    ∃ t listing between lease rest, before = listing :: (between ++ lease :: rest) ∧ IsSliceOf t s ∧
      listing.question = .store (.listRunnable now r.config.batchLimit) ∧
      t ∈ (listing.found m).listRunnable now r.config.batchLimit ∧
      Grants r now t.id lease (m.through (listing :: between)) ∧
      ∀ e ∈ listing :: between, Settles e.question := by
  rcases h.of_bind with ⟨p', hp, -⟩ | ⟨batch, es₁, es₂, rfl, hlisting, hrest⟩
  · have hmem : ⟨others, moment, .enqueue s⟩ ∈ es := by simp [hes]
    exact absurd hmem (enqueue_not_mem hp (asks_request nofun) id)
  obtain ⟨others₁, moment₁, rfl, hbatch⟩ := exchange_of_request hlisting
  obtain ⟨before₁, rfl, rfl⟩ := Exchange.mem_right_of_append hes (by simp)
  cases hempty : batch.isEmpty with
  | true =>
    rw [if_pos hempty] at hrest
    obtain ⟨hnil, -⟩ := hrest.eq_of_done
    simp at hnil
  | false =>
    rw [if_neg (by simp [hempty])] at hrest
    rcases hrest.of_bind with ⟨p', hp, -⟩ | ⟨warnings, es₃, es₄, heq, hwarn, hdispatch⟩
    · have hmem : ⟨others, moment, .enqueue s⟩ ∈ before₁ ++ ⟨others, moment, .enqueue s⟩ :: after :=
        by simp
      exact absurd hmem (enqueue_not_mem hp (checkStarvation_asks ..) Watches.silent)
    have hwatches := hwarn.mem_of_asks (checkStarvation_asks ..)
    obtain ⟨before₂, rfl, rfl⟩ := Exchange.mem_right_of_append heq.symm
      (enqueue_not_mem hwarn (checkStarvation_asks ..) Watches.silent)
    obtain ⟨p', hp⟩ := Course.of_bind_done (fun _ ↦ ⟨_, rfl⟩) hdispatch
    obtain ⟨t, ht, hslice, refused, lease, rest, rfl, hgrants, hrefused⟩ :=
      lease_of_dispatchFirst hp rfl
    refine ⟨t, ⟨others₁, moment₁, .store (.listRunnable now r.config.batchLimit)⟩, es₃ ++ refused,
      lease, rest, by simp, hslice, rfl, ?_, by simpa [Memory.through_append] using hgrants, ?_⟩
    · have hlisted := (Task.candidates_perm ..).mem_iff.1 ht
      exact Memory.eq_of_perform_listRunnable hbatch ▸ hlisted
    · intro e he
      rcases List.mem_cons.1 he with rfl | he
      · exact (Watches.list ..).settles
      · rcases List.mem_append.1 he with he | he
        · exact (hwatches e he).settles
        · obtain ⟨id, hid⟩ := hrefused e he
          exact hid ▸ settles_acquireLease _ _ _ _

/-- A task that was listed is ready when its lease is granted, if nobody else stored it anew or
rescheduled it since. -/
theorem readyAt_of_settled {listing lease : Exchange} {between : List Exchange} {limit : Nat}
    {t : Task} (hm : m.Filed)
    (hlisting : listing.question = .store (.listRunnable now limit))
    (ht : t ∈ (listing.found m).listRunnable now limit)
    (hown : ∀ e ∈ listing :: between, Settles e.question)
    (hothers : ∀ e ∈ lease :: between, ∀ c ∈ e.others, ¬ c.request.Unsettles t.id) :
    ReadyAt (lease.found (m.through (listing :: between))) t.id now := by
  have hfound : (listing.found m).Filed := hm.afterAll listing.others
  obtain ⟨hstored, hrunnable⟩ := hfound.find?_of_mem_listRunnable ht
  simp only [Task.isRunnable, Bool.and_eq_true] at hrunnable
  have hleft : listing.left m = listing.found m := by
    obtain ⟨others, moment, question⟩ := listing
    subst hlisting
    exact Memory.perform_listRunnable_snd _ moment.clock now moment.fresh limit
  have hready : ReadyAt (listing.left m) t.id now := hleft ▸ ⟨t, hstored, hrunnable.1⟩
  have hbetween : ReadyAt ((listing.left m).through between) t.id now :=
    hready.through (fun e he ↦ hothers e (List.mem_cons_of_mem _ he))
      fun e he rq hrq ↦ hown e (List.mem_cons_of_mem _ he) rq t.id hrq
  exact hbetween.afterAll (hothers lease (List.mem_cons_self ..))

/-- **What stands behind a request for a slice.** However a tick is interleaved with other clients,
a signal that it puts on the bus asks for a slice of a task that it has listed, and whose lease it
was granted since. The record that the lease found was not leased at `now`. It was runnable exactly
when it was schedulable and due; and it was, if since the listing nobody else stored it anew or
rescheduled it. -/
theorem slice_requested_of_lease {w : Work TickError (TickReport × Runner)}
    (h : Course (r.tick now) m es w) {before after : List Exchange} {others : List Call}
    {moment : Moment} {s : Signal} (hes : es = before ++ ⟨others, moment, .enqueue s⟩ :: after) :
    ∃ t listing between lease rest record,
      before = listing :: (between ++ lease :: rest) ∧ IsSliceOf t s ∧
      listing.question = .store (.listRunnable now r.config.batchLimit) ∧
      t ∈ (listing.found m).listRunnable now r.config.batchLimit ∧
      Grants r now t.id lease (m.through (listing :: between)) ∧
      (lease.found (m.through (listing :: between))).tasks.find? t.id = some record ∧
      record.isLeasedAt now = false ∧
      (record.isRunnable now = true ↔
        record.status.isSchedulable = true ∧ record.isDueAt now = true) ∧
      (m.Filed → (∀ e ∈ lease :: between, ∀ c ∈ e.others, ¬ c.request.Unsettles t.id) →
        record.isRunnable now = true) := by
  obtain ⟨t, listing, between, lease, rest, hbefore, hslice, hlisting, ht, hgrants, hown⟩ :=
    lease_of_tick h hes
  obtain ⟨record, hfind, hfree, hrunnable⟩ := hgrants.record
  refine ⟨t, listing, between, lease, rest, record, hbefore, hslice, hlisting, ht, hgrants, hfind,
    hfree, hrunnable, fun hm hothers ↦ ?_⟩
  obtain ⟨record', hfind', hready⟩ := readyAt_of_settled hm hlisting ht hown hothers
  obtain rfl := Option.some.inj (hfind.symm.trans hfind')
  exact hrunnable.2 hready

/-! ### What the lease does not look at -/

/-- The questions of a dispatch before the one that puts the signal on the bus. -/
def untilBus (moment : Moment) : List Exchange :=
  [⟨[], moment, .freshId⟩, ⟨[], moment, .freshId⟩, ⟨[], moment, .freshId⟩, ⟨[], moment, .clock⟩,
   ⟨[], moment, .busOpen⟩]

/-- A signal that is not durable goes straight to an open bus. -/
theorem course_emit (bus : Bus) {s : Signal} (hs : s.durable = false) {moment : Moment}
    (hopen : moment.receiving = true) (m : Memory) :
    Course (bus.emit s) m [⟨[], moment, .busOpen⟩, ⟨[], moment, .enqueue s⟩] (.done ()) := by
  obtain ⟨clock, fresh, receiving, incoming, answer⟩ := moment
  obtain rfl : receiving = true := hopen
  refine .ask ?_
  have hrecord : bus.record s = .done () := by simp [Bus.record, hs]
  change Course (bus.record s >>= fun _ ↦ _) _ _ _
  rw [hrecord]
  exact .ask (.here ..)

/-- **A granted lease is enough.** Whatever else the record says, when the lease of a candidate is
granted and the bus is open, the request for a slice of it goes out. -/
theorem course_of_grants {t : Task} {calls : List Call} {moment moment' : Moment} (rest : List Task)
    (h : Grants r now t.id
      ⟨calls, moment, .store (.acquireLease t.id r.config.worker r.config.leaseSeconds now)⟩ m)
    (hopen : moment'.receiving = true) :
    ∃ s w, IsSliceOf t s ∧ Course (r.dispatchFirst now (t :: rest)) m
      (⟨calls, moment, .store (.acquireLease t.id r.config.worker r.config.leaseSeconds now)⟩ ::
        (untilBus moment' ++ [⟨[], moment', .enqueue s⟩])) w := by
  let lease : Exchange :=
    ⟨calls, moment, .store (.acquireLease t.id r.config.worker r.config.leaseSeconds now)⟩
  let birth : Signal.Birth := ⟨moment'.fresh, moment'.fresh, moment'.clock⟩
  have hslice := isSliceOf_sliceSignal birth moment'.fresh t
  have hemit := course_emit r.bus hslice.durable hopen (lease.left m)
  have hdispatch : ∃ w, Course (r.dispatchAndRelease now t) (lease.left m)
      (untilBus moment' ++
        [⟨[], moment', .enqueue (sliceSignal birth moment'.fresh.render t)⟩]) w :=
    ⟨_, .ask (.ask (.ask (.ask (((hemit.mapError TickError.bus).bind _).attempt.bind _))))⟩
  obtain ⟨w, hw⟩ := hdispatch
  refine ⟨_, w >>= fun _ ↦ .done (some t, 0), hslice, .ask ?_⟩
  have hreply : lease.reply m = .ok true := h.granted
  change Course ((Plan.ofExcept (lease.reply m)).mapError TickError.store >>= _) _ _ _
  rw [hreply]
  exact hw.bind _

/-! ### Two runners over one task -/

/-- A runner without special settings. -/
def plainRunner : Runner where
  config := { worker := "r" }
  bus := ⟨false⟩

/-- A task that is queued and always due. -/
def plainTask : Task :=
  .new "a" "o" "c" "s" ⟨0, 0⟩

/-- A store that holds this task only. -/
def oneTask : Memory where
  tasks := .ofList [("a", plainTask)]

/-- What is at hand during the tick. -/
def plainMoment : Moment :=
  { clock := ⟨5, 0⟩, fresh := ⟨0⟩ }

/-- The course of a tick over the store with one task, with calls of others between the listing and
the lease. -/
def plainCourse (calls : List Call) (s : Signal) : List Exchange :=
  [⟨[], plainMoment, .store (.listRunnable ⟨5, 0⟩ 20)⟩] ++
    ⟨calls, plainMoment, .store (.acquireLease "a" "r" 30 ⟨5, 0⟩)⟩ ::
      (untilBus plainMoment ++ [⟨[], plainMoment, .enqueue s⟩])

theorem listRunnable_oneTask : oneTask.listRunnable ⟨5, 0⟩ 20 = [plainTask] := by
  have hvalues : oneTask.tasks.values = [plainTask] := rfl
  have hrunnable : plainTask.isRunnable ⟨5, 0⟩ = true := rfl
  simp [Memory.listRunnable, Task.bestRunnable, hvalues, hrunnable]

theorem course_plainCourse {calls : List Call}
    (h : Grants plainRunner ⟨5, 0⟩ "a"
      ⟨calls, plainMoment, .store (.acquireLease "a" "r" 30 ⟨5, 0⟩)⟩ oneTask) :
    ∃ s w, Course (plainRunner.tick ⟨5, 0⟩) oneTask (plainCourse calls s) w := by
  have hopen : plainMoment.receiving = true := rfl
  obtain ⟨s, w, -, hcourse⟩ := course_of_grants (r := plainRunner) (t := plainTask) [] h hopen
  have hcandidates : Task.candidates [plainTask] 40 none = [plainTask] := by
    simp [Task.candidates, Task.byEffectivePriority, Task.fairly]
  have hreply : Exchange.reply ⟨[], plainMoment, .store (.listRunnable ⟨5, 0⟩ 20)⟩ oneTask =
      .ok [plainTask] := congrArg Except.ok listRunnable_oneTask
  refine ⟨s, ?_⟩
  apply Exists.intro
  apply Course.ask
  change Course ((Plan.ofExcept (Exchange.reply
    ⟨[], plainMoment, .store (.listRunnable ⟨5, 0⟩ 20)⟩ oneTask)).mapError TickError.store >>= _)
    _ _ _
  rw [hreply]
  change Course (plainRunner.checkStarvation ⟨5, 0⟩ [plainTask] >>= fun _ ↦
    plainRunner.dispatchFirst ⟨5, 0⟩ (Task.candidates [plainTask] 40 none) >>= _) _ _ _
  rw [hcandidates]
  exact hcourse.bind _

/-- Where there is one task, that one is found, under its own identifier. -/
theorem find?_single {t found : Task} {id : String}
    (h : (Register.ofList [(t.id, t)]).find? id = some found) : found = t ∧ found.id = id := by
  change (if t.id = id then some t else none) = some found at h
  split at h
  · next hid =>
    obtain rfl := Option.some.inj h
    exact ⟨rfl, hid⟩
  · cases h

theorem filed_oneTask : oneTask.Filed :=
  fun _ _ hfind ↦ (find?_single (t := plainTask) hfind).2

/-- Undisturbed, the runner asks for a slice of a task that is runnable when its lease is granted.
-/
theorem slice_requested_undisturbed :
    ∃ (s : Signal) (w : Work TickError (TickReport × Runner)) (t record : Task)
        (listing lease : Exchange) (between : List Exchange),
      Course (plainRunner.tick ⟨5, 0⟩) oneTask (plainCourse [] s) w ∧ IsSliceOf t s ∧
      (lease.found (oneTask.through (listing :: between))).tasks.find? t.id = some record ∧
      record.isRunnable ⟨5, 0⟩ = true := by
  have hgrants : Grants plainRunner ⟨5, 0⟩ "a"
      ⟨[], plainMoment, .store (.acquireLease "a" "r" 30 ⟨5, 0⟩)⟩ oneTask := ⟨rfl, rfl⟩
  obtain ⟨s, w, hcourse⟩ := course_plainCourse hgrants
  have hes : plainCourse [] s = (⟨[], plainMoment, .store (.listRunnable ⟨5, 0⟩ 20)⟩ ::
      ⟨[], plainMoment, .store (.acquireLease "a" "r" 30 ⟨5, 0⟩)⟩ :: untilBus plainMoment) ++
        ⟨[], plainMoment, .enqueue s⟩ :: [] := rfl
  obtain ⟨t, listing, between, lease, rest, record, hbefore, hslice, -, -, -, hfind, -, -,
    hrunnable⟩ := slice_requested_of_lease hcourse hes
  refine ⟨s, w, t, record, listing, lease, between, hcourse, hslice, hfind,
    hrunnable filed_oneTask fun e he c hc ↦ ?_⟩
  have halone : ∀ e ∈ listing :: (between ++ lease :: rest), e.others = [] := by
    rw [← hbefore]
    simp [untilBus]
  have hmem : e ∈ listing :: (between ++ lease :: rest) := by
    rcases List.mem_cons.1 he with rfl | he
    · simp
    · simp [he]
  rw [halone e hmem] at hc
  cases hc

/-- What another runner asks of the store to dispatch the task at the same time, with a cooldown of
five seconds. -/
def rivalDispatch : List Call :=
  [⟨⟨5, 0⟩, ⟨1⟩, .acquireLease "a" "q" 30 ⟨5, 0⟩⟩,
   ⟨⟨5, 0⟩, ⟨2⟩, .appendEvent (some "a") EventType.sliceRequested
      (Runner.dispatchPayload { config := { worker := "q" }, bus := ⟨false⟩ } plainTask) none⟩,
   ⟨⟨5, 0⟩, ⟨3⟩, .reschedule "a" "q" (some ⟨10, 0⟩) .running⟩,
   ⟨⟨5, 0⟩, ⟨4⟩, .releaseLease "a" "q"⟩]

/-- **A slice can be requested for a task that is not runnable.** Two runners have listed the same
task. One of them dispatches it, sets it due again in five seconds and gives the lease back; then
the other is granted the lease of a task that is not due, and dispatches it once more. -/
theorem slice_requested_twice :
    ¬ ∀ (r : Runner) (now : Instant) (m : Memory) (first rest after : List Exchange)
        (lease : Exchange) (id : String) (others : List Call) (moment : Moment) (s : Signal)
        (w : Work TickError (TickReport × Runner)),
      Course (r.tick now) m (first ++ lease :: (rest ++ ⟨others, moment, .enqueue s⟩ :: after)) w →
      Grants r now id lease (m.through first) →
      ∃ record, (lease.found (m.through first)).tasks.find? id = some record ∧
        record.isRunnable now = true := by
  intro h
  have hgrants : Grants plainRunner ⟨5, 0⟩ "a"
      ⟨rivalDispatch, plainMoment, .store (.acquireLease "a" "r" 30 ⟨5, 0⟩)⟩ oneTask := ⟨rfl, rfl⟩
  obtain ⟨s, w, hcourse⟩ := course_plainCourse hgrants
  obtain ⟨record, hfind, hrunnable⟩ := h plainRunner ⟨5, 0⟩ oneTask [_] (untilBus plainMoment) [] _
    "a" [] plainMoment s w hcourse hgrants
  have hnone :
      ((oneTask.afterAll rivalDispatch).tasks.find? "a").any (·.isRunnable ⟨5, 0⟩) = false := rfl
  change (oneTask.afterAll rivalDispatch).tasks.find? "a" = some record at hfind
  rw [hfind] at hnone
  exact absurd hnone (by simp [hrunnable])

end Foreman.Runner
