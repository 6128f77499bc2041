import Foreman.Proofs.Runner.Alone
import Foreman.Proofs.Runner.Entries

/-!
# The effect of an undisturbed tick

What a tick leaves behind when it has a store in memory to itself and a bus that delivers, said of the
whole store at once. If it finds a task that is runnable, it dispatches the first candidate: one record
is replaced, the log is continued by the warnings and one entry, one signal is on the bus, and nothing
else has changed (`Effect`). If it finds none, nothing has changed at all.

A tick makes up to six requests about the task, each with a guard of its own, and a guard that failed
would fail without an error. So the store is followed from request to request (`granted_alone`,
`left_of_served_dispatch`): what was listed is not leased, what is leased is held by the runner and may
be rescheduled, and what is rescheduled is still held by the runner and given back.

The table of tasks must not be poisoned; over one that is, a tick fails
(`no_effect_over_poisoned_table`).
-/

namespace Foreman

open Time Store

/-- The record of a task that was dispatched. -/
def Task.dispatched (t : Task) (due clock : Instant) : Task :=
  { t with
    leaseUntil := none
    worker := none
    status := .running
    nextRun := some due
    updatedAt := clock }

/-- A task that was dispatched is runnable from when it is due, and not before. -/
theorem Task.isRunnable_dispatched (t : Task) (due clock now : Instant) :
    (t.dispatched due clock).isRunnable now = decide (due ≤ now) := by
  simp [dispatched, isRunnable, isDueAt, isLeasedAt, Status.isSchedulable]

/-- A lease leaves a runnable task schedulable. -/
theorem Task.isSchedulable_leasedBy {t : Task} {worker : String} {until_ now : Instant}
    (h : t.isRunnable now = true) : (t.leasedBy worker until_ now).status.isSchedulable = true := by
  simp only [isRunnable, Bool.and_eq_true] at h
  simp only [leasedBy]
  split
  · rfl
  · exact h.1.1

namespace Runner

variable {m m' : Memory} {r : Runner} {now due : Instant} {t : Task} {s : Signal} {e : Event}
  {es : List (Answered Ask.Reply)} {warnings : List Event}
  {result : Except (Halt TickError) (TickReport × Runner)}

/-- **What an undisturbed dispatch leaves of a store**: the record is put off and no longer leased, and
the log may be longer. -/
theorem left_of_served_dispatch {mayFail : Request → Prop} {record : Task} {stamp : Stamp}
    {moved : Bool} (hm : m.poisoned = false) (hfind : m.tasks.find? t.id = some record)
    (hworker : record.worker = some r.config.worker) (hstatus : record.status.isSchedulable = true)
    (h : m.Serves mayFail (stamp.asked ++
      [⟨.busOpen, true⟩, ⟨.enqueue (stamp.signal t), true⟩, ⟨.store (stamp.entry r t), .ok e⟩,
        ⟨.store (r.putOff t due), .ok moved⟩,
        ⟨.store (.releaseLease t.id r.config.worker), .ok ()⟩]) m') :
    ∃ clock, m' = { m with
      tasks := m.tasks.insert t.id (record.rescheduled (some due) .running clock).unleased
      events := m'.events } := by
  obtain ⟨_, rfl, _, rfl, _, rfl, _, rfl, _, rfl, m, rfl, hlog⟩ := h
  obtain ⟨clock₁, fresh₁, m₁, hentry, hput⟩ := Memory.Serves.of_ok hlog
  have h₁ : m₁ = { m with events := m₁.events } := by
    cases hentry
    rfl
  have hm₁ : m₁.poisoned = false := h₁ ▸ hm
  have hfind₁ : m₁.tasks.find? t.id = some record := h₁ ▸ hfind
  obtain ⟨clock, fresh₂, m₂, hmoved, hrelease⟩ := Memory.Serves.of_ok hput
  have hputOff := perform_putOff due hm₁ hfind₁ hworker hstatus clock fresh₂
  obtain ⟨-, h₂⟩ := Prod.mk.inj (hmoved.symm.trans hputOff)
  have hm₂ : m₂.poisoned = false := h₂ ▸ hm₁
  have hfind₂ : m₂.tasks.find? t.id = some (record.rescheduled (some due) .running clock) :=
    h₂ ▸ Register.find?_insert_self ..
  obtain ⟨clock₃, fresh₃, m₃, hreleased, hleft⟩ := Memory.Serves.of_ok hrelease
  have hback := perform_release hm₂ hfind₂ hworker clock₃ fresh₃
  obtain ⟨-, h₃⟩ := Prod.mk.inj (hreleased.symm.trans hback)
  obtain rfl : m' = m₃ := hleft
  refine ⟨clock, ?_⟩
  rw [h₃, h₂, h₁]
  simp only [Register.insert_insert]

/-- **The effect of a tick that dispatches a task**, with these warnings, this entry and this signal. -/
structure Effect (r : Runner) (now : Instant) (m : Memory) (es : List (Answered Ask.Reply))
    (result : Except (Halt TickError) (TickReport × Runner)) (m' : Memory) (t : Task)
    (warnings : List Event) (e : Event) (s : Signal) : Prop where
  first : (Task.candidates (m.listRunnable now r.config.batchLimit) r.config.interactiveBoost
    r.lastOwner).head? = some t
  stored : m.tasks.find? t.id = some t
  runnable : t.isRunnable now = true
  result_eq : result = .ok
    (⟨(m.listRunnable now r.config.batchLimit).length, some t, 0, warnings.length⟩,
      r.served (some t))
  left_eq : ∃ due clock, r.config.due? now = some due ∧ m' = { m with
    tasks := m.tasks.insert t.id (t.dispatched due clock)
    events := m.events ++ warnings ++ [e] }
  others : ∀ id, id ≠ t.id → m'.tasks.find? id = m.tasks.find? id
  warned : ∃ cooldown, r.config.warningSpan? = some cooldown ∧
    List.Forall₂ (r.WarnsOf now (r.scanned now m).length)
      ((r.scanned now m).filter (r.mustWarn now cooldown m)) warnings
  recorded : r.RecordsDispatch t e
  signals_eq : signals es = [s]
  slice : IsSliceOf t s

theorem Effect.warnings_type (h : Effect r now m es result m' t warnings e s) :
    ∀ w ∈ warnings, w.type = EventType.starvationWarning := by
  obtain ⟨_, -, hwarned⟩ := h.warned
  exact type_of_warns hwarned

/-- **A tick that finds a task has this effect**, if what its settings say is within the calendar. -/
theorem exists_effect (h : (r.tick now).Dialogue es result)
    (hserves : m.Serves (fun _ ↦ False) es m') (hm : m.Filed) (hhealthy : m.poisoned = false)
    (hbus : Answers Ask.Delivers es) (hwork : m.listRunnable now r.config.batchLimit ≠ [])
    (hend : (leaseEnd? r.config.leaseSeconds now).isSome) (hdue : (r.config.due? now).isSome)
    (hspan : r.config.warningSpan?.isSome) :
    ∃ t warnings e s, Effect r now m es result m' t warnings e s := by
  have hticked := ticked_of_dialogue h
  have hstore := hserves.succeeds hhealthy (leaseEnds_of_tick h hend)
  obtain ⟨warnings, dispatches, hlogged, hentered⟩ := hticked.entered hserves hm
  have hevents := hserves.events
  obtain ⟨due, hdue⟩ := Option.isSome_iff_exists.1 hdue
  obtain ⟨cooldown, hspan⟩ := Option.isSome_iff_exists.1 hspan
  cases hticked with
  | unlisted halt => simp [Ask.Succeeds] at hstore
  | idle =>
    obtain ⟨-, hnone, -⟩ := hserves.listed
    exact absurd hnone.symm hwork
  | unchecked hbatch hcheck =>
    obtain ⟨-, hnone⟩ := crash_of_checkStarvation hcheck (answers_cons.1 hstore).2
    cases hspan.symm.trans hnone
  | @tried batch refused rest checked _ counted _ hbatch hcheck hcandidates htried =>
    cases htried with
    | exhausted =>
      -- All of a list that is not empty would have been refused.
      obtain ⟨rfl, -⟩ := tried_alone hserves hm hcheck hcandidates
      exact absurd hcandidates (Task.candidates_ne_nil hbatch _ _)
    | halted t untried halt => simp [Ask.Succeeds] at hstore
    | @granted t untried dispatch outcome hdispatch =>
      obtain ⟨rfl, -, hstored, hrunnable, until_, warned, -, hwarned, hrest⟩ :=
        granted_alone hserves hm hcheck hcandidates
      obtain ⟨-, rfl, -⟩ := hserves.listed
      simp only [answers_cons, answers_append] at hstore hbus
      obtain ⟨stamp, entry, moved, rfl, rfl⟩ :=
        undisturbed_dispatch hdispatch hstore.2.2.2.2 hbus.2.2.2.2 hdue
      obtain ⟨hcount, hdispatches⟩ := hentered.reported _ _ rfl
      obtain ⟨e, _, hrecorded, hnil, rfl⟩ := List.forall₂_cons_left_iff.1 hdispatches
      obtain rfl := List.forall₂_nil_left_iff.1 hnil
      have hpoisoned : warned.poisoned = false := hwarned.poisoned.trans hhealthy
      obtain ⟨clock, hleft⟩ := left_of_served_dispatch (m := { warned with
          tasks := m.tasks.insert t.id (t.leasedBy r.config.worker until_ now) })
        hpoisoned (Register.find?_insert_self ..) rfl (Task.isSchedulable_leasedBy hrunnable) hrest
      have hleft_eq : m' = { m with
          tasks := m.tasks.insert t.id (t.dispatched due clock)
          events := m.events ++ warnings ++ [e] } := by
        rw [hlogged, ← List.append_assoc] at hevents
        obtain ⟨entries, -, rfl⟩ := hwarned
        rw [hleft, hevents, Register.insert_insert]
        rfl
      refine ⟨t, warnings, e, stamp.signal t,
        { first := by rw [hcandidates]; rfl
          stored := hstored
          runnable := hrunnable
          result_eq := ?_
          left_eq := ⟨due, clock, hdue, hleft_eq⟩
          others := fun id hid ↦ ?_
          warned := ⟨cooldown, hspan, hentered.warned cooldown hspan⟩
          recorded := hrecorded
          signals_eq := ?_
          slice := stamp.isSliceOf_signal t }⟩
      · rw [← hcount]
        rfl
      · rw [hleft_eq]
        exact Register.find?_insert_of_ne hid ..
      · rw [signals_store, signals_append, signals_checkStarvation hcheck]
        rfl

/-- A tick that finds no task does nothing. -/
theorem idle_of_nothing (h : (r.tick now).Dialogue es result)
    (hserves : m.Serves (fun _ ↦ False) es m') (hhealthy : m.poisoned = false)
    (hnone : m.listRunnable now r.config.batchLimit = []) :
    result = .ok ({ candidates := 0 }, r) ∧ m' = m ∧ signals es = [] := by
  cases ticked_of_dialogue h with
  | unlisted halt =>
    exact absurd (hhealthy.symm.trans hserves.unlisted.1) Bool.false_ne_true
  | idle =>
    obtain ⟨-, -, hleft⟩ := hserves.listed
    exact ⟨rfl, hleft, rfl⟩
  | unchecked hbatch hcheck =>
    obtain ⟨-, rfl, -⟩ := hserves.listed
    exact absurd hnone hbatch
  | tried hbatch hcheck hcandidates htried =>
    obtain ⟨-, rfl, -⟩ := hserves.listed
    exact absurd hnone hbatch

/-! ### The queue of the bus -/

/-- Work that takes nothing off the bus of a site leaves on it what it hands to it, behind what was
there. -/
theorem queue_run {ε α : Type} {site : Site} {w : Work ε α} (hw : w.Asks (· ≠ .receive))
    (hreceiving : site.receiving = true) :
    (site.run w).2.queue = site.queue ++ signals (w.transcript Site.answer site) := by
  induction w generalizing site with
  | done a => exact (List.append_nil _).symm
  | halt halt => exact (List.append_nil _).symm
  | ask q next ih =>
    have hstays : (site.answer q).2.receiving = true :=
      (site.receiving_run (Plan.question q : Work ε q.Reply)).trans hreceiving
    have hrest := ih _ (hw.2 (site.answer q).1) hstays
    refine hrest.trans ?_
    cases q with
    | receive => exact absurd rfl hw.1
    | enqueue signal =>
      have hqueue : (site.answer (.enqueue signal)).2.queue = site.queue ++ [signal] := by
        simp [Site.answer, hreceiving]
      rw [hqueue, List.append_assoc]
      rfl
    | _ => rfl

theorem tick_asks_not_receive (r : Runner) (now : Instant) : (r.tick now).Asks (· ≠ .receive) := by
  refine tick_asks_of ?_ (fun _ ↦ nofun) ?_
  · rintro q hq rfl
    cases hq
  · rintro t q hq rfl
    cases hq

/-! ### The whole effect -/

/-- **The exact effect of an undisturbed tick**, over a store that is filed and not poisoned and a bus
that delivers, if what its settings say is within the calendar: nothing if no task is runnable, and
otherwise the effect of dispatching the first candidate. A run at any site with this store and an open
bus is such a tick, and continues the queue by the signals of the tick and by nothing else. -/
theorem undisturbed_tick_effect (hm : m.Filed) (hhealthy : m.poisoned = false)
    (hlimit : 1 ≤ r.config.batchLimit) (hend : (leaseEnd? r.config.leaseSeconds now).isSome)
    (hdue : (r.config.due? now).isSome) (hspan : r.config.warningSpan?.isSome) :
    (∀ es result m', (r.tick now).Dialogue es result → m.Serves (fun _ ↦ False) es m' →
      Answers Ask.Delivers es →
      (m.runnable now = [] → result = .ok ({ candidates := 0 }, r) ∧ m' = m ∧ signals es = []) ∧
      (m.runnable now ≠ [] → ∃ t warnings e s, Effect r now m es result m' t warnings e s)) ∧
    ∀ site : Site, site.RefusesOnly (fun _ ↦ False) → site.receiving = true →
      site.store.memory = m →
      let es := (r.tick now).transcript Site.answer site
      let ran := site.run (r.tick now)
      (r.tick now).Dialogue es ran.1 ∧ m.Serves (fun _ ↦ False) es ran.2.store.memory ∧
        Answers Ask.Delivers es ∧ ran.2.queue = site.queue ++ signals es := by
  refine ⟨fun es result m' h hserves hbus ↦ ⟨fun hnone ↦ ?_, fun hsome ↦ ?_⟩, ?_⟩
  · exact idle_of_nothing h hserves hhealthy ((Memory.listRunnable_eq_nil_iff hlimit).2 hnone)
  · exact exists_effect h hserves hm hhealthy hbus
      (fun hnone ↦ hsome ((Memory.listRunnable_eq_nil_iff hlimit).1 hnone)) hend hdue hspan
  · intro site hsite hreceiving hmemory es ran
    exact ⟨(r.tick now).dialogue_run Site.answer site, hmemory ▸ hsite.serves_transcript _,
      Site.delivers_transcript hreceiving _, queue_run (tick_asks_not_receive r now) hreceiving⟩

/-- A task that has been due since second 1. -/
def overdueTask : Task :=
  { Task.new "a" "o" "c" "s" ⟨0, 0⟩ with priority := 5, nextRun := some ⟨1, 0⟩ }

/-- A less urgent task of another owner. -/
def laterTask : Task :=
  .new "b" "p" "c" "s" ⟨0, 0⟩

/-- A store with these two tasks. -/
def twoOwners : Memory :=
  .afterAll {} [⟨⟨0, 0⟩, ⟨0⟩, .upsert overdueTask⟩, ⟨⟨0, 0⟩, ⟨1⟩, .upsert laterTask⟩]

/-- A runner that has served the first owner last, and that puts tasks off by nothing. -/
def hastyRunner : Runner where
  config := { worker := "r", cooldownSeconds := -1 }
  bus := ⟨false⟩
  lastOwner := some "o"

theorem listRunnable_twoOwners {limit : Nat} (h : 2 ≤ limit) :
    twoOwners.listRunnable ⟨1000, 0⟩ limit = [overdueTask, laterTask] := by
  have hrunnable : twoOwners.runnable ⟨1000, 0⟩ = [overdueTask, laterTask] := rfl
  rw [Memory.listRunnable_eq, hrunnable, List.mergeSort_of_pairwise (by decide)]
  exact List.take_of_length_le h

/-- The tick warns about the overdue task and dispatches that of the other owner. -/
theorem effect_over_two_owners :
    let site : Site := { store := { memory := twoOwners }, clock := ⟨1000, 0⟩ }
    let es := (hastyRunner.tick ⟨1000, 0⟩).transcript Site.answer site
    let ran := site.run (hastyRunner.tick ⟨1000, 0⟩)
    ∃ warnings e s, warnings.map (·.task) = [some "a"] ∧ ran.2.queue = [s] ∧
      Effect hastyRunner ⟨1000, 0⟩ twoOwners es ran.1 ran.2.store.memory laterTask warnings e s := by
  intro site es ran
  have hsite : site.RefusesOnly fun _ ↦ False := .of_nothing rfl rfl rfl
  have hfiled : twoOwners.Filed := Memory.filed_afterAll_empty _
  have hdue : (hastyRunner.config.due? ⟨1000, 0⟩).isSome := by decide
  obtain ⟨heffect, hruns⟩ :=
    undisturbed_tick_effect hfiled rfl (by decide) (by decide) hdue (by decide)
  obtain ⟨hdialogue, hserves, hbus, hqueue⟩ := hruns site hsite rfl rfl
  obtain ⟨t, warnings, e, s, h⟩ := (heffect _ _ _ hdialogue hserves hbus).2 (by decide)
  have hcandidates : Task.candidates [overdueTask, laterTask] 40 (some "o") =
      [laterTask, overdueTask] := by
    rw [Task.candidates, Task.byEffectivePriority, List.mergeSort_of_pairwise (by decide)]
    rfl
  have hfirst := h.first
  rw [listRunnable_twoOwners (by decide)] at hfirst
  obtain rfl : laterTask = t := Option.some.inj ((congrArg List.head? hcandidates).symm.trans hfirst)
  have hscanned : hastyRunner.scanned ⟨1000, 0⟩ twoOwners = [overdueTask, laterTask] := by
    rw [scanned, listRunnable_twoOwners (by decide), listRunnable_twoOwners (by decide)]
    rfl
  obtain ⟨cooldown, hspan, hwarned⟩ := h.warned
  obtain rfl : (⟨600 * second⟩ : Span) = cooldown := Option.some.inj hspan
  rw [hscanned] at hwarned
  have hmust : [overdueTask, laterTask].filter
      (hastyRunner.mustWarn ⟨1000, 0⟩ ⟨600 * second⟩ twoOwners) = [overdueTask] := by decide
  refine ⟨warnings, e, s, ?_, ?_, h⟩
  · rw [map_task_of_warns hwarned, hmust]
    rfl
  · rw [hqueue, h.signals_eq]
    rfl

/-- **Over a poisoned table a tick has no effect** and does not succeed, also if there is a runnable
task. -/
theorem no_effect_over_poisoned_table :
    ¬ ∀ (calls : List Call) (r : Runner) (now : Instant) (es : List (Answered Ask.Reply))
        (result : Except (Halt TickError) (TickReport × Runner)) (m' : Memory),
      let m := Memory.afterAll {} calls
      1 ≤ r.config.batchLimit → (leaseEnd? r.config.leaseSeconds now).isSome →
      (r.config.due? now).isSome → r.config.warningSpan?.isSome →
      (r.tick now).Dialogue es result → m.Serves (fun _ ↦ False) es m' →
      Answers Ask.Delivers es → m.runnable now ≠ [] →
      ∃ t warnings e s, Effect r now m es result m' t warnings e s := by
  intro h
  let calls : List Call :=
    [⟨⟨0, 0⟩, ⟨0⟩, .upsert (Task.new "a" "o" "c" "s" ⟨0, 0⟩)⟩,
      ⟨⟨1, 0⟩, ⟨1⟩, .acquireLease "a" "w" Machine.greatest ⟨1, 0⟩⟩]
  obtain ⟨_, _, _, _, heffect⟩ := h calls hastyRunner ⟨5, 0⟩
    [⟨.store (hastyRunner.listing ⟨5, 0⟩), .error (.error .lockPoisoned)⟩] _ (.afterAll {} calls)
    (by decide) (by decide) (by decide) (by decide)
    (dialogue_of_failed (hastyRunner.listing ⟨5, 0⟩) (.error .lockPoisoned) _)
    ⟨.afterAll {} calls, .inl ⟨⟨0, 0⟩, ⟨0⟩, rfl⟩, rfl⟩ (by simp [Ask.Delivers]) (by decide)
  cases heffect.result_eq

end Runner

end Foreman
