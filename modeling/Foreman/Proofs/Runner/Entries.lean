import Foreman.Metrics
import Foreman.Proofs.Runner.Stages
import Foreman.Proofs.Session
import Foreman.Proofs.Store.Runnable
import Mathlib.Data.List.Forall2
import Mathlib.Data.List.Nodup

/-!
# What a tick logs

A tick adds two kinds of entries to the log: warnings about tasks that starve, and the entry of its
dispatch. Which warnings these are is decided before the first of them is made. An entry about one
task says nothing about another, and no task is scanned twice, so those are warned about that must
be in the store that the tick finds (`mustWarn`, `logged_of_warnEach`).

`Entered` says what a tick has logged when it ends, whether it succeeds or not: the warnings in the
order of the scan, and behind them the entry of the dispatch if there was one. Every dialogue of a
tick with a store in memory comes to this (`Ticked.entered`).
-/

namespace Foreman

open Time Store

namespace Runner

variable {m m' : Memory} {r : Runner} {now : Instant} {cooldown : Span} {depth : Nat} {t : Task}
  {es : List (Answered Ask.Reply)}

/-! ### Which tasks are warned about -/

/-- The task waits for longer than it should. -/
def starves (r : Runner) (now : Instant) (t : Task) : Bool :=
  (t.waitSeconds? now).any fun wait ↦ decide (r.config.starvationSeconds < wait)

/-- The task starves, and the last warning about it is not recent. -/
def mustWarn (r : Runner) (now : Instant) (cooldown : Span) (m : Memory) (t : Task) : Bool :=
  r.starves now t &&
    !(m.latestEvent t.id EventType.starvationWarning).any (isRecent now cooldown)

/-- **The entry is the warning about a task**: whose it is, for how long it has waited, what the
threshold is, and how many tasks were scanned. -/
structure WarnsOf (r : Runner) (now : Instant) (depth : Nat) (t : Task) (e : Event) : Prop where
  task : e.task = some t.id
  type : e.type = "queue.starvation_warning"
  payload : ∃ wait, t.waitSeconds? now = some wait ∧ e.payload =
    [("owner_id", .str t.owner), ("queue_depth", .int depth),
      ("threshold_seconds", .int r.config.starvationSeconds), ("wait_seconds", .int wait)]
  correlation : e.correlation = none

/-- What a runner logs about a task that starves, member by member. -/
theorem warningPayload_eq (r : Runner) (t : Task) (wait : Int) (depth : Nat) :
    r.warningPayload t wait depth =
      [("owner_id", .str t.owner), ("queue_depth", .int depth),
        ("threshold_seconds", .int r.config.starvationSeconds), ("wait_seconds", .int wait)] := by
  simp only [warningPayload, Keyed.ofList, Keyed.merge, List.foldl_cons, List.foldl_nil,
    Keyed.insert, String.reduceEq, String.reduceLT, reduceIte]

/-- **One task**: it is warned about if it must be, and otherwise nothing is logged. -/
theorem logged_of_warnAbout {result : Except (Halt TickError) Bool}
    (h : (r.warnAbout now cooldown depth t).Dialogue es result)
    (hserves : m.Serves (fun _ ↦ False) es m') :
    result = .ok (r.mustWarn now cooldown m t) ∧
      List.Forall₂ (r.WarnsOf now depth) ([t].filter (r.mustWarn now cooldown m)) (logged es) := by
  simp only [warnAbout] at h
  rcases hwait : t.waitSeconds? now with _ | wait
  · rw [hwait] at h
    obtain ⟨rfl, rfl⟩ := h
    simp [mustWarn, starves, hwait]
  simp only [hwait] at h
  split at h
  · next hshort =>
    obtain ⟨rfl, rfl⟩ := h
    simp [mustWarn, starves, hwait, Int.not_lt.2 hshort]
  next hlong =>
  have hstarves : r.starves now t = true := by simpa [starves, hwait] using hlong
  rcases dialogue_request_bind h with ⟨halt, rfl, -⟩ | ⟨last, rest, rfl, hlast⟩
  · exact absurd hserves (Memory.not_serves_error fun _ _ ↦ ⟨_, rfl⟩)
  obtain ⟨_, _, _, hlatest, hwarn⟩ := hserves.of_ok
  cases hlatest
  split at hlast
  · next hrecent =>
    obtain ⟨rfl, rfl⟩ := hlast
    have hmust : r.mustWarn now cooldown m t = false := by simp [mustWarn, hrecent]
    rw [hmust, List.filter_cons_of_neg (by simp [hmust])]
    exact ⟨rfl, .nil⟩
  next hsilent =>
  have hmust : r.mustWarn now cooldown m t = true := by simpa [mustWarn, hstarves] using hsilent
  rcases dialogue_request_bind hlast with ⟨halt, rfl, -⟩ | ⟨e, _, rfl, rfl, rfl⟩
  · exact absurd hwarn (Memory.not_serves_error fun _ _ ↦ ⟨_, rfl⟩)
  obtain ⟨_, _, _, hentry, -⟩ := hwarn.of_ok
  cases hentry
  rw [hmust, List.filter_cons_of_pos hmust]
  exact ⟨rfl, .cons ⟨rfl, rfl, ⟨wait, hwait, warningPayload_eq ..⟩, rfl⟩ .nil⟩

/-- Entries about other tasks do not count. -/
theorem latestEvent_append {entries : List Event} {id type : String}
    (hm : m'.events = m.events ++ entries) (hentries : ∀ e ∈ entries, e.task ≠ some id) :
    m'.latestEvent id type = m.latestEvent id type := by
  have hnone : entries.reverse.find? (fun e ↦ e.task == some id && e.type == type) = none := by
    refine List.find?_eq_none.2 fun e he ↦ ?_
    simp [hentries e (List.mem_reverse.1 he)]
  rw [Memory.latestEvent, hm, List.reverse_append, List.find?_append, hnone, Option.none_or,
    Memory.latestEvent]

theorem map_task_of_warns {tasks : List Task} {entries : List Event}
    (h : List.Forall₂ (r.WarnsOf now depth) tasks entries) :
    entries.map (·.task) = tasks.map fun t ↦ some t.id := by
  induction h with
  | nil => rfl
  | cons hwarns _ ih => rw [List.map_cons, List.map_cons, ih, hwarns.task]

theorem type_of_warns {tasks : List Task} {entries : List Event}
    (h : List.Forall₂ (r.WarnsOf now depth) tasks entries) :
    ∀ e ∈ entries, e.type = EventType.starvationWarning := by
  induction h with
  | nil => exact List.forall_mem_nil _
  | cons hwarns _ ih => exact List.forall_mem_cons.2 ⟨hwarns.type, ih⟩

theorem exists_warning_of_mem {tasks : List Task} {entries : List Event}
    (h : List.Forall₂ (r.WarnsOf now depth) tasks entries) (ht : t ∈ tasks) :
    ∃ e ∈ entries, r.WarnsOf now depth t e := by
  induction h with
  | nil => cases ht
  | cons hwarns _ ih =>
    rcases List.mem_cons.1 ht with rfl | hrest
    · exact ⟨_, List.mem_cons_self, hwarns⟩
    · obtain ⟨e, he, hwarns⟩ := ih hrest
      exact ⟨e, List.mem_cons_of_mem _ he, hwarns⟩

/-- Of tasks of which none occurs twice, none is warned about that need not be. -/
theorem mustWarn_of_mem_warnings {tasks : List Task} {entries : List Event} {e : Event}
    (hids : (tasks.map (·.id)).Nodup)
    (h : List.Forall₂ (r.WarnsOf now depth) (tasks.filter (r.mustWarn now cooldown m)) entries)
    (ht : t ∈ tasks) (he : e ∈ entries) (htask : e.task = some t.id) :
    r.mustWarn now cooldown m t = true := by
  have hmem : e.task ∈ entries.map (·.task) := List.mem_map_of_mem he
  rw [map_task_of_warns h, List.mem_map] at hmem
  obtain ⟨u, hu, hid⟩ := hmem
  obtain ⟨hu, hmust⟩ := List.mem_filter.1 hu
  -- Two listed tasks with one identifier are one task.
  obtain rfl := List.inj_on_of_nodup_map hids hu ht (Option.some.inj (hid.trans htask))
  exact hmust

/-- **A list of tasks**: those of them are warned about, in order, that must be. -/
theorem logged_of_warnEach {tasks : List Task} {result : Except (Halt TickError) Nat}
    (h : (r.warnEach now cooldown depth tasks).Dialogue es result)
    (hserves : m.Serves (fun _ ↦ False) es m') (hids : (tasks.map (·.id)).Nodup) :
    result = .ok (logged es).length ∧
      List.Forall₂ (r.WarnsOf now depth) (tasks.filter (r.mustWarn now cooldown m))
        (logged es) := by
  induction tasks generalizing m es result with
  | nil =>
    obtain ⟨rfl, rfl⟩ := h
    exact ⟨rfl, .nil⟩
  | cons t rest ih =>
    rw [List.map_cons, List.nodup_cons] at hids
    obtain ⟨hother, hids⟩ := hids
    rcases Plan.dialogue_bind.1 h with ⟨halt, -, hfirst⟩ | ⟨warned, es₁, es₂, rfl, hfirst, h⟩
    · cases (logged_of_warnAbout hfirst hserves).1
    obtain ⟨m₁, hserves₁, hserves₂⟩ := Memory.serves_append.1 hserves
    obtain ⟨hwarned, hentries⟩ := logged_of_warnAbout hfirst hserves₁
    -- The entry about this task does not change which of the others must be warned about.
    have hrest : rest.filter (r.mustWarn now cooldown m₁) =
        rest.filter (r.mustWarn now cooldown m) := by
      refine List.filter_congr fun u hu ↦ ?_
      have hothers : ∀ e ∈ logged es₁, e.task ≠ some u.id := by
        intro e he heq
        have htask : e.task ∈ (logged es₁).map (·.task) := List.mem_map_of_mem he
        rw [map_task_of_warns hentries, List.mem_map] at htask
        obtain ⟨t', ht', hid⟩ := htask
        obtain rfl := List.mem_singleton.1 (List.mem_of_mem_filter ht')
        have hid : t'.id = u.id := Option.some.inj (hid.trans heq)
        exact hother (hid ▸ List.mem_map_of_mem hu)
      rw [mustWarn, latestEvent_append hserves₁.events hothers, mustWarn]
    rcases Plan.dialogue_bind.1 h with ⟨halt, -, hmore⟩ | ⟨more, _, _, rfl, hmore, rfl, rfl⟩
    · cases (ih hmore hserves₂ hids).1
    · rw [List.append_nil] at hserves₂ ⊢
      obtain ⟨hcount, hlater⟩ := ih hmore hserves₂ hids
      obtain rfl := Except.ok.inj hwarned
      obtain rfl := Except.ok.inj hcount
      rw [logged_append, List.length_append, ← hentries.length_eq]
      constructor
      · rw [Nat.add_comm]
        cases hmust : r.mustWarn now cooldown m t <;> simp [hmust]
      · rw [← List.singleton_append, List.filter_append, ← hrest]
        exact List.rel_append hentries hlater

/-! ### Which tasks are looked at -/

/-- The tasks whose starvation a tick checks: none if there is no batch, and otherwise the best
runnable ones, as many as the batch or the scan may hold. -/
def scanned (r : Runner) (now : Instant) (m : Memory) : List Task :=
  if m.poisoned || (m.listRunnable now r.config.batchLimit).isEmpty then []
  else m.listRunnable now (max r.config.batchLimit r.config.starvationScanLimit)

/-- A listing that is shorter than its limit holds every runnable task. -/
theorem listRunnable_of_short {limit : Nat} (h : (m.listRunnable now limit).length < limit)
    (more : Nat) : m.listRunnable now (max limit more) = m.listRunnable now limit := by
  rw [Memory.listRunnable_eq, List.length_take] at h
  rw [Memory.listRunnable_eq, Memory.listRunnable_eq, List.take_of_length_le (by omega),
    List.take_of_length_le (by omega)]

theorem nodup_ids_listRunnable (hm : m.Filed) (now : Instant) (limit : Nat) :
    ((m.listRunnable now limit).map (·.id)).Nodup := by
  rw [Memory.listRunnable_eq]
  have hsorted := ((List.mergeSort_perm (m.runnable now) Task.runnableLE).map (·.id)).nodup_iff.2
    (hm.nodup_ids_runnable now)
  exact hsorted.sublist ((List.take_sublist _ _).map _)

theorem nodup_ids_scanned (hm : m.Filed) (r : Runner) (now : Instant) :
    ((r.scanned now m).map (·.id)).Nodup := by
  rw [scanned]
  split
  · exact List.nodup_nil
  · exact nodup_ids_listRunnable hm now _

/-! ### The check -/

/-- **The ways in which the check of these tasks can end**, with what it has logged. -/
inductive Checked (r : Runner) (now : Instant) (m : Memory) (tasks : List Task) :
    List Event → Except (Halt TickError) Nat → Prop where
  | warned {cooldown : Span} {entries : List Event} (hspan : r.config.warningSpan? = some cooldown)
    (h : List.Forall₂ (r.WarnsOf now tasks.length) (tasks.filter (r.mustWarn now cooldown m))
      entries) :
    Checked r now m tasks entries (.ok entries.length)
  | endless (hspan : r.config.warningSpan? = none) : Checked r now m tasks [] (.error .crash)

theorem checked_of_warnStarving {tasks : List Task} {result : Except (Halt TickError) Nat}
    (h : (r.warnStarving now tasks).Dialogue es result) (hserves : m.Serves (fun _ ↦ False) es m')
    (hids : (tasks.map (·.id)).Nodup) : r.Checked now m tasks (logged es) result := by
  change (Plan.require r.config.warningSpan? >>= fun cooldown ↦
    r.warnEach now cooldown tasks.length tasks).Dialogue es result at h
  rcases hspan : r.config.warningSpan? with _ | cooldown
  · rw [hspan] at h
    obtain ⟨rfl, rfl⟩ := h
    exact .endless hspan
  · rw [hspan] at h
    obtain ⟨rfl, hwarned⟩ := logged_of_warnEach h hserves hids
    exact .warned hspan hwarned

/-- **The short cut leaves nothing out**: whether the batch is used again or the tasks are listed anew,
the check goes through the best runnable tasks, as many as the batch or the scan may hold. -/
theorem warnStarving_of_checkStarvation {result : Except (Halt TickError) Nat}
    (hhealthy : m.poisoned = false)
    (h : (r.checkStarvation now (m.listRunnable now r.config.batchLimit)).Dialogue es result)
    (hserves : m.Serves (fun _ ↦ False) es m') :
    ∃ es', (r.warnStarving now (m.listRunnable now
        (max r.config.batchLimit r.config.starvationScanLimit))).Dialogue es' result ∧
      m.Serves (fun _ ↦ False) es' m' ∧ logged es' = logged es := by
  have hlength : (m.listRunnable now r.config.batchLimit).length ≤ r.config.batchLimit :=
    List.length_take_le ..
  simp only [checkStarvation] at h
  split at h
  · next henough =>
    have hsame : m.listRunnable now (max r.config.batchLimit r.config.starvationScanLimit) =
        m.listRunnable now r.config.batchLimit := by
      rcases henough with hshort | hlong
      · exact listRunnable_of_short hshort _
      · rw [Nat.max_eq_left (by omega)]
    exact ⟨es, hsame ▸ h, hserves, rfl⟩
  · next hmore =>
    rw [Nat.max_eq_right (by omega)]
    rcases dialogue_request_bind h with ⟨halt, rfl, -⟩ | ⟨backlog, rest, rfl, hrest⟩
    · exact absurd (hhealthy.symm.trans hserves.unlisted.1) Bool.false_ne_true
    · obtain ⟨-, rfl, hwarn⟩ := hserves.listed
      exact ⟨rest, hrest, hwarn, (logged_cons_of_not_appends (by simp [Ask.Appends])).symm⟩

/-- **The starvation check** looks at the tasks that are scanned. -/
theorem checked_of_checkStarvation {result : Except (Halt TickError) Nat} (hm : m.Filed)
    (hhealthy : m.poisoned = false) (hbatch : m.listRunnable now r.config.batchLimit ≠ [])
    (h : (r.checkStarvation now (m.listRunnable now r.config.batchLimit)).Dialogue es result)
    (hserves : m.Serves (fun _ ↦ False) es m') :
    r.Checked now m (r.scanned now m) (logged es) result := by
  have hscanned : r.scanned now m =
      m.listRunnable now (max r.config.batchLimit r.config.starvationScanLimit) := by
    simp [scanned, hhealthy, hbatch]
  obtain ⟨es', hwarn, hserves', hlogged⟩ := warnStarving_of_checkStarvation hhealthy h hserves
  rw [hscanned, ← hlogged]
  exact checked_of_warnStarving hwarn hserves' (nodup_ids_listRunnable hm now _)

/-! ### The dispatch -/

/-- **The entry records the dispatch of a task**: whose it is, who dispatches it, and how urgent it
is, by itself and for the runner. -/
structure RecordsDispatch (r : Runner) (t : Task) (e : Event) : Prop where
  task : e.task = some t.id
  type : e.type = "slice.requested"
  payload : e.payload =
    [("effective_priority", .int (t.effectivePriority r.config.interactiveBoost)),
      ("owner_id", .str t.owner), ("priority", .int t.priority),
      ("worker_id", .str r.config.worker)]

/-- What a runner logs about a dispatch, member by member. -/
theorem dispatchPayload_eq (r : Runner) (t : Task) :
    r.dispatchPayload t =
      [("effective_priority", .int (t.effectivePriority r.config.interactiveBoost)),
        ("owner_id", .str t.owner), ("priority", .int t.priority),
        ("worker_id", .str r.config.worker)] := by
  simp only [dispatchPayload, Keyed.ofList, Keyed.merge, List.foldl_cons, List.foldl_nil,
    Keyed.insert, String.reduceEq, String.reduceLT, reduceIte]

/-- A dispatch is recorded once if it comes to its end, and at most once if it does not. -/
theorem logged_of_dispatched {stamp : Stamp} {result : Except (Halt TickError) Unit}
    (h : Dispatched r now t stamp es result) (henters : Answers Ask.Enters es) :
    (logged es = [] ∧ result ≠ .ok ()) ∨ ∃ e, logged es = [e] ∧ r.RecordsDispatch t e := by
  cases h with
  | closed => exact .inl ⟨rfl, nofun⟩
  | hungUp => exact .inl ⟨rfl, nofun⟩
  | unlogged halt => exact .inl ⟨rfl, nofun⟩
  | endless e hdue =>
    obtain ⟨htask, htype, hpayload, -⟩ := henters ⟨.store (stamp.entry r t), .ok e⟩ (by simp)
    exact .inr ⟨e, rfl, htask, htype, hpayload.trans (r.dispatchPayload_eq t)⟩
  | putOff e hdue reply =>
    obtain ⟨htask, htype, hpayload, -⟩ := henters ⟨.store (stamp.entry r t), .ok e⟩ (by simp)
    exact .inr ⟨e, rfl, htask, htype, hpayload.trans (r.dispatchPayload_eq t)⟩

theorem logged_of_dispatchAndRelease {result : Except (Halt TickError) Unit}
    (h : (r.dispatchAndRelease now t).Dialogue es result) (henters : Answers Ask.Enters es) :
    (logged es = [] ∧ result ≠ .ok ()) ∨ ∃ e, logged es = [e] ∧ r.RecordsDispatch t e := by
  have hleased {es : List (Answered Ask.Reply)} {result : Except (Halt TickError) Unit}
      (h : (r.dispatchLeased now t).Dialogue es result) (henters : Answers Ask.Enters es) :
      (logged es = [] ∧ result ≠ .ok ()) ∨ ∃ e, logged es = [e] ∧ r.RecordsDispatch t e := by
    obtain ⟨stamp, es', rfl, hdispatched⟩ := dispatched_of_dialogue h
    have hasked : logged stamp.asked = [] := rfl
    rw [logged_append, hasked, List.nil_append]
    exact logged_of_dispatched hdispatched (answers_append.1 henters).2
  rcases dialogue_dispatchAndRelease h with ⟨hdispatch, rfl⟩ |
    ⟨es', dispatched, released, hdispatch, rfl, rfl⟩
  · exact hleased hdispatch henters
  · have hrelease : logged [⟨.store (.releaseLease t.id r.config.worker), released⟩] = [] := rfl
    rw [logged_append, hrelease, List.append_nil]
    refine (hleased hdispatch (answers_append.1 henters).1).imp_left fun ⟨hnone, hhalt⟩ ↦
      ⟨hnone, ?_⟩
    -- A dispatch that failed has failed, however the lease is given back.
    rcases dispatched with _ | _
    · rcases released with (_ | _) | _ <;> exact nofun
    · exact absurd rfl hhalt

/-- A lease that is refused is not logged. -/
theorem logged_refusals (tasks : List Task) : logged (r.refusals now tasks) = [] := by
  refine logged_eq_nil fun e he ↦ ?_
  obtain ⟨t, -, rfl⟩ := List.mem_map.1 he
  exact id

/-- A tick that finds tasks logs what its starvation check logs, and what follows the refusals. -/
theorem logged_listing (reply : (Ask.store (r.listing now)).Reply)
    (checked : List (Answered Ask.Reply)) (refused : List Task)
    (es : List (Answered Ask.Reply)) :
    logged (⟨.store (r.listing now), reply⟩ :: (checked ++ (r.refusals now refused ++ es))) =
      logged checked ++ logged es := by
  rw [logged_cons_of_not_appends (by simp [Ask.Appends]), logged_append, logged_append,
    logged_refusals, List.nil_append]

/-- **Trying candidates** logs nothing but the dispatch of the one that is answered. -/
theorem logged_of_tried {refused : Nat} {rest : List Task}
    {result : Except (Halt TickError) (Option Task × Nat)}
    (h : Tried r now refused rest es result) (henters : Answers Ask.Enters es) :
    (∀ e ∈ logged es, e.type = EventType.sliceRequested) ∧
      ∀ dispatched conflicts, result = .ok (dispatched, conflicts) →
        List.Forall₂ r.RecordsDispatch dispatched.toList (logged es) := by
  cases h with
  | exhausted =>
    refine ⟨by simp, ?_⟩
    rintro _ _ ⟨⟩
    exact .nil
  | halted t untried halt =>
    refine ⟨by simp [logged, loggedBy?], ?_⟩
    rintro _ _ ⟨⟩
  | @granted t untried es result h =>
    rw [logged_cons_of_not_appends (by simp [Ask.Appends])]
    rcases logged_of_dispatchAndRelease h (answers_cons.1 henters).2 with ⟨hnone, hhalt⟩ |
      ⟨e, hone, he⟩
    · rw [hnone]
      refine ⟨by simp, ?_⟩
      rintro _ _ hok
      rcases result with _ | _
      · cases hok
      · exact absurd rfl hhalt
    · rw [hone]
      refine ⟨List.forall_mem_singleton.2 he.type, ?_⟩
      rintro _ _ hok
      rcases result with _ | _
      · cases hok
      · cases hok
        exact .cons he .nil

/-! ### The tick -/

/-- **What a tick logs**: warnings, and then its dispatch. Those of the tasks that are scanned are
warned about that must be, and the report says how many these are and which task is dispatched. -/
structure Entered (r : Runner) (now : Instant) (m : Memory)
    (result : Except (Halt TickError) (TickReport × Runner)) (warnings dispatches : List Event) :
    Prop where
  warned : ∀ cooldown, r.config.warningSpan? = some cooldown →
    List.Forall₂ (r.WarnsOf now (r.scanned now m).length)
      ((r.scanned now m).filter (r.mustWarn now cooldown m)) warnings
  warnings_type : ∀ e ∈ warnings, e.type = EventType.starvationWarning
  dispatches_type : ∀ e ∈ dispatches, e.type = EventType.sliceRequested
  reported : ∀ report r', result = .ok (report, r') →
    report.starvationWarnings = warnings.length ∧
      List.Forall₂ r.RecordsDispatch report.dispatched.toList dispatches

theorem Entered.of_nothing {result : Except (Halt TickError) (TickReport × Runner)}
    (hscanned : r.scanned now m = [])
    (hresult : ∀ report r', result = .ok (report, r') →
      report.starvationWarnings = 0 ∧ report.dispatched = none) :
    r.Entered now m result [] [] where
  warned := by simp [hscanned]
  warnings_type := List.forall_mem_nil _
  dispatches_type := List.forall_mem_nil _
  reported report r' h := by simp [hresult report r' h]

/-- What a tick dispatches it has listed. -/
theorem Ticked.mem_listRunnable {mayFail : Request → Prop} {report : TickReport} {r' : Runner}
    (h : Ticked r now es (.ok (report, r'))) (hserves : m.Serves mayFail es m')
    (ht : report.dispatched = some t) : t ∈ m.listRunnable now r.config.batchLimit := by
  obtain ⟨batch, refused, untried, warnings, checked, dispatch, -, hcandidates, -, rfl⟩ :=
    h.of_dispatched ht
  obtain ⟨-, rfl, -⟩ := hserves.listed
  have hmem : t ∈ Task.candidates (m.listRunnable now r.config.batchLimit)
      r.config.interactiveBoost r.lastOwner := by
    rw [hcandidates]
    exact List.mem_append_right _ (List.mem_cons_self ..)
  exact (Task.candidates_perm ..).mem_iff.1 hmem

/-- **Every tick** logs this and nothing else. -/
theorem Ticked.entered {result : Except (Halt TickError) (TickReport × Runner)}
    (h : Ticked r now es result) (hserves : m.Serves (fun _ ↦ False) es m') (hm : m.Filed) :
    ∃ warnings dispatches, logged es = warnings ++ dispatches ∧
      r.Entered now m result warnings dispatches := by
  cases h with
  | unlisted halt =>
    refine ⟨[], [], rfl, .of_nothing ?_ (by rintro _ _ ⟨⟩)⟩
    simp [scanned, hserves.unlisted.1]
  | idle =>
    obtain ⟨-, hnone, -⟩ := hserves.listed
    refine ⟨[], [], rfl, .of_nothing (by simp [scanned, ← hnone]) ?_⟩
    rintro _ _ ⟨⟩
    exact ⟨rfl, rfl⟩
  | unchecked hbatch hcheck =>
    obtain ⟨hhealthy, rfl, hrest⟩ := hserves.listed
    have hchecked := checked_of_checkStarvation hm hhealthy hbatch hcheck hrest
    rw [logged_cons_of_not_appends (by simp [Ask.Appends])]
    generalize logged _ = entries at hchecked ⊢
    cases hchecked with
    | endless hspan =>
      refine ⟨[], [], rfl, ⟨?_, List.forall_mem_nil _, List.forall_mem_nil _, by rintro _ _ ⟨⟩⟩⟩
      rw [hspan]
      rintro _ ⟨⟩
  | @tried _ refused rest es es' warnings result hbatch hcheck hcandidates htried =>
    have henters := hserves.enters
    simp only [answers_cons, answers_append] at henters
    obtain ⟨hhealthy, rfl, hrest⟩ := hserves.listed
    obtain ⟨m₁, hserves₁, -⟩ := Memory.serves_append.1 hrest
    have hchecked := checked_of_checkStarvation hm hhealthy hbatch hcheck hserves₁
    obtain ⟨htype, hreported⟩ := logged_of_tried htried henters.2.2.2
    rw [logged_listing]
    generalize logged es = entries at hchecked ⊢
    cases hchecked with
    | warned hspan hwarned =>
      refine ⟨entries, logged es', rfl, ⟨?_, type_of_warns hwarned, htype, ?_⟩⟩
      · intro cooldown hcooldown
        obtain rfl := Option.some.inj (hspan.symm.trans hcooldown)
        exact hwarned
      · intro report r' hok
        rcases result with _ | ⟨dispatched, conflicts⟩
        · cases hok
        · cases hok
          exact ⟨rfl, hreported dispatched conflicts rfl⟩

end Runner

end Foreman
