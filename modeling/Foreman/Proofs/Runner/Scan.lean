import Foreman.Proofs.Runner.Entries

/-!
# The starvation scan without its short cut

A tick that is to look for starving tasks has already listed a batch. It uses the batch again when the
batch is shorter than its limit, for then it holds every runnable task, and when it is no shorter than
the scan; otherwise it lists the tasks anew. The plain check (`Runner.checkAll`) lists the best
runnable tasks anew in any case, as many as the larger of the two limits says.

Both do the same. Whatever a tick logs about starving tasks, a plain check logs over the same store,
entry for entry, and the report of the tick counts what the plain check counts; where the plain check
halts, the tick halts (`exists_checkAll_of_ticked`). Two plain checks over one store differ in the
identifiers and times of their entries only (`said_of_checkAll`). That no task is missed if they all
fit into the scan is a statement about the plain check then.

A check that cannot begin misses them all: over a poisoned table there is nothing to go through, and a
cooldown of warnings that is no span crashes the check (`scan_can_fail`).
-/

namespace Foreman

open Time Store Metrics

/-- What an entry of the log says, without the identifier and the time that it was given. -/
def Event.said (e : Event) : Option String × String × Payload × Option String :=
  (e.task, e.type, e.payload, e.correlation)

namespace Runner

variable {m m' m₁ : Memory} {r : Runner} {now : Instant} {depth : Nat} {t : Task}
  {es es' : List (Answered Ask.Reply)}

/-- The number of tasks that the starvation check may look at. -/
def scanLimit (r : Runner) : Nat :=
  max r.config.batchLimit r.config.starvationScanLimit

/-- **The plain check**: it lists the best runnable tasks and warns about those that starve. -/
def checkAll (r : Runner) (now : Instant) : Work TickError Nat := do
  let backlog ← request (.listRunnable now r.scanLimit)
  r.warnStarving now backlog

/-! ### Plain checks -/

/-- **The ways in which a plain check can end.** -/
theorem checked_of_checkAll {counted : Except (Halt TickError) Nat} (hm : m.Filed)
    (h : (r.checkAll now).Dialogue es counted) (hserves : m.Serves (fun _ ↦ False) es m') :
    (m.poisoned = true ∧ logged es = [] ∧ counted = .error (.error (.store .lockPoisoned))) ∨
      (m.poisoned = false ∧ r.Checked now m (m.listRunnable now r.scanLimit) (logged es) counted) := by
  rcases dialogue_request_bind h with ⟨halt, rfl, rfl⟩ | ⟨backlog, rest, rfl, hwarn⟩
  · obtain ⟨hpoisoned, rfl, -⟩ := hserves.unlisted
    exact .inl ⟨hpoisoned, rfl, rfl⟩
  · obtain ⟨hhealthy, rfl, hrest⟩ := hserves.listed
    rw [logged_cons_of_not_appends (by simp [Ask.Appends])]
    exact .inr ⟨hhealthy, checked_of_warnStarving hwarn hrest (nodup_ids_listRunnable hm now _)⟩

/-- A store that is not poisoned serves a plain check that goes through its best runnable tasks. -/
theorem exists_checkAll {counted : Except (Halt TickError) Nat} (hhealthy : m.poisoned = false)
    (h : (r.warnStarving now (m.listRunnable now r.scanLimit)).Dialogue es counted)
    (hserves : m.Serves (fun _ ↦ False) es m') :
    ∃ es', (r.checkAll now).Dialogue es' counted ∧ m.Serves (fun _ ↦ False) es' m' ∧
      logged es' = logged es :=
  ⟨_, dialogue_of_request (.listRunnable now r.scanLimit) _ h,
    Memory.serves_listRunnable hhealthy now r.scanLimit hserves,
    logged_cons_of_not_appends (by simp [Ask.Appends])⟩

theorem said_of_warns {tasks : List Task} {entries entries' : List Event}
    (h : List.Forall₂ (r.WarnsOf now depth) tasks entries)
    (h' : List.Forall₂ (r.WarnsOf now depth) tasks entries') :
    entries.map Event.said = entries'.map Event.said := by
  induction h generalizing entries' with
  | nil =>
    cases h'
    rfl
  | cons hwarns _ ih =>
    cases h' with
    | cons hwarns' hrest' =>
      obtain ⟨wait, hwait, hpayload⟩ := hwarns.payload
      obtain ⟨wait', hwait', hpayload'⟩ := hwarns'.payload
      obtain rfl := Option.some.inj (hwait.symm.trans hwait')
      rw [List.map_cons, List.map_cons, ih hrest', Event.said, Event.said, hwarns.task, hwarns'.task,
        hwarns.type, hwarns'.type, hpayload, hpayload', hwarns.correlation, hwarns'.correlation]

theorem Checked.said {tasks : List Task} {entries entries' : List Event}
    {counted counted' : Except (Halt TickError) Nat} (h : r.Checked now m tasks entries counted)
    (h' : r.Checked now m tasks entries' counted') :
    entries.map Event.said = entries'.map Event.said ∧ counted = counted' := by
  cases h with
  | endless hspan =>
    cases h' with
    | endless _ => exact ⟨rfl, rfl⟩
    | warned hspan' _ => cases hspan.symm.trans hspan'
  | warned hspan hwarned =>
    cases h' with
    | endless hspan' => cases hspan.symm.trans hspan'
    | warned hspan' hwarned' =>
      obtain rfl := Option.some.inj (hspan.symm.trans hspan')
      exact ⟨said_of_warns hwarned hwarned',
        congrArg Except.ok (hwarned.length_eq.symm.trans hwarned'.length_eq)⟩

/-- **Plain checks over one store agree** in what they say and in how they end. -/
theorem said_of_checkAll {counted counted' : Except (Halt TickError) Nat} (hm : m.Filed)
    (h : (r.checkAll now).Dialogue es counted) (hserves : m.Serves (fun _ ↦ False) es m')
    (h' : (r.checkAll now).Dialogue es' counted') (hserves' : m.Serves (fun _ ↦ False) es' m₁) :
    (logged es).map Event.said = (logged es').map Event.said ∧ counted = counted' := by
  rcases checked_of_checkAll hm h hserves with ⟨hpoisoned, hnone, rfl⟩ | ⟨hhealthy, hchecked⟩ <;>
    rcases checked_of_checkAll hm h' hserves' with ⟨hpoisoned', hnone', rfl⟩ | ⟨hhealthy', hchecked'⟩
  · rw [hnone, hnone']
    exact ⟨rfl, rfl⟩
  · exact absurd (hhealthy'.symm.trans hpoisoned) Bool.false_ne_true
  · exact absurd (hhealthy.symm.trans hpoisoned') Bool.false_ne_true
  · exact hchecked.said hchecked'

/-! ### The check of a tick -/

theorem Checked.type {tasks : List Task} {entries : List Event}
    {counted : Except (Halt TickError) Nat} (h : r.Checked now m tasks entries counted) :
    ∀ e ∈ entries, e.type = EventType.starvationWarning := by
  cases h with
  | endless _ => exact List.forall_mem_nil _
  | warned _ hwarned => exact type_of_warns hwarned

theorem Checked.warns {tasks : List Task} {entries : List Event} {cooldown : Span}
    {counted : Except (Halt TickError) Nat} (h : r.Checked now m tasks entries counted)
    (hspan : r.config.warningSpan? = some cooldown) :
    List.Forall₂ (r.WarnsOf now tasks.length) (tasks.filter (r.mustWarn now cooldown m)) entries := by
  cases h with
  | endless hnone => cases hspan.symm.trans hnone
  | warned hspan' hwarned =>
    obtain rfl := Option.some.inj (hspan.symm.trans hspan')
    exact hwarned

/-- The tick and the plain check say the same of starving tasks, and end the same as far as the check
goes. -/
structure Repeats (result : Except (Halt TickError) (TickReport × Runner))
    (counted : Except (Halt TickError) Nat) (es plain : List (Answered Ask.Reply)) : Prop where
  entries : ofType EventType.starvationWarning (logged es) = logged plain
  reported : ∀ report r', result = .ok (report, r') → counted = .ok report.starvationWarnings
  halted : ∀ halt, counted = .error halt → result = .error halt

/-- **Every tick that finds a runnable task repeats a plain check**, up to the identifiers and times of
the entries. -/
theorem exists_checkAll_of_ticked {result : Except (Halt TickError) (TickReport × Runner)}
    (h : Ticked r now es result) (hserves : m.Serves (fun _ ↦ False) es m') (hm : m.Filed)
    (hlimit : 1 ≤ r.config.batchLimit) (hsome : m.runnable now ≠ []) :
    ∃ plain counted left, (r.checkAll now).Dialogue plain counted ∧
      m.Serves (fun _ ↦ False) plain left ∧ Repeats result counted es plain := by
  cases h with
  | unlisted halt =>
    obtain ⟨hpoisoned, rfl, -⟩ := hserves.unlisted
    refine ⟨_, _, m, dialogue_of_failed (.listRunnable now r.scanLimit) (.error .lockPoisoned) _,
      ⟨m, .inl ⟨now, ⟨0⟩, by simp [Memory.perform, Memory.withTasks, hpoisoned]⟩, rfl⟩, ?_⟩
    exact ⟨rfl, by rintro _ _ ⟨⟩, fun _ hhalt ↦ by cases hhalt; rfl⟩
  | idle =>
    obtain ⟨-, hnone, -⟩ := hserves.listed
    exact absurd ((Memory.listRunnable_eq_nil_iff hlimit).1 hnone.symm) hsome
  | unchecked hbatch hcheck =>
    obtain ⟨hhealthy, rfl, hrest⟩ := hserves.listed
    have htype := (checked_of_checkStarvation hm hhealthy hbatch hcheck hrest).type
    obtain ⟨_, hwarn, hserves', hlogged⟩ := warnStarving_of_checkStarvation hhealthy hcheck hrest
    obtain ⟨plain, hplain, hserves', hlogged'⟩ := exists_checkAll hhealthy hwarn hserves'
    refine ⟨plain, _, _, hplain, hserves', ?_, by rintro _ _ ⟨⟩, fun _ hhalt ↦ ?_⟩
    · rw [logged_cons_of_not_appends (by simp [Ask.Appends]), ofType_of_forall htype, if_pos rfl,
        hlogged', hlogged]
    · cases hhalt
      rfl
  | @tried _ refused rest es es' warnings result hbatch hcheck hcandidates htried =>
    have henters := hserves.enters
    simp only [answers_cons, answers_append] at henters
    obtain ⟨hhealthy, rfl, hrest⟩ := hserves.listed
    obtain ⟨m₁, hserves₁, -⟩ := Memory.serves_append.1 hrest
    have htype := (checked_of_checkStarvation hm hhealthy hbatch hcheck hserves₁).type
    have hdispatch := (logged_of_tried htried henters.2.2.2).1
    obtain ⟨_, hwarn, hserves', hlogged⟩ := warnStarving_of_checkStarvation hhealthy hcheck hserves₁
    obtain ⟨plain, hplain, hserves', hlogged'⟩ := exists_checkAll hhealthy hwarn hserves'
    refine ⟨plain, _, _, hplain, hserves', ?_, fun report r' hok ↦ ?_, by rintro _ ⟨⟩⟩
    · rw [logged_listing, ofType_append, ofType_of_forall htype, if_pos rfl,
        ofType_of_forall hdispatch, if_neg (by decide), List.append_nil, hlogged', hlogged]
    · rcases result with _ | ⟨dispatched, conflicts⟩
      · cases hok
      · cases hok
        rfl

/-- **The short-cut scan equals the plain one.** A tick that finds a runnable task logs exactly the
warnings of a plain check over the same store, in their order, and whatever plain check it is held
against, it says the same as that one and reports the same count. If the tasks can be listed, the
cooldown of warnings is a span, and no more tasks are runnable than the larger limit, then all of them
are gone through, and those are warned about that must be. -/
theorem starvation_scan_eq_checkAll {result : Except (Halt TickError) (TickReport × Runner)}
    (hm : m.Filed) (hlimit : 1 ≤ r.config.batchLimit) (hsome : m.runnable now ≠ [])
    (htick : (r.tick now).Dialogue es result) (hserves : m.Serves (fun _ ↦ False) es m') :
    (∃ plain counted left, (r.checkAll now).Dialogue plain counted ∧
      m.Serves (fun _ ↦ False) plain left ∧ Repeats result counted es plain) ∧
    (∀ plain counted left, (r.checkAll now).Dialogue plain counted →
      m.Serves (fun _ ↦ False) plain left →
      (ofType EventType.starvationWarning (logged es)).map Event.said =
        (logged plain).map Event.said ∧
      (∀ report r', result = .ok (report, r') → counted = .ok report.starvationWarnings) ∧
      ∀ halt, counted = .error halt → result = .error halt) ∧
    (m.poisoned = false → ∀ cooldown, r.config.warningSpan? = some cooldown →
      (m.runnable now).length ≤ r.scanLimit →
      (m.listRunnable now r.scanLimit).Perm (m.runnable now) ∧
      ∀ t ∈ m.runnable now, (∃ e ∈ logged es, r.WarnsOf now (m.runnable now).length t e) ↔
        r.mustWarn now cooldown m t = true) := by
  obtain ⟨plain, counted, left, hplain, hserved, hrepeats⟩ :=
    exists_checkAll_of_ticked (ticked_of_dialogue htick) hserves hm hlimit hsome
  refine ⟨⟨plain, counted, left, hplain, hserved, hrepeats⟩, fun plain' counted' left' h' hserved' ↦ ?_,
    fun hhealthy cooldown hspan hfew ↦ ?_⟩
  · obtain ⟨hsaid, rfl⟩ := said_of_checkAll hm hplain hserved h' hserved'
    exact ⟨hrepeats.entries ▸ hsaid, hrepeats.reported, hrepeats.halted⟩
  · have hall : (m.listRunnable now r.scanLimit).Perm (m.runnable now) :=
      Memory.perm_listRunnable hfew
    refine ⟨hall, fun t ht ↦ ?_⟩
    rcases checked_of_checkAll hm hplain hserved with ⟨hpoisoned, -⟩ | ⟨-, hchecked⟩
    · exact absurd (hhealthy.symm.trans hpoisoned) Bool.false_ne_true
    rw [← hrepeats.entries] at hchecked
    have hwarned := hchecked.warns hspan
    rw [hall.length_eq] at hwarned
    have hmem := hall.mem_iff.2 ht
    constructor
    · rintro ⟨e, he, hwarns⟩
      exact mustWarn_of_mem_warnings (nodup_ids_listRunnable hm now _) hwarned hmem
        (mem_ofType.2 ⟨he, hwarns.type⟩) hwarns.task
    · intro hmust
      obtain ⟨e, he, hwarns⟩ := exists_warning_of_mem hwarned (List.mem_filter.2 ⟨hmem, hmust⟩)
      exact ⟨e, (mem_ofType.1 he).1, hwarns⟩

/-! ### A batch of one, and scans that fail -/

/-- A store with two tasks that have been due since second 1. -/
def overdueStore : Memory :=
  .afterAll {}
    [⟨⟨0, 0⟩, ⟨0⟩, .upsert { Task.new "a" "o" "c" "s" ⟨0, 0⟩ with nextRun := some ⟨1, 0⟩ }⟩,
      ⟨⟨0, 0⟩, ⟨1⟩, .upsert { Task.new "b" "o" "c" "s" ⟨0, 0⟩ with nextRun := some ⟨1, 0⟩ }⟩]

/-- A runner that looks at one task for dispatch and at two for starvation. -/
def narrowRunner : Runner where
  config := { worker := "r", batchLimit := 1, starvationScanLimit := 2 }
  bus := ⟨false⟩

/-- A full batch of one task does not keep the tick from warning about the other. -/
theorem overdue_below_batch :
    let site : Site := { store := { memory := overdueStore }, clock := ⟨1000, 0⟩ }
    let es := (narrowRunner.tick ⟨1000, 0⟩).transcript Site.answer site
    1 ≤ narrowRunner.config.batchLimit ∧ (overdueStore.runnable ⟨1000, 0⟩).length = 2 ∧
      ∀ t ∈ overdueStore.runnable ⟨1000, 0⟩,
        ∃ e ∈ logged es, narrowRunner.WarnsOf ⟨1000, 0⟩ 2 t e := by
  intro site es
  have hsite : site.RefusesOnly fun _ ↦ False := .of_nothing rfl rfl rfl
  have hmust : ∀ t ∈ overdueStore.runnable ⟨1000, 0⟩,
      narrowRunner.mustWarn ⟨1000, 0⟩ ⟨600 * second⟩ overdueStore t = true := by decide
  have hfiled : overdueStore.Filed := Memory.filed_afterAll_empty _
  obtain ⟨-, -, hall⟩ := starvation_scan_eq_checkAll hfiled (by decide) (by decide)
    ((narrowRunner.tick ⟨1000, 0⟩).dialogue_run Site.answer site) (hsite.serves_transcript _)
  obtain ⟨-, hwarned⟩ := hall rfl ⟨600 * second⟩ rfl (by decide)
  exact ⟨by decide, by decide, fun t ht ↦ (hwarned t ht).2 (hmust t ht)⟩

/-- Whatever tick is served by the store and has room for all its runnable tasks warns about each of
them that starves and was never warned about. -/
def WarnsAll (r : Runner) (now : Instant) (m : Memory) : Prop :=
  ∀ es result m', (r.tick now).Dialogue es result → m.Serves (fun _ ↦ False) es m' →
    (m.runnable now).length ≤ r.scanLimit →
    ∀ t ∈ m.runnable now, r.starves now t = true →
      m.latestEvent t.id EventType.starvationWarning = none →
      ∃ e ∈ logged es, e.task = some t.id

/-- **A scan can fail**, and then it misses every task. It takes no more than a poisoned table, or than
a cooldown of warnings that is no span. -/
theorem scan_can_fail :
    (¬ ∀ (calls : List Call) (r : Runner) (now : Instant), 1 ≤ r.config.batchLimit →
      r.config.warningSpan?.isSome → r.WarnsAll now (.afterAll {} calls)) ∧
    ¬ ∀ (calls : List Call) (r : Runner) (now : Instant), 1 ≤ r.config.batchLimit →
      (Memory.afterAll {} calls).poisoned = false → r.WarnsAll now (.afterAll {} calls) := by
  let overdue : Task := { Task.new "a" "o" "c" "s" ⟨0, 0⟩ with nextRun := some ⟨1, 0⟩ }
  constructor
  · intro h
    let calls : List Call :=
      [⟨⟨0, 0⟩, ⟨0⟩, .upsert overdue⟩, ⟨⟨1, 0⟩, ⟨1⟩, .acquireLease "a" "w" Machine.greatest ⟨1, 0⟩⟩]
    obtain ⟨e, he, -⟩ := h calls narrowRunner ⟨1000, 0⟩ (by decide) rfl
      [⟨.store (narrowRunner.listing ⟨1000, 0⟩), .error (.error .lockPoisoned)⟩] _ _
      (dialogue_of_failed (narrowRunner.listing ⟨1000, 0⟩) (.error .lockPoisoned) _)
      ⟨.afterAll {} calls, .inl ⟨⟨0, 0⟩, ⟨0⟩, rfl⟩, rfl⟩ (by decide) overdue (by decide) (by decide) rfl
    cases he
  · intro h
    let endless : Runner :=
      { narrowRunner with config := { worker := "r", warningCooldownSeconds := Machine.greatest } }
    let m : Memory := .afterAll {} [⟨⟨0, 0⟩, ⟨0⟩, .upsert overdue⟩]
    have hrunnable : m.runnable ⟨1000, 0⟩ = [overdue] := rfl
    have hlisted : m.listRunnable ⟨1000, 0⟩ 20 = [overdue] := by
      rw [Memory.listRunnable_eq, hrunnable, List.mergeSort_singleton]
      rfl
    have hserves : m.Serves (fun _ ↦ False) [⟨.store (.listRunnable ⟨1000, 0⟩ 20),
        .ok (m.listRunnable ⟨1000, 0⟩ 20)⟩] m := Memory.serves_listRunnable rfl _ _ rfl
    rw [hlisted] at hserves
    obtain ⟨e, he, -⟩ := h [⟨⟨0, 0⟩, ⟨0⟩, .upsert overdue⟩] endless ⟨1000, 0⟩ (by decide) rfl
      [⟨.store (endless.listing ⟨1000, 0⟩), .ok [overdue]⟩] (.error .crash) m
      (dialogue_of_request (endless.listing ⟨1000, 0⟩) [overdue] ⟨rfl, rfl⟩) hserves
      (by decide) overdue (by decide) (by decide) rfl
    cases he

end Runner

end Foreman
