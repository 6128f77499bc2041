import Foreman.Proofs.Runner.Entries

/-!
# Starvation warnings are neither spammed nor skipped

No runner remembers what it has warned about. A tick looks for the last warning about a task in the
log that all runners share, and warns again if that one is older than the cooldown. So the spacing
of warnings rests on the log alone. It holds across runners and their restarts, and whatever other
clients ask of the store, as long as the log is a chronicle: the last warning about a task is then
the youngest, and if it is old enough then so are all others (`mustWarn_iff`).

A history is a list of visits to one store, each a whole tick or a request of anybody, with a clock
that never goes back (`Visit`). `warnings_spaced` goes along the visits: each warning of a tick is
at least the cooldown behind *every* earlier warning about its task, whoever made that.
`starvation_warnings_spaced_and_complete` joins this with what a single tick logs
(`Ticked.entered`).
-/

namespace Foreman

open Time Store Metrics

/-! ### The last entry is the youngest -/

namespace Store.Memory

variable {m : Memory} {id type : String}

theorem latestEvent_eq_none :
    m.latestEvent id type = none ↔ ∀ e ∈ ofType type m.events, e.task ≠ some id := by
  simp only [latestEvent, List.find?_eq_none, List.mem_reverse, Bool.and_eq_true, beq_iff_eq,
    mem_ofType]
  exact ⟨fun h e he htask ↦ h e he.1 ⟨htask, he.2⟩, fun h e he hboth ↦ h e ⟨he, hboth.2⟩ hboth.1⟩

/-- In a log that is in the order of its times, the last entry of its kind is the youngest. -/
theorem youngest_of_latestEvent {last : Event}
    (hm : m.events.Pairwise fun e e' ↦ e.createdAt ≤ e'.createdAt)
    (h : m.latestEvent id type = some last) :
    last ∈ ofType type m.events ∧ last.task = some id ∧
      ∀ e ∈ ofType type m.events, e.task = some id → e.createdAt ≤ last.createdAt := by
  obtain ⟨hlast, later, earlier, hsplit, hlater⟩ := List.find?_eq_some_iff_append.1 h
  have hevents : m.events = earlier.reverse ++ last :: later.reverse := by
    have hreversed := congrArg List.reverse hsplit
    simpa using hreversed
  simp only [Bool.and_eq_true, beq_iff_eq] at hlast
  refine ⟨mem_ofType.2 ⟨by simp [hevents], hlast.2⟩, hlast.1, fun e he htask ↦ ?_⟩
  obtain ⟨he, htype⟩ := mem_ofType.1 he
  rw [hevents] at he hm
  rcases List.mem_append.1 he with he | he
  · exact (List.pairwise_append.1 hm).2.2 e he last (List.mem_cons_self ..)
  · rcases List.mem_cons.1 he with rfl | he
    · exact Instant.le_refl _
    · have hno := hlater e (List.mem_reverse.1 he)
      simp [htask, htype] at hno

end Store.Memory

namespace Runner

variable {s : Session} {r : Runner} {t : Task} {cooldown : Span}

/-- **Who must be warned about**: a task that waits for longer than it should, if no warning about
it is younger than the cooldown. -/
theorem mustWarn_iff (hs : s.Chronicled) (cooldown : Span) :
    r.mustWarn s.now cooldown s.memory t = true ↔
      (∃ wait, t.waitSeconds? s.now = some wait ∧ r.config.starvationSeconds < wait) ∧
        ∀ e ∈ ofType EventType.starvationWarning s.memory.events, e.task = some t.id →
          cooldown.nanos ≤ (s.now.since e.createdAt).nanos := by
  have hstarves : r.starves s.now t = true ↔
      ∃ wait, t.waitSeconds? s.now = some wait ∧ r.config.starvationSeconds < wait := by
    simp [starves, Option.any_eq_true]
  rw [mustWarn, Bool.and_eq_true, hstarves, Bool.not_eq_true']
  refine and_congr_right fun _ ↦ ?_
  rcases hlast : s.memory.latestEvent t.id EventType.starvationWarning with _ | last
  · have hnone := Memory.latestEvent_eq_none.1 hlast
    simp only [Option.any_none, true_iff]
    exact fun e he htask ↦ absurd htask (hnone e he)
  · obtain ⟨hmem, htask, hyoungest⟩ := Memory.youngest_of_latestEvent hs.ordered hlast
    simp only [Option.any_some, isRecent, decide_eq_false_iff_not, Int.not_lt]
    constructor
    · intro hold e he hid
      have hplain := (hs.past e (mem_ofType.1 he).1).2
      have hplain' := (hs.past last (mem_ofType.1 hmem).1).2
      exact Int.le_trans hold
        (Instant.nanos_since_le_of_le (hs.onTime.plain 0) hplain hplain' (hyoungest e he hid))
    · exact fun hall ↦ hall last hmem htask

/-! ### One tick -/

/-- The warnings that a tick makes, at the time at which it begins. -/
def warnings (r : Runner) (s : Session) : List Event :=
  ofType EventType.starvationWarning (s.added (r.tick s.now))

/-- **The warnings of a tick**: of the tasks that are scanned, those are warned about that must be,
and the report says how many these are. -/
theorem warnings_of_tick (hs : s.memory.Filed) (hspan : r.config.warningSpan? = some cooldown) :
    List.Forall₂ (r.WarnsOf s.now (r.scanned s.now s.memory).length)
      ((r.scanned s.now s.memory).filter (r.mustWarn s.now cooldown s.memory)) (r.warnings s) ∧
    ∀ report r', (s.run (r.tick s.now)).1 = .ok (report, r') →
      report.starvationWarnings = (r.warnings s).length := by
  have hticked := ticked_of_dialogue (s.dialogue_heard (r.tick s.now))
  obtain ⟨warned, dispatches, hlogged, hentered⟩ := hticked.entered (s.serves_heard _) hs
  have hwarnings : r.warnings s = warned := by
    rw [warnings, Session.added_eq_logged, hlogged, ofType_append,
      ofType_of_forall hentered.warnings_type, ofType_of_forall hentered.dispatches_type,
      if_pos rfl, if_neg (by decide), List.append_nil]
  rw [hwarnings]
  exact ⟨hentered.warned cooldown hspan, fun report r' hok ↦ (hentered.reported report r' hok).1⟩

/-- A task that is scanned is warned about if and only if it must be. -/
theorem exists_warning_iff (hs : s.memory.Filed) (hspan : r.config.warningSpan? = some cooldown)
    (ht : t ∈ r.scanned s.now s.memory) :
    (∃ e ∈ r.warnings s, e.task = some t.id) ↔
      r.mustWarn s.now cooldown s.memory t = true := by
  have hwarned := (warnings_of_tick hs hspan).1
  constructor
  · rintro ⟨e, he, htask⟩
    exact mustWarn_of_mem_warnings (nodup_ids_scanned hs r s.now) hwarned ht he htask
  · intro hmust
    obtain ⟨e, he, hwarns⟩ := exists_warning_of_mem hwarned (List.mem_filter.2 ⟨ht, hmust⟩)
    exact ⟨e, he, hwarns.task⟩

/-- A warning of a tick lies the cooldown behind every earlier warning about its task. -/
theorem cooled_of_mem_warnings (hs : s.Chronicled) (hfiled : s.memory.Filed)
    (hspan : r.config.warningSpan? = some cooldown) {e e₀ : Event} (he : e ∈ r.warnings s)
    (he₀ : e₀ ∈ ofType EventType.starvationWarning s.memory.events) (htask : e₀.task = e.task) :
    cooldown.nanos ≤ (e.createdAt.since e₀.createdAt).nanos := by
  have hwarned := map_task_of_warns (warnings_of_tick hfiled hspan).1
  have hmem : e.task ∈ (r.warnings s).map (·.task) := List.mem_map_of_mem he
  rw [hwarned, List.mem_map] at hmem
  obtain ⟨t, ht, hid⟩ := hmem
  have hmust := ((mustWarn_iff hs _).1 (List.mem_filter.1 ht).2).2 e₀ he₀ (htask.trans hid.symm)
  -- The entry is made during the tick, so it is no older than the beginning of the tick.
  have hadded := (mem_ofType.1 he).1
  have hlate := hs.onTime.le_createdAt _ e hadded
  have hplain : e.createdAt.Plain := by
    have hbehind := (hs.run (r.tick s.now)).past e
    rw [s.events_run] at hbehind
    exact (hbehind (List.mem_append_right _ hadded)).2
  exact Int.le_trans hmust (Instant.nanos_since_mono (hs.onTime.plain 0) hplain
    (hs.past e₀ (mem_ofType.1 he₀).1).2 hlate)

/-- A tick does not warn about a task twice. -/
theorem nodup_task_warnings (hfiled : s.memory.Filed)
    (hspan : r.config.warningSpan? = some cooldown) : ((r.warnings s).map (·.task)).Nodup := by
  rw [map_task_of_warns (warnings_of_tick hfiled hspan).1]
  have hsome : Function.Injective (some : String → Option String) := fun _ _ ↦ Option.some.inj
  have hall := (nodup_ids_scanned hfiled r s.now).map hsome
  rw [List.map_map] at hall
  exact hall.sublist (List.filter_sublist.map _)

end Runner

/-! ### Histories of whole ticks -/

/-- What comes next to a store: a whole tick, or a request of anybody. -/
inductive Visit where
  | tick (r : Runner)
  | request (rq : Request)

namespace Visit

/-- The session behind a visit. A tick reads the time when it begins. -/
def left (s : Session) : Visit → Session
  | tick r => (s.run (r.tick s.now)).2
  | request rq => (s.run (Work.store rq)).2

/-- The warnings that a visit makes, if it is a tick. -/
def warnings (s : Session) : Visit → List Event
  | tick r => r.warnings s
  | request _ => []

end Visit

namespace Session

/-- The session behind a list of visits. -/
def behind (s : Session) (visits : List Visit) : Session :=
  visits.foldl Visit.left s

/-- The warnings that the ticks among the visits make, in their order. -/
def warnings : Session → List Visit → List Event
  | _, [] => []
  | s, v :: rest => v.warnings s ++ (v.left s).warnings rest

variable {s : Session} {visits : List Visit} {c : Int} {cooldown : Span}

theorem Chronicled.left (h : s.Chronicled) (v : Visit) : (v.left s).Chronicled := by
  cases v with
  | tick r => exact h.run _
  | request rq => exact h.run _

theorem filed_left (h : s.memory.Filed) (v : Visit) : (v.left s).memory.Filed := by
  cases v with
  | tick r => exact filed_run h _
  | request rq => exact filed_run h _

/-- A visit adds its warnings to the log, and takes nothing away. -/
theorem warnings_left (s : Session) (v : Visit) :
    (∀ e ∈ v.warnings s, e ∈ ofType EventType.starvationWarning (v.left s).memory.events) ∧
      ∀ e ∈ ofType EventType.starvationWarning s.memory.events,
        e ∈ ofType EventType.starvationWarning (v.left s).memory.events := by
  have hgrows {ε α : Type} (w : Work ε α) :
      ofType EventType.starvationWarning (s.run w).2.memory.events =
        ofType EventType.starvationWarning s.memory.events ++
          ofType EventType.starvationWarning (s.added w) := by
    rw [s.events_run, ofType_append]
  cases v with
  | tick r =>
    rw [Visit.left, hgrows]
    exact ⟨fun e ↦ List.mem_append_right _, fun e ↦ List.mem_append_left _⟩
  | request rq =>
    rw [Visit.left, hgrows]
    exact ⟨List.forall_mem_nil _, fun e ↦ List.mem_append_left _⟩

/-- **The spacing of warnings**: along any list of visits, each warning of a tick lies the cooldown
behind every earlier warning about its task, in the log that is found and by the ticks before. -/
theorem warnings_spaced (hs : s.Chronicled) (hfiled : s.memory.Filed)
    (hspan : ∀ r, .tick r ∈ visits → r.config.warningSpan? = some cooldown) :
    (∀ e ∈ s.warnings visits, ∀ e₀ ∈ ofType EventType.starvationWarning s.memory.events,
      e₀.task = e.task → cooldown.nanos ≤ (e.createdAt.since e₀.createdAt).nanos) ∧
    (s.warnings visits).Pairwise fun e e' ↦
      e.task = e'.task → cooldown.nanos ≤ (e'.createdAt.since e.createdAt).nanos := by
  induction visits generalizing s with
  | nil => exact ⟨List.forall_mem_nil _, .nil⟩
  | cons v rest ih =>
    obtain ⟨hlater, hrest⟩ := ih (hs.left v) (filed_left hfiled v)
      fun r hr ↦ hspan r (List.mem_cons_of_mem _ hr)
    obtain ⟨hnew, hold⟩ := s.warnings_left v
    have hfirst : (∀ e ∈ v.warnings s,
        ∀ e₀ ∈ ofType EventType.starvationWarning s.memory.events, e₀.task = e.task →
          cooldown.nanos ≤ (e.createdAt.since e₀.createdAt).nanos) ∧
        ((v.warnings s).map (·.task)).Nodup := by
      cases v with
      | tick r =>
        have hr := hspan r (List.mem_cons_self ..)
        exact ⟨fun e he e₀ he₀ ↦ Runner.cooled_of_mem_warnings hs hfiled hr he he₀,
          Runner.nodup_task_warnings hfiled hr⟩
      | request rq => exact ⟨List.forall_mem_nil _, List.nodup_nil⟩
    rw [warnings, List.pairwise_append]
    refine ⟨fun e he e₀ he₀ ↦ ?_, ?_, hrest, fun e he e' he' ↦ hlater e' he' e (hnew e he)⟩
    · rcases List.mem_append.1 he with he | he
      · exact hfirst.1 e he e₀ he₀
      · exact hlater e he e₀ (hold e₀ he₀)
    · exact (List.pairwise_map.1 hfirst.2).imp fun hne heq ↦ absurd heq hne

theorem Chronicled.behind (h : s.Chronicled) (hfiled : s.memory.Filed) (visits : List Visit) :
    (s.behind visits).Chronicled ∧ (s.behind visits).memory.Filed := by
  induction visits generalizing s with
  | nil => exact ⟨h, hfiled⟩
  | cons v rest ih => exact ih (h.left v) (filed_left hfiled v)

/-- **Starvation warnings are neither spammed nor skipped.** Take any number of runners with one
common cooldown, which is a span, over a store in memory that began empty, and a list of visits to
it: whole ticks, each at the time of its beginning, and requests of anybody in between, under a
clock that never goes back (`OnTime`). Any two warnings that ticks make about one task lie at least
the cooldown apart. And in every tick whose batch is not empty, a task that is scanned is warned
about if and only if it waits for longer than the threshold and the log holds no warning about it
that is younger than the cooldown; the report of a tick says how many warnings it has made. -/
theorem starvation_warnings_spaced_and_complete {c : Int} (hempty : s.memory = {})
    (htime : s.OnTime) (hc : (Span.ofSeconds? (max c 0)).isSome)
    (hcommon : ∀ r, .tick r ∈ visits → r.config.warningCooldownSeconds = c) :
    ((s.warnings visits).Pairwise fun e e' ↦
      e.task = e'.task → max c 0 * second ≤ (e'.createdAt.since e.createdAt).nanos) ∧
    ∀ before r after, visits = before ++ .tick r :: after →
      (((s.behind before).memory.poisoned = false →
        (s.behind before).memory.listRunnable (s.behind before).now r.config.batchLimit ≠ [] →
        ∀ t ∈ (s.behind before).memory.listRunnable (s.behind before).now
            (max r.config.batchLimit r.config.starvationScanLimit),
          ((∃ e ∈ r.warnings (s.behind before), e.task = some t.id) ↔
            (∃ wait, t.waitSeconds? (s.behind before).now = some wait ∧
              r.config.starvationSeconds < wait) ∧
            ∀ e ∈ ofType EventType.starvationWarning (s.behind before).memory.events,
              e.task = some t.id →
              max c 0 * second ≤ ((s.behind before).now.since e.createdAt).nanos)) ∧
      ∀ report r', ((s.behind before).run (r.tick (s.behind before).now)).1 = .ok (report, r') →
        report.starvationWarnings = (r.warnings (s.behind before)).length) := by
  obtain ⟨cooldown, hcooldown⟩ := Option.isSome_iff_exists.1 hc
  obtain ⟨-, rfl⟩ := Span.ofSeconds?_eq_some.1 hcooldown
  have hspan (r : Runner) (hr : .tick r ∈ visits) :
      r.config.warningSpan? = some ⟨max c 0 * second⟩ := by
    rw [RunnerConfig.warningSpan?, hcommon r hr, hcooldown]
  have hs : s.Chronicled := .of_empty htime hempty
  have hfiled : s.memory.Filed := hempty ▸ Memory.filed_afterAll_empty []
  refine ⟨(warnings_spaced hs hfiled hspan).2, ?_⟩
  rintro before r after rfl
  obtain ⟨hfound, hfiledFound⟩ := hs.behind hfiled before
  have hr := hspan r (by simp)
  refine ⟨fun hhealthy hbatch t ht ↦ ?_, (Runner.warnings_of_tick hfiledFound hr).2⟩
  have hscanned : t ∈ r.scanned (s.behind before).now (s.behind before).memory := by
    simpa [Runner.scanned, hhealthy, hbatch] using ht
  rw [Runner.exists_warning_iff hfiledFound hr hscanned]
  exact Runner.mustWarn_iff hfound _

/-- A new store that is asked every thousand seconds. -/
def unhurried : Session where
  memory := {}
  moments n := { clock := ⟨1000 * n, 0⟩, fresh := ⟨0⟩ }

/-- A task that has been due from the beginning. -/
def overdueTask : Task :=
  { Runner.plainTask with nextRun := some ⟨0, 0⟩ }

theorem onTime_unhurried : unhurried.OnTime where
  forward i j hij := Instant.le_def.2 (by simp only [unhurried]; omega)
  plain _ := by simp [unhurried, Instant.Plain, second]

/-- Stored at the beginning and looked at a thousand seconds later, the task is warned about. -/
theorem warned_unhurried :
    ∃ e ∈ Runner.plainRunner.warnings (unhurried.behind [.request (.upsert overdueTask)]),
      e.task = some "a" := by
  have hcommon (r : Runner) (hr : .tick r ∈ [Visit.request (.upsert overdueTask),
      .tick Runner.plainRunner]) : r.config.warningCooldownSeconds = 600 := by
    obtain rfl : r = Runner.plainRunner := by simpa using hr
    rfl
  obtain ⟨-, htick⟩ := starvation_warnings_spaced_and_complete (c := 600) rfl onTime_unhurried
    (by decide) hcommon
  have hlisted (limit : Nat) (hlimit : 0 < limit) :
      (unhurried.behind [.request (.upsert overdueTask)]).memory.listRunnable ⟨1000, 0⟩ limit =
        [overdueTask] := by
    have hvalues : (unhurried.behind [.request (.upsert overdueTask)]).memory.tasks.values =
        [overdueTask] := rfl
    have hrunnable : overdueTask.isRunnable ⟨1000, 0⟩ = true := rfl
    simp [Memory.listRunnable, Task.bestRunnable, hvalues, hrunnable, List.take_of_length_le,
      Nat.succ_le_of_lt hlimit]
  obtain ⟨hwarned, -⟩ := htick [.request (.upsert overdueTask)] Runner.plainRunner [] rfl
  refine (hwarned rfl ?_ overdueTask ?_).2 ⟨⟨1000, rfl, by decide⟩, ?_⟩
  · exact (hlisted 20 (by decide)) ▸ List.cons_ne_nil _ _
  · exact (hlisted 500 (by decide)) ▸ List.mem_cons_self ..
  · exact List.forall_mem_nil _

end Session

end Foreman
