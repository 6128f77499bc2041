import Foreman.Proofs.Runner.Effect
import Foreman.Proofs.Store.Runnable

/-!
# Runners that take turns

Several runners share a store in memory, and their ticks come one after the other, whole and in any
order, with nobody else in between (`Rota`). What a runner looks at first depends on its batch
limit, its boost and the owner it served last, and the next one may put everything in another order.
None of this loses a task or hands one out twice, because of what one round does, whoever's turn it
is: it dispatches *some* runnable task, which is then not runnable until its cooldown is over, and
leaves all others as they were; and it does nothing if there is none
(`Round.Undisturbed.dispatches_or_idle`).

So at one instant the runnable tasks are one less with every round, until there are none left. And
a task that has been put off is due no sooner, whatever happens to it in the rounds that follow
(`PutOff`). Both are said of a table of tasks that is not poisoned; over one that is, every tick
fails, and the tasks stay where they are (`poisoned_table_hides_tasks`).
-/

namespace Foreman

open Time Store

/-! ### The cooldown -/

theorem Time.Instant.le_of_lt {a b : Instant} (h : a < b) : a ≤ b := by
  rw [lt_def] at h
  rw [le_def]
  omega

/-- A span of at least one second leads to a later second. -/
theorem Time.Instant.lt_of_add? {now later : Instant} {n : Int} (hn : 1 ≤ n)
    (h : now.add? ⟨n * second⟩ = some later) : now < later := by
  have hwhole : (Span.wholeSeconds ⟨n * second⟩) = n := Int.mul_tdiv_cancel n (by decide)
  have hpart : (n * second).tmod second = 0 := Int.mul_tmod_left n second
  have hne : (n == 0) = false := by simp; omega
  have hforward : decide (n < 0) = false := by simp; omega
  have hsecond : ((second : Nat) : Int) = 1000000000 := rfl
  simp only [Instant.add?, hwhole, hpart, hne, hforward, Bool.and_false, Bool.false_and,
    Bool.false_eq_true, if_false, Int.add_zero] at h
  obtain ⟨-, hlater⟩ := Option.ite_none_right_eq_some.1 h
  obtain rfl := Option.some.inj hlater
  refine Instant.lt_def.2 (.inl ?_)
  simp only [hsecond]
  split <;> omega

/-- A task that is dispatched is due again later. -/
theorem RunnerConfig.lt_due {c : RunnerConfig} {now due : Instant} (hc : 1 ≤ c.cooldownSeconds)
    (h : c.due? now = some due) : now < due := by
  obtain ⟨span, hspan, hadd⟩ := Option.bind_eq_some_iff.1 h
  obtain ⟨-, rfl⟩ := Span.ofSeconds?_eq_some.1 hspan
  exact Instant.lt_of_add? (by omega) hadd

/-- The settings make sense at an instant: a tick looks at a task at least and puts it off by a
second at least, and what the settings say of times is within the calendar. -/
structure RunnerConfig.Fits (c : RunnerConfig) (now : Instant) : Prop where
  batch : 1 ≤ c.batchLimit
  cooldown : 1 ≤ c.cooldownSeconds
  lease : (leaseEnd? c.leaseSeconds now).isSome
  due : (c.due? now).isSome
  warning : c.warningSpan?.isSome

/-! ### One round -/

namespace Runner

/-- A tick of some runner, with the store that it found and the one that it left. -/
structure Round where
  runner : Runner
  now : Instant
  asked : List (Answered Ask.Reply)
  result : Except (Halt TickError) (TickReport × Runner)
  found : Memory
  left : Memory

namespace Round

/-- The tick has a store to itself, which carries out its requests, and a bus that delivers. -/
structure Undisturbed (d : Round) : Prop where
  fits : d.runner.config.Fits d.now
  dialogue : (d.runner.tick d.now).Dialogue d.asked d.result
  serves : d.found.Serves (fun _ ↦ False) d.asked d.left
  delivers : Answers Ask.Delivers d.asked

/-- The task that the report of the tick says was dispatched. -/
def dispatched (d : Round) : Option Task :=
  match d.result with
  | .ok (report, _) => report.dispatched
  | .error _ => none

/-- Nothing was there to be done, and nothing was done. -/
structure Idle (d : Round) : Prop where
  result : d.result = .ok ({ candidates := 0 }, d.runner)
  signals : signals d.asked = []
  left : d.left = d.found

/-- **A round dispatches a task** that was runnable: with one signal and one entry in the log, to
which otherwise only warnings are added. The task is put off, and the others are as they were. -/
structure Dispatches (d : Round) (t : Task) : Prop where
  runnable : t ∈ d.found.runnable d.now
  report : ∃ candidates warnings,
    d.result = .ok (⟨candidates, some t, 0, warnings⟩, d.runner.served (some t))
  signal : ∃ s, Runner.signals d.asked = [s] ∧ IsSliceOf t s
  logged : ∃ warnings e, d.left.events = d.found.events ++ warnings ++ [e] ∧
    (∀ w ∈ warnings, w.type = EventType.starvationWarning) ∧
    e.type = EventType.sliceRequested ∧ e.task = some t.id
  record : ∃ due clock, d.runner.config.due? d.now = some due ∧
    d.left.tasks.find? t.id = some (t.dispatched due clock)
  others : ∀ id, id ≠ t.id → d.left.tasks.find? id = d.found.tasks.find? id

variable {d : Round} {t : Task}

theorem Dispatches.dispatched_eq (h : d.Dispatches t) : d.dispatched = some t := by
  obtain ⟨_, _, hresult⟩ := h.report
  rw [dispatched, hresult]

theorem Idle.dispatched_eq (h : d.Idle) : d.dispatched = none := by
  rw [dispatched, h.result]

theorem Undisturbed.leaseEnds (h : d.Undisturbed) : ∀ e ∈ d.asked, e.question.LeaseEnds :=
  leaseEnds_of_tick h.dialogue h.fits.lease

/-- A round leaves a store that is filed and not poisoned. -/
theorem Undisturbed.filed (h : d.Undisturbed) (hm : d.found.Filed) : d.left.Filed :=
  h.serves.invariant (P := fun _ ↦ True) (fun _ c hm _ ↦ hm.after c) (fun _ _ ↦ trivial) hm

theorem Undisturbed.healthy (h : d.Undisturbed) (hm : d.found.poisoned = false) :
    d.left.poisoned = false :=
  h.serves.poisoned hm h.leaseEnds

theorem Dispatches.of_effect {warnings : List Event} {e : Event} {s : Signal} (hm : d.found.Filed)
    (h : Effect d.runner d.now d.found d.asked d.result d.left t warnings e s) : d.Dispatches t := by
  obtain ⟨due, clock, hdue, hleft⟩ := h.left_eq
  exact
    { runnable := hm.mem_runnable.2 ⟨h.stored, h.runnable⟩
      report := ⟨_, _, h.result_eq⟩
      signal := ⟨s, h.signals_eq, h.slice⟩
      logged := ⟨warnings, e, by rw [hleft], h.warnings_type, h.recorded.type, h.recorded.task⟩
      record := ⟨due, clock, hdue, by rw [hleft]; exact Register.find?_insert_self ..⟩
      others := h.others }

/-- **One round**, over a store that is filed and not poisoned: it dispatches a runnable task, or it
does nothing because there is none. -/
theorem Undisturbed.dispatches_or_idle (h : d.Undisturbed) (hm : d.found.Filed)
    (hhealthy : d.found.poisoned = false) :
    (∃ t, d.Dispatches t) ∨ d.found.runnable d.now = [] ∧ d.Idle := by
  have hfits := h.fits
  by_cases hnone : d.found.listRunnable d.now d.runner.config.batchLimit = []
  · obtain ⟨hresult, hleft, hsignals⟩ := idle_of_nothing h.dialogue h.serves hhealthy hnone
    exact .inr ⟨(Memory.listRunnable_eq_nil_iff hfits.batch).1 hnone, hresult, hsignals, hleft⟩
  · obtain ⟨t, warnings, e, s, heffect⟩ := exists_effect h.dialogue h.serves hm hhealthy h.delivers
      hnone hfits.lease hfits.due hfits.warning
    exact .inl ⟨t, .of_effect hm heffect⟩

end Round

/-! ### Rounds one after the other -/

/-- **A rota**: rounds of whatever runners, each over the store that the one before has left. -/
def Rota : Memory → List Round → Memory → Prop
  | m, [], m' => m' = m
  | m, d :: rest, m' => d.found = m ∧ d.Undisturbed ∧ Rota d.left rest m'

variable {m m' : Memory} {rounds : List Round} {r : Runner} {now : Instant}

/-- A dispatched task is one runnable task less. -/
theorem Round.Dispatches.perm_runnable {d : Round} {t : Task} (h : d.Dispatches t)
    (hd : d.Undisturbed) (hm : d.found.Filed) :
    (t :: d.left.runnable d.now).Perm (d.found.runnable d.now) := by
  refine hm.perm_runnable (hd.filed hm) h.runnable (fun t' ht' ↦ ?_) h.others
  obtain ⟨due, clock, hdue, hrecord⟩ := h.record
  obtain rfl := Option.some.inj (hrecord.symm.trans ht')
  rw [Task.isRunnable_dispatched, decide_eq_false_iff_not, Instant.not_le]
  exact RunnerConfig.lt_due hd.fits.cooldown hdue

/-- A dispatched task is runnable again from when it is due. -/
theorem Round.Dispatches.again {d : Round} {t : Task} {due later : Instant} (h : d.Dispatches t)
    (hd : d.Undisturbed) (hm : d.found.Filed) (hdue : d.runner.config.due? d.now = some due)
    (hlater : due ≤ later) : ∃ record ∈ d.left.runnable later, record.id = t.id := by
  obtain ⟨due', clock, hdue', hrecord⟩ := h.record
  obtain rfl := Option.some.inj (hdue.symm.trans hdue')
  refine ⟨t.dispatched due clock, (hd.filed hm).mem_runnable.2 ⟨hrecord, ?_⟩, rfl⟩
  rw [Task.isRunnable_dispatched, decide_eq_true hlater]

/-- While no task is runnable, rounds at that instant are idle. -/
theorem Rota.idle (h : Rota m rounds m') (hm : m.Filed) (hhealthy : m.poisoned = false)
    (hnow : ∀ d ∈ rounds, d.now = now) (hnone : m.runnable now = []) :
    m' = m ∧ ∀ d ∈ rounds, d.Idle := by
  induction rounds generalizing m with
  | nil => exact ⟨h, List.forall_mem_nil _⟩
  | cons d rest ih =>
    obtain ⟨rfl, hd, hrest⟩ := h
    obtain ⟨rfl, hnow⟩ := List.forall_mem_cons.1 hnow
    rcases hd.dispatches_or_idle hm hhealthy with ⟨t, ht⟩ | ⟨-, hidle⟩
    · have hmem := ht.runnable
      rw [hnone] at hmem
      cases hmem
    · rw [hidle.left] at hrest
      obtain ⟨hleft, hidles⟩ := ih hrest hm hhealthy hnow hnone
      exact ⟨hleft, List.forall_mem_cons.2 ⟨hidle, hidles⟩⟩

/-- **At one instant the runnable tasks are dispatched one by one**, until there are none left. -/
theorem Rota.drains (h : Rota m rounds m') (hm : m.Filed) (hhealthy : m.poisoned = false)
    (hnow : ∀ d ∈ rounds, d.now = now) :
    (∀ d ∈ rounds.take (m.runnable now).length, ∃ t, d.Dispatches t) ∧
      (∀ d ∈ rounds.drop (m.runnable now).length, d.Idle) ∧
      (rounds.filterMap Round.dispatched ++ m'.runnable now).Perm (m.runnable now) ∧
      ((m.runnable now).length ≤ rounds.length → m'.runnable now = []) := by
  induction rounds generalizing m with
  | nil =>
    obtain rfl := h
    simp
  | cons d rest ih =>
    have hidle := Rota.idle h hm hhealthy hnow
    obtain ⟨rfl, hd, hrest⟩ := h
    obtain ⟨rfl, hnows⟩ := List.forall_mem_cons.1 hnow
    rcases hd.dispatches_or_idle hm hhealthy with ⟨t, ht⟩ | ⟨hnone, -⟩
    · -- The first round takes one task away, and what follows is a rota over the others.
      have hperm := ht.perm_runnable hd hm
      obtain ⟨hdispatch, hidles, hrestPerm, hdrained⟩ :=
        ih hrest (hd.filed hm) (hd.healthy hhealthy) hnows
      rw [← hperm.length_eq, List.length_cons, List.take_succ_cons, List.drop_succ_cons,
        List.filterMap_cons, ht.dispatched_eq]
      exact ⟨List.forall_mem_cons.2 ⟨⟨t, ht⟩, hdispatch⟩, hidles, (hrestPerm.cons t).trans hperm,
        fun hlength ↦ hdrained (Nat.le_of_succ_le_succ hlength)⟩
    · obtain ⟨rfl, hidles⟩ := hidle hnone
      have hnobody : (d :: rest).filterMap Round.dispatched = [] :=
        List.filterMap_eq_nil_iff.2 fun d hd ↦ (hidles d hd).dispatched_eq
      rw [hnobody, hnone]
      exact ⟨List.forall_mem_nil _, hidles, .refl _, fun _ ↦ rfl⟩

/-- The record of a task says that it is not due before this instant. -/
def PutOff (m : Memory) (id : String) (due : Instant) : Prop :=
  ∃ record due', m.tasks.find? id = some record ∧ record.nextRun = some due' ∧ due ≤ due'

theorem PutOff.le_of_runnable {t : Task} {due : Instant} (h : PutOff m t.id due) (hm : m.Filed)
    (ht : t ∈ m.runnable now) : due ≤ now := by
  obtain ⟨record, due', hfind, hdue', hle⟩ := h
  obtain ⟨hfind', hrunnable⟩ := hm.mem_runnable.1 ht
  obtain rfl := Option.some.inj (hfind.symm.trans hfind')
  simp only [Task.isRunnable, Task.isDueAt, hdue', Bool.and_eq_true, decide_eq_true_eq] at hrunnable
  exact Instant.le_trans hle hrunnable.1.2

/-- **A round leaves a task put off**: if it dispatches the task at all, it puts it off further. -/
theorem PutOff.round {d : Round} {id : String} {due : Instant} (h : PutOff d.found id due)
    (hd : d.Undisturbed) (hm : d.found.Filed) (hhealthy : d.found.poisoned = false) :
    PutOff d.left id due := by
  rcases hd.dispatches_or_idle hm hhealthy with ⟨t, ht⟩ | ⟨-, hidle⟩
  · by_cases hid : id = t.id
    · -- A task that is dispatched again was due, and is put off from then on.
      subst hid
      obtain ⟨due', clock, hdue', hrecord⟩ := ht.record
      have hlater := RunnerConfig.lt_due hd.fits.cooldown hdue'
      refine ⟨_, due', hrecord, rfl, Instant.le_trans (h.le_of_runnable hm ht.runnable) ?_⟩
      exact Instant.le_of_lt hlater
    · obtain ⟨record, due', hfind, hdue', hle⟩ := h
      exact ⟨record, due', (ht.others id hid).trans hfind, hdue', hle⟩
  · exact hidle.left ▸ h

/-- **A rota goes on** over the store that its first rounds leave, and what was put off before them
is put off behind them. -/
theorem Rota.of_append {rounds' : List Round} (h : Rota m (rounds ++ rounds') m') (hm : m.Filed)
    (hhealthy : m.poisoned = false) :
    ∃ m₁, Rota m rounds m₁ ∧ Rota m₁ rounds' m' ∧ m₁.Filed ∧ m₁.poisoned = false ∧
      ∀ id due, PutOff m id due → PutOff m₁ id due := by
  induction rounds generalizing m with
  | nil => exact ⟨m, rfl, h, hm, hhealthy, fun _ _ hput ↦ hput⟩
  | cons d rest ih =>
    obtain ⟨rfl, hd, hrest⟩ := h
    obtain ⟨m₁, hrounds, hrounds', hm₁, hhealthy₁, hput⟩ :=
      ih hrest (hd.filed hm) (hd.healthy hhealthy)
    exact ⟨m₁, ⟨rfl, hd, hrounds⟩, hrounds', hm₁, hhealthy₁,
      fun id due hfound ↦ hput id due (hfound.round hd hm hhealthy)⟩

/-- A report that names a task is that of a round which dispatched it. -/
theorem Round.Undisturbed.dispatches_of_report {d : Round} {t : Task} (h : d.Undisturbed)
    (hm : d.found.Filed) (hhealthy : d.found.poisoned = false) (ht : d.dispatched = some t) :
    d.Dispatches t := by
  rcases h.dispatches_or_idle hm hhealthy with ⟨u, hu⟩ | ⟨-, hidle⟩
  · obtain rfl := Option.some.inj (hu.dispatched_eq.symm.trans ht)
    exact hu
  · rw [hidle.dispatched_eq] at ht
    cases ht

/-- **A task that was dispatched is due before it is dispatched again**, by whomever. -/
theorem Rota.le_of_repeated {before between after : List Round} {first second : Round} {t u : Task}
    (h : Rota m (before ++ first :: (between ++ second :: after)) m') (hm : m.Filed)
    (hhealthy : m.poisoned = false) (ht : first.dispatched = some t)
    (hu : second.dispatched = some u) (hid : t.id = u.id) :
    ∃ due, first.runner.config.due? first.now = some due ∧ due ≤ second.now := by
  obtain ⟨_, -, ⟨rfl, hfirst, hrest⟩, hm₁, hhealthy₁, -⟩ := h.of_append hm hhealthy
  obtain ⟨_, -, ⟨rfl, hsecond, -⟩, hm₂, hhealthy₂, hput⟩ :=
    hrest.of_append (hfirst.filed hm₁) (hfirst.healthy hhealthy₁)
  obtain ⟨due, clock, hdue, hrecord⟩ := (hfirst.dispatches_of_report hm₁ hhealthy₁ ht).record
  have hlast : PutOff second.found u.id due :=
    hid ▸ hput t.id due ⟨_, due, hrecord, rfl, Instant.le_refl due⟩
  have hagain := hsecond.dispatches_of_report hm₂ hhealthy₂ hu
  exact ⟨due, hdue, hlast.le_of_runnable hm₂ hagain.runnable⟩

/-! ### The rotas of a site -/

/-- A tick at a site. -/
def Round.ofSite (s : Site) (r : Runner) (now : Instant) : Round where
  runner := r
  now := now
  asked := (r.tick now).transcript Site.answer s
  result := (s.run (r.tick now)).1
  found := s.store.memory
  left := (s.run (r.tick now)).2.store.memory

theorem Round.undisturbed_ofSite {s : Site} (hs : s.RefusesOnly fun _ ↦ False)
    (hreceiving : s.receiving = true) (hfits : r.config.Fits now) :
    (Round.ofSite s r now).Undisturbed where
  fits := hfits
  dialogue := (r.tick now).dialogue_run Site.answer s
  serves := hs.serves_transcript _
  delivers := Site.delivers_transcript hreceiving _

/-- Runners take turns at a site. -/
def roundsAt : Site → List (Runner × Instant) → List Round
  | _, [] => []
  | s, (r, now) :: rest => Round.ofSite s r now :: roundsAt (s.run (r.tick now)).2 rest

/-- **Whoever takes turns at a site**, for which nothing is planned and whose bus is open, that is a
rota. -/
theorem rota_roundsAt {s : Site} (hs : s.RefusesOnly fun _ ↦ False)
    (hreceiving : s.receiving = true) (turns : List (Runner × Instant))
    (hfits : ∀ p ∈ turns, p.1.config.Fits p.2) :
    ∃ m', Rota s.store.memory (roundsAt s turns) m' := by
  induction turns generalizing s with
  | nil => exact ⟨_, rfl⟩
  | cons p rest ih =>
    obtain ⟨hfit, hfits⟩ := List.forall_mem_cons.1 hfits
    obtain ⟨m', hrest⟩ := ih (hs.run _) ((s.receiving_run _).trans hreceiving) hfits
    exact ⟨m', rfl, Round.undisturbed_ofSite hs hreceiving hfit, hrest⟩

theorem fits_plainRunner {now : Instant} (hlease : (leaseEnd? 30 now).isSome)
    (hdue : (plainRunner.config.due? now).isSome) : plainRunner.config.Fits now where
  batch := by decide
  cooldown := by decide
  lease := hlease
  due := hdue
  warning := rfl

/-- A site with one task. -/
def oneTaskSite : Site where
  store := { memory := oneTask }
  clock := ⟨5, 0⟩

theorem runnable_oneTask : oneTask.runnable ⟨5, 0⟩ = [plainTask] := rfl

/-- **Ticks neither lose nor repeat a task.** Take runners that take turns over a store in memory
whose table of tasks is not poisoned. If all their ticks are at one instant, at which so many tasks
are runnable, then so many ticks each dispatch one of them, each task once, and every later one
finds nothing to do and does nothing. Whatever the instants are, two dispatches of one task lie at
least the cooldown of the first one's runner apart. -/
theorem rota_serves_each_once (h : Rota m rounds m') (hm : m.Filed)
    (hhealthy : m.poisoned = false) :
    (∀ now, (∀ d ∈ rounds, d.now = now) →
      (m.runnable now).Nodup ∧
      (∀ d ∈ rounds.take (m.runnable now).length, ∃ t, d.Dispatches t) ∧
      (∀ d ∈ rounds.drop (m.runnable now).length, d.Idle) ∧
      (rounds.filterMap Round.dispatched ++ m'.runnable now).Perm (m.runnable now) ∧
      ((m.runnable now).length ≤ rounds.length →
        (rounds.filterMap Round.dispatched).Perm (m.runnable now))) ∧
    ∀ (before between after : List Round) (first second : Round) (t u : Task),
      rounds = before ++ first :: (between ++ second :: after) →
      first.dispatched = some t → second.dispatched = some u → t.id = u.id →
      ∃ due, first.runner.config.due? first.now = some due ∧ due ≤ second.now := by
  refine ⟨fun now hnow ↦ ?_, ?_⟩
  · obtain ⟨hdispatch, hidle, hperm, hdrained⟩ := h.drains hm hhealthy hnow
    refine ⟨hm.nodup_runnable now, hdispatch, hidle, hperm, fun hlength ↦ ?_⟩
    rwa [hdrained hlength, List.append_nil] at hperm
  · rintro before between after first second t u rfl ht hu hid
    exact h.le_of_repeated hm hhealthy ht hu hid

/-- Two ticks at one instant find the one task once; a third one at its due time finds it again. -/
theorem rota_over_one_task :
    let first := Round.ofSite oneTaskSite plainRunner ⟨5, 0⟩
    let behind := (oneTaskSite.run (plainRunner.tick ⟨5, 0⟩)).2
    let second := Round.ofSite behind plainRunner ⟨5, 0⟩
    let third := Round.ofSite behind plainRunner ⟨10, 0⟩
    ([first, second].filterMap Round.dispatched).Perm [plainTask] ∧ second.Idle ∧
      ∃ t u, first.dispatched = some t ∧ third.dispatched = some u ∧ t.id = u.id ∧
        ∃ due, plainRunner.config.due? ⟨5, 0⟩ = some due ∧ due ≤ third.now := by
  intro first behind second third
  have hfits₅ : plainRunner.config.Fits ⟨5, 0⟩ := fits_plainRunner (by decide) (by decide)
  have hfits₁₀ : plainRunner.config.Fits ⟨10, 0⟩ := fits_plainRunner (by decide) (by decide)
  have hsite : oneTaskSite.RefusesOnly fun _ ↦ False := .of_nothing rfl rfl rfl
  obtain ⟨m', hrota⟩ : ∃ m', Rota oneTask [first, second] m' :=
    rota_roundsAt hsite rfl [(plainRunner, ⟨5, 0⟩), (plainRunner, ⟨5, 0⟩)] (by simp [hfits₅])
  obtain ⟨m'', hrota'⟩ : ∃ m'', Rota oneTask [first, third] m'' :=
    rota_roundsAt hsite rfl [(plainRunner, ⟨5, 0⟩), (plainRunner, ⟨10, 0⟩)]
      (by simp [hfits₅, hfits₁₀])
  obtain ⟨-, hdispatch, hidle, -, hall⟩ :=
    (rota_serves_each_once hrota filed_oneTask rfl).1 ⟨5, 0⟩ (by simp [first, second, Round.ofSite])
  refine ⟨hall (by decide), hidle second (by simp [runnable_oneTask]), ?_⟩
  obtain ⟨t, ht⟩ := hdispatch first (by simp [runnable_oneTask])
  have hfirst : first.Undisturbed := hrota'.2.1
  have hthird : third.Undisturbed := hrota'.2.2.2.1
  have hfound : first.found.Filed := filed_oneTask
  have hdue : plainRunner.config.due? ⟨5, 0⟩ = some ⟨10, 0⟩ := by decide
  obtain ⟨record, hrecord, -⟩ := ht.again hfirst hfound hdue (Instant.le_refl ⟨10, 0⟩)
  rcases hthird.dispatches_or_idle (hfirst.filed hfound) (hfirst.healthy rfl) with
    ⟨u, hu⟩ | ⟨hnone, -⟩
  · have hid : t.id = u.id := by
      refine Classical.byContradiction fun hne ↦ ?_
      obtain ⟨hstored, -⟩ := (hfirst.filed hfound).mem_runnable.1 hu.runnable
      have hother : oneTask.tasks.find? u.id = some u :=
        (ht.others u.id (Ne.symm hne)).symm.trans hstored
      obtain rfl : t = plainTask := List.mem_singleton.1 ht.runnable
      obtain ⟨rfl, -⟩ := find?_single (t := plainTask) hother
      exact hne rfl
    exact ⟨t, u, ht.dispatched_eq, hu.dispatched_eq, hid,
      (rota_serves_each_once hrota' filed_oneTask rfl).2 [] [] [] first third t u rfl
        ht.dispatched_eq hu.dispatched_eq hid⟩
  · have hnobody : first.left.runnable ⟨10, 0⟩ = [] := hnone
    rw [hnobody] at hrecord
    cases hrecord

/-- **A poisoned table hides its tasks**: once a lease has been asked for that ends beyond the
calendar, ticks fail and dispatch none of the runnable tasks. -/
theorem poisoned_table_hides_tasks :
    ¬ ∀ (calls : List Call) (m' : Memory) (rounds : List Round) (now : Instant),
      Rota (Memory.afterAll {} calls) rounds m' → (∀ d ∈ rounds, d.now = now) →
      ∀ d ∈ rounds.take ((Memory.afterAll {} calls).runnable now).length, ∃ t, d.Dispatches t := by
  intro h
  let calls : List Call :=
    [⟨⟨0, 0⟩, ⟨0⟩, .upsert plainTask⟩,
      ⟨⟨1, 0⟩, ⟨1⟩, .acquireLease "a" "w" Machine.greatest ⟨1, 0⟩⟩]
  let poisoned : Memory := .afterAll {} calls
  let d : Round :=
    { runner := plainRunner
      now := ⟨5, 0⟩
      asked := [⟨.store (plainRunner.listing ⟨5, 0⟩), .error (.error .lockPoisoned)⟩]
      result := .error (.error (.store .lockPoisoned))
      found := poisoned
      left := poisoned }
  have hd : d.Undisturbed :=
    { fits := fits_plainRunner (by decide) (by decide)
      dialogue := dialogue_of_failed (plainRunner.listing ⟨5, 0⟩) (.error .lockPoisoned) _
      serves := ⟨poisoned, .inl ⟨⟨0, 0⟩, ⟨0⟩, rfl⟩, rfl⟩
      delivers := by simp [d, Ask.Delivers] }
  have hrunnable : poisoned.runnable ⟨5, 0⟩ = [plainTask] := rfl
  obtain ⟨t, ht⟩ := h calls poisoned [d] ⟨5, 0⟩ ⟨rfl, hd, rfl⟩ (by simp [d]) d
    (by simp [poisoned, hrunnable])
  obtain ⟨_, _, hresult⟩ := ht.report
  cases hresult

end Runner

end Foreman
