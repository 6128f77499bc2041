import Foreman.Config
import Foreman.Proofs.Calendar
import Foreman.Proofs.Runner.Release
import Foreman.Proofs.Runner.Rota

/-!
# When a tick crashes

A tick turns three settings of its runner into times: for how long a warning silences the next, when
a lease ends, and when a task is due again. Each of them counts as zero if it is negative, and no
bound is set to it from above. Where one leads beyond the calendar there is no time to go on with, and
the tick crashes. It comes to the three in this order, and the first that leads too far decides what
is left behind (`RunnerConfig.overrun?`, `Ends`):

* the span of warnings, which crashes the tick before it has asked for a lease;
* the end of the lease, which crashes it inside the store, so that the table of tasks is poisoned;
* the due time, which crashes it behind the signal and the entry in the log, so that the lease which
  it holds is never given back.

A tick crashes over nothing else. This holds over every store in memory and every bus, and whatever
fails on the way (`never_crashes_within_calendar`). The other direction is about ticks that nothing
disturbs, for an error may end a tick before it comes to the setting that leads too far.
-/

namespace Foreman

open Time Store

/-! ### Settings that lead beyond the calendar -/

/-- What a tick reckons from a setting. -/
inductive Reckoning where
  | warning
  | lease
  | cooldown
deriving DecidableEq, Repr

namespace RunnerConfig

variable {c : RunnerConfig} {now : Instant}

/-- The first reckoning of a tick at `now` that leads beyond the calendar. -/
def overrun? (c : RunnerConfig) (now : Instant) : Option Reckoning :=
  if c.warningSpan?.isNone then some .warning
  else if (leaseEnd? c.leaseSeconds now).isNone then some .lease
  else if (c.due? now).isNone then some .cooldown
  else none

theorem overrun?_eq_none :
    c.overrun? now = none ↔
      c.warningSpan?.isSome ∧ (leaseEnd? c.leaseSeconds now).isSome ∧ (c.due? now).isSome := by
  simp only [overrun?]
  cases c.warningSpan? <;> cases leaseEnd? c.leaseSeconds now <;> cases c.due? now <;> simp

theorem overrun?_of_warning (h : c.warningSpan? = none) : c.overrun? now = some .warning := by
  simp [overrun?, h]

theorem overrun?_of_lease (hspan : c.warningSpan?.isSome)
    (h : leaseEnd? c.leaseSeconds now = none) : c.overrun? now = some .lease := by
  obtain ⟨_, hspan⟩ := Option.isSome_iff_exists.1 hspan
  simp [overrun?, hspan, h]

theorem overrun?_of_cooldown {until_ : Instant} (hspan : c.warningSpan?.isSome)
    (hend : leaseEnd? c.leaseSeconds now = some until_) (h : c.due? now = none) :
    c.overrun? now = some .cooldown := by
  obtain ⟨_, hspan⟩ := Option.isSome_iff_exists.1 hspan
  simp [overrun?, hspan, hend, h]

/-- **The bounds of the settings**, for ticks in the years 1 to 9999. -/
theorem overrun?_eq_none_iff_le (hnow : now.IsCommon) :
    c.overrun? now = none ↔ c.warningCooldownSeconds ≤ Span.maxSeconds ∧
      now.seconds + max c.leaseSeconds 0 ≤ Instant.lastSecond ∧
      now.seconds + max c.cooldownSeconds 0 ≤ Instant.lastSecond := by
  have hdue : c.due? now = leaseEnd? c.cooldownSeconds now := rfl
  rw [overrun?_eq_none, warningSpan?, hdue, Span.isSome_ofSeconds?_iff, isSome_leaseEnd?_iff hnow,
    isSome_leaseEnd?_iff hnow]

/-- Settings of up to a quarter of a million years lead beyond the calendar at none of these ticks. -/
theorem overrun?_eq_none_of_moderate (hnow : now.IsCommon)
    (hwarning : c.warningCooldownSeconds ≤ 7956859392000) (hlease : c.leaseSeconds ≤ 7956859392000)
    (hcooldown : c.cooldownSeconds ≤ 7956859392000) : c.overrun? now = none := by
  have hhigh := hnow.seconds.2
  have hday : day = 86400 := rfl
  have hmax : Span.maxSeconds = 9223372036854775 := rfl
  rw [overrun?_eq_none_iff_le hnow, Instant.lastSecond_eq]
  omega

end RunnerConfig

/-- The question gives a lease back. -/
def Ask.ReleasesLease : Ask → Prop
  | .store (.releaseLease ..) => True
  | _ => False

namespace Runner

variable {mayFail : Request → Prop} {m m' : Memory} {r : Runner} {now : Instant} {t : Task}
  {es : List (Answered Ask.Reply)} {result : Except (Halt TickError) (TickReport × Runner)}

/-- A lease was granted, and behind that none was given back. -/
def LeavesLease (r : Runner) (now : Instant) (es : List (Answered Ask.Reply)) : Prop :=
  ∃ t before behind, es = before ++ ⟨.store (r.lease now t), .ok true⟩ :: behind ∧
    ∀ e ∈ behind, ¬ e.question.ReleasesLease

theorem not_leavesLease_of_leases (h : leases es = []) : ¬ LeavesLease r now es := by
  rintro ⟨t, before, behind, rfl, -⟩
  rw [leases_append, leases_lease] at h
  cases (List.append_eq_nil_iff.1 h).2

theorem GivesBack.not_leavesLease {before body : List (Answered Ask.Reply)}
    {released : Except (Halt StoreError) Unit}
    (h : GivesBack r now es result t before body released) : ¬ LeavesLease r now es := by
  rintro ⟨u, before', behind, hasked, hkept⟩
  have hlast : es.getLast? =
      some ⟨.store (.releaseLease t.id r.config.worker), released⟩ := by
    rw [h.asked, ← List.cons_append, ← List.append_assoc, List.getLast?_concat]
  -- A lease is not the last thing that was asked, so the last is asked behind it.
  rcases List.eq_nil_or_concat behind with rfl | ⟨front, e, rfl⟩
  · rw [hasked, List.getLast?_concat] at hlast
    cases hlast
  · rw [hasked, List.concat_eq_append, ← List.cons_append, ← List.append_assoc,
      List.getLast?_concat] at hlast
    obtain rfl := Option.some.inj hlast
    exact hkept ⟨.store (.releaseLease t.id r.config.worker), released⟩ (by simp) trivial

/-! ### Nothing else crashes -/

/-- What fails without a crash does not crash the tick. -/
theorem halted_ne_crash {α : Type} {rq : Request} {halt : Halt StoreError}
    (h : Ask.Calm (.store rq) (.error halt)) :
    (.error (halt.map .store) : Except (Halt TickError) α) ≠ .error .crash := by
  cases halt with
  | error e => rintro ⟨⟩
  | crash => exact absurd rfl h

/-- **A tick does not crash** if no request does and its settings are within the calendar. -/
theorem Ticked.ne_crash (h : Ticked r now es result) (hcalm : Answers Ask.Calm es)
    (hwithin : r.config.overrun? now = none) : result ≠ .error .crash := by
  obtain ⟨hspan, -, hdue⟩ := RunnerConfig.overrun?_eq_none.1 hwithin
  obtain ⟨due, hdue⟩ := Option.isSome_iff_exists.1 hdue
  cases h with
  | unlisted halt => exact halted_ne_crash (answers_cons.1 hcalm).1
  | idle => rintro ⟨⟩
  | @unchecked batch _ halt hbatch hcheck =>
    have hyields : (r.checkStarvation now batch).Yields Ask.Calm (· ≠ .error .crash) := by
      refine checkStarvation_yields_of r now batch (fun _ _ ↦ halted_ne_crash) (fun hnone ↦ ?_)
        fun _ _ ↦ by rintro ⟨⟩
      rw [hnone] at hspan
      cases hspan
    rintro ⟨⟩
    exact hcheck.of_yields (answers_cons.1 hcalm).2 hyields rfl
  | tried hbatch hcheck hcandidates htried =>
    simp only [answers_cons, answers_append] at hcalm
    obtain ⟨-, -, -, hcalm⟩ := hcalm
    cases htried with
    | exhausted => rintro ⟨⟩
    | halted t untried halt => exact halted_ne_crash (answers_cons.1 hcalm).1
    | granted t untried hdispatch =>
      have hsteady : Answers Ask.Steady _ := fun e he ↦
        ((answers_cons.1 hcalm).2 e he).steady
      obtain ⟨_, _, -, rfl⟩ := released_of_dispatch hdispatch hsteady hdue
      cases fault? _ <;> rintro ⟨⟩

/-- **Within the calendar a tick never crashes**, over any store in memory and any bus. It does not
poison the table of tasks, and it gives back the lease that it was granted. -/
theorem never_crashes_within_calendar (h : (r.tick now).Dialogue es result)
    (hserves : m.Serves mayFail es m') (hwithin : r.config.overrun? now = none) :
    result ≠ .error .crash ∧ (m.poisoned = false → m'.poisoned = false) ∧
      ¬ LeavesLease r now es := by
  obtain ⟨-, hlease, hdue⟩ := RunnerConfig.overrun?_eq_none.1 hwithin
  obtain ⟨due, hdue⟩ := Option.isSome_iff_exists.1 hdue
  have hends := leaseEnds_of_tick h hlease
  refine ⟨(ticked_of_dialogue h).ne_crash (hserves.calm hends) hwithin,
    fun hm ↦ hserves.poisoned hm hends, fun hleaves ↦ ?_⟩
  have hgranted : ∃ rq, (rq, true) ∈ leases es := by
    obtain ⟨t, before, behind, rfl, -⟩ := hleaves
    exact ⟨r.lease now t, by rw [leases_append, leases_lease]; simp⟩
  obtain ⟨_, _, _, _, hgives⟩ :=
    (ticked_of_dialogue h).gives_back hserves.steady hdue hgranted
  exact hgives.not_leavesLease hleaves

/-! ### A tick that nothing disturbs -/

/-- The table of tasks can be read, and the tick lists something. -/
def FindsWork (r : Runner) (now : Instant) (m : Memory) : Prop :=
  m.poisoned = false ∧ m.listRunnable now r.config.batchLimit ≠ []

/-- **How a tick ends** that finds work and is not disturbed, by the first reckoning that leads beyond
the calendar. -/
inductive Ends (r : Runner) (now : Instant) (m : Memory) (es : List (Answered Ask.Reply)) :
    Option Reckoning → Except (Halt TickError) (TickReport × Runner) → Memory → Prop where
  | warning {m' : Memory} (hleases : leases es = []) (hwarned : Warned m m') :
    Ends r now m es (some .warning) (.error .crash) m'
  | lease {warned : Memory} (hleases : leases es = []) (hwarned : Warned m warned) :
    Ends r now m es (some .lease) (.error .crash) { warned with poisoned := true }
  | cooldown {m' : Memory} (t : Task) {until_ : Instant} (hleaves : LeavesLease r now es)
    (hstored : m.tasks.find? t.id = some t)
    (hend : leaseEnd? r.config.leaseSeconds now = some until_)
    (hsent : ∃ s, signals es = [s] ∧ IsSliceOf t s) (hhealthy : m'.poisoned = false)
    (hleased : m'.tasks.find? t.id = some (t.leasedBy r.config.worker until_ now)) :
    Ends r now m es (some .cooldown) (.error .crash) m'
  | served {m' : Memory} (report : TickReport) (r' : Runner) :
    Ends r now m es none (.ok (report, r')) m'

/-- A lease that would end beyond the calendar crashes the store, which is poisoned. -/
theorem perform_lease_of_beyond {record : Task} (hm : m.poisoned = false)
    (hfind : m.tasks.find? t.id = some record) (hfree : record.isLeasedAt now = false)
    (hend : leaseEnd? r.config.leaseSeconds now = none) (clock : Instant) (fresh : Uuid) :
    m.perform clock fresh (r.lease now t) = (.error .crash, { m with poisoned := true }) := by
  simp [Memory.perform, Memory.withTasks, Memory.acquireLease, hm, hfind, hfree, hend]

/-- The lease of a task that is not leased halts over nothing else. -/
theorem beyond_of_halted_lease {record : Task} {halt : Halt StoreError} (hm : m.poisoned = false)
    (hfind : m.tasks.find? t.id = some record) (hfree : record.isLeasedAt now = false)
    (hserves : m.Serves (fun _ ↦ False) [⟨.store (r.lease now t), .error halt⟩] m') :
    leaseEnd? r.config.leaseSeconds now = none ∧ halt = .crash ∧
      m' = { m with poisoned := true } := by
  obtain ⟨_, ⟨clock, fresh, hlease⟩ | ⟨hfalse, -⟩, rfl⟩ := hserves
  · cases hend : leaseEnd? r.config.leaseSeconds now with
    | some until_ =>
      rw [perform_lease_of_free hm hfind hfree hend] at hlease
      cases hlease
    | none =>
      rw [perform_lease_of_beyond hm hfind hfree hend] at hlease
      cases hlease
      exact ⟨rfl, rfl, rfl⟩
  · exact hfalse.elim

/-- A tick that is granted a lease serves the task, or it crashes because the task cannot be put off.
-/
theorem GrantsAlone.ends {before dispatch : List (Answered Ask.Reply)}
    {outcome : Except (Halt TickError) Unit}
    (h : GrantsAlone (fun _ ↦ False) r now m es result m' t before dispatch outcome)
    (hspan : r.config.warningSpan?.isSome) (hbus : Answers Ask.Delivers es) :
    Ends r now m es (r.config.overrun? now) result m' := by
  obtain ⟨until_, warned, hend, hwarned, hserves⟩ := h.serves
  obtain ⟨candidates, warnings, hresult⟩ := h.result
  have hhealthy : warned.poisoned = false := hwarned.poisoned.trans h.healthy
  have hstore : Answers Ask.Succeeds dispatch := hserves.succeeds hhealthy fun e he ↦
    .of_not_asksLease (not_asksLease_of_dispatchAndRelease h.dialogue e he)
  have hasked := h.asked
  rw [hasked, answers_append, answers_cons] at hbus
  rcases undisturbed_dispatchAndRelease h.dialogue hstore hbus.2.2 with
    ⟨stamp, e, ⟨hnone, rfl, rfl⟩ | ⟨due, moved, hdue, rfl, -⟩⟩
  · obtain ⟨_, rfl, _, rfl, _, rfl, _, rfl, _, rfl, _, rfl, _, hentry, rfl⟩ := hserves
    obtain ⟨htasks, hpoisoned⟩ := tasks_of_entry hentry
    rw [RunnerConfig.overrun?_of_cooldown hspan hend hnone, hresult]
    refine .cooldown t ⟨t, before, _, hasked, ?_⟩ h.stored hend ⟨stamp.signal t, ?_, ?_⟩
      (hpoisoned.trans hhealthy) ?_
    · intro e' he' hreleases
      simp only [Stamp.asked, List.cons_append, List.nil_append, List.mem_cons,
        List.not_mem_nil, or_false] at he'
      rcases he' with rfl | rfl | rfl | rfl | rfl | rfl | rfl <;> cases hreleases
    · rw [hasked, signals_append, h.signals, List.nil_append, signals_store]
      rfl
    · exact stamp.isSliceOf_signal t
    · rw [htasks]
      exact Register.find?_insert_self ..
  · have hoverrun : r.config.overrun? now = none :=
      RunnerConfig.overrun?_eq_none.2 ⟨hspan, by simp [hend], by simp [hdue]⟩
    rw [hoverrun, hresult]
    exact .served _ _

/-- **A tick that finds work**, over a store that carries out its requests and a bus that delivers. -/
theorem Ticked.ends (h : Ticked r now es result) (hserves : m.Serves (fun _ ↦ False) es m')
    (hm : m.Filed) (hbus : Answers Ask.Delivers es) (hwork : FindsWork r now m) :
    Ends r now m es (r.config.overrun? now) result m' := by
  obtain ⟨hhealthy, hwork⟩ := hwork
  have hticked := h
  cases h with
  | unlisted halt =>
    exact absurd (hhealthy.symm.trans hserves.unlisted.1) Bool.false_ne_true
  | idle =>
    obtain ⟨-, hnone, -⟩ := hserves.listed
    exact absurd hnone.symm hwork
  | unchecked hbatch hcheck =>
    obtain ⟨-, -, hchecked⟩ := hserves.listed
    have hstore := hchecked.succeeds hhealthy fun e he ↦
      .of_not_asksLease (not_asksLease_of_checkStarvation hcheck e he)
    obtain ⟨rfl, hnone⟩ := crash_of_checkStarvation hcheck hstore
    rw [RunnerConfig.overrun?_of_warning hnone]
    exact .warning (by rw [leases_listing, leases_checkStarvation hcheck])
      (warned_of_checkStarvation hcheck hchecked)
  | tried hbatch hcheck hcandidates htried =>
    obtain ⟨rfl, hlist, warned, hwarned, htries⟩ := tried_alone hserves hm hcheck hcandidates
    have hspan := isSome_warningSpan?_of_checked hcheck
    cases htried with
    | exhausted => exact absurd hcandidates (Task.candidates_ne_nil hbatch _ _)
    | halted t untried halt =>
      obtain ⟨hstored, hrunnable⟩ := hlist t (List.mem_cons_self ..)
      rw [← hwarned.tasks] at hstored
      obtain ⟨hend, rfl, rfl⟩ := beyond_of_halted_lease (hwarned.poisoned.trans hhealthy) hstored
        (Task.free_of_isRunnable hrunnable) htries
      rw [RunnerConfig.overrun?_of_lease hspan hend]
      refine .lease ?_ hwarned
      rw [leases_listing, leases_append, leases_checkStarvation hcheck]
      rfl
    | granted t untried hdispatch =>
      obtain ⟨_, _, _, _, hgrants⟩ :=
        hticked.grants_alone hserves hm ⟨_, mem_leases_of_granted⟩
      exact hgrants.ends hspan hbus

/-- **A tick that finds no work** does nothing to the store, asks for no lease and does not crash. -/
theorem Ticked.of_no_work (h : Ticked r now es result) (hserves : m.Serves mayFail es m')
    (hwork : ¬ FindsWork r now m) :
    result ≠ .error .crash ∧ m' = m ∧ leases es = [] := by
  have hsteady := hserves.steady
  cases h with
  | unlisted halt =>
    have hcalm : (Ask.store (r.listing now)).Calm (.error halt) :=
      fun hcrash ↦ (answers_cons.1 hsteady).1 hcrash
    refine ⟨halted_ne_crash hcalm, ?_, rfl⟩
    obtain ⟨_, ⟨clock, fresh, hperform⟩ | ⟨-, -, rfl⟩, rfl⟩ := hserves
    · rw [← Memory.perform_listRunnable_snd m clock now fresh r.config.batchLimit, hperform]
    · rfl
  | idle =>
    obtain ⟨-, -, hleft⟩ := hserves.listed
    exact ⟨by rintro ⟨⟩, hleft, rfl⟩
  | unchecked hbatch hcheck =>
    obtain ⟨hhealthy, rfl, -⟩ := hserves.listed
    exact absurd ⟨hhealthy, hbatch⟩ hwork
  | tried hbatch hcheck hcandidates htried =>
    obtain ⟨hhealthy, rfl, -⟩ := hserves.listed
    exact absurd ⟨hhealthy, hbatch⟩ hwork

/-- **When a tick crashes.** In the years 1 to 9999 the settings of a runner are within the calendar
exactly if the span of warnings is one and what is added to `now` does not lie behind the last second
of the calendar. As long as they are, no tick crashes, poisons the table of tasks or leaves a lease
behind, whatever the store in memory holds, whatever fails, and whatever the bus does. Where they are
not, they do harm: a tick that is not disturbed, over a table that can be read and lists something,
crashes; it poisons the table if it is the end of the lease that lies beyond the calendar; and if it
is the due time, then the lease which it was granted stays in the table, although the request for the
slice has been sent. -/
theorem tick_crashes_iff (r : Runner) (now : Instant) :
    (now.IsCommon → (r.config.overrun? now = none ↔
      r.config.warningCooldownSeconds ≤ Span.maxSeconds ∧
      now.seconds + max r.config.leaseSeconds 0 ≤ Instant.lastSecond ∧
      now.seconds + max r.config.cooldownSeconds 0 ≤ Instant.lastSecond)) ∧
    (∀ (mayFail : Request → Prop) (m m' : Memory) (es : List (Answered Ask.Reply))
        (result : Except (Halt TickError) (TickReport × Runner)),
      (r.tick now).Dialogue es result → m.Serves mayFail es m' → r.config.overrun? now = none →
      result ≠ .error .crash ∧ (m.poisoned = false → m'.poisoned = false) ∧
        ¬ LeavesLease r now es) ∧
    ∀ (m m' : Memory) (es : List (Answered Ask.Reply))
        (result : Except (Halt TickError) (TickReport × Runner)),
      m.Filed → (r.tick now).Dialogue es result → m.Serves (fun _ ↦ False) es m' →
      Answers Ask.Delivers es →
      (result = .error .crash ↔ FindsWork r now m ∧ r.config.overrun? now ≠ none) ∧
      (m'.poisoned = true ↔
        m.poisoned = true ∨ FindsWork r now m ∧ r.config.overrun? now = some .lease) ∧
      (LeavesLease r now es ↔ FindsWork r now m ∧ r.config.overrun? now = some .cooldown) ∧
      (LeavesLease r now es → ∃ t until_, m.tasks.find? t.id = some t ∧
        leaseEnd? r.config.leaseSeconds now = some until_ ∧
        m'.tasks.find? t.id = some (t.leasedBy r.config.worker until_ now) ∧
        ∃ s, signals es = [s] ∧ IsSliceOf t s) := by
  refine ⟨RunnerConfig.overrun?_eq_none_iff_le, fun mayFail m m' es result h hserves hwithin ↦
    never_crashes_within_calendar h hserves hwithin, fun m m' es result hm h hserves hbus ↦ ?_⟩
  by_cases hwork : FindsWork r now m
  · have hends := (ticked_of_dialogue h).ends hserves hm hbus hwork
    have hwithin := never_crashes_within_calendar h hserves
    have hhealthy := hwork.1
    generalize r.config.overrun? now = overrun at *
    cases hends with
    | warning hleases hwarned =>
      have hkept : ¬ LeavesLease r now es := not_leavesLease_of_leases hleases
      simp [hwork, hkept, hhealthy, hwarned.poisoned]
    | lease hleases hwarned =>
      have hkept : ¬ LeavesLease r now es := not_leavesLease_of_leases hleases
      simp [hwork, hkept]
    | cooldown t hleaves hstored hend hsent hhealthy' hleased =>
      refine ⟨by simp [hwork], by simp [hhealthy, hhealthy'], by simp [hwork, hleaves], fun _ ↦ ?_⟩
      exact ⟨t, _, hstored, hend, hleased, hsent⟩
    | served report r' =>
      obtain ⟨-, hpoisoned, hkept⟩ := hwithin rfl
      simp [hwork, hkept, hhealthy, hpoisoned hhealthy]
  · obtain ⟨hresult, rfl, hleases⟩ := (ticked_of_dialogue h).of_no_work hserves hwork
    have hkept : ¬ LeavesLease r now es := not_leavesLease_of_leases hleases
    simp [hresult, hkept, hwork]

/-- Two variables that are accepted from an environment, and what a tick over one task makes of them:
with the first it poisons the table, with the second the task stays under its lease. With the defaults
it does not crash. -/
theorem accepted_settings_crash :
    let load (key : String) := Config.load? (fun _ ↦ .error .notFound)
      (fun k ↦ if k = key then some "9223372036854775807" else none) ⟨0⟩ none
    let ticked (c : RunnerConfig) := oneTaskSite.run (tick { config := c, bus := ⟨true⟩ } ⟨5, 0⟩)
    (ticked plainRunner.config).1 ≠ .error .crash ∧
    (∃ c, load "PDCA_LEASE_SECONDS" = .ok c ∧ (ticked c.runner).1 = .error .crash ∧
      (ticked c.runner).2.store.memory.poisoned = true) ∧
    ∃ c, load "PDCA_DISPATCH_COOLDOWN_SECONDS" = .ok c ∧ (ticked c.runner).1 = .error .crash ∧
      ∃ t, (ticked c.runner).2.store.memory.tasks.find? "a" = some t ∧
        t.isLeasedAt ⟨34, 0⟩ = true := by
  intro load ticked
  have hsite : oneTaskSite.RefusesOnly fun _ ↦ False := .of_nothing rfl rfl rfl
  have hcommon : Instant.IsCommon ⟨5, 0⟩ := ⟨by decide, by decide, by decide⟩
  have hcrashes (c : RunnerConfig) := tick_crashes_iff { config := c, bus := ⟨true⟩ } ⟨5, 0⟩
  have hdialogue (c : RunnerConfig) :=
    (tick { config := c, bus := ⟨true⟩ } ⟨5, 0⟩).dialogue_run Site.answer oneTaskSite
  have hdisturbed (c : RunnerConfig) := (hcrashes c).2.2 oneTask _ _ _ filed_oneTask (hdialogue c)
    (hsite.serves_transcript _) (Site.delivers_transcript rfl _)
  have hwork {c : RunnerConfig} (hlimit : c.batchLimit = 20) :
      FindsWork { config := c, bus := ⟨true⟩ } ⟨5, 0⟩ oneTask := by
    refine ⟨rfl, ?_⟩
    rw [hlimit, listRunnable_oneTask]
    exact List.cons_ne_nil plainTask []
  obtain ⟨c, hload, hlease⟩ : ∃ c, load "PDCA_LEASE_SECONDS" = .ok c ∧ c.runner =
      { worker := Uuid.workerName ⟨0⟩, leaseSeconds := Machine.greatest } := ⟨_, rfl, rfl⟩
  obtain ⟨c', hload', hcooldown⟩ : ∃ c, load "PDCA_DISPATCH_COOLDOWN_SECONDS" = .ok c ∧ c.runner =
      { worker := Uuid.workerName ⟨0⟩, cooldownSeconds := Machine.greatest } := ⟨_, rfl, rfl⟩
  refine ⟨?_, ⟨c, hload, ?_, ?_⟩, c', hload', ?_, ?_⟩
  · have hwithin : plainRunner.config.overrun? ⟨5, 0⟩ = none :=
      ((hcrashes plainRunner.config).1 hcommon).2 (by decide)
    exact ((hcrashes _).2.1 _ _ _ _ _ (hdialogue _) (hsite.serves_transcript _) hwithin).1
  · rw [hlease]
    exact (hdisturbed _).1.2 ⟨hwork rfl, by decide⟩
  · rw [hlease]
    exact (hdisturbed _).2.1.2 (.inr ⟨hwork rfl, by decide⟩)
  · rw [hcooldown]
    exact (hdisturbed _).1.2 ⟨hwork rfl, by decide⟩
  · rw [hcooldown]
    obtain ⟨-, -, hleaves, hkept⟩ := hdisturbed
      { worker := Uuid.workerName ⟨0⟩, cooldownSeconds := Machine.greatest }
    obtain ⟨t, until_, hstored, hend, hleased, -⟩ := hkept (hleaves.2 ⟨hwork rfl, by decide⟩)
    obtain ⟨rfl, -⟩ := find?_single (t := plainTask) hstored
    obtain rfl : (⟨35, 0⟩ : Instant) = until_ := Option.some.inj hend
    exact ⟨_, hleased, by decide⟩

end Runner

end Foreman
