import Foreman.Proofs.Runner.Stages

/-!
# Which task a tick selects

A tick asks for the leases of its candidates in their order until one is granted, and serves that
task and no other (`Selects`). This needs nothing of the store but that it does not fail: it may
list what it likes, and grant and refuse what it likes.

The order of the candidates depends on the owner whom the runner served last, so what the runner did
in one tick has consequences in a later one. Between two ticks of a run that dispatch something
there may be any number of ticks that dispatch nothing; they leave the owner as it is
(`Shifts.lastOwner_of_idle`). So when two successive dispatches serve the same owner, the tasks of
all other owners stood in front of the second one, and each of them was refused its lease
(`Task.mem_refused_of_owner_ne`).
-/

namespace Foreman

open Time Store

/-- Behind the owner served last come only that owner's tasks: when one of them is reached, all
tasks of others have been tried. -/
theorem Task.mem_refused_of_owner_ne {batch refused untried : List Task} {boost : Int}
    {owner : String} {t u : Task}
    (h : Task.candidates batch boost (some owner) = refused ++ t :: untried) (ht : t.owner = owner)
    (hu : u ∈ batch) (hne : u.owner ≠ owner) : u ∈ refused := by
  let ordered := Task.byEffectivePriority batch boost
  have hmem : u ∈ ordered.filter fun t ↦ !(t.owner == owner) := by
    refine List.mem_filter.2 ⟨List.mem_mergeSort.2 hu, ?_⟩
    simpa using hne
  have hsplit : (ordered.filter fun t ↦ !(t.owner == owner)) ++
      (ordered.filter fun t ↦ t.owner == owner) = refused ++ t :: untried :=
    (Task.fairly_some ordered owner).symm.trans h
  rcases List.append_eq_append_iff.1 hsplit with ⟨_, rfl, -⟩ | ⟨left, hothers, hleft⟩
  · exact List.mem_append_left _ hmem
  rcases left with _ | ⟨t', left⟩
  · rw [List.append_nil] at hothers
    exact hothers ▸ hmem
  · -- The task that was reached would stand among those of the others.
    obtain ⟨rfl, -⟩ := List.cons.inj hleft
    have hother : t ∈ ordered.filter fun t ↦ !(t.owner == owner) := by simp [hothers]
    have hne := (List.mem_filter.1 hother).2
    simp [ht] at hne

namespace Runner

variable {r r' : Runner} {now : Instant} {es : List (Answered Ask.Reply)}

/-! ### One tick -/

/-- **What a tick selects**: of this batch these candidates were refused their leases, then this one
was granted its own, and those behind it were not tried. -/
structure Selects (r : Runner) (now : Instant) (es : List (Answered Ask.Reply))
    (result : Except (Halt TickError) (TickReport × Runner)) (batch refused : List Task)
    (granted : Option Task) (untried : List Task) : Prop where
  listed : es.head? = some ⟨.store (r.listing now), .ok batch⟩
  candidates : Task.candidates batch r.config.interactiveBoost r.lastOwner =
    refused ++ granted.toList ++ untried
  /-- Nothing is left to be tried when nothing was granted, unless the starvation check crashed. -/
  exhausted : granted = none →
    untried = [] ∨ result = .error .crash ∧ r.config.warningSpan? = none
  leases : leases es = refused.map (fun t ↦ (r.lease now t, false)) ++
    granted.toList.map fun t ↦ (r.lease now t, true)
  signals : (signals es).length ≤ 1 ∧ ∀ s ∈ signals es, ∃ t, granted = some t ∧ IsSliceOf t s
  report : ∀ report r', result = .ok (report, r') → report.candidates = batch.length ∧
    report.dispatched = granted ∧ report.leaseConflicts = refused.length ∧ r' = r.served granted

theorem Ticked.selects {result : Except (Halt TickError) (TickReport × Runner)}
    (h : Ticked r now es result)
    (hstore : Answers Ask.Succeeds es ∨ ∃ report r', result = .ok (report, r')) :
    ∃ batch refused granted untried, Selects r now es result batch refused granted untried := by
  cases h with
  | unlisted halt =>
    rcases hstore with hstore | ⟨_, _, hok⟩
    · simp [Ask.Succeeds] at hstore
    · cases hok
  | idle =>
    refine ⟨[], [], none, [], rfl, ?_, fun _ ↦ .inl rfl, rfl, ⟨Nat.zero_le 1, List.forall_mem_nil _⟩, ?_⟩
    · exact List.perm_nil.1 (Task.candidates_perm ..)
    · rintro _ _ ⟨⟩
      exact ⟨rfl, rfl, rfl, rfl⟩
  | @unchecked batch es halt hbatch hcheck =>
    rcases hstore with hstore | ⟨_, _, hok⟩
    · refine ⟨batch, [], none, _, rfl, rfl, fun _ ↦ .inr ?_, ?_, ?_, ?_⟩
      · obtain ⟨rfl, hnone⟩ := crash_of_checkStarvation hcheck (answers_cons.1 hstore).2
        exact ⟨rfl, hnone⟩
      · rw [leases_listing, leases_checkStarvation hcheck]
        rfl
      · rw [signals_store, signals_checkStarvation hcheck]
        exact ⟨Nat.zero_le 1, List.forall_mem_nil _⟩
      · rintro _ _ ⟨⟩
    · cases hok
  | @tried batch refused rest es es' warnings result hbatch hcheck hcandidates htried =>
    have hleases : leases (⟨.store (r.listing now), .ok batch⟩ ::
        (es ++ (r.refusals now refused ++ es'))) =
        refused.map (fun t ↦ (r.lease now t, false)) ++ leases es' := by
      rw [leases_listing, leases_append, leases_append, leases_checkStarvation hcheck,
        leases_refusals, List.nil_append]
    have hsignals : signals (⟨.store (r.listing now), .ok batch⟩ ::
        (es ++ (r.refusals now refused ++ es'))) = signals es' := by
      rw [signals_store, signals_append, signals_append, signals_checkStarvation hcheck,
        signals_refusals, List.nil_append, List.nil_append]
    cases htried with
    | exhausted =>
      refine ⟨batch, refused, none, [], rfl, ?_, fun _ ↦ .inl rfl, hleases, ?_, ?_⟩
      · simpa using hcandidates
      · rw [hsignals]
        exact ⟨Nat.zero_le 1, List.forall_mem_nil _⟩
      · rintro _ _ ⟨⟩
        exact ⟨rfl, rfl, rfl, rfl⟩
    | halted t untried halt =>
      rcases hstore with hstore | ⟨_, _, hok⟩
      · simp [Ask.Succeeds] at hstore
      · cases hok
    | @granted t untried es' result hdispatch =>
      obtain ⟨hone, hslice⟩ := signals_dispatchAndRelease hdispatch
      refine ⟨batch, refused, some t, untried, rfl, ?_, ?_, ?_, ?_, ?_⟩
      · simpa using hcandidates
      · rintro ⟨⟩
      · rw [hleases, leases_lease, leases_dispatchAndRelease hdispatch]
        rfl
      · rw [hsignals, signals_store]
        exact ⟨hone, fun s hs ↦ ⟨t, rfl, hslice s hs⟩⟩
      · intro report r' hok
        cases result with
        | error halt => cases hok
        | ok _ =>
          cases hok
          exact ⟨rfl, rfl, rfl, rfl⟩

/-! ### Successive ticks -/

/-- One tick that came to its end. -/
structure Shift where
  now : Instant
  asked : List (Answered Ask.Reply)
  report : TickReport

/-- **A run of ticks of one runner**, each of which came to its end, and the runner behind it. What
happens to the store in between is left open. -/
def Shifts : Runner → List Shift → Runner → Prop
  | r, [], r' => r' = r
  | r, s :: rest, r'' =>
    ∃ r', (r.tick s.now).Dialogue s.asked (.ok (s.report, r')) ∧ r'.Shifts rest r''

theorem Shifts.of_append {shifts shifts' : List Shift} {r'' : Runner}
    (h : r.Shifts (shifts ++ shifts') r'') :
    ∃ r', r.Shifts shifts r' ∧ r'.Shifts shifts' r'' := by
  induction shifts generalizing r with
  | nil => exact ⟨r, rfl, h⟩
  | cons s rest ih =>
    obtain ⟨r₁, htick, hrest⟩ := h
    obtain ⟨r', hshifts, hshifts'⟩ := ih hrest
    exact ⟨r', ⟨r₁, htick, hshifts⟩, hshifts'⟩

/-- A tick that came to its end has served what it dispatched. -/
theorem served_of_dialogue {s : Shift} (h : (r.tick s.now).Dialogue s.asked (.ok (s.report, r'))) :
    r' = r.served s.report.dispatched := by
  obtain ⟨_, _, _, _, hselects⟩ := (ticked_of_dialogue h).selects (.inr ⟨_, _, rfl⟩)
  obtain ⟨-, hdispatched, -, hserved⟩ := hselects.report _ _ rfl
  rw [hserved, hdispatched]

/-- Ticks do not change the settings of a runner, and those that dispatch nothing leave the owner
served last. -/
theorem Shifts.lastOwner_of_idle {shifts : List Shift} (h : r.Shifts shifts r') :
    r'.config = r.config ∧
      ((∀ s ∈ shifts, s.report.dispatched = none) → r'.lastOwner = r.lastOwner) := by
  induction shifts generalizing r with
  | nil =>
    obtain rfl := h
    exact ⟨rfl, fun _ ↦ rfl⟩
  | cons s rest ih =>
    obtain ⟨r₁, htick, hrest⟩ := h
    obtain rfl := served_of_dialogue htick
    obtain ⟨hconfig, howner⟩ := ih hrest
    refine ⟨hconfig, fun hidle ↦ ?_⟩
    obtain ⟨hnone, hidle⟩ := List.forall_mem_cons.1 hidle
    rw [howner hidle, served, hnone]
    rfl

/-! ### A tick with lost leases -/

/-- A task of another owner. -/
def rivalTask : Task :=
  .new "b" "p" "c" "s" ⟨0, 0⟩

/-- The record of a dispatch, as it is answered. -/
def plainEntry (r : Runner) (now : Instant) (t : Task) : Event :=
  ⟨⟨3⟩, some t.id, EventType.sliceRequested, r.dispatchPayload t, none, now⟩

/-- A tick in which nobody starves, these leases are refused, and nothing else goes wrong. -/
def grantedShift (r : Runner) (now due : Instant) (batch refused : List Task) (t : Task) :
    Shift where
  now := now
  asked := ⟨.store (r.listing now), .ok batch⟩ :: ([] ++ (r.refusals now refused ++
    ⟨.store (r.lease now t), .ok true⟩ :: ((Stamp.plain now).asked ++
        [⟨.busOpen, true⟩, ⟨.enqueue ((Stamp.plain now).signal t), true⟩,
          ⟨.store ((Stamp.plain now).entry r t), .ok (r.plainEntry now t)⟩,
          ⟨.store (r.putOff t due), .ok true⟩] ++
      [⟨.store (.releaseLease t.id r.config.worker), .ok ()⟩])))
  report := ⟨batch.length, some t, refused.length, 0⟩

theorem dialogue_grantedShift {r : Runner} {due : Instant} {batch refused untried : List Task}
    {t : Task} (hbatch : batch ≠ []) (hcheck : (r.checkStarvation now batch).Dialogue [] (.ok 0))
    (hcandidates : Task.candidates batch r.config.interactiveBoost r.lastOwner =
      refused ++ t :: untried) (hdue : r.config.due? now = some due) :
    (r.tick now).Dialogue (r.grantedShift now due batch refused t).asked
      (.ok ((r.grantedShift now due batch refused t).report, r.served (some t))) := by
  have hdispatched := @Dispatched.putOff r now t (Stamp.plain now) (r.plainEntry now t) due hdue
    (.ok true)
  exact dialogue_tick_of_granted hbatch hcheck hcandidates
    (dialogue_of_released (.ok ()) (dialogue_of_dispatched hdispatched) (.ok ()))

/-! ### Which task is served -/

/-- **Candidates and owners.** Over every store that succeeds, a tick asks for the leases of its
candidates in their order and for none behind the first that is granted; it serves that task, hands
at most one signal to the bus, which asks for a slice of that task, and reports how many leases were
refused before. It comes to its end if the bus delivers and its settings are within the calendar.

In every run of ticks, when two successive dispatches serve one owner, all tasks of other owners
that the second one had on its list were refused their leases in it. -/
theorem tick_selects :
    (∀ (r : Runner) (now : Instant) (es : List (Answered Ask.Reply))
        (result : Except (Halt TickError) (TickReport × Runner)),
      (r.tick now).Dialogue es result → Answers Ask.Succeeds es →
      (∃ batch refused granted untried, Selects r now es result batch refused granted untried) ∧
      (Answers Ask.Delivers es → (r.config.due? now).isSome → r.config.warningSpan?.isSome →
        ∃ report r', result = .ok (report, r'))) ∧
    ∀ (r r' : Runner) (before between after : List Shift) (first second : Shift) (t u : Task),
      r.Shifts (before ++ first :: (between ++ second :: after)) r' →
      (∀ s ∈ between, s.report.dispatched = none) →
      first.report.dispatched = some t → second.report.dispatched = some u → t.owner = u.owner →
      ∃ batch, second.asked.head? = some ⟨.store (r.listing second.now), .ok batch⟩ ∧
        ∀ v ∈ batch, v.owner ≠ u.owner → (r.lease second.now v, false) ∈ leases second.asked := by
  refine ⟨fun r now es result h hstore ↦ ?_, ?_⟩
  · have hticked := ticked_of_dialogue h
    exact ⟨hticked.selects (.inl hstore), hticked.completes hstore⟩
  · intro r r' before between after first second t u hrun hidle ht hu howner
    obtain ⟨r₁, hbefore, r₂, hfirst, hrest⟩ := hrun.of_append
    obtain ⟨r₃, hbetween, r₄, hsecond, -⟩ := hrest.of_append
    obtain rfl := served_of_dialogue hfirst
    obtain ⟨hconfig₁, -⟩ := hbefore.lastOwner_of_idle
    obtain ⟨hconfig₃, hlast⟩ := hbetween.lastOwner_of_idle
    have hconfig : r₃.config = r.config := hconfig₃.trans hconfig₁
    have hlastOwner : r₃.lastOwner = some u.owner := by
      rw [hlast hidle, served, ht, ← howner]
      rfl
    obtain ⟨batch, refused, granted, untried, hselects⟩ :=
      (ticked_of_dialogue hsecond).selects (.inr ⟨_, _, rfl⟩)
    obtain ⟨-, hdispatched, -, -⟩ := hselects.report _ _ rfl
    obtain rfl : some u = granted := hu.symm.trans hdispatched
    have hcandidates := hselects.candidates
    rw [hlastOwner, List.append_assoc] at hcandidates
    obtain ⟨config, bus, owner⟩ := r₃
    obtain rfl : config = r.config := hconfig
    refine ⟨batch, hselects.listed, fun v hv hne ↦ ?_⟩
    have hrefused := Task.mem_refused_of_owner_ne hcandidates rfl hv hne
    rw [hselects.leases]
    exact List.mem_append_left _ (List.mem_map.2 ⟨v, hrefused, rfl⟩)

/-- The plain runner serves its task twice, the second time because the task of another owner is
lost to somebody else. -/
theorem owner_served_twice :
    let first := plainRunner.grantedShift ⟨5, 0⟩ ⟨10, 0⟩ [plainTask] [] plainTask
    let second := (plainRunner.served (some plainTask)).grantedShift ⟨10, 0⟩ ⟨15, 0⟩
      [plainTask, rivalTask] [rivalTask] plainTask
    plainRunner.Shifts [first, second] (plainRunner.served (some plainTask)) ∧
      (∃ batch refused granted untried, Selects plainRunner ⟨5, 0⟩ first.asked
        (.ok (first.report, plainRunner.served (some plainTask))) batch refused granted untried) ∧
      (plainRunner.lease ⟨10, 0⟩ rivalTask, false) ∈ leases second.asked := by
  intro first second
  have hfirst : (plainRunner.tick ⟨5, 0⟩).Dialogue first.asked
      (.ok (first.report, plainRunner.served (some plainTask))) := by
    have hcandidates : Task.candidates [plainTask] 40 none = [] ++ plainTask :: [] := by
      simp [Task.candidates, Task.byEffectivePriority, Task.fairly]
    exact dialogue_grantedShift (List.cons_ne_nil plainTask []) ⟨rfl, rfl⟩ hcandidates (by decide)
  have hsecond : ((plainRunner.served (some plainTask)).tick ⟨10, 0⟩).Dialogue second.asked
      (.ok (second.report, plainRunner.served (some plainTask))) := by
    have hcandidates : Task.candidates [plainTask, rivalTask] 40 (some "o") =
        [rivalTask] ++ plainTask :: [] := by
      have hsorted : Task.byEffectivePriority [plainTask, rivalTask] 40 = [plainTask, rivalTask] :=
        List.mergeSort_of_pairwise (by decide)
      rw [Task.candidates, hsorted]
      rfl
    exact dialogue_grantedShift (List.cons_ne_nil plainTask [rivalTask]) ⟨rfl, rfl⟩ hcandidates
      (by decide)
  have hrun : plainRunner.Shifts [first, second] (plainRunner.served (some plainTask)) :=
    ⟨_, hfirst, _, hsecond, rfl⟩
  have hstore : Answers Ask.Succeeds first.asked := by
    simp [first, grantedShift, Stamp.plain, Stamp.asked, refusals, Ask.Succeeds]
  obtain ⟨batch, hlisted, hrefused⟩ := tick_selects.2 plainRunner _ [] [] [] first second plainTask
    plainTask hrun (List.forall_mem_nil _) rfl rfl rfl
  cases hlisted
  refine ⟨hrun, (tick_selects.1 _ _ _ _ hfirst hstore).1, ?_⟩
  exact hrefused rivalTask (by simp) (by decide)

end Runner

end Foreman
