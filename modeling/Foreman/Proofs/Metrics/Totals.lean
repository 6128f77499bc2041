import Foreman.Metrics

/-!
# Totals and breakdowns

The metrics show most numbers twice, as a total and broken down by status, owner or reason. The two are
counted side by side, and they agree (`Metrics.totals_agree`).

Where the breakdown is a tally, this is `Register.total_tally`: a tally adds up to the number of names,
so it is enough to know how many names there are. The waiting times are not added up. What their total
has to do with their breakdown is an invariant of the count (`Metrics.Tops`), which one more waiting
time preserves (`Tops.alter`), and so all of them do (`tops_longestByOwner`). It needs waiting times to
be positive, for the total starts at zero.
-/

namespace Foreman.Metrics

open Time

/-! ### Census -/

/-- Every task has one of the statuses. -/
theorem sum_countP_status (tasks : List Task) :
    (Status.all.map fun s ↦ tasks.countP fun t ↦ t.status == s).foldr (· + ·) 0 =
      tasks.length := by
  induction tasks with
  | nil => rfl
  | cons t tasks ih =>
    simp only [Status.all, List.map_cons, List.map_nil, List.foldr_cons, List.foldr_nil,
      List.countP_cons, List.length_cons] at ih ⊢
    cases t.status <;> simp <;> omega

/-- There is one entry for each status, whether it has tasks or not. -/
theorem perm_countByStatus (tasks : List Task) :
    (countByStatus tasks).toList.Perm
      (Status.all.map fun s ↦ (s.name, tasks.countP fun t ↦ t.status == s)) :=
  Register.perm_toList_ofList (by
    rw [List.map_map]
    exact show (Status.all.map Status.name).Nodup by decide)

theorem keys_countByStatus (tasks : List Task) :
    (countByStatus tasks).keys.Perm (Status.all.map Status.name) := by
  have hkeys := (perm_countByStatus tasks).map (·.1)
  rwa [List.map_map] at hkeys

theorem total_countByStatus (tasks : List Task) : (countByStatus tasks).total = tasks.length := by
  have hvalues := (perm_countByStatus tasks).map (·.2)
  rw [List.map_map] at hvalues
  rw [← sum_countP_status]
  exact hvalues.foldr_eq' (fun n _ m _ total ↦ Nat.add_left_comm m n total) 0

theorem total_depthByOwner (tasks : List Task) :
    (Register.tally (tasks.map (·.owner))).total = tasks.length := by
  rw [Register.total_tally, List.length_map]

/-- The owners with active tasks. -/
theorem mem_keys_activeByOwner {tasks : List Task} {owner : String} :
    owner ∈ (activeByOwner tasks).keys ↔
      ∃ t ∈ tasks, t.status ≠ .done ∧ t.status ≠ .failed ∧ t.owner = owner := by
  simp [activeByOwner, Register.mem_keys_tally, Status.isTerminal_eq_false_iff, and_assoc]

/-! ### Waiting times -/

/-- **The greatest of some positive values**, or zero when there are none. -/
structure Tops (top : Int) (r : Register Int) : Prop where
  bounds : ∀ key v, r.find? key = some v → 0 < v ∧ v ≤ top
  attained : (∃ key, r.find? key = some top) ∨ (∀ key, r.find? key = none) ∧ top = 0

namespace Tops

variable {top : Int} {r : Register Int}

theorem empty : Tops 0 (∅ : Register Int) where
  bounds := nofun
  attained := .inr ⟨fun _ ↦ rfl, rfl⟩

/-- **One more value** under a name stands there unless there is a greater one. -/
theorem alter (h : Tops top r) (owner : String) {w : Int} (hw : 0 < w) :
    Tops (max top w) (r.alter owner fun v ↦ max (v.getD 0) w) := by
  have hold : (r.find? owner).getD 0 ≤ max top w := by
    cases hfind : r.find? owner with
    | none => simp only [Option.getD_none]; omega
    | some v => have := h.bounds owner v hfind; simp only [Option.getD_some]; omega
  refine ⟨fun key v hv ↦ ?_, .inl ?_⟩
  · rw [Register.find?_alter] at hv
    split at hv
    · obtain rfl := Option.some.inj hv
      omega
    · have := h.bounds key v hv
      omega
  · rcases Int.lt_or_le w top with hlt | hle
    · -- The greatest value is greater than the new one, so it is there and stays.
      rcases h.attained with ⟨key, hkey⟩ | ⟨-, rfl⟩
      · refine ⟨key, ?_⟩
        rw [Register.find?_alter]
        split
        · next heq => rw [← heq, hkey, Option.getD_some]
        · rw [hkey, Int.max_eq_left (by omega)]
      · omega
    · refine ⟨owner, ?_⟩
      rw [Register.find?_alter, if_pos rfl, Int.max_eq_right (by omega), Int.max_eq_right hle]

theorem pos_of_mem (h : Tops top r) {v : Int} (hv : v ∈ r.values) : 0 < v := by
  obtain ⟨key, hkey⟩ := Register.mem_values.1 hv
  exact (h.bounds key v hkey).1

/-- So the total is the greatest value of the breakdown. -/
theorem eq_max? (h : Tops top r) : top = r.values.max?.getD 0 := by
  rcases h.attained with hkey | ⟨hnone, rfl⟩
  · have hmax : r.values.max? = some top := List.max?_eq_some_iff.2 ⟨Register.mem_values.2 hkey,
      fun v hv ↦ by
        obtain ⟨key, hkey⟩ := Register.mem_values.1 hv
        exact (h.bounds key v hkey).2⟩
    rw [hmax, Option.getD_some]
  · have hempty : r.values = [] := List.eq_nil_iff_forall_not_mem.2 fun v hv ↦ by
      obtain ⟨key, hkey⟩ := Register.mem_values.1 hv
      rw [hnone] at hkey
      cases hkey
    rw [hempty]
    rfl

end Tops

/-- **The longest waiting time of all** goes with the longest ones of the owners. -/
theorem tops_longestByOwner {ws : List (String × Int)} (hpos : ∀ w ∈ ws, 0 < w.2) :
    Tops (longest (ws.map (·.2))) (longestByOwner ws) := by
  have hfold (top : Int) (r : Register Int) (h : Tops top r) :
      Tops ((ws.map (·.2)).foldl max top)
        (ws.foldl (fun r w ↦ r.alter w.1 fun v ↦ max (v.getD 0) w.2) r) := by
    induction ws generalizing top r with
    | nil => exact h
    | cons w ws ih =>
      obtain ⟨hw, hrest⟩ := List.forall_mem_cons.1 hpos
      exact ih hrest _ _ (h.alter w.1 hw)
  exact hfold 0 ∅ .empty

theorem pos_of_mem_waits {tasks : List Task} {now : Instant} {w : String × Int}
    (h : w ∈ waits tasks now) : 0 < w.2 := by
  obtain ⟨t, -, ht⟩ := List.mem_filterMap.1 h
  obtain ⟨_, hwait, rfl⟩ := Option.map_eq_some_iff.1 ht
  exact Task.waitSeconds?_pos hwait

/-! ### Log -/

theorem total_exhaustions (events : List Event) :
    (exhaustions events).total = (ofType EventType.blockedBudget events).length := by
  rw [exhaustions, Register.total_tally, List.length_map]

/-- A used-up budget is a failure. -/
theorem length_blockedBudget_le (events : List Event) :
    (ofType EventType.blockedBudget events).length ≤ countTerminal .failed events := by
  rw [ofType, ← List.countP_eq_length_filter]
  refine List.countP_mono_left fun e _ htype ↦ ?_
  have htype : e.type = EventType.blockedBudget := by simpa using htype
  rw [htype]
  rfl

/-- The types of the events that end a slice for good. -/
def terminalTypes : List String :=
  ["slice.completed.done", "slice.completed.waiting_user", "slice.blocked.missing_text",
    "slice.completed.failed", "slice.failed", "slice.blocked.budget_exhausted"]

/-- An event of another type counts for nothing, and each of these for one status. -/
theorem terminalStatus?_cases (type : String) :
    type ∉ terminalTypes ∧ SliceOutcome.terminalStatus? type = none ∨
      type ∈ terminalTypes ∧ (SliceOutcome.terminalStatus? type = some .done ∨
        SliceOutcome.terminalStatus? type = some .waitingUser ∨
        SliceOutcome.terminalStatus? type = some .failed) := by
  by_cases hmem : type ∈ terminalTypes
  · refine .inr ⟨hmem, ?_⟩
    simp only [terminalTypes, List.mem_cons, List.not_mem_nil, or_false] at hmem
    rcases hmem with rfl | rfl | rfl | rfl | rfl | rfl <;> decide
  · refine .inl ⟨hmem, ?_⟩
    simp only [terminalTypes, List.mem_cons, List.not_mem_nil, or_false, not_or] at hmem
    simp [SliceOutcome.terminalStatus?, EventType.completedDone, EventType.completedWaitingUser,
      EventType.blockedMissingText, EventType.completedFailed, EventType.sliceFailed,
      EventType.blockedBudget, hmem]

theorem sum_countTerminal (events : List Event) :
    countTerminal .done events + countTerminal .waitingUser events + countTerminal .failed events =
      events.countP fun e ↦ e.type ∈ terminalTypes := by
  induction events with
  | nil => rfl
  | cons e events ih =>
    simp only [countTerminal, List.countP_cons] at ih ⊢
    rcases terminalStatus?_cases e.type with ⟨hmem, h⟩ | ⟨hmem, h | h | h⟩ <;>
      simp [h, hmem] <;> omega

/-- The entry names an owner itself. -/
def NamesOwner (e : Event) : Prop :=
  ∃ owner, Keyed.find? "owner_id" e.payload = some (.str owner)

theorem isSome_text?_owner_iff {e : Event} : (e.text? "owner_id").isSome ↔ NamesOwner e := by
  simp only [NamesOwner, Option.isSome_iff_exists, Event.text?, Payload.text?_eq_some_iff]

instance (e : Event) : Decidable (NamesOwner e) :=
  decidable_of_iff _ isSome_text?_owner_iff

/-- A dispatch has an owner when its task is listed, or when it names one itself. -/
theorem isSome_dispatchOwner?_iff {tasks : List Task} {e : Event} :
    (dispatchOwner? (ownersByTask tasks) e).isSome ↔
      (∃ t ∈ tasks, e.task = some t.id) ∨ NamesOwner e := by
  have hlisted (id : String) : ((ownersByTask tasks).find? id).isSome ↔ ∃ t ∈ tasks, t.id = id := by
    rw [Option.isSome_iff_exists, ← Register.mem_keys, ownersByTask, Register.mem_keys_ofList]
    simp
  rw [dispatchOwner?, Option.isSome_or, Bool.or_eq_true, isSome_text?_owner_iff]
  refine or_congr_left ?_
  cases htask : e.task with
  | none => simp
  | some id => simp [hlisted, eq_comm]

theorem total_dispatchesByOwner (tasks : List Task) (events : List Event) :
    (dispatchesByOwner tasks events).total = events.countP fun e ↦
      decide (e.type = "slice.requested" ∧
        ((∃ t ∈ tasks, e.task = some t.id) ∨ NamesOwner e)) := by
  rw [dispatchesByOwner, Register.total_tally, List.length_filterMap_eq_countP, ofType,
    List.countP_filter]
  refine List.countP_congr fun e _ ↦ ?_
  rw [Bool.and_eq_true, isSome_dispatchOwner?_iff, decide_eq_true_iff, beq_iff_eq, and_comm]
  exact Iff.rfl

/-! ### All numbers -/

/-- **Totals agree with their breakdowns.** The tasks are counted by status, with an entry for each of
the six, and by owner; both add up to their number. The longest wait is the greatest of the longest
waits of the owners, all of which are positive, and zero if there are none. Used-up budgets add up over
their reasons, and each is one of the failures; done, waiting and failed slices are all that ended for
good. The owners with a fairness ratio are those of tasks that are neither done nor failed. The
dispatches of the owners, from which their rates come, add up to those of a listed task or with an
owner of their own. -/
theorem totals_agree (tasks : List Task) (events : List Event) (now : Instant) (lookback : Nat) :
    let metrics := compute tasks events now lookback
    let dispatches := dispatchesByOwner tasks events
    (metrics.depthTotal = tasks.length ∧
      metrics.depthByStatus.keys.Perm
        ["queued", "running", "waiting_user", "paused", "done", "failed"] ∧
      metrics.depthByStatus.total = metrics.depthTotal ∧
      metrics.depthByOwner.total = metrics.depthTotal) ∧
    (metrics.oldestWait = metrics.oldestWaitByOwner.values.max?.getD 0 ∧
      ∀ wait ∈ metrics.oldestWaitByOwner.values, 0 < wait) ∧
    (metrics.exhaustionsByReason.total = metrics.exhaustionsTotal ∧
      metrics.exhaustionsTotal ≤ metrics.terminal.failed) ∧
    metrics.terminal.done + metrics.terminal.waitingUser + metrics.terminal.failed =
      events.countP (fun e ↦ e.type ∈ terminalTypes) ∧
    (∀ owner, owner ∈ metrics.fairnessByOwner.keys ↔
      ∃ t ∈ tasks, t.status ≠ .done ∧ t.status ≠ .failed ∧ t.owner = owner) ∧
    metrics.dispatchRateByOwner =
      dispatches.map (fun _ n ↦ Float.ofNat n / Float.ofNat metrics.lookbackMinutes) ∧
    dispatches.total = events.countP (fun e ↦
      decide (e.type = "slice.requested" ∧
        ((∃ t ∈ tasks, e.task = some t.id) ∨ NamesOwner e))) := by
  intro metrics dispatches
  have htops : Tops metrics.oldestWait metrics.oldestWaitByOwner :=
    tops_longestByOwner fun _ ↦ pos_of_mem_waits
  refine ⟨⟨rfl, keys_countByStatus tasks, total_countByStatus tasks, total_depthByOwner tasks⟩,
    ⟨htops.eq_max?, fun _ ↦ htops.pos_of_mem⟩,
    ⟨total_exhaustions events, length_blockedBudget_le events⟩, sum_countTerminal events,
    fun owner ↦ ?_, rfl, total_dispatchesByOwner tasks events⟩
  exact (Register.keys_map _ (activeByOwner tasks)) ▸ mem_keys_activeByOwner

end Foreman.Metrics
