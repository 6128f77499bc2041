import Foreman.Metrics

/-!
# The metrics do not depend on how tasks and events are listed

A store lists tasks and events in the order of their dates and leaves open what comes first of two
with one date. The metrics are the same for every such order, and for any other
(`Metrics.compute_perm`).

What is counted one by one does not depend on the order because two steps of the count commute: two
changes of a register under different names (`Register.alter_comm`), and under one name the addition
of one, or the greater of two waiting times. The rest are numbers of entries, and what is computed from
all these.

The owners of the tasks are the exception. Of two records with one identifier the later would stand, so
tasks are listed once each.
-/

namespace Foreman.Metrics

open Time

variable {tasks tasks' : List Task} {events events' : List Event} {now : Instant}

/-! ### Census -/

theorem countByStatus_perm (h : tasks.Perm tasks') : countByStatus tasks = countByStatus tasks' := by
  simp only [countByStatus, h.countP_eq]

theorem waits_perm (h : tasks.Perm tasks') (now : Instant) :
    (waits tasks now).Perm (waits tasks' now) :=
  h.filterMap _

theorem longest_perm {ws ws' : List Int} (h : ws.Perm ws') : longest ws = longest ws' :=
  h.foldl_eq' (fun _ _ _ _ _ ↦ by omega) 0

/-- The greater of the waiting times of an owner, in whatever order they come. -/
theorem longestByOwner_perm {ws ws' : List (String × Int)} (h : ws.Perm ws') :
    longestByOwner ws = longestByOwner ws' := by
  refine h.foldl_eq' (fun w _ w' _ r ↦ Register.alter_comm (fun _ v ↦ ?_) r) ∅
  simp only [Option.getD_some]
  omega

theorem activeByOwner_perm (h : tasks.Perm tasks') : activeByOwner tasks = activeByOwner tasks' :=
  Register.tally_perm ((h.filter _).map _)

/-- Each task has one owner when no two records have one identifier. -/
theorem ownersByTask_perm (hids : (tasks.map (·.id)).Nodup) (h : tasks.Perm tasks') :
    ownersByTask tasks = ownersByTask tasks' :=
  Register.ofList_perm (by rwa [List.map_map]) (h.map _)

/-! ### Log -/

theorem ofType_perm (h : events.Perm events') (type : String) :
    (ofType type events).Perm (ofType type events') :=
  h.filter _

/-- Dispatches count towards the same owners, for the tasks have the same ones. -/
theorem dispatchesByOwner_perm (hids : (tasks.map (·.id)).Nodup) (htasks : tasks.Perm tasks')
    (hevents : events.Perm events') :
    dispatchesByOwner tasks events = dispatchesByOwner tasks' events' := by
  rw [dispatchesByOwner, dispatchesByOwner, ← ownersByTask_perm hids htasks]
  exact Register.tally_perm ((ofType_perm hevents _).filterMap _)

theorem exhaustions_perm (h : events.Perm events') : exhaustions events = exhaustions events' :=
  Register.tally_perm ((ofType_perm h _).map _)

theorem countTerminal_perm (h : events.Perm events') (status : Status) :
    countTerminal status events = countTerminal status events' :=
  h.countP_eq _

/-- **The metrics do not depend on the order** in which tasks and events are listed, as long as no two
of the tasks have one identifier. -/
theorem compute_perm (hids : (tasks.map (·.id)).Nodup) (htasks : tasks.Perm tasks')
    (hevents : events.Perm events') (now : Instant) (lookback : Nat) :
    compute tasks events now lookback = compute tasks' events' now lookback := by
  have howners := htasks.map (·.owner)
  have hwaits := waits_perm htasks now
  unfold compute
  simp only [htasks.length_eq, countByStatus_perm htasks, Register.tally_perm howners,
    longest_perm (hwaits.map (·.2)), longestByOwner_perm hwaits, activeByOwner_perm htasks,
    (ofType_perm hevents _).length_eq, dispatchesByOwner_perm hids htasks hevents,
    exhaustions_perm hevents, countTerminal_perm hevents]

/-- Two tasks that have waited for different times, and the events that follow on a failure. -/
theorem compute_perm_two :
    let late := { Task.new "a" "o" "c" "s" ⟨0, 0⟩ with nextRun := some ⟨1, 0⟩ }
    let later := { Task.new "b" "o" "c" "s" ⟨0, 0⟩ with nextRun := some ⟨3, 0⟩ }
    let requested : Event := ⟨⟨0⟩, some "b", EventType.sliceRequested, [], none, ⟨4, 0⟩⟩
    let failed : Event := ⟨⟨1⟩, some "b", EventType.sliceFailed, [], none, ⟨4, 0⟩⟩
    (([late, later].map (·.id)).Nodup ∧ [late, later].Perm [later, late] ∧
        [requested, failed].Perm [failed, requested]) ∧
      compute [late, later] [requested, failed] ⟨9, 0⟩ 5 =
        compute [later, late] [failed, requested] ⟨9, 0⟩ 5 := by
  intro late later requested failed
  have hids : ([late, later].map (·.id)).Nodup := by decide
  exact ⟨⟨hids, .swap .., .swap ..⟩, compute_perm hids (.swap ..) (.swap ..) ⟨9, 0⟩ 5⟩

end Foreman.Metrics
