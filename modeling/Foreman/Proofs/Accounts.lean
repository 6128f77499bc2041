import Foreman.Proofs.Runner.Entries
import Foreman.Proofs.Runner.Rota
import Foreman.Proofs.Slice.Failure
import Mathlib.Algebra.Ring.Nat

/-!
# The metrics account for what was done

Runners and those who record outcomes write the log, and the metrics read it; the two meet in the
names of events and of their fields only. This module follows what is done at a store (`Worked`):
ticks that succeed, outcomes that are recorded, records that are stored. Each of them adds entries
that the metrics count for it, once and for nothing else (`Accounts`): a tick its warnings and its
dispatch, a recorded outcome its end, and a used-up budget besides. Accounts add up, so what was
done is what is counted (`Worked.accounted`).

Dispatches count towards the owner whom the task has by then. Tasks are stored for good, so every
dispatch has an owner (`Accounted.dispatched`).

All this is said of a table of tasks that is not poisoned. Over one that is there are no metrics at
all (`poisoned_table_has_no_metrics`).
-/

namespace Foreman

open Time Store Metrics

/-! ### What an outcome counts as -/

namespace SliceOutcome

/-- The status that an outcome counts towards, when it ends a slice for good. -/
def counts? : SliceOutcome → Option Status
  | done => some .done
  | waitingUser | missingText => some .waitingUser
  | failed _ | sliceFailed _ | budgetExhausted _ => some .failed
  | queued => none

/-- The budget that is used up. -/
def budget? : SliceOutcome → Option BudgetReason
  | budgetExhausted reason => some reason
  | _ => none

/-- The event of an outcome counts as the outcome does. -/
theorem terminalStatus?_eventType (o : SliceOutcome) : terminalStatus? o.eventType = o.counts? := by
  cases o <;> rfl

/-- The events of outcomes are not those of ticks. -/
theorem eventType_ne (o : SliceOutcome) :
    o.eventType ≠ EventType.starvationWarning ∧ o.eventType ≠ EventType.sliceRequested := by
  cases o <;> simp [eventType, EventType.starvationWarning, EventType.sliceRequested,
    EventType.completedDone, EventType.completedQueued, EventType.completedWaitingUser,
    EventType.completedFailed, EventType.sliceFailed, EventType.blockedMissingText,
    EventType.blockedBudget]

/-- Only a used-up budget has its event. -/
theorem eventType_eq_blockedBudget {o : SliceOutcome} :
    o.eventType = EventType.blockedBudget ↔ o.budget?.isSome := by
  cases o <;> simp [eventType, budget?, EventType.completedDone, EventType.completedQueued,
    EventType.completedWaitingUser, EventType.completedFailed, EventType.sliceFailed,
    EventType.blockedMissingText, EventType.blockedBudget]

end SliceOutcome

/-! ### Accounts -/

/-- **The entries account for what was done**: for the warnings and dispatches that these ticks
report, and for these outcomes. -/
structure Accounts (events : List Event) (reports : List TickReport)
    (outcomes : List SliceOutcome) : Prop where
  warnings : (ofType EventType.starvationWarning events).length =
    (reports.map (·.starvationWarnings)).sum
  dispatches : List.Forall₂ (fun (t : Task) (e : Event) ↦ e.task = some t.id)
    (reports.filterMap (·.dispatched)) (ofType EventType.sliceRequested events)
  endings : ∀ status, countTerminal status events = outcomes.countP fun o ↦ o.counts? == some status
  exhaustions : (ofType EventType.blockedBudget events).map
      (fun e ↦ (e.text? "reason").getD "unknown") =
    (outcomes.filterMap (·.budget?)).map BudgetReason.name

namespace Accounts

variable {events events' : List Event} {reports reports' : List TickReport}
  {outcomes outcomes' : List SliceOutcome}

theorem nil : Accounts [] [] [] where
  warnings := rfl
  dispatches := .nil
  endings _ := rfl
  exhaustions := rfl

/-- **Accounts add up.** -/
theorem append (h : Accounts events reports outcomes) (h' : Accounts events' reports' outcomes') :
    Accounts (events ++ events') (reports ++ reports') (outcomes ++ outcomes') where
  warnings := by
    rw [ofType_append, List.length_append, List.map_append, List.sum_append]
    exact congrArg₂ (· + ·) h.warnings h'.warnings
  dispatches := by
    rw [ofType_append, List.filterMap_append]
    exact List.rel_append h.dispatches h'.dispatches
  endings status := by
    rw [countTerminal, List.countP_append, List.countP_append]
    exact congrArg₂ (· + ·) (h.endings status) (h'.endings status)
  exhaustions := by
    rw [ofType_append, List.map_append, List.filterMap_append, List.map_append]
    exact congrArg₂ (· ++ ·) h.exhaustions h'.exhaustions

end Accounts

theorem countTerminal_of_forall {type : String} {events : List Event}
    (h : ∀ e ∈ events, e.type = type) (htype : SliceOutcome.terminalStatus? type = none)
    (status : Status) : countTerminal status events = 0 := by
  refine List.countP_eq_zero.2 fun e he ↦ ?_
  simp [h e he, htype]

/-- Warnings account for a tick that has made them and dispatched nothing. -/
theorem Accounts.of_entered {r r' : Runner} {now : Instant} {m : Memory} {report : TickReport}
    {warnings dispatches : List Event}
    (h : r.Entered now m (.ok (report, r')) warnings dispatches) :
    Accounts (warnings ++ dispatches) [report] [] := by
  obtain ⟨hcount, hdispatches⟩ := h.reported report r' rfl
  have hwarnings := ofType_of_forall h.warnings_type
  have hrequests := ofType_of_forall h.dispatches_type
  refine ⟨?_, ?_, fun status ↦ ?_, ?_⟩
  · rw [ofType_append, hwarnings, hrequests, if_pos rfl,
      if_neg (by decide), List.append_nil]
    simpa using hcount.symm
  · rw [ofType_append, hwarnings, hrequests, if_pos rfl,
      if_neg (by decide), List.nil_append]
    have hone : [report].filterMap (·.dispatched) = report.dispatched.toList := by
      cases hd : report.dispatched <;> simp [hd]
    rw [hone]
    exact hdispatches.imp fun _ _ hrecords ↦ hrecords.task
  · rw [countTerminal, List.countP_append, ← countTerminal, ← countTerminal,
      countTerminal_of_forall h.warnings_type (by decide),
      countTerminal_of_forall h.dispatches_type (by decide)]
    rfl
  · rw [ofType_append, hwarnings, hrequests,
      if_neg (by decide), if_neg (by decide)]
    rfl

/-- The entry of an outcome accounts for it. -/
theorem Accounts.of_entry {outcome : SliceOutcome} {stored : Task} {e : Event}
    (htype : e.type = outcome.eventType) (hpayload : e.payload = outcome.eventPayload stored) :
    Accounts [e] [] [outcome] := by
  have hall : ∀ e' ∈ [e], e'.type = outcome.eventType := by simp [htype]
  refine ⟨?_, ?_, fun status ↦ ?_, ?_⟩
  · rw [ofType_of_forall hall, if_neg outcome.eventType_ne.1]
    rfl
  · rw [ofType_of_forall hall, if_neg outcome.eventType_ne.2]
    exact .nil
  · simp [countTerminal, htype, SliceOutcome.terminalStatus?_eventType]
  · rw [ofType_of_forall hall]
    simp only [SliceOutcome.eventType_eq_blockedBudget]
    cases outcome with
    | budgetExhausted reason =>
      simp [SliceOutcome.budget?, Event.text?, hpayload, SliceOutcome.eventPayload,
        SliceOutcome.details, Payload.text?_insert_self]
    | _ => rfl

/-! ### What is done -/

namespace SliceOutcome

variable {m m' : Memory} {outcome : SliceOutcome} {id : String} {correlation : Option String}
  {es : List (Answered Ask.Reply)}

/-- **Recording an outcome** logs its end, or fails and logs nothing. -/
theorem logged_of_record {result : Except (Halt StoreError) Task}
    (h : (outcome.record id correlation).Dialogue es result)
    (hserves : m.Serves (fun _ ↦ False) es m') :
    (logged es = [] ∧ ∃ halt, result = .error halt) ∨
      ∃ stored e, logged es = [e] ∧ result = .ok stored ∧ e.type = outcome.eventType ∧
        e.payload = outcome.eventPayload stored := by
  cases recorded_of_dialogue h with
  | unread halt => exact .inl ⟨rfl, halt, rfl⟩
  | absent => exact .inl ⟨rfl, _, rfl⟩
  | unstored t halt => exact .inl ⟨rfl, halt, rfl⟩
  | unlogged t stored halt =>
    obtain ⟨_, -, _, -, hserves⟩ := hserves
    exact absurd hserves (Memory.not_serves_error fun _ _ ↦ ⟨_, rfl⟩)
  | recorded t stored e =>
    obtain ⟨_, -, _, -, hserves⟩ := hserves
    obtain ⟨-, htype, hpayload, -⟩ := hserves.enters _ (List.mem_cons_self ..)
    exact .inr ⟨stored, e, rfl, rfl, htype, hpayload⟩

/-- Recording an outcome asks for no lease. -/
theorem record_asks (outcome : SliceOutcome) (id : String) (correlation : Option String) :
    (outcome.record id correlation).Asks fun q ↦ ¬ q.AsksLease := by
  have hstore (rq : Request) (hrq : ¬ (Ask.store rq).AsksLease) :
      (Work.store rq).Asks fun q ↦ ¬ q.AsksLease := ⟨hrq, fun v ↦ Plan.asks_ofExcept v⟩
  refine (hstore (.getTask id) fun h ↦ h).bind fun found ↦ ?_
  split
  · trivial
  · next t =>
    refine (hstore (.upsert _) fun h ↦ h).bind fun stored ↦ ?_
    exact (hstore (.appendEvent ..) fun h ↦ h).bind fun _ ↦ trivial

end SliceOutcome

namespace Runner

variable {m m' : Memory} {r r' : Runner} {now : Instant} {t : Task} {report : TickReport}
  {es : List (Answered Ask.Reply)}

/-- In a tick that succeeds no request crashes. -/
theorem Ticked.calm (h : Ticked r now es (.ok (report, r'))) (hsteady : Answers Ask.Steady es) :
    Answers Ask.Calm es := by
  intro e he
  by_cases hlease : e.question.AsksLease
  · generalize hresult : Except.ok (report, r') = result at h
    cases h with
    | unlisted halt => cases hresult
    | idle =>
      obtain rfl := List.mem_singleton.1 he
      exact hlease.elim
    | unchecked hbatch hcheck => cases hresult
    | tried hbatch hcheck hcandidates htried =>
      simp only [List.mem_cons, List.mem_append] at he
      rcases he with rfl | he | he | he
      · exact hlease.elim
      · exact absurd hlease (not_asksLease_of_checkStarvation hcheck e he)
      · obtain ⟨u, -, rfl⟩ := List.mem_map.1 he
        exact nofun
      · cases htried with
        | exhausted => cases he
        | halted u untried halt => cases hresult
        | granted u untried hdispatch =>
          rcases List.mem_cons.1 he with rfl | he
          · exact nofun
          · exact absurd hlease (not_asksLease_of_dispatchAndRelease hdispatch e he)
  · have hcrash := hsteady e he
    obtain ⟨q, reply⟩ := e
    cases q with
    | store rq => exact fun hcrashed ↦ hlease (hcrash hcrashed)
    | _ => trivial

end Runner

/-- A task that is stored stays stored. -/
theorem Store.Memory.Serves.stored {mayFail : Request → Prop} {m m' : Memory}
    {es : List (Answered Ask.Reply)} {id : String} (h : m.Serves mayFail es m')
    (hm : (m.tasks.find? id).isSome) : (m'.tasks.find? id).isSome :=
  h.invariant (I := fun m ↦ (m.tasks.find? id).isSome = true) (P := fun _ ↦ True)
    (fun _ c hm _ ↦ Memory.isSome_find?_after hm c) (fun _ _ ↦ trivial) hm

/-- **What is done at a store**, from one session to another: ticks that succeed, with their
reports, outcomes that are recorded, and records that are stored. To record the outcome of a task
that is not stored fails, and is as good as not done. -/
inductive Worked : Session → List TickReport → List SliceOutcome → Session → Prop where
  | nil (s : Session) : Worked s [] [] s
  | tick {s s' : Session} {r r' : Runner} {now : Instant} {report : TickReport}
    {reports : List TickReport} {outcomes : List SliceOutcome}
    (htick : (s.run (r.tick now)).1 = .ok (report, r'))
    (hrest : Worked (s.run (r.tick now)).2 reports outcomes s') :
    Worked s (report :: reports) outcomes s'
  | recorded {s s' : Session} {outcome : SliceOutcome} {id : String} {correlation : Option String}
    {stored : Task} {reports : List TickReport} {outcomes : List SliceOutcome}
    (hrecord : (s.run (outcome.record id correlation)).1 = .ok stored)
    (hrest : Worked (s.run (outcome.record id correlation)).2 reports outcomes s') :
    Worked s reports (outcome :: outcomes) s'
  | unrecorded {s s' : Session} {outcome : SliceOutcome} {id : String}
    {correlation : Option String} {halt : Halt StoreError} {reports : List TickReport}
    {outcomes : List SliceOutcome}
    (hrecord : (s.run (outcome.record id correlation)).1 = .error halt)
    (hrest : Worked (s.run (outcome.record id correlation)).2 reports outcomes s') :
    Worked s reports outcomes s'
  | upsert {s s' : Session} (t : Task) {reports : List TickReport} {outcomes : List SliceOutcome}
    (hrest : Worked (s.run (Work.store (.upsert t))).2 reports outcomes s') :
    Worked s reports outcomes s'

/-- **One session accounts for what has been done since another**: its log has entries more that
account for these reports and outcomes, its table is not poisoned, no task is lost, and the tasks
that were dispatched are stored. -/
structure Accounted (s s' : Session) (reports : List TickReport) (outcomes : List SliceOutcome) :
    Prop where
  log : ∃ events, s'.memory.events = s.memory.events ++ events ∧ Accounts events reports outcomes
  filed : s'.memory.Filed
  healthy : s'.memory.poisoned = false
  stored : ∀ id, (s.memory.tasks.find? id).isSome → (s'.memory.tasks.find? id).isSome
  dispatched : ∀ t ∈ reports.filterMap (·.dispatched), (s'.memory.tasks.find? t.id).isSome

namespace Accounted

variable {s s' s'' : Session} {reports reports' : List TickReport}
  {outcomes outcomes' : List SliceOutcome}

theorem trans (h : Accounted s s' reports outcomes) (h' : Accounted s' s'' reports' outcomes') :
    Accounted s s'' (reports ++ reports') (outcomes ++ outcomes') where
  log := by
    obtain ⟨events, hevents, haccounts⟩ := h.log
    obtain ⟨events', hevents', haccounts'⟩ := h'.log
    exact ⟨events ++ events', by rw [hevents', hevents, List.append_assoc],
      haccounts.append haccounts'⟩
  filed := h'.filed
  healthy := h'.healthy
  stored id hid := h'.stored id (h.stored id hid)
  dispatched t ht := by
    rw [List.filterMap_append] at ht
    rcases List.mem_append.1 ht with ht | ht
    · exact h'.stored t.id (h.dispatched t ht)
    · exact h'.dispatched t ht

/-- A piece of work is accounted for by what it adds to the log. -/
theorem of_run {ε α : Type} {w : Work ε α} (hs : s.memory.Filed)
    (hlog : Accounts (s.added w) reports outcomes)
    (hhealthy : (s.run w).2.memory.poisoned = false)
    (hdispatched : ∀ t ∈ reports.filterMap (·.dispatched), (s.memory.tasks.find? t.id).isSome) :
    Accounted s (s.run w).2 reports outcomes where
  log := ⟨s.added w, s.events_run w, hlog⟩
  filed := s.filed_run hs w
  healthy := hhealthy
  stored _ hid := (s.serves_heard w).stored hid
  dispatched t ht := (s.serves_heard w).stored (hdispatched t ht)

/-- A tick that succeeds. -/
theorem of_tick {r r' : Runner} {now : Instant} {report : TickReport} (hs : s.memory.Filed)
    (hhealthy : s.memory.poisoned = false)
    (htick : (s.run (r.tick now)).1 = .ok (report, r')) :
    Accounted s (s.run (r.tick now)).2 [report] [] := by
  have hserves := s.serves_heard (r.tick now)
  have hticked := Runner.ticked_of_dialogue (s.dialogue_heard (r.tick now))
  rw [htick] at hticked
  obtain ⟨warnings, dispatches, hlogged, hentered⟩ := hticked.entered hserves hs
  refine of_run hs ?_ (hserves.poisoned_of_calm hhealthy (hticked.calm hserves.steady)) ?_
  · rw [Session.added_eq_logged, hlogged]
    exact .of_entered hentered
  · intro t ht
    have ht : report.dispatched = some t := by simpa using ht
    rw [(hs.find?_of_mem_listRunnable (hticked.mem_listRunnable hserves ht)).1]
    rfl

/-- An outcome that is recorded, or that fails to be. -/
theorem of_record (outcome : SliceOutcome) (id : String) (correlation : Option String)
    (hs : s.memory.Filed) (hhealthy : s.memory.poisoned = false) :
    Accounted s (s.run (outcome.record id correlation)).2 []
      (match (s.run (outcome.record id correlation)).1 with
        | .ok _ => [outcome]
        | .error _ => []) := by
  have hserves := s.serves_heard (outcome.record id correlation)
  have hdialogue := s.dialogue_heard (outcome.record id correlation)
  refine of_run hs ?_ (hserves.poisoned hhealthy fun e he ↦ .of_not_asksLease
    (hdialogue.forall_of_asks (outcome.record_asks id correlation) e he)) (by simp)
  rw [Session.added_eq_logged]
  rcases SliceOutcome.logged_of_record hdialogue hserves with ⟨hnone, halt, hresult⟩ |
    ⟨stored, e, hone, hresult, htype, hpayload⟩
  · rw [hnone, hresult]
    exact .nil
  · rw [hone, hresult]
    exact .of_entry htype hpayload

/-- A record that is stored. -/
theorem of_upsert (t : Task) (hs : s.memory.Filed) (hhealthy : s.memory.poisoned = false) :
    Accounted s (s.run (Work.store (.upsert t))).2 [] [] := by
  have hserves := s.serves_heard (Work.store (.upsert t))
  have hasks : (Work.store (.upsert t)).Asks fun q ↦ ¬ q.AsksLease ∧ ¬ q.Appends :=
    ⟨⟨fun h ↦ h, fun h ↦ h⟩, fun v ↦ Plan.asks_ofExcept v⟩
  have hquestions := (s.dialogue_heard (Work.store (.upsert t))).forall_of_asks hasks
  refine of_run hs ?_ (hserves.poisoned hhealthy fun e he ↦ .of_not_asksLease (hquestions e he).1)
    (by simp)
  rw [Session.added_eq_logged, logged_eq_nil fun e he ↦ (hquestions e he).2]
  exact .nil

end Accounted

/-- **What was done is accounted for.** -/
theorem Worked.accounted {s s' : Session} {reports : List TickReport}
    {outcomes : List SliceOutcome} (h : Worked s reports outcomes s') (hs : s.memory.Filed)
    (hhealthy : s.memory.poisoned = false) : Accounted s s' reports outcomes := by
  induction h with
  | nil s => exact ⟨⟨[], by simp, .nil⟩, hs, hhealthy, fun _ h ↦ h, by simp⟩
  | tick htick _ ih =>
    have hfirst := Accounted.of_tick hs hhealthy htick
    exact hfirst.trans (ih hfirst.filed hfirst.healthy)
  | @recorded s s' outcome id correlation stored reports outcomes hrecord _ ih =>
    have hfirst := Accounted.of_record outcome id correlation hs hhealthy
    rw [hrecord] at hfirst
    exact hfirst.trans (ih hfirst.filed hfirst.healthy)
  | @unrecorded s s' outcome id correlation halt reports outcomes hrecord _ ih =>
    have hfirst := Accounted.of_record outcome id correlation hs hhealthy
    rw [hrecord] at hfirst
    exact hfirst.trans (ih hfirst.filed hfirst.healthy)
  | upsert t _ ih =>
    have hfirst := Accounted.of_upsert t hs hhealthy
    exact hfirst.trans (ih hfirst.filed hfirst.healthy)

/-! ### What is counted -/

/-- The owner of a task, if it is stored. -/
def Store.Memory.owner? (m : Memory) (id : String) : Option String :=
  (m.tasks.find? id).map (·.owner)

namespace Metrics

variable {s : Session} {m : Memory} {now since : Instant} {lookback : Nat} {events : List Event}
  {reports : List TickReport} {outcomes : List SliceOutcome}

/-- The beginning of the period that the metrics look back on, `none` beyond the calendar. -/
def since? (now : Instant) (lookback : Nat) : Option Instant :=
  (Span.ofSeconds? (60 * (max lookback 1 : Nat))).bind fun period ↦ now.add? period.neg

/-- **The metrics of a store** are there if its table is not poisoned and the period begins within
the calendar. -/
theorem run_ofStore (hhealthy : s.memory.poisoned = false)
    (hsince : since? now lookback = some since) :
    (s.run (ofStore now lookback)).1 = .ok (compute s.memory.listTasks
      (s.memory.eventsSince since) now (max lookback 1)) := by
  obtain ⟨period, hperiod, hadd⟩ := Option.bind_eq_some_iff.1 hsince
  have hlist : (s.answer (.store .listTasks)).1 = .ok s.memory.listTasks := by
    simp [Session.answer, Memory.perform, Memory.withTasks, hhealthy]
  have hleft : (s.answer (.store .listTasks)).2.memory = s.memory := by
    simp [Session.answer, Memory.perform, Memory.withTasks, hhealthy]
  rw [ofStore, Session.run_store_bind hlist, hperiod]
  change (Session.run _ (Plan.require (now.add? period.neg) >>= _)).1 = _
  rw [hadd]
  change (Session.run _ (Work.store (.eventsSince since) >>= _)).1 = _
  rw [Session.run_store_bind (v := s.memory.eventsSince since) (by rw [← hleft]; rfl)]
  rfl

theorem find?_ownersByTask (hm : m.Filed) (id : String) {owner : String}
    (h : m.owner? id = some owner) : (ownersByTask m.listTasks).find? id = some owner := by
  obtain ⟨t, hfind, rfl⟩ := Option.map_eq_some_iff.1 h
  obtain rfl := hm id t hfind
  refine Register.find?_ofList_of_mem ?_ (List.mem_map_of_mem (hm.mem_listTasks.2 hfind))
  rw [List.map_map]
  exact hm.nodup_ids_listTasks

/-- A dispatch counts towards the owner whom its task has by now. -/
theorem filterMap_dispatchOwner? (hm : m.Filed) {tasks : List Task}
    (h : List.Forall₂ (fun (t : Task) (e : Event) ↦ e.task = some t.id) tasks events)
    (hstored : ∀ t ∈ tasks, (m.tasks.find? t.id).isSome) :
    events.filterMap (dispatchOwner? (ownersByTask m.listTasks)) =
      tasks.filterMap fun t ↦ m.owner? t.id := by
  induction h with
  | nil => rfl
  | @cons t e tasks events htask _ ih =>
    obtain ⟨ht, hstored⟩ := List.forall_mem_cons.1 hstored
    obtain ⟨record, hrecord⟩ := Option.isSome_iff_exists.1 ht
    have howner : m.owner? t.id = some record.owner := by rw [Memory.owner?, hrecord]; rfl
    have hdispatch : dispatchOwner? (ownersByTask m.listTasks) e = some record.owner := by
      rw [dispatchOwner?, htask, Option.bind_some, find?_ownersByTask hm t.id howner,
        Option.some_or]
    rw [List.filterMap_cons_some hdispatch,
      List.filterMap_cons_some (f := fun t : Task ↦ m.owner? t.id) howner, ih hstored]

/-- The dispatches of each owner. -/
theorem dispatchesByOwner_eq (hm : m.Filed) (haccounts : Accounts events reports outcomes)
    (hstored : ∀ t ∈ reports.filterMap (·.dispatched), (m.tasks.find? t.id).isSome) :
    dispatchesByOwner m.listTasks events =
      .tally ((reports.filterMap (·.dispatched)).filterMap fun t ↦ m.owner? t.id) := by
  rw [dispatchesByOwner, filterMap_dispatchOwner? hm haccounts.dispatches hstored]

/-- **Used-up budgets** are counted by their reasons. -/
theorem find?_exhaustions (haccounts : Accounts events reports outcomes) (reason : BudgetReason) :
    ((exhaustions events).find? reason.name).getD 0 = outcomes.count (.budgetExhausted reason) := by
  rw [exhaustions, Register.find?_tally, haccounts.exhaustions, List.count, List.countP_map,
    List.countP_filterMap, List.count]
  refine List.countP_congr fun o _ ↦ ?_
  cases o with
  | budgetExhausted r => cases r <;> cases reason <;> simp [SliceOutcome.budget?, BudgetReason.name]
  | _ => simp [SliceOutcome.budget?]

theorem mem_keys_exhaustions (haccounts : Accounts events reports outcomes) {key : String} :
    key ∈ (exhaustions events).keys ↔
      ∃ reason, .budgetExhausted reason ∈ outcomes ∧ reason.name = key := by
  rw [exhaustions, Register.mem_keys_tally, haccounts.exhaustions, List.mem_map]
  refine exists_congr fun reason ↦ and_congr_left fun _ ↦ ?_
  rw [List.mem_filterMap]
  constructor
  · rintro ⟨o, ho, hreason⟩
    cases o with
    | budgetExhausted r =>
      obtain rfl := Option.some.inj hreason
      exact ho
    | _ => cases hreason
  · exact fun h ↦ ⟨_, h, rfl⟩

/-- **The number of used-up budgets.** -/
theorem length_exhaustions (haccounts : Accounts events reports outcomes) :
    (ofType EventType.blockedBudget events).length = outcomes.countP fun o ↦ o.budget?.isSome := by
  have hlength := congrArg List.length haccounts.exhaustions
  rwa [List.length_map, List.length_map, List.length_filterMap_eq_countP] at hlength

end Metrics

variable {s s' : Session} {reports : List TickReport} {outcomes : List SliceOutcome}
  {now since : Instant} {lookback : Nat}

/-- **The metrics account for everything that was done.** Take a store in memory whose table of
tasks is not poisoned and whose log is empty. Behind any sequence of ticks that succeed, outcomes
that are recorded and records that are stored, if all entries were made within the period that the
metrics look back on, there are metrics. Their rate is the number of ticks that have reported a
dispatch, divided by the minutes of the period, of which there is at least one. The rate of an owner
is the same for the dispatches of the tasks that are now the owner's; these add up to all, and an
owner without any has no entry. The metrics count the warnings that the ticks have reported, the
outcomes by the status in which a slice ended, and the used-up budgets, also by their reasons. -/
theorem metrics_account_for_what_was_done {calls : List Call} (h : Worked s reports outcomes s')
    (hstore : s.memory = Memory.afterAll {} calls) (hlog : s.memory.events = [])
    (hhealthy : s.memory.poisoned = false) (hsince : Metrics.since? now lookback = some since)
    (hwindow : ∀ e ∈ s'.memory.events, since ≤ e.createdAt) :
    ∃ metrics, (s'.run (Metrics.ofStore now lookback)).1 = .ok metrics ∧
      metrics.dispatchRate =
        Float.ofNat (reports.filterMap (·.dispatched)).length / Float.ofNat (max lookback 1) ∧
      (∃ counts : Register Nat,
        metrics.dispatchRateByOwner =
          counts.map (fun _ n ↦ Float.ofNat n / Float.ofNat (max lookback 1)) ∧
        counts.total = (reports.filterMap (·.dispatched)).length ∧
        ∀ owner,
          (owner ∈ counts.keys ↔
            ∃ t ∈ reports.filterMap (·.dispatched), s'.memory.owner? t.id = some owner) ∧
          (counts.find? owner).getD 0 =
            (reports.filterMap (·.dispatched)).countP fun t ↦ s'.memory.owner? t.id == some owner) ∧
      metrics.starvationWarnings = (reports.map (·.starvationWarnings)).sum ∧
      metrics.terminal =
        ⟨outcomes.countP (·.counts? == some .done),
          outcomes.countP (·.counts? == some .waitingUser),
          outcomes.countP (·.counts? == some .failed)⟩ ∧
      metrics.exhaustionsTotal = outcomes.countP (·.budget?.isSome) ∧
      (∀ reason, (metrics.exhaustionsByReason.find? reason.name).getD 0 =
        outcomes.count (.budgetExhausted reason)) ∧
      ∀ key, key ∈ metrics.exhaustionsByReason.keys ↔
        ∃ reason, .budgetExhausted reason ∈ outcomes ∧ reason.name = key := by
  have hs : s.memory.Filed := hstore ▸ Memory.filed_afterAll_empty calls
  have haccounted := h.accounted hs hhealthy
  obtain ⟨events, hevents, haccounts⟩ := haccounted.log
  rw [hlog, List.nil_append] at hevents
  have hsees : s'.memory.eventsSince since = events := by
    rw [Memory.eventsSince, List.filter_eq_self.2 fun e he ↦ decide_eq_true (hwindow e he), hevents]
  have hbyOwner :=
    Metrics.dispatchesByOwner_eq haccounted.filed haccounts haccounted.dispatched
  have hminutes : max (max lookback 1) 1 = max lookback 1 := by omega
  refine ⟨_, Metrics.run_ofStore haccounted.healthy hsince, ?_⟩
  simp only [hsees, Metrics.compute, hminutes]
  refine ⟨?_, ⟨_, rfl, ?_, fun owner ↦ ?_⟩, haccounts.warnings, ?_,
    Metrics.length_exhaustions haccounts, Metrics.find?_exhaustions haccounts,
    fun key ↦ Metrics.mem_keys_exhaustions haccounts⟩
  · rw [haccounts.dispatches.length_eq, Metrics.perMinute]
  · rw [hbyOwner, Register.total_tally, List.filterMap_length_eq_length]
    intro t ht
    simpa [Memory.owner?] using haccounted.dispatched t ht
  · rw [hbyOwner, Register.mem_keys_tally, List.mem_filterMap, Register.find?_tally, List.count,
      List.countP_filterMap]
    refine ⟨Iff.rfl, List.countP_congr fun t _ ↦ ?_⟩
    cases s'.memory.owner? t.id <;> simp
  · rw [haccounts.endings, haccounts.endings, haccounts.endings]

/-- A store with one task, at a time that stands still. -/
def standing : Session where
  memory := .afterAll {} [⟨⟨0, 0⟩, ⟨0⟩, .upsert Runner.plainTask⟩]
  moments _ := { clock := ⟨5, 0⟩, fresh := ⟨0⟩ }

theorem onTime_standing : standing.OnTime where
  forward _ _ _ := Instant.le_refl _
  plain _ := by simp [standing, Instant.Plain, second]

/-- A slice of the task fails, and a runner asks for the next one. -/
theorem metrics_of_failure_and_dispatch :
    ∃ (s' : Session) (metrics : Metrics), (s'.run (Metrics.ofStore ⟨5, 0⟩ 5)).1 = .ok metrics ∧
      metrics.dispatchRate = 1 / 5 ∧ metrics.terminal = ⟨0, 0, 1⟩ := by
  let failed : Work StoreError Task := SliceOutcome.record (.sliceFailed "e") "a" none
  let behind : Session := (standing.run failed).2
  let round : Runner.Round :=
    { runner := Runner.plainRunner
      now := ⟨5, 0⟩
      asked := behind.heard (Runner.plainRunner.tick ⟨5, 0⟩)
      result := (behind.run (Runner.plainRunner.tick ⟨5, 0⟩)).1
      found := behind.memory
      left := (behind.run (Runner.plainRunner.tick ⟨5, 0⟩)).2.memory }
  have hfiled : standing.memory.Filed := Memory.filed_afterAll_empty _
  have hround : round.Undisturbed :=
    { fits := Runner.fits_plainRunner (by decide) (by decide)
      dialogue := behind.dialogue_heard _
      serves := behind.serves_heard _
      delivers := behind.delivers_heard (fun _ ↦ rfl) _ }
  have hrecord : ∃ stored, (standing.run failed).1 = .ok stored := ⟨_, rfl⟩
  obtain ⟨stored, hrecord⟩ := hrecord
  rcases hround.dispatches_or_idle (standing.filed_run hfiled failed) rfl with ⟨t, ht⟩ | ⟨hnone, -⟩
  · obtain ⟨candidates, warnings, hreport⟩ := ht.report
    have hworked : Worked standing [⟨candidates, some t, 0, warnings⟩] [.sliceFailed "e"]
        (behind.run (Runner.plainRunner.tick ⟨5, 0⟩)).2 :=
      .recorded hrecord (.tick hreport (.nil _))
    have hwindow : ∀ e ∈ (behind.run (Runner.plainRunner.tick ⟨5, 0⟩)).2.memory.events,
        ⟨-295, 0⟩ ≤ e.createdAt := by
      intro e he
      have hlate : standing.now ≤ e.createdAt := by
        rw [behind.events_run] at he
        rcases List.mem_append.1 he with he | he
        · exact onTime_standing.le_createdAt failed e he
        · exact Session.OnTime.le_createdAt (s := behind) (onTime_standing.run failed) _ e he
      exact Instant.le_trans (by decide) hlate
    obtain ⟨metrics, hmetrics, hrate, -, -, hterminal, -⟩ :=
      metrics_account_for_what_was_done hworked rfl rfl rfl
        (show Metrics.since? ⟨5, 0⟩ 5 = some ⟨-295, 0⟩ by decide) hwindow
    exact ⟨_, metrics, hmetrics, hrate, hterminal⟩
  · cases hnone

/-- **A poisoned table has no metrics.** Once a lease has been asked for that ends beyond the
calendar, nothing is counted any more, not even nothing. -/
theorem poisoned_table_has_no_metrics :
    ¬ ∀ (s s' : Session) (calls : List Call) (reports : List TickReport)
        (outcomes : List SliceOutcome) (now since : Instant) (lookback : Nat),
      Worked s reports outcomes s' → s.memory = Memory.afterAll {} calls → s.memory.events = [] →
      Metrics.since? now lookback = some since →
      (∀ e ∈ s'.memory.events, since ≤ e.createdAt) →
      ∃ metrics, (s'.run (Metrics.ofStore now lookback)).1 = .ok metrics := by
  intro h
  let calls : List Call :=
    [⟨⟨0, 0⟩, ⟨0⟩, .upsert Runner.plainTask⟩,
      ⟨⟨1, 0⟩, ⟨1⟩, .acquireLease "a" "w" Machine.greatest ⟨1, 0⟩⟩]
  let s : Session := ⟨.afterAll {} calls, standing.moments⟩
  have hfails : (s.run (Metrics.ofStore ⟨5, 0⟩ 5)).1 = .error (.error .lockPoisoned) := rfl
  obtain ⟨metrics, hmetrics⟩ := h s s calls [] [] ⟨5, 0⟩ ⟨-295, 0⟩ 5 (.nil s) rfl rfl (by decide)
    (List.forall_mem_nil _)
  rw [hfails] at hmetrics
  cases hmetrics

end Foreman
