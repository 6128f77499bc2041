import Foreman.Proofs.Log
import Foreman.Proofs.Store.Readiness
import Foreman.Slice.Record
import Mathlib.Data.List.DropRight
import Mathlib.Data.List.Forall2

/-!
# Histories of outcomes

An outcome that is recorded changes the record of its task in several places, each with a rule of
its own: the number of slices, the status, the streak of failures, and the last error.
`Task.behind` says what the record is behind a whole history of outcomes, without going through it:
the streak, for example, is the number of failures since the last outcome that ended one. That one
outcome after the other leads there is `Task.behind_cons`.

Outcomes are recorded while other clients use the store. As long as they leave the record of the
task alone and do not poison the table, no request of a recording fails, the record is that behind
the outcomes, and the log has one entry for each (`outcomes_are_recorded`).
-/

namespace Foreman

open Time Store

/-! ### A history of outcomes -/

namespace SliceOutcome

/-- The outcome is a failure. -/
def fails : SliceOutcome → Bool
  | failed _ | sliceFailed _ => true
  | _ => false

/-- The outcome ends a streak of failures. -/
def endsStreak : SliceOutcome → Bool
  | done | queued | waitingUser | missingText => true
  | _ => false

/-- The streak behind a history: the failures since the last outcome that ended a streak, and if
there is none, the failures of the streak before as well. -/
def streakBehind (streak : Int) (outcomes : List SliceOutcome) : Int :=
  (outcomes.rtakeWhile fun o ↦ !o.endsStreak).countP fails +
    if outcomes.any endsStreak then 0 else streak

/-- What an outcome says went wrong: the text of the error, or the reason why the budget is used up. -/
def errorText? : SliceOutcome → Option String
  | failed error | sliceFailed error => some error
  | budgetExhausted reason => some reason.name
  | done | queued | waitingUser | missingText => none

/-- The last error of a history. -/
def lastError? (outcomes : List SliceOutcome) : Option String :=
  outcomes.reverse.findSome? errorText?

variable {outcome : SliceOutcome} {outcomes : List SliceOutcome} {streak : Int}

theorem streakBehind_nonneg (h : 0 ≤ streak) (outcomes : List SliceOutcome) :
    0 ≤ streakBehind streak outcomes := by
  rw [streakBehind]
  split <;> omega

theorem streakBehind_le (h : 0 ≤ streak) (outcomes : List SliceOutcome) :
    streakBehind streak outcomes ≤ streak + outcomes.length := by
  have hcount : (outcomes.rtakeWhile fun o ↦ !o.endsStreak).countP fails ≤ outcomes.length :=
    (List.countP_le_length ..).trans (List.rtakeWhile_suffix _ _).length_le
  rw [streakBehind]
  split <;> omega

/-- One more outcome raises the streak, keeps it, or ends it. -/
theorem streakBehind_concat (h : 0 ≤ streak)
    (hroom : streak + (outcomes.length + 1) ≤ Machine.greatest) :
    streakBehind streak (outcomes ++ [outcome]) =
      outcome.streakAfter (streakBehind streak outcomes) := by
  have hle := streakBehind_le h outcomes
  have hraised := Machine.wrap_add_one (streakBehind_nonneg h outcomes) (by omega)
  cases outcome <;> simp [streakBehind, streakAfter, endsStreak, fails] at hraised ⊢ <;> omega

theorem error?_eq_errorText? (outcome : SliceOutcome) : outcome.error? = outcome.errorText? := by
  cases outcome <;> rfl

theorem lastError?_concat :
    lastError? (outcomes ++ [outcome]) = outcome.error?.or (lastError? outcomes) := by
  rw [lastError?, List.reverse_append, List.findSome?_append, error?_eq_errorText?]
  cases outcome <;> rfl

end SliceOutcome

namespace Task

/-- **The record behind a history of outcomes.** -/
def behind (t : Task) (outcomes : List SliceOutcome) : Task :=
  { t with
    sliceCycles := t.sliceCycles + outcomes.length
    status := (outcomes.getLast?.map SliceOutcome.status).getD t.status
    failureStreak := SliceOutcome.streakBehind t.failureStreak outcomes
    lastError := (SliceOutcome.lastError? outcomes).or t.lastError }

/-- The counters of a record are not negative, and have room for some more slices. -/
structure HasRoom (t : Task) (n : Nat) : Prop where
  normal : t.normalize = t
  cycles : t.sliceCycles + n ≤ Machine.greatest
  streak : t.failureStreak + n ≤ Machine.greatest

variable {t : Task} {outcome : SliceOutcome} {outcomes : List SliceOutcome} {n : Nat}

@[simp] theorem behind_nil (t : Task) : t.behind [] = t := by
  simp [behind, SliceOutcome.streakBehind, SliceOutcome.lastError?]

/-- A record is in order when none of its counters is negative. -/
theorem normalize_eq_self :
    t.normalize = t ↔ 0 ≤ t.priority ∧ 0 ≤ t.sliceCycles ∧ 0 ≤ t.failureStreak := by
  obtain ⟨⟩ := t
  simp only [normalize, mk.injEq, Int.max_eq_left_iff, true_and, and_true]

theorem HasRoom.mono (h : t.HasRoom n) {n' : Nat} (hn : n' ≤ n) : t.HasRoom n' where
  normal := h.normal
  cycles := by have := h.cycles; omega
  streak := by have := h.streak; omega

theorem HasRoom.sliceCycles_applyTo (h : t.HasRoom (n + 1)) (outcome : SliceOutcome) :
    (outcome.applyTo t).sliceCycles = t.sliceCycles + 1 :=
  Machine.wrap_add_one (normalize_eq_self.1 h.normal).2.1 (by have := h.cycles; omega)

/-- An outcome leaves room for those that are still to come. -/
theorem HasRoom.applyTo (h : t.HasRoom (n + 1)) (outcome : SliceOutcome) :
    (outcome.applyTo t).HasRoom n := by
  obtain ⟨hpriority, hcyclesNonneg, hnonneg⟩ := normalize_eq_self.1 h.normal
  have hcycles := h.sliceCycles_applyTo outcome
  have hstreak : 0 ≤ (outcome.applyTo t).failureStreak ∧
      (outcome.applyTo t).failureStreak ≤ t.failureStreak + 1 := by
    have hraised := Machine.wrap_add_one hnonneg (by have := h.streak; omega)
    cases outcome <;> simp only [SliceOutcome.applyTo, SliceOutcome.streakAfter, hraised] <;> omega
  exact
    { normal := normalize_eq_self.2 ⟨hpriority, by omega, hstreak.1⟩
      cycles := by have := h.cycles; omega
      streak := by have := h.streak; omega }

/-- The record with another time of its last change. -/
def touched (t : Task) (clock : Instant) : Task :=
  { t with updatedAt := clock }

theorem HasRoom.touched (h : t.HasRoom n) (clock : Instant) : (t.touched clock).HasRoom n :=
  have ⟨hpriority, hcycles, hstreak⟩ := normalize_eq_self.1 h.normal
  ⟨normalize_eq_self.2 ⟨hpriority, hcycles, hstreak⟩, h.cycles, h.streak⟩

/-- One more outcome is applied to the record. -/
theorem behind_concat (h : t.HasRoom (outcomes.length + 1)) :
    t.behind (outcomes ++ [outcome]) = outcome.applyTo (t.behind outcomes) := by
  obtain ⟨-, hnonneg, hnonneg'⟩ := normalize_eq_self.1 h.normal
  have hcycles : Machine.wrap (t.sliceCycles + outcomes.length + 1) =
      t.sliceCycles + outcomes.length + 1 :=
    Machine.wrap_add_one (by omega) (by have := h.cycles; omega)
  have hstreak : SliceOutcome.streakBehind t.failureStreak (outcomes ++ [outcome]) =
      outcome.streakAfter (SliceOutcome.streakBehind t.failureStreak outcomes) :=
    SliceOutcome.streakBehind_concat hnonneg' (by exact_mod_cast h.streak)
  simp only [behind, SliceOutcome.applyTo, hstreak, SliceOutcome.lastError?_concat, hcycles,
    List.length_append, List.getLast?_concat, Option.or_assoc]
  simp [Int.add_assoc]

/-- **One outcome after the other** leads to the record behind them all. -/
theorem behind_cons (h : t.HasRoom (outcomes.length + 1)) :
    t.behind (outcome :: outcomes) = (outcome.applyTo t).behind outcomes := by
  induction outcomes using List.reverseRecOn with
  | nil =>
    have hone : t.behind ([] ++ [outcome]) = outcome.applyTo (t.behind []) := behind_concat h
    simpa using hone
  | append_singleton outcomes last ih =>
    rw [List.length_append, List.length_singleton] at h
    rw [← List.cons_append, behind_concat h, ih (h.mono (by omega)),
      behind_concat (h.applyTo outcome)]

/-- What is stored of a record in order is the record, updated now. -/
theorem storedOver_of_normal (h : t.normalize = t) {before : Task}
    (hcreated : before.createdAt = t.createdAt) (clock : Instant) :
    t.storedOver (some before) clock = t.touched clock := by
  rw [storedOver, h]
  exact congrArg (fun created ↦ { t with createdAt := created, updatedAt := clock }) hcreated

end Task

/-! ### One outcome after the other -/

namespace SliceOutcome

/-- Records the outcomes of the slices of a task, one after the other. -/
def recordEach (id : String) : List (SliceOutcome × Option String) → Work StoreError Unit
  | [] => pure ()
  | (outcome, correlation) :: rest => do
    let _ ← outcome.record id correlation
    recordEach id rest

/-- The type of the entry of an outcome. -/
def entryType : SliceOutcome → String
  | done => "slice.completed.done"
  | queued => "slice.completed.queued"
  | waitingUser => "slice.completed.waiting_user"
  | failed _ => "slice.completed.failed"
  | sliceFailed _ => "slice.failed"
  | missingText => "slice.blocked.missing_text"
  | budgetExhausted _ => "slice.blocked.budget_exhausted"

/-- What the entry of an outcome says: whose task it is, how many slices it has had by now, in which
status it is left, and what went wrong. -/
def entryPayload (owner : String) (sliceCycles : Int) : SliceOutcome → Payload
  | done =>
    [("owner_id", .str owner), ("slice_cycles", .int sliceCycles), ("status", .str "done")]
  | queued =>
    [("owner_id", .str owner), ("slice_cycles", .int sliceCycles), ("status", .str "queued")]
  | waitingUser | missingText =>
    [("owner_id", .str owner), ("slice_cycles", .int sliceCycles), ("status", .str "waiting_user")]
  | failed error =>
    [("error", .str error), ("owner_id", .str owner), ("slice_cycles", .int sliceCycles),
      ("status", .str "failed")]
  | sliceFailed error =>
    [("error", .str error), ("owner_id", .str owner), ("slice_cycles", .int sliceCycles),
      ("status", .str "queued")]
  | budgetExhausted reason =>
    [("owner_id", .str owner), ("reason", .str reason.name), ("slice_cycles", .int sliceCycles),
      ("status", .str "failed")]

/-- The entry of an outcome behind which the task has had so many slices. -/
structure EntryOf (t : Task) (outcome : SliceOutcome) (correlation : Option String)
    (sliceCycles : Int) (e : Event) : Prop where
  type : e.type = outcome.entryType
  task : e.task = some t.id
  correlation : e.correlation = correlation
  payload : e.payload = outcome.entryPayload t.owner sliceCycles

theorem eventType_eq_entryType (outcome : SliceOutcome) : outcome.eventType = outcome.entryType := by
  cases outcome <;> rfl

/-- An outcome is entered as the record is stored behind it. -/
theorem eventPayload_eq_entryPayload (outcome : SliceOutcome) {stored : Task}
    (h : stored.status = outcome.status) :
    outcome.eventPayload stored = outcome.entryPayload stored.owner stored.sliceCycles := by
  cases outcome <;>
    simp only [eventPayload, entryPayload, details, h, status, Status.name, Keyed.ofList,
      Keyed.merge, List.foldl_cons, List.foldl_nil, Keyed.insert, String.reduceEq,
      String.reduceLT, reduceIte]

end SliceOutcome

namespace Store

variable {m : Memory} {id : String} {es es' : List Exchange} {t : Task}

/-! ### Records in order -/

/-- No counter of a record that is stored is negative. -/
def Memory.Normal (m : Memory) : Prop :=
  ∀ id t, m.tasks.find? id = some t → t.normalize = t

/-- A call keeps the records in order. -/
theorem Memory.Normal.after (h : m.Normal) (c : Call) : (m.after c).Normal := by
  intro id t ht
  rcases find?_or_rewrites ht with hfound | ⟨-, hrewrites⟩
  · exact h id t hfound
  · -- Leases and reschedulings leave the counters as they are.
    cases hrewrites with
    | upsert =>
      exact Task.normalize_eq_self.2
        ⟨Int.le_max_right .., Int.le_max_right .., Int.le_max_right ..⟩
    | lease _ _ hfound =>
      have hcounters := Task.normalize_eq_self.1 (h id _ hfound)
      exact Task.normalize_eq_self.2 hcounters
    | unlease _ _ hfound =>
      have hcounters := Task.normalize_eq_self.1 (h id _ hfound)
      exact Task.normalize_eq_self.2 hcounters
    | reschedule _ _ hfound =>
      have hcounters := Task.normalize_eq_self.1 (h id _ hfound)
      exact Task.normalize_eq_self.2 hcounters

/-- The records of a store that began empty are in order, whatever was asked of it. -/
theorem Memory.normal_afterAll_empty (calls : List Call) : (afterAll {} calls).Normal := by
  have hempty : Memory.Normal {} := by
    intro id t ht
    cases ht
  exact invariant_afterAll (fun _ c h ↦ h.after c) hempty calls

/-! ### What others do, and what is done by oneself -/

/-- A call leaves the record of a task as it is, and does not poison the table. -/
def Memory.Spares (id : String) (m : Memory) (c : Call) : Prop :=
  (m.after c).tasks.find? id = m.tasks.find? id ∧ (m.after c).poisoned = m.poisoned

/-- Between the questions of these exchanges, others leave the record of a task as it is and do not
poison the table. -/
def Memory.Spared (id : String) : Memory → List Exchange → Prop
  | _, [] => True
  | m, e :: es => Along (Spares id) m e.others ∧ Spared id (e.left m) es

/-- The questions of these exchanges, with the answers that they get. -/
def Memory.heard : Memory → List Exchange → List (Answered Ask.Reply)
  | _, [] => []
  | m, e :: es => ⟨e.question, e.reply m⟩ :: heard (e.left m) es

theorem Memory.heard_append (m : Memory) (es es' : List Exchange) :
    m.heard (es ++ es') = m.heard es ++ (m.through es).heard es' := by
  induction es generalizing m with
  | nil => rfl
  | cons e rest ih => exact congrArg (_ :: ·) (ih _)

theorem Memory.spared_append :
    m.Spared id (es ++ es') ↔ m.Spared id es ∧ (m.through es).Spared id es' := by
  induction es generalizing m with
  | nil => exact (true_and _).symm ▸ Iff.rfl
  | cons e rest ih =>
    simp only [List.cons_append, Spared, ih, through_cons, and_assoc]

/-- What is spared is found as it was. -/
theorem Memory.Spares.found {calls : List Call} (h : Along (Memory.Spares id) m calls) :
    (m.afterAll calls).tasks.find? id = m.tasks.find? id ∧
      (m.afterAll calls).poisoned = m.poisoned :=
  Along.invariant
    (I := fun s ↦ s.tasks.find? id = m.tasks.find? id ∧ s.poisoned = m.poisoned)
    (fun _ _ h hc ↦ ⟨hc.1.trans h.1, hc.2.trans h.2⟩) ⟨rfl, rfl⟩ h

/-- Nothing changes but the record of a task, and these entries come to the log. -/
structure Memory.ChangesOnly (id : String) (entries : List Event) (m m' : Memory) : Prop where
  tasks : ∀ other, other ≠ id → m'.tasks.find? other = m.tasks.find? other
  checkpoints : m'.checkpoints = m.checkpoints
  events : m'.events = m.events ++ entries

/-- The outcomes of a task are recorded with three kinds of requests: its record is read, or stored,
or an entry is made. -/
inductive RecordsOutcomes (id : String) : Ask → Prop where
  | read : RecordsOutcomes id (.store (.getTask id))
  | write {t : Task} (hid : t.id = id) : RecordsOutcomes id (.store (.upsert t))
  | enter (task : Option String) (type : String) (payload : Payload) (correlation : Option String) :
    RecordsOutcomes id (.store (.appendEvent task type payload correlation))

/-- **Who records outcomes** changes nothing else. -/
theorem RecordsOutcomes.changesOnly {e : Exchange} (h : RecordsOutcomes id e.question) (m : Memory) :
    (e.found m).ChangesOnly id (logged [⟨e.question, e.reply m⟩]) (e.left m) := by
  obtain ⟨others, moment, question⟩ := e
  cases h with
  | read =>
    have hleft : Exchange.left ⟨others, moment, .store (.getTask id)⟩ m = m.afterAll others :=
      Memory.perform_getTask_snd _ moment.clock moment.fresh id
    rw [hleft]
    exact ⟨fun _ _ ↦ rfl, rfl, (List.append_nil _).symm⟩
  | @write t hid =>
    simp only [Exchange.found, Exchange.left, Memory.answer_store, Memory.perform, Memory.withTasks]
    split
    · exact ⟨fun _ _ ↦ rfl, rfl, (List.append_nil _).symm⟩
    · refine ⟨fun other hother ↦ ?_, rfl, (List.append_nil _).symm⟩
      exact Register.find?_insert_of_ne (hid ▸ hother) ..
  | enter => exact ⟨fun _ _ ↦ rfl, rfl, rfl⟩

/-! ### The three requests of a recording -/

/-- The table is not poisoned, and holds this record of a task. -/
def Memory.Holds (id : String) (t : Task) (m : Memory) : Prop :=
  m.poisoned = false ∧ m.tasks.find? id = some t

variable {others : List Call}

theorem Memory.Holds.found (h : m.Holds id t) (hothers : Along (Memory.Spares id) m others) :
    (m.afterAll others).Holds id t :=
  have hfound := Memory.Spares.found hothers
  ⟨hfound.2.trans h.1, hfound.1.trans h.2⟩

/-- The record is read as it is. -/
theorem Memory.Holds.read (h : m.Holds id t) (hothers : Along (Memory.Spares id) m others)
    (moment : Moment) :
    Exchange.reply ⟨others, moment, .store (.getTask id)⟩ m = .ok (some t) ∧
      (Exchange.left ⟨others, moment, .store (.getTask id)⟩ m).Holds id t := by
  obtain ⟨hpoisoned, hfind⟩ := h.found hothers
  have hperform : (m.afterAll others).perform moment.clock moment.fresh (.getTask id) =
      (.ok (some t), m.afterAll others) := by
    simp [Memory.perform, Memory.withTasks, hpoisoned, hfind]
  refine ⟨congrArg Prod.fst hperform, ?_⟩
  change Memory.Holds id t (Memory.perform (m.afterAll others) moment.clock moment.fresh _).2
  rw [hperform]
  exact ⟨hpoisoned, hfind⟩

/-- A record is stored over the one that is there. -/
theorem Memory.Holds.write (h : m.Holds id t) (hothers : Along (Memory.Spares id) m others)
    (moment : Moment) {t' : Task} (hid : t'.id = id) :
    Exchange.reply ⟨others, moment, .store (.upsert t')⟩ m =
        .ok (t'.storedOver (some t) moment.clock) ∧
      (Exchange.left ⟨others, moment, .store (.upsert t')⟩ m).Holds id
        (t'.storedOver (some t) moment.clock) := by
  obtain ⟨hpoisoned, hfind⟩ := h.found hothers
  subst hid
  have hperform : (m.afterAll others).perform moment.clock moment.fresh (.upsert t') =
      (.ok (t'.storedOver (some t) moment.clock),
        { m.afterAll others with
          tasks := (m.afterAll others).tasks.insert t'.id
            (t'.storedOver (some t) moment.clock) }) := by
    simp [Memory.perform, Memory.withTasks, Memory.answered, Memory.upsert, hpoisoned, hfind]
  refine ⟨congrArg Prod.fst hperform, ?_⟩
  change Memory.Holds _ _ (Memory.perform (m.afterAll others) moment.clock moment.fresh _).2
  rw [hperform]
  exact ⟨hpoisoned, Register.find?_insert_self ..⟩

/-- An entry is made as it is asked for. -/
theorem Memory.Holds.enter (h : m.Holds id t) (hothers : Along (Memory.Spares id) m others)
    (moment : Moment) (task : Option String) (type : String) (payload : Payload)
    (correlation : Option String) :
    Exchange.reply ⟨others, moment, .store (.appendEvent task type payload correlation)⟩ m =
        .ok ⟨moment.fresh, task, type, payload, correlation, moment.clock⟩ ∧
      (Exchange.left ⟨others, moment, .store (.appendEvent task type payload correlation)⟩ m).Holds
        id t :=
  ⟨rfl, h.found hothers⟩

end Store

namespace SliceOutcome

variable {outcome : SliceOutcome} {id : String} {correlation : Option String} {m : Memory}
  {es : List Exchange} {t : Task}

/-- What is entered behind an outcome is the entry of the outcome. -/
theorem entryOf_applyTo (hroom : t.HasRoom 1) (outcome : SliceOutcome)
    (correlation : Option String) (fresh : Uuid) (clock clock' : Instant) :
    EntryOf t outcome correlation (t.sliceCycles + 1)
      ⟨fresh, some t.id, outcome.eventType,
        outcome.eventPayload ((outcome.applyTo t).touched clock), correlation, clock'⟩ := by
  rw [← hroom.sliceCycles_applyTo outcome]
  exact ⟨outcome.eventType_eq_entryType, rfl, rfl, outcome.eventPayload_eq_entryPayload rfl⟩

/-- **One recording**: a request is still to be made, or the record is stored behind the outcome,
and the outcome entered. -/
theorem course_of_record {w : Work StoreError Task}
    (h : Course (outcome.record id correlation) m es w) (hspared : m.Spared id es)
    (ht : m.Holds id t) (hid : t.id = id) (hroom : t.HasRoom 1) :
    (∀ e ∈ es, RecordsOutcomes id e.question) ∧
      ((es.length < 3 ∧ ∃ q next, w = .ask q next) ∨
        es.length = 3 ∧ ∃ clock e, w = .done ((outcome.applyTo t).touched clock) ∧
          (m.through es).Holds id ((outcome.applyTo t).touched clock) ∧
          logged (m.heard es) = [e] ∧
          EntryOf t outcome correlation (t.sliceCycles + 1) e) := by
  -- The record is read, and it is still the one that the store holds.
  rcases h.of_store_bind with ⟨rfl, hw⟩ | ⟨others, moment, rest, rfl, hread⟩
  · exact ⟨List.forall_mem_nil _, .inl ⟨by simp, hw⟩⟩
  obtain ⟨hothers, hspared⟩ := hspared
  obtain ⟨hreply, ht⟩ := ht.read hothers moment
  have hown : RecordsOutcomes id (.store (.getTask id)) := .read
  -- It is stored behind the outcome, with nothing of others in between to be undone.
  rcases (hread _ hreply).of_store_bind with ⟨rfl, hw⟩ | ⟨others', moment', rest', rfl, hwrite⟩
  · exact ⟨by simpa using hown, .inl ⟨by simp, hw⟩⟩
  obtain ⟨hothers', hspared⟩ := hspared
  obtain ⟨hreply', ht'⟩ :=
    ht.write hothers' moment' (show (outcome.applyTo t).id = id from hid)
  have hstored : (outcome.applyTo t).storedOver (some t) moment'.clock =
      (outcome.applyTo t).touched moment'.clock :=
    Task.storedOver_of_normal (hroom.applyTo outcome).normal rfl _
  rw [hstored] at hreply' ht'
  have hown' : RecordsOutcomes id (.store (.upsert (outcome.applyTo t))) := .write hid
  -- The outcome is entered as the record was stored.
  rcases (hwrite _ hreply').of_store_bind with
    ⟨rfl, hw⟩ | ⟨others'', moment'', rest'', rfl, henter⟩
  · exact ⟨by simp [hown, hown'], .inl ⟨by simp, hw⟩⟩
  obtain ⟨hothers'', -⟩ := hspared
  obtain ⟨hreply'', ht''⟩ := ht'.enter hothers'' moment'' (some id) outcome.eventType
    (outcome.eventPayload ((outcome.applyTo t).touched moment'.clock)) correlation
  obtain ⟨rfl, rfl⟩ := (henter _ hreply'').eq_of_done
  refine ⟨by simp [hown, hown', RecordsOutcomes.enter], .inr ⟨rfl, moment'.clock, _, rfl, ht'', ?_,
    hid ▸ entryOf_applyTo hroom outcome correlation moment''.fresh moment'.clock moment''.clock⟩⟩
  simp only [Memory.heard]
  rw [logged_cons_of_not_appends (by simp [Ask.Appends]),
    logged_cons_of_not_appends (by simp [Ask.Appends]), hreply'', logged_appendEvent, logged_nil]

variable {records : List (SliceOutcome × Option String)} {w : Work StoreError Unit}

/-- **How far the recording of some outcomes has come**: a request is still to be made, or the
record is that behind the outcomes, and each of them is entered with its number. -/
inductive Progress (id : String) (t : Task) (records : List (SliceOutcome × Option String))
    (m : Memory) (es : List Exchange) : Work StoreError Unit → Prop where
  | underway {q : Ask} {next : q.Reply → Work StoreError Unit}
    (hlength : es.length < 3 * records.length) : Progress id t records m es (.ask q next)
  | finished {clock : Instant} (hlength : es.length = 3 * records.length)
    (hholds : (m.through es).Holds id ((t.behind (records.map (·.1))).touched clock))
    (hentries : List.Forall₂
      (fun record e ↦ EntryOf t record.1.1 record.1.2 (t.sliceCycles + record.2) e)
      (records.zipIdx 1) (logged (m.heard es))) : Progress id t records m es (.done ())

/-- An outcome is recorded before the others. -/
theorem Progress.cons {es₁ es₂ : List Exchange} {e : Event} {clock : Instant}
    (hroom : t.HasRoom (records.length + 1)) (hlength : es₁.length = 3)
    (hlogged : logged (m.heard es₁) = [e])
    (he : EntryOf t outcome correlation (t.sliceCycles + 1) e)
    (h : Progress id ((outcome.applyTo t).touched clock) records (m.through es₁) es₂ w) :
    Progress id t ((outcome, correlation) :: records) m (es₁ ++ es₂) w := by
  cases h with
  | underway hlength' =>
    refine .underway ?_
    rw [List.length_append, List.length_cons]
    omega
  | @finished clock' hlength' hholds hentries =>
    refine .finished ?_ (?_ : Memory.Holds id (Task.touched _ clock') _) ?_
    · rw [List.length_append, List.length_cons]
      omega
    · have hbehind : t.behind (outcome :: records.map (·.1)) =
          (outcome.applyTo t).behind (records.map (·.1)) :=
        Task.behind_cons (by rwa [List.length_map])
      rw [List.map_cons, hbehind, Memory.through_append]
      exact hholds
    · rw [Memory.heard_append, logged_append, hlogged, List.zipIdx_cons, List.zipIdx_succ]
      refine .cons he (List.forall₂_map_left_iff.2 (hentries.imp fun record e he ↦ ?_))
      have hcycles : t.sliceCycles + ((record.2 + 1 : Nat) : Int) =
          (outcome.applyTo t).sliceCycles + record.2 := by
        rw [hroom.sliceCycles_applyTo]
        omega
      change EntryOf t record.1.1 record.1.2 (t.sliceCycles + ((record.2 + 1 : Nat) : Int)) e
      rw [hcycles]
      exact ⟨he.type, he.task, he.correlation, he.payload⟩

/-- **Outcomes that are recorded one after the other**: whatever others do meanwhile that spares the
record of the task, no request fails. -/
theorem progress_of_course (h : Course (recordEach id records) m es w) (hspared : m.Spared id es)
    (ht : m.Holds id t) (hid : t.id = id) (hroom : t.HasRoom records.length) :
    (∀ e ∈ es, RecordsOutcomes id e.question) ∧ Progress id t records m es w := by
  induction records generalizing m es t with
  | nil =>
    obtain ⟨rfl, rfl⟩ := h.eq_of_done
    have hholds : m.Holds id ((t.behind []).touched t.updatedAt) := by
      rw [Task.behind_nil]
      exact ht
    exact ⟨List.forall_mem_nil _, .finished rfl hholds .nil⟩
  | cons record rest ih =>
    obtain ⟨outcome, correlation⟩ := record
    have hfits : t.HasRoom 1 := hroom.mono (Nat.le_add_left ..)
    -- The first outcome is recorded through some of the exchanges, and the rest through the others.
    have hgo : ∀ stored es₁ es₂, es = es₁ ++ es₂ →
        Course (outcome.record id correlation) m es₁ (.done stored) →
        Course (recordEach id rest) (m.through es₁) es₂ w →
        (∀ e ∈ es, RecordsOutcomes id e.question) ∧
          Progress id t ((outcome, correlation) :: rest) m es w := by
      rintro stored es₁ es₂ rfl hfirst hothers
      obtain ⟨hspared₁, hspared₂⟩ := Memory.spared_append.1 hspared
      obtain ⟨hown, ⟨-, q, next, hask⟩ | ⟨hlength, clock, e, -, hholds, hlogged, he⟩⟩ :=
        course_of_record hfirst hspared₁ ht hid hfits
      · cases hask
      · obtain ⟨hown', hprogress⟩ := ih hothers hspared₂ hholds hid
          ((hroom.applyTo outcome).touched clock)
        exact ⟨List.forall_mem_append.2 ⟨hown, hown'⟩, .cons hroom hlength hlogged he hprogress⟩
    rcases Course.of_bind h with ⟨p', hfirst, rfl⟩ | ⟨stored, es₁, es₂, hes, hfirst, hothers⟩
    · obtain ⟨hown, ⟨hlength, q, next, rfl⟩ | ⟨-, clock, -, rfl, -⟩⟩ :=
        course_of_record hfirst hspared ht hid hfits
      · exact ⟨hown, .underway (by rw [List.length_cons]; omega)⟩
      · exact hgo _ es [] (List.append_nil _).symm hfirst (.here ..)
    · exact hgo stored es₁ es₂ hes hfirst hothers

/-- **Histories of outcomes**: outcomes are recorded one after the other, while other clients use the
store but leave the record of the task alone and do not poison the table. Then no request fails, and
behind three requests for each outcome all are recorded. The record is that behind the outcomes, and
each outcome has its entry, with its number in the life of the task. None of the requests changes
another record, a checkpoint, or an entry that is there. -/
theorem outcomes_are_recorded {history : List Call} (hm : m = .afterAll {} history)
    (h : Course (recordEach id records) m es w) (hpoisoned : m.poisoned = false)
    (ht : m.tasks.find? id = some t) (hspared : m.Spared id es)
    (hcycles : t.sliceCycles + records.length ≤ Machine.greatest)
    (hstreak : t.failureStreak + records.length ≤ Machine.greatest) :
    ((es.length < 3 * records.length ∧ ∃ q next, w = .ask q next) ∨
      es.length = 3 * records.length ∧ w = .done () ∧
        (∃ clock, (m.through es).tasks.find? id =
          some { t.behind (records.map (·.1)) with updatedAt := clock }) ∧
        List.Forall₂ (fun record e ↦ EntryOf t record.1.1 record.1.2 (t.sliceCycles + record.2) e)
          (records.zipIdx 1) (logged (m.heard es))) ∧
    ∀ before e after, es = before ++ e :: after →
      (e.found (m.through before)).ChangesOnly id
        (logged [⟨e.question, e.reply (m.through before)⟩]) (e.left (m.through before)) := by
  subst hm
  have hid : t.id = id := Memory.filed_afterAll_empty history id t ht
  have hnormal : t.normalize = t := Memory.normal_afterAll_empty history id t ht
  obtain ⟨hown, hprogress⟩ :=
    progress_of_course h hspared ⟨hpoisoned, ht⟩ hid ⟨hnormal, hcycles, hstreak⟩
  constructor
  · cases hprogress with
    | underway hlength => exact .inl ⟨hlength, _, _, rfl⟩
    | finished hlength hholds hentries => exact .inr ⟨hlength, rfl, ⟨_, hholds.2⟩, hentries⟩
  · rintro before e after rfl
    exact (hown e (List.mem_append_right _ List.mem_cons_self)).changesOnly _

/-- Two tasks are stored, and a runner takes a lease of the second for so many seconds. -/
def storedTasks (seconds : Int) : List Call :=
  [⟨⟨0, 0⟩, ⟨0⟩, .upsert (.new "a" "o" "c" "s" ⟨0, 0⟩)⟩,
    ⟨⟨1, 0⟩, ⟨1⟩, .upsert (.new "b" "o" "c" "s" ⟨1, 0⟩)⟩,
    ⟨⟨2, 0⟩, ⟨2⟩, .acquireLease "b" "r" seconds ⟨2, 0⟩⟩]

/-- What is at hand at a second. -/
def momentAt (seconds : Int) : Moment :=
  { clock := ⟨seconds, 0⟩, fresh := ⟨seconds.toNat⟩ }

/-- A slice fails and then a budget is used up, while the runner gives its lease back. -/
theorem failure_and_budget_are_recorded :
    ∃ es, Course (recordEach "a" [(.failed "x", none), (.budgetExhausted .runtimeExceeded, none)])
      (.afterAll {} (storedTasks 30)) es (.done ()) ∧ es.length = 6 ∧
      (∃ clock, ((Memory.afterAll {} (storedTasks 30)).through es).tasks.find? "a" =
        some { Task.new "a" "o" "c" "s" ⟨0, 0⟩ with
          sliceCycles := 2, status := .failed, failureStreak := 1,
          lastError := some "runtime_exceeded", updatedAt := clock }) ∧
      ∃ first second, logged ((Memory.afterAll {} (storedTasks 30)).heard es) = [first, second] ∧
        first.type = "slice.completed.failed" ∧ first.payload =
          [("error", .str "x"), ("owner_id", .str "o"), ("slice_cycles", .int 1),
            ("status", .str "failed")] ∧
        second.type = "slice.blocked.budget_exhausted" ∧ second.payload =
          [("owner_id", .str "o"), ("reason", .str "runtime_exceeded"), ("slice_cycles", .int 2),
            ("status", .str "failed")] := by
  have hcourse : ∃ es, Course
      (recordEach "a" [(.failed "x", none), (.budgetExhausted .runtimeExceeded, none)])
      (.afterAll {} (storedTasks 30)) es (.done ()) ∧ es.length = 6 ∧
      (Memory.afterAll {} (storedTasks 30)).Spared "a" es := by
    refine ⟨_, @Course.ask _ _ _ _ _ [] (momentAt 3) _ _ <| @Course.ask _ _ _ _ _
      [⟨⟨4, 0⟩, ⟨4⟩, .releaseLease "b" "r"⟩] (momentAt 5) _ _ <| @Course.ask _ _ _ _ _ []
      (momentAt 6) _ _ <| @Course.ask _ _ _ _ _ [] (momentAt 7) _ _ <| @Course.ask _ _ _ _ _ []
      (momentAt 8) _ _ <| @Course.ask _ _ _ _ _ [] (momentAt 9) _ _ (.here _ _), rfl, ?_⟩
    exact ⟨trivial, ⟨⟨rfl, rfl⟩, trivial⟩, trivial, trivial, trivial, trivial, trivial⟩
  obtain ⟨es, hcourse, hlength, hspared⟩ := hcourse
  have hrecorded := outcomes_are_recorded rfl hcourse rfl rfl hspared (by decide) (by decide)
  rcases hrecorded.1 with ⟨hshort, -⟩ | ⟨-, -, hfind, hentries⟩
  · rw [hlength] at hshort
    exact absurd hshort (by decide)
  · refine ⟨es, hcourse, hlength, hfind, ?_⟩
    generalize logged _ = entries at hentries ⊢
    rw [List.zipIdx_cons, List.zipIdx_cons] at hentries
    obtain _ | ⟨hfirst, _ | ⟨hsecond, _ | _⟩⟩ := hentries
    exact ⟨_, _, rfl, hfirst.type, hfirst.payload, hsecond.type, hsecond.payload⟩

/-- **Over a poisoned table nothing is recorded.** Once a lease has been asked for that ends beyond
the calendar, an outcome of another task is not recorded. -/
theorem poisoned_table_records_no_outcome :
    ¬ ∀ (history : List Call) (m : Memory) (id : String) (t : Task)
        (records : List (SliceOutcome × Option String)) (es : List Exchange)
        (w : Work StoreError Unit),
      m = .afterAll {} history → Course (recordEach id records) m es w →
      m.tasks.find? id = some t → (∀ e ∈ es, e.others = []) → records ≠ [] →
      t.sliceCycles + records.length ≤ Machine.greatest →
      t.failureStreak + records.length ≤ Machine.greatest → w.isFinished = true →
      w = .done () := by
  intro h
  have hcourse : Course (recordEach "a" [(.done, none)])
      (.afterAll {} (storedTasks Machine.greatest)) [⟨[], momentAt 3, .store (.getTask "a")⟩]
      (.halt (.error .lockPoisoned)) := .ask (.here ..)
  have hdone := h _ _ "a" _ _ _ _ rfl hcourse rfl (by simp) (by simp) (by decide) (by decide) rfl
  cases hdone

end SliceOutcome

end Foreman
