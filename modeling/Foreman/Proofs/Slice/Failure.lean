import Foreman.Proofs.Log
import Foreman.Slice.Record
import Mathlib.Logic.Function.Basic

/-!
# Recordings that fail

To record an outcome is to read the record of the task, to store it behind the outcome, and to enter
the outcome in the log. Any of these requests can fail, and nothing makes the two writes one: a store
carries out a request as a whole, but it knows of no more than one request.

The dialogues of a recording are written out first (`Recorded`). What a failure leaves behind is then
said of stores of any kind (`Keeper`), in memory or not, as long as a request that fails has no
effect of its own. A failure leaves everything as it was, unless it is the log that fails. Then the
record is stored behind the outcome, which the log does not know, and whoever tries again counts the
slice a second time (`failed_recording`).
-/

namespace Foreman

open Time Store

/-! ### The dialogues of a recording -/

namespace SliceOutcome

/-- The request that enters an outcome in the log, behind the record as it was stored. -/
abbrev entry (outcome : SliceOutcome) (id : String) (correlation : Option String) (stored : Task) :
    Request :=
  .appendEvent (some id) outcome.eventType (outcome.eventPayload stored) correlation

/-- **The ways in which a recording can go.** -/
inductive Recorded (outcome : SliceOutcome) (id : String) (correlation : Option String) :
    List (Answered Ask.Reply) → Except (Halt StoreError) Task → Prop where
  | unread (halt : Halt StoreError) :
    Recorded outcome id correlation [⟨.store (.getTask id), .error halt⟩] (.error halt)
  | absent :
    Recorded outcome id correlation [⟨.store (.getTask id), .ok none⟩]
      (.error (.error (.taskNotFound id)))
  | unstored (t : Task) (halt : Halt StoreError) :
    Recorded outcome id correlation
      [⟨.store (.getTask id), .ok (some t)⟩, ⟨.store (.upsert (outcome.applyTo t)), .error halt⟩]
      (.error halt)
  /-- The outcome is stored, but not entered. -/
  | unlogged (t stored : Task) (halt : Halt StoreError) :
    Recorded outcome id correlation
      [⟨.store (.getTask id), .ok (some t)⟩, ⟨.store (.upsert (outcome.applyTo t)), .ok stored⟩,
        ⟨.store (outcome.entry id correlation stored), .error halt⟩]
      (.error halt)
  | recorded (t stored : Task) (e : Event) :
    Recorded outcome id correlation
      [⟨.store (.getTask id), .ok (some t)⟩, ⟨.store (.upsert (outcome.applyTo t)), .ok stored⟩,
        ⟨.store (outcome.entry id correlation stored), .ok e⟩]
      (.ok stored)

variable {outcome : SliceOutcome} {id : String} {correlation : Option String}
  {es : List (Answered Ask.Reply)} {result : Except (Halt StoreError) Task}

/-- **A recording** goes one of these ways. -/
theorem recorded_of_dialogue (h : (outcome.record id correlation).Dialogue es result) :
    Recorded outcome id correlation es result := by
  rcases Work.dialogue_store_bind h with ⟨halt, rfl, rfl⟩ | ⟨found, rest, rfl, hfound⟩
  · exact .unread halt
  rcases found with _ | t
  · obtain ⟨rfl, rfl⟩ := hfound
    exact .absent
  rcases Work.dialogue_store_bind hfound with ⟨halt, rfl, rfl⟩ | ⟨stored, rest, rfl, hstored⟩
  · exact .unstored t halt
  rcases Work.dialogue_store_bind hstored with ⟨halt, rfl, rfl⟩ | ⟨e, _, rfl, rfl, rfl⟩
  · exact .unlogged t stored halt
  · exact .recorded t stored e

end SliceOutcome

/-! ### Stores of any kind -/

namespace Store

/-- **A store of any kind**, as whoever records outcomes sees it: how it may answer a request and
what it is then, what is stored of each task, and the log. A request that fails has no effect,
reading a record has none, and to store a record changes nothing but that record. -/
structure Keeper (σ : Type) where
  answers : (rq : Request) → σ → Except (Halt StoreError) rq.Value → σ → Prop
  record? : σ → String → Option Task
  log : σ → List Event
  failed {rq : Request} {halt : Halt StoreError} {s s' : σ} (h : answers rq s (.error halt) s') :
    record? s' = record? s ∧ log s' = log s
  read {id : String} {found : Option Task} {s s' : σ} (h : answers (.getTask id) s (.ok found) s') :
    found = record? s id ∧ record? s' = record? s ∧ log s' = log s
  stored {t stored : Task} {s s' : σ} (h : answers (.upsert t) s (.ok stored) s') :
    (∃ clock, stored = t.storedOver (record? s t.id) clock) ∧
      record? s' = Function.update (record? s) t.id (some stored) ∧ log s' = log s

namespace Keeper

variable {σ : Type} (K : Keeper σ) {s s' : σ}

/-- How a store answers one question; those that are not for it leave it. -/
def Replies (s : σ) : (q : Ask) → q.Reply → σ → Prop
  | .store rq, reply, s' => K.answers rq s reply s'
  | _, _, s' => s' = s

/-- A store serves a dialogue, and is this behind it. -/
def Serves : σ → List (Answered Ask.Reply) → σ → Prop
  | s, [], s' => s' = s
  | s, e :: rest, s' => ∃ s₁, K.Replies s e.question e.reply s₁ ∧ Serves s₁ rest s'

end Keeper

/-- In a store in memory a request that fails changes no record. -/
theorem Memory.tasks_perform_of_error {m : Memory} {clock : Instant} {fresh : Uuid} {rq : Request}
    {halt : Halt StoreError} (h : (m.perform clock fresh rq).1 = .error halt) :
    (m.perform clock fresh rq).2.tasks = m.tasks := by
  revert h
  cases rq with
  | acquireLease id worker seconds now =>
    simp only [perform, withTasks, acquireLease]
    repeat' split
    all_goals
      intro h
      first
        | rfl
        | cases h
  | _ =>
    simp only [perform, withTasks, answered]
    repeat' split
    all_goals
      intro h
      first
        | rfl
        | cases h

/-- **A store in memory**, in which some requests may fail besides. -/
def Memory.keeper (mayFail : Request → Prop) : Keeper Memory where
  answers rq m reply m' := m.Replies mayFail (.store rq) reply m'
  record? m id := m.tasks.find? id
  log m := m.events
  failed {rq halt m m'} h := by
    refine ⟨?_, ?_⟩
    · rcases h with ⟨clock, fresh, hperform⟩ | ⟨-, -, rfl⟩
      · have htasks := tasks_perform_of_error (congrArg Prod.fst hperform)
        rw [hperform] at htasks
        dsimp only at htasks
        rw [htasks]
      · rfl
    · rw [h.events]
      cases rq <;> exact List.append_nil _
  read {id found m m'} h := by
    rcases h with ⟨clock, fresh, hperform⟩ | ⟨-, ⟨e, he⟩, -⟩
    · have hsame := perform_getTask_snd m clock fresh id
      rw [hperform] at hsame
      dsimp only at hsame
      subst hsame
      simp only [perform, withTasks] at hperform
      split at hperform <;> cases hperform
      exact ⟨rfl, rfl, rfl⟩
    · cases he
  stored {t stored m m'} h := by
    rcases h with ⟨clock, fresh, hperform⟩ | ⟨-, ⟨e, he⟩, -⟩
    · simp only [perform, withTasks, answered, upsert] at hperform
      split at hperform <;> cases hperform
      refine ⟨⟨clock, rfl⟩, funext fun other ↦ ?_, rfl⟩
      rw [Register.find?_insert, Function.update_apply]
    · cases he

end Store

/-! ### What a failure leaves behind -/

/-- The dialogue asks for an entry in the log. -/
def ReachesLog (es : List (Answered Ask.Reply)) : Prop :=
  ∃ e ∈ es, e.question.Appends

namespace SliceOutcome

variable {outcome : SliceOutcome} {id : String} {correlation : Option String}
  {es : List (Answered Ask.Reply)} {t stored : Task} {clock : Instant}

/-- A record that is stored behind an outcome counts one slice more. -/
theorem sliceCycles_storedOver (outcome : SliceOutcome) (hnonneg : 0 ≤ t.sliceCycles)
    (hroom : t.sliceCycles < Machine.greatest) (existing : Option Task) (clock : Instant) :
    ((outcome.applyTo t).storedOver existing clock).sliceCycles = t.sliceCycles + 1 := by
  have hcount : (outcome.applyTo t).sliceCycles = t.sliceCycles + 1 :=
    Machine.wrap_add_one hnonneg hroom
  change max (outcome.applyTo t).sliceCycles 0 = _
  rw [hcount]
  omega

/-- A record that is stored behind an outcome is another record, also at the end of 64 bits. -/
theorem storedOver_applyTo_ne (outcome : SliceOutcome) (t : Task) (existing : Option Task) :
    (outcome.applyTo t).storedOver existing clock ≠ t := by
  intro heq
  have hcycles : max (Machine.wrap (t.sliceCycles + 1)) 0 = t.sliceCycles :=
    congrArg Task.sliceCycles heq
  obtain ⟨-, hle⟩ := Machine.isSigned_iff.1 (Machine.isSigned_wrap (t.sliceCycles + 1))
  have hgreatest : 0 ≤ Machine.greatest := by decide
  by_cases hlast : t.sliceCycles = Machine.greatest
  · rw [hlast] at hcycles
    exact absurd hcycles (by decide)
  · have hraised := Machine.wrap_add_one (n := t.sliceCycles) (by omega) (by omega)
    omega

/-- **The first write**: a record that was read is stored behind the outcome. -/
theorem behind_upsert {σ : Type} {K : Keeper σ} {s s' : σ} {rest : List (Answered Ask.Reply)}
    (h : K.Serves s (⟨.store (.getTask id), .ok (some t)⟩ ::
      ⟨.store (.upsert (outcome.applyTo t)), .ok stored⟩ :: rest) s')
    (hid : ∀ t, K.record? s id = some t → t.id = id) :
    K.record? s id = some t ∧ ∃ clock s₁,
      stored = (outcome.applyTo t).storedOver (some t) clock ∧
      K.record? s₁ = Function.update (K.record? s) id (some stored) ∧ K.log s₁ = K.log s ∧
      K.Serves s₁ rest s' := by
  obtain ⟨s₁, hread, s₂, hstore, hrest⟩ := h
  obtain ⟨hfound, hrecord, hlog⟩ := K.read hread
  obtain ⟨⟨clock, hstored⟩, hupdate, hlog'⟩ := K.stored hstore
  have htask : (outcome.applyTo t).id = id := hid t hfound.symm
  rw [htask, hrecord] at hstored hupdate
  rw [← hfound] at hstored
  exact ⟨hfound.symm, clock, s₂, hstored, hupdate, hlog'.trans hlog, hrest⟩

/-- A recording that comes to its end stores the record that it finds behind the outcome. -/
theorem stored_of_dialogue {σ : Type} {K : Keeper σ} {s s' : σ}
    (h : (outcome.record id correlation).Dialogue es (.ok stored)) (hserves : K.Serves s es s')
    (hid : ∀ t, K.record? s id = some t → t.id = id) :
    ∃ t clock, K.record? s id = some t ∧
      stored = (outcome.applyTo t).storedOver (some t) clock := by
  generalize hresult : Except.ok stored = result at h
  cases recorded_of_dialogue h with
  | recorded t stored' e =>
    obtain rfl := Except.ok.inj hresult
    obtain ⟨hfound, clock, -, hstored, -⟩ := behind_upsert hserves hid
    exact ⟨t, clock, hfound, hstored⟩
  | _ => cases hresult

/-- **What a failure leaves**: everything as it was, or the record stored behind the outcome when it
was the log that failed. -/
theorem left_of_failure {σ : Type} {K : Keeper σ} {s s' : σ} {halt : Halt StoreError}
    (h : (outcome.record id correlation).Dialogue es (.error halt)) (hserves : K.Serves s es s')
    (hid : ∀ t, K.record? s id = some t → t.id = id) :
    K.log s' = K.log s ∧
      (¬ ReachesLog es ∧ K.record? s' = K.record? s ∨
        ReachesLog es ∧ ∃ t clock, K.record? s id = some t ∧
          K.record? s' = Function.update (K.record? s) id
            (some ((outcome.applyTo t).storedOver (some t) clock))) := by
  generalize hresult : Except.error halt = result at h
  cases recorded_of_dialogue h with
  | unread halt =>
    obtain ⟨_, hfailed, rfl⟩ := hserves
    obtain ⟨hrecord, hlog⟩ := K.failed hfailed
    exact ⟨hlog, .inl ⟨by simp [ReachesLog, Ask.Appends], hrecord⟩⟩
  | absent =>
    obtain ⟨_, hread, rfl⟩ := hserves
    obtain ⟨-, hrecord, hlog⟩ := K.read hread
    exact ⟨hlog, .inl ⟨by simp [ReachesLog, Ask.Appends], hrecord⟩⟩
  | unstored t halt =>
    obtain ⟨_, hread, _, hfailed, rfl⟩ := hserves
    obtain ⟨-, hrecord, hlog⟩ := K.read hread
    obtain ⟨hrecord', hlog'⟩ := K.failed hfailed
    exact ⟨hlog'.trans hlog,
      .inl ⟨by simp [ReachesLog, Ask.Appends], hrecord'.trans hrecord⟩⟩
  | unlogged t stored halt =>
    obtain ⟨hfound, clock, s₁, rfl, hupdate, hlog, hrest⟩ := behind_upsert hserves hid
    obtain ⟨_, hfailed, rfl⟩ := hrest
    obtain ⟨hrecord', hlog'⟩ := K.failed hfailed
    exact ⟨hlog'.trans hlog,
      .inr ⟨by simp [ReachesLog, Ask.Appends], t, clock, hfound, hrecord'.trans hupdate⟩⟩
  | recorded t stored e => cases hresult

/-- **A recording that fails**, over a store of any kind and whichever request fails. The log is as
it was, and so are the records, unless it was the request for the entry that failed. Then the
outcome is stored, in the record of the task and in no other, and the log does not know of it. So
whoever tries again and succeeds counts the slice once if the failure came before the log, and a
second time if it was the log that failed. -/
theorem failed_recording {σ : Type} (K : Keeper σ) {s s' : σ} {halt : Halt StoreError}
    (h : (outcome.record id correlation).Dialogue es (.error halt)) (hserves : K.Serves s es s')
    (hid : ∀ t, K.record? s id = some t → t.id = id) :
    K.log s' = K.log s ∧
    (¬ ReachesLog es → K.record? s' = K.record? s) ∧
    (ReachesLog es → ∃ t clock, K.record? s id = some t ∧
      K.record? s' = Function.update (K.record? s) id
        (some ((outcome.applyTo t).storedOver (some t) clock)) ∧
      K.record? s' id ≠ K.record? s id) ∧
    ∀ (retry : SliceOutcome) (correlation' : Option String) (es' : List (Answered Ask.Reply))
      (retried : Task) (s'' : σ),
      (retry.record id correlation').Dialogue es' (.ok retried) → K.Serves s' es' s'' →
      ∃ t, K.record? s id = some t ∧
        (0 ≤ t.sliceCycles → t.sliceCycles + 2 ≤ Machine.greatest →
          (¬ ReachesLog es → retried.sliceCycles = t.sliceCycles + 1) ∧
          (ReachesLog es → retried.sliceCycles = t.sliceCycles + 2)) := by
  obtain ⟨hlog, ⟨hreaches, hrecord⟩ | ⟨hreaches, t, clock, hfound, hupdate⟩⟩ :=
    left_of_failure h hserves hid
  · refine ⟨hlog, fun _ ↦ hrecord, fun h ↦ absurd h hreaches, ?_⟩
    intro retry correlation' es' retried s'' hretry hserves'
    obtain ⟨t, clock, hfound, rfl⟩ := stored_of_dialogue hretry hserves' (by rwa [hrecord])
    rw [hrecord] at hfound
    exact ⟨t, hfound, fun hnonneg hroom ↦
      ⟨fun _ ↦ sliceCycles_storedOver retry hnonneg (by omega) _ _, fun h ↦ absurd h hreaches⟩⟩
  · -- The record that was left is the one that a retry finds.
    have hleft : K.record? s' id = some ((outcome.applyTo t).storedOver (some t) clock) := by
      rw [hupdate, Function.update_self]
    refine ⟨hlog, fun h ↦ absurd hreaches h, fun _ ↦ ⟨t, clock, hfound, hupdate, ?_⟩, ?_⟩
    · rw [hleft, hfound]
      exact fun heq ↦ storedOver_applyTo_ne outcome t _ (Option.some.inj heq)
    · intro retry correlation' es' retried s'' hretry hserves'
      obtain ⟨t', clock', hfound', rfl⟩ := stored_of_dialogue hretry hserves' (by
        rw [hleft]
        rintro _ ⟨⟩
        exact hid t hfound)
      obtain rfl := Option.some.inj (hleft.symm.trans hfound')
      refine ⟨t, hfound, fun hnonneg hroom ↦ ⟨fun h ↦ absurd hreaches h, fun _ ↦ ?_⟩⟩
      have honce := sliceCycles_storedOver outcome hnonneg (by omega) (some t) clock
      rw [sliceCycles_storedOver retry (by omega) (by omega), honce]
      omega

/-! ### A log that fails -/

/-- A store in memory whose log may fail. -/
abbrev forgetful : Keeper Memory :=
  Memory.keeper fun rq ↦ (Ask.store rq).Appends

/-- **The log can fail behind every record** of such a store. -/
theorem exists_unlogged {m : Memory} (outcome : SliceOutcome) (correlation : Option String)
    (hm : m.poisoned = false) (ht : m.tasks.find? id = some t) (hid : t.id = id) :
    ∃ es m', (outcome.record id correlation).Dialogue es (.error (.error .lockPoisoned)) ∧
      forgetful.Serves m es m' ∧ ReachesLog es := by
  subst hid
  let stored := (outcome.applyTo t).storedOver (some t) ⟨0, 0⟩
  let m' : Memory := { m with tasks := m.tasks.insert t.id stored }
  have hread : m.perform ⟨0, 0⟩ ⟨0⟩ (.getTask t.id) = (.ok (some t), m) := by
    simp [Memory.perform, Memory.withTasks, hm, ht]
  have hstore : m.perform ⟨0, 0⟩ ⟨0⟩ (.upsert (outcome.applyTo t)) = (.ok stored, m') := by
    have htask : (outcome.applyTo t).id = t.id := rfl
    simp [Memory.perform, Memory.withTasks, Memory.answered, Memory.upsert, hm, ht, htask, stored, m']
  refine ⟨[⟨.store (.getTask t.id), .ok (some t)⟩,
    ⟨.store (.upsert (outcome.applyTo t)), .ok stored⟩,
    ⟨.store (outcome.entry t.id correlation stored), .error (.error .lockPoisoned)⟩], m', ?_, ?_, ?_⟩
  · exact ⟨_, _, rfl, _, _, rfl, _, _, rfl, rfl, rfl⟩
  · exact ⟨m, .inl ⟨_, _, hread⟩, m', .inl ⟨_, _, hstore⟩, m', .inr ⟨trivial, ⟨_, rfl⟩, rfl⟩, rfl⟩
  · simp [ReachesLog, Ask.Appends]

/-- A store with one task. -/
def newTask : Memory where
  tasks := .ofList [("a", .new "a" "o" "c" "s" ⟨0, 0⟩)]

theorem find?_newTask : newTask.tasks.find? "a" = some (.new "a" "o" "c" "s" ⟨0, 0⟩) := rfl

theorem id_of_record?_newTask : ∀ t, forgetful.record? newTask "a" = some t → t.id = "a" := by
  rintro _ ⟨⟩
  rfl

/-- A task is done, and the log fails. The record says that it is done, the log is empty, and a
second try that succeeds would count two slices. -/
theorem done_without_entry :
    ∃ es m', (done.record "a" none).Dialogue es (.error (.error .lockPoisoned)) ∧
      forgetful.Serves newTask es m' ∧ m'.events = [] ∧
      (m'.tasks.find? "a").map (·.status) = some .done ∧
      ∀ es' retried m'', (done.record "a" none).Dialogue es' (.ok retried) →
        forgetful.Serves m' es' m'' → retried.sliceCycles = 2 := by
  obtain ⟨es, m', h, hserves, hreaches⟩ := exists_unlogged done none rfl find?_newTask rfl
  obtain ⟨hlog, -, hstored, hretry⟩ := failed_recording forgetful h hserves id_of_record?_newTask
  obtain ⟨t, clock, hfound, hupdate, -⟩ := hstored hreaches
  refine ⟨es, m', h, hserves, hlog, ?_, fun es' retried m'' h' hserves' ↦ ?_⟩
  · have hleft : m'.tasks.find? "a" = some ((done.applyTo t).storedOver (some t) clock) :=
      (congrFun hupdate "a").trans (Function.update_self ..)
    rw [hleft]
    rfl
  · obtain ⟨t, hfound, hcount⟩ := hretry done none es' retried m'' h' hserves'
    cases hfound
    exact (hcount (by decide) (by decide)).2 hreaches

/-- **A recording is not all or nothing**: when the log fails, the record has changed. -/
theorem recording_not_all_or_nothing :
    ¬ ∀ (outcome : SliceOutcome) (id : String) (correlation : Option String) (m m' : Memory)
        (es : List (Answered Ask.Reply)) (halt : Halt StoreError),
      (outcome.record id correlation).Dialogue es (.error halt) → forgetful.Serves m es m' →
      m'.tasks.find? id = m.tasks.find? id ∧ m'.events = m.events := by
  intro hclaim
  obtain ⟨es, m', h, hserves, hreaches⟩ := exists_unlogged done none rfl find?_newTask rfl
  obtain ⟨-, ⟨hno, -⟩ | ⟨-, t, clock, hfound, hupdate⟩⟩ :=
    left_of_failure h hserves id_of_record?_newTask
  · exact hno hreaches
  · have hleft : m'.tasks.find? "a" = some ((done.applyTo t).storedOver (some t) clock) :=
      (congrFun hupdate "a").trans (Function.update_self ..)
    have hsame := (hclaim done "a" none newTask m' es _ h hserves).1
    exact storedOver_applyTo_ne done t _ (Option.some.inj (hleft.symm.trans (hsame.trans hfound)))

end SliceOutcome

end Foreman
