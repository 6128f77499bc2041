import Foreman.Api
import Foreman.Proofs.Interleaving
import Foreman.Proofs.Text.Percent

/-!
# Finding a task over HTTP

A task has a path of its own, which is its identifier as a segment behind `/tasks/`, and its
checkpoint has the path behind it. Identifiers are any texts, so they may look like other paths; but
a segment has no slash in it, however the identifier is spelt, and is only decoded when the path has
been routed. There is one exception: the plain segment `runnable` is the path of a list. A task of
that name is found by another spelling, and its checkpoint by every one.

`answers_stored` says this of a store in memory: what is answered is what is stored, member by member
(`taskDocument`, `checkpointDocument`), and nothing changes. The tasks, but not the checkpoints, are out of reach while their table is poisoned.
-/

namespace Foreman.Api

open Store Text Percent

/-! ### Paths -/

/-- The path of a task. -/
def taskPath (segment : List Char) : List Char :=
  "/tasks/".toList ++ segment

/-- The path of a checkpoint. -/
def checkpointPath (segment : List Char) : List Char :=
  taskPath segment ++ "/checkpoint".toList

variable {segment : List Char}

/-- A path behind `/tasks/` is cut behind it. -/
theorem pieces_taskPath (rest : List Char) :
    pieces '/' (taskPath rest) = [] :: "tasks".toList :: pieces '/' rest := by
  have htasks : '/' ∉ "tasks".toList := by decide
  have hpath : taskPath rest = '/' :: ("tasks".toList ++ '/' :: rest) := rfl
  rw [hpath, pieces, if_pos rfl, pieces_append htasks]

theorem ofPath?_taskPath (hslash : '/' ∉ segment) (hne : segment ≠ [])
    (hlist : segment ≠ "runnable".toList) :
    Resource.ofPath? (taskPath segment) = some (.task (.ofList segment)) := by
  have htext : String.ofList segment ≠ "" := fun h ↦ hne (by simpa using congrArg String.toList h)
  have hother : String.ofList segment ≠ "runnable" := fun h ↦
    hlist (by simpa using congrArg String.toList h)
  rw [Resource.ofPath?, pieces_taskPath, pieces_of_notMem hslash]
  -- The match takes its fourth row because of `hother`, which `simp` finds by itself.
  simp only [List.map_cons, List.map_nil, String.ofList_nil, String.ofList_toList]
  rw [if_neg htext]

theorem ofPath?_checkpointPath (hslash : '/' ∉ segment) :
    Resource.ofPath? (checkpointPath segment) = some (.checkpoint (.ofList segment)) := by
  have hcheckpoint : '/' ∉ "checkpoint".toList := by decide
  have hpath : checkpointPath segment = taskPath (segment ++ '/' :: "checkpoint".toList) := rfl
  rw [Resource.ofPath?, hpath, pieces_taskPath, pieces_append hslash, pieces_of_notMem hcheckpoint]
  simp only [List.map_cons, List.map_nil, String.ofList_nil, String.ofList_toList]

/-! ### Answers -/

/-- The answer that a request to read gets over a store in memory, and the store behind it. Of all
that is at hand beside the store nothing matters. -/
def get (m : Memory) (moment : Moment) (path query : List Char) :
    Except (Halt Empty) Response × Memory :=
  (handle "GET" ⟨path, query⟩).run (fun q m ↦ m.answer moment q) m

/-- The document that shows a task, with every member and null for what the task does not have. -/
def taskDocument (t : Task) : Json :=
  .obj
    [("conversation_key", .str t.conversation), ("created_at", .str t.createdAt.render),
      ("failure_streak", .int t.failureStreak), ("last_error", t.lastError.elim .null .str),
      ("lease_until", t.leaseUntil.elim .null (.str ·.render)), ("max_cycles", .int t.maxCycles),
      ("max_runtime_seconds", .int t.maxRuntimeSeconds), ("metadata", .obj t.metadata),
      ("next_run_at", t.nextRun.elim .null (.str ·.render)), ("owner_id", .str t.owner),
      ("priority", .int t.priority), ("session_id", .str t.session),
      ("slice_cycles", .int t.sliceCycles), ("status", .str t.status.name), ("task_id", .str t.id),
      ("token_budget_remaining", .int t.tokenBudget), ("updated_at", .str t.updatedAt.render),
      ("worker_id", t.worker.elim .null .str)]

/-- The document that shows a checkpoint. -/
def checkpointDocument (c : Checkpoint) : Json :=
  .obj
    [("created_at", .str c.createdAt.render), ("state", .obj c.state), ("task_id", .str c.task),
      ("task_state", .obj c.taskState), ("updated_at", .str c.updatedAt.render),
      ("version", .int c.version)]

theorem toJson_eq_taskDocument (t : Task) : t.toJson = taskDocument t := by
  have htext (s : Option String) : Json.ofText? s = s.elim .null .str := by
    cases s <;> rfl
  have htime (i : Option Time.Instant) :
      Time.Instant.optionJson i = i.elim .null (.str ·.render) := by
    cases i <;> rfl
  simp only [taskDocument, Task.toJson, Json.record, Keyed.ofList, Keyed.merge, List.foldl_cons,
    List.foldl_nil, Keyed.insert, String.reduceEq, String.reduceLT, reduceIte, htext, htime,
    Time.Instant.toJson]

theorem toJson_eq_checkpointDocument (c : Checkpoint) : c.toJson = checkpointDocument c := by
  simp only [checkpointDocument, Checkpoint.toJson, Json.record, Keyed.ofList, Keyed.merge,
    List.foldl_cons, List.foldl_nil, Keyed.insert, String.reduceEq, String.reduceLT, reduceIte,
    Time.Instant.toJson]

/-- What a store should answer about a task: the record, or that there is none. -/
def taskAnswer (m : Memory) (id : String) : Response :=
  match m.tasks.find? id with
  | some t => ⟨200, some (taskDocument t)⟩
  | none => ⟨404, some (.obj [("error", .str s!"task not found: {id}")])⟩

/-- What a store should answer about the checkpoint of a task. -/
def checkpointAnswer (m : Memory) (id : String) : Response :=
  match m.checkpoints.find? id with
  | some c => ⟨200, some (checkpointDocument c)⟩
  | none => ⟨404, some (.obj [("error", .str s!"no checkpoint for task: {id}")])⟩

variable {m : Memory} {moment : Moment} {id : String} {path query : List Char}

theorem get_of_ofPath? {r : Resource} (h : Resource.ofPath? path = some r) :
    get m moment path query = (read query r).run (fun q m ↦ m.answer moment q) m := by
  rw [get, handle, if_neg (by decide), h]
  rfl

/-- The answer to what a store says, a value or an error. -/
def responseTo {α : Type} (respond : α → Response) : Except StoreError α → Response
  | .ok a => respond a
  | .error e => .ofStoreError e

/-- What the store says to a request is answered. -/
theorem run_answerWith {rq : Request} (v : Except StoreError rq.Value)
    (respond : rq.Value → Response)
    (h : m.perform moment.clock moment.fresh rq = (v.mapError .error, m)) :
    (answerWith (Work.store rq) respond).run (fun q m ↦ m.answer moment q) m =
      (.ok (responseTo respond v), m) := by
  simp only [answerWith, Work.store, Plan.attempt, Plan.ask_bind, Plan.run_ask,
    Memory.answer_store, h]
  cases v <;> rfl

/-- Whoever asks for a task gets it, unless the table is poisoned. -/
theorem get_task (h : Resource.ofPath? path = some (.task (.ofList segment)))
    (hspells : Spells segment (Utf8.encode id)) :
    get m moment path query =
      (.ok (if m.poisoned then ⟨500, some (.obj [("error", .str "store lock poisoned")])⟩
        else taskAnswer m id), m) := by
  rw [get_of_ofPath? h, read, answerStored, decodePath?_of_spells hspells]
  cases hpoisoned : m.poisoned with
  | true =>
    refine (run_answerWith (.error .lockPoisoned) _ ?_).trans rfl
    rw [Memory.perform, Memory.withTasks, if_pos hpoisoned]
    rfl
  | false =>
    have hread : m.perform moment.clock moment.fresh (.getTask id) =
        (.ok (m.tasks.find? id), m) := by
      rw [Memory.perform, Memory.withTasks, hpoisoned]
      rfl
    refine (run_answerWith (.ok (m.tasks.find? id)) _ hread).trans ?_
    rw [if_neg Bool.false_ne_true, taskAnswer, responseTo]
    cases m.tasks.find? id with
    | none => rfl
    | some t => simp only [Response.ok, toJson_eq_taskDocument]

theorem get_checkpoint (h : Resource.ofPath? path = some (.checkpoint (.ofList segment)))
    (hspells : Spells segment (Utf8.encode id)) :
    get m moment path query = (.ok (checkpointAnswer m id), m) := by
  rw [get_of_ofPath? h, read, answerStored, decodePath?_of_spells hspells]
  refine (run_answerWith (.ok (m.checkpoints.find? id)) _ rfl).trans ?_
  rw [checkpointAnswer, responseTo]
  cases m.checkpoints.find? id with
  | none => rfl
  | some c => simp only [Response.ok, toJson_eq_checkpointDocument]

/-- The plain segment `runnable` is the path of the list, whatever tasks there are. -/
theorem get_list (hpoisoned : m.poisoned = false) :
    get m moment (taskPath "runnable".toList) [] =
      (.ok (.ok (.arr ((m.listRunnable moment.clock defaultLimit).map Task.toJson))), m) := by
  have hlist : Resource.ofPath? (taskPath "runnable".toList) = some .runnable := rfl
  have hread : m.perform moment.clock moment.fresh (.listRunnable moment.clock defaultLimit) =
      (.ok (m.listRunnable moment.clock defaultLimit), m) := by
    rw [Memory.perform, Memory.withTasks, hpoisoned]
    rfl
  rw [get_of_ofPath? hlist]
  exact run_answerWith (.ok _) _ hread

/-! ### A task that is named like the list -/

/-- A task that is named like the list. -/
def namesake : Task :=
  { Task.new "runnable" "o" "c" "s" ⟨951827696, 250000000⟩ with
    nextRun := some ⟨951827756, 0⟩, leaseUntil := some ⟨951827786, 0⟩, worker := some "w",
    lastError := some "late" }

/-- A store with this task in it. -/
def namesakeStore : Memory where
  tasks := Register.insert namesake.id namesake ∅

theorem spells_runnable : Spells "runnable".toList (Utf8.encode "runnable") :=
  spells_of_isPlain rfl

theorem spells_runnable_escaped : Spells "%72unnable".toList (Utf8.encode "runnable") := by
  have hrest : Spells "unnable".toList (Utf8.encode "unnable") :=
    spells_of_isPlain rfl
  have hencode : Utf8.encode "runnable" = 0x72 :: Utf8.encode "unnable" := by
    rw [Utf8.encode_eq, Utf8.encode_eq]
    rfl
  rw [hencode]
  exact .escape (x := '7') (y := '2') rfl hrest

/-- An hour at which nothing else happens. -/
def stillMoment : Moment where
  clock := ⟨0, 0⟩
  fresh := ⟨0⟩

/-! ### Every task has a path -/

/-- What is escaped throughout is no word. -/
theorem spelling_ne_runnable (hid : id ≠ "") :
    (Utf8.encode id).flatMap escaped ≠ "runnable".toList := by
  obtain ⟨b, bs, hbs⟩ := List.exists_cons_of_ne_nil (Utf8.encode_ne_nil hid)
  rw [hbs, List.flatMap_cons, escaped, List.cons_append]
  intro h
  have hhead : '%' = 'r' := List.head_eq_of_cons_eq h
  exact absurd hhead (by decide)

/-- **What is stored is answered**, whatever the identifier looks like and however it is spelt, and
nothing is changed. Only the plain segment `runnable` is not the path of a task; a task of that name
has another spelling, as every task has. -/
theorem answers_stored (hid : id ≠ "") (m : Memory) (moment : Moment) :
    (∃ segment, Spells segment (Utf8.encode id) ∧ segment ≠ "runnable".toList) ∧
      ∀ segment query, Spells segment (Utf8.encode id) →
        (segment ≠ "runnable".toList → get m moment (taskPath segment) query =
          (.ok (if m.poisoned then ⟨500, some (.obj [("error", .str "store lock poisoned")])⟩
            else taskAnswer m id), m)) ∧
        get m moment (checkpointPath segment) query = (.ok (checkpointAnswer m id), m) := by
  refine ⟨⟨_, spells_escaped _, spelling_ne_runnable hid⟩, fun segment query hspells ↦ ?_⟩
  have hslash := hspells.slash_notMem
  have hne := hspells.ne_nil (Utf8.encode_ne_nil hid)
  exact ⟨fun hlist ↦ get_task (ofPath?_taskPath hslash hne hlist) hspells,
    get_checkpoint (ofPath?_checkpointPath hslash) hspells⟩

theorem answers_stored_namesake :
    "runnable" ≠ "" ∧ "%72unnable".toList ≠ "runnable".toList ∧
      get namesakeStore stillMoment (taskPath "%72unnable".toList) [] =
        (.ok ⟨200, some (.obj
          [("conversation_key", .str "c"), ("created_at", .str "2000-02-29T12:34:56.250Z"),
            ("failure_streak", .int 0), ("last_error", .str "late"),
            ("lease_until", .str "2000-02-29T12:36:26Z"), ("max_cycles", .int 12),
            ("max_runtime_seconds", .int 1800), ("metadata", .obj []),
            ("next_run_at", .str "2000-02-29T12:35:56Z"), ("owner_id", .str "o"),
            ("priority", .int 0), ("session_id", .str "s"), ("slice_cycles", .int 0),
            ("status", .str "queued"), ("task_id", .str "runnable"),
            ("token_budget_remaining", .int 50000),
            ("updated_at", .str "2000-02-29T12:34:56.250Z"), ("worker_id", .str "w")])⟩,
          namesakeStore) ∧
      get namesakeStore stillMoment (checkpointPath "runnable".toList) [] =
        (.ok ⟨404, some (.obj [("error", .str "no checkpoint for task: runnable")])⟩,
          namesakeStore) := by
  have hname : "runnable" ≠ "" := by decide
  have hother : "%72unnable".toList ≠ "runnable".toList := by decide
  have hmade : (⟨951827696, 250000000⟩ : Time.Instant).render = "2000-02-29T12:34:56.250Z" := by
    decide +kernel
  have hdue : (⟨951827756, 0⟩ : Time.Instant).render = "2000-02-29T12:35:56Z" := by
    decide +kernel
  have hleased : (⟨951827786, 0⟩ : Time.Instant).render = "2000-02-29T12:36:26Z" := by
    decide +kernel
  obtain ⟨-, hall⟩ := answers_stored hname namesakeStore stillMoment
  refine ⟨hname, hother, ?_, (hall _ [] spells_runnable).2⟩
  rw [← hmade, ← hdue, ← hleased]
  exact (hall _ [] spells_runnable_escaped).1 hother

/-- Neither the plain segment nor a poisoned table lets the namesake be found. -/
theorem answers_other :
    (Spells "runnable".toList (Utf8.encode "runnable") ∧ namesakeStore.poisoned = false ∧
      (get namesakeStore stillMoment (taskPath "runnable".toList) []).1 ≠
        .ok (taskAnswer namesakeStore "runnable")) ∧
    (Spells "%72unnable".toList (Utf8.encode "runnable") ∧
      "%72unnable".toList ≠ "runnable".toList ∧
      (get { namesakeStore with poisoned := true } stillMoment
          (taskPath "%72unnable".toList) []).1 ≠
        .ok (taskAnswer { namesakeStore with poisoned := true } "runnable")) := by
  refine ⟨⟨spells_runnable, rfl, ?_⟩, ⟨spells_runnable_escaped, by decide, ?_⟩⟩
  · rw [get_list rfl]
    intro h
    cases h
  · rw [get_task (ofPath?_taskPath (by decide) (by decide) (by decide)) spells_runnable_escaped]
    intro h
    cases h

end Foreman.Api
