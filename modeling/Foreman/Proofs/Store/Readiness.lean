import Foreman.Proofs.Interleaving

/-!
# Tasks that stay ready

A task is runnable when it is schedulable, due and not leased. Leases come and go with every tick;
the other two are its **readiness**, and they are changed by two requests only: storing the record
anew and rescheduling it (`Unsettles`). All other requests, by whomever, leave a task that is ready
as ready as it was (`ReadyAt.after`), also those that take its lease or give it back.

A record is found by the identifier that it carries in every store that began empty (`Filed`), which
is what connects a task on a list with the record under its identifier.
-/

namespace Foreman.Store

open Time

/-- Every record is filed under the identifier that it carries. -/
def Memory.Filed (m : Memory) : Prop :=
  ∀ id t, m.tasks.find? id = some t → t.id = id

/-- A call files records under their own identifiers. -/
theorem Memory.Filed.after {m : Memory} (h : m.Filed) (c : Call) : (m.after c).Filed := by
  intro id t ht
  rcases find?_or_rewrites ht with hfound | ⟨-, hrewrites⟩
  · exact h id t hfound
  · cases hrewrites with
    | upsert clock fresh hid => exact hid
    | lease clock fresh hfound _ _ =>
      have hid := h id _ hfound
      exact hid
    | unlease clock fresh hfound _ =>
      have hid := h id _ hfound
      exact hid
    | reschedule clock fresh hfound _ _ =>
      have hid := h id _ hfound
      exact hid

theorem Memory.Filed.afterAll {m : Memory} (h : m.Filed) (calls : List Call) :
    (m.afterAll calls).Filed :=
  invariant_afterAll (fun _ c h ↦ h.after c) h calls

/-- A store that began empty is filed, whatever was asked of it. -/
theorem Memory.filed_afterAll_empty (calls : List Call) : (afterAll {} calls).Filed := by
  refine Filed.afterAll ?_ calls
  intro id t ht
  cases ht

/-- A record of the table is the one found by the identifier that it carries. -/
theorem Memory.Filed.mem_values {m : Memory} (h : m.Filed) {t : Task} :
    t ∈ m.tasks.values ↔ m.tasks.find? t.id = some t := by
  constructor
  · intro hvalue
    obtain ⟨⟨id, _⟩, hentry, rfl⟩ := List.mem_map.1 hvalue
    have hfind := Register.find?_eq_some_iff_mem.2 hentry
    exact h id _ hfind ▸ hfind
  · intro hfind
    exact List.mem_map.2 ⟨(t.id, t), Register.find?_eq_some_iff_mem.1 hfind, rfl⟩

/-- A list of all tasks holds what is stored. -/
theorem Memory.Filed.mem_listTasks {m : Memory} (h : m.Filed) {t : Task} :
    t ∈ m.listTasks ↔ m.tasks.find? t.id = some t :=
  List.mem_mergeSort.trans h.mem_values

/-- No two records carry the same identifier. -/
theorem Memory.Filed.nodup_ids {m : Memory} (h : m.Filed) : (m.tasks.values.map (·.id)).Nodup := by
  have hkeys : m.tasks.values.map (·.id) = m.tasks.keys := by
    rw [Register.values, Register.keys, List.map_map]
    exact List.map_congr_left fun e he ↦ h e.1 e.2 (Register.find?_eq_some_iff_mem.2 he)
  exact hkeys ▸ m.tasks.nodup_keys

/-- No task is listed twice. -/
theorem Memory.Filed.nodup_ids_listTasks {m : Memory} (h : m.Filed) :
    (m.listTasks.map (·.id)).Nodup :=
  ((List.mergeSort_perm _ _).map _).nodup_iff.2 h.nodup_ids

/-- A list of runnable tasks leaves the store as it is. -/
theorem Memory.perform_listRunnable_snd (m : Memory) (clock now : Instant) (fresh : Uuid)
    (limit : Nat) : (m.perform clock fresh (.listRunnable now limit)).2 = m := by
  simp only [perform, withTasks]
  split <;> rfl

theorem Memory.eq_of_perform_listRunnable {m : Memory} {clock now : Instant} {fresh : Uuid}
    {limit : Nat} {batch : List Task}
    (h : (m.perform clock fresh (.listRunnable now limit)).1 = .ok batch) :
    batch = m.listRunnable now limit := by
  simp only [perform, withTasks] at h
  split at h
  · cases h
  · exact (Except.ok.inj h).symm

/-- What is listed as runnable is stored, and runnable. -/
theorem Memory.Filed.find?_of_mem_listRunnable {m : Memory} (h : m.Filed) {now : Instant}
    {limit : Nat} {t : Task} (ht : t ∈ m.listRunnable now limit) :
    m.tasks.find? t.id = some t ∧ t.isRunnable now = true := by
  have hsorted := List.mem_mergeSort.1 (List.mem_of_mem_take ht)
  obtain ⟨hvalue, hrunnable⟩ := List.mem_filter.1 hsorted
  exact ⟨h.mem_values.1 hvalue, hrunnable⟩

/-! ### Readiness -/

/-- The task of an identifier is stored, schedulable and due. -/
def ReadyAt (m : Memory) (id : String) (now : Instant) : Prop :=
  ∃ t, m.tasks.find? id = some t ∧ t.status.isSchedulable = true ∧ t.isDueAt now = true

/-- The request can change whether a task is ready: it stores the record anew, or it reschedules it.
-/
inductive Request.Unsettles (id : String) : Request → Prop where
  | upsert {t : Task} (hid : t.id = id) : Unsettles id (.upsert t)
  | reschedule (worker : String) (nextRun : Option Instant) (status : Status) :
    Unsettles id (.reschedule id worker nextRun status)

variable {m : Memory} {id : String} {now : Instant}

/-- **One call** leaves a task ready, unless it is one of the two. -/
theorem ReadyAt.after (h : ReadyAt m id now) {c : Call} (hc : ¬ c.request.Unsettles id) :
    ReadyAt (m.after c) id now := by
  obtain ⟨t, ht, hstatus, hdue⟩ := h
  rcases Memory.find?_after m c id with hsame | ⟨-, t', hrewrites, hfind⟩
  · exact ⟨t, hsame.trans ht, hstatus, hdue⟩
  · cases hrewrites with
    | upsert clock fresh hid => exact absurd (.upsert hid) hc
    | lease clock fresh ht' _ _ =>
      obtain rfl := Option.some.inj (ht.symm.trans ht')
      refine ⟨_, hfind, ?_, hdue⟩
      -- A queued task is running once it is leased, and may be picked up as before.
      simp only [Task.leasedBy]
      split
      · rfl
      · exact hstatus
    | unlease clock fresh ht' _ =>
      obtain rfl := Option.some.inj (ht.symm.trans ht')
      exact ⟨_, hfind, hstatus, hdue⟩
    | reschedule clock fresh _ _ _ => exact absurd (.reschedule ..) hc

/-- A history leaves a task ready in which nobody stores or reschedules it. -/
theorem ReadyAt.afterAll (h : ReadyAt m id now) {calls : List Call}
    (hcalls : ∀ c ∈ calls, ¬ c.request.Unsettles id) : ReadyAt (m.afterAll calls) id now :=
  Along.invariant (I := fun s ↦ ReadyAt s id now) (fun _ _ h hc ↦ h.after hc) h
    (Along.of_forall hcalls m)

/-- Exchanges leave a task ready in which neither the work nor the others store or reschedule it. -/
theorem ReadyAt.through (h : ReadyAt m id now) {es : List Exchange}
    (hothers : ∀ e ∈ es, ∀ c ∈ e.others, ¬ c.request.Unsettles id)
    (hown : ∀ e ∈ es, ∀ request, e.question = .store request → ¬ request.Unsettles id) :
    ReadyAt (m.through es) id now := by
  induction es generalizing m with
  | nil => exact h
  | cons e rest ih =>
    have hfound : ReadyAt (e.found m) id now := h.afterAll (hothers e (by simp))
    have hleft : ReadyAt (e.left m) id now := by
      obtain ⟨others, moment, question⟩ := e
      cases question with
      | store request =>
        exact hfound.after (c := ⟨moment.clock, moment.fresh, request⟩)
          (hown ⟨others, moment, .store request⟩ (by simp) request rfl)
      | _ => exact hfound
    exact ih hleft (fun e he ↦ hothers e (List.mem_cons_of_mem _ he))
      fun e he ↦ hown e (List.mem_cons_of_mem _ he)

end Foreman.Store
