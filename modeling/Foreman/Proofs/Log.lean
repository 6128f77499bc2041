import Foreman.Proofs.Answers

/-!
# What a dialogue adds to the log

The log only grows, and nothing but the request for an entry makes it grow. So what a dialogue adds
to it can be read off the dialogue: it is the list of the entries that were asked for and answered
(`logged`). A store in memory has these behind the entries it had, in this order (`Serves.events`),
and each says what it was asked to say (`Serves.enters`).
-/

namespace Foreman

open Time Store

/-- The entry that is added to the log here. -/
def loggedBy? : Answered Ask.Reply → Option Event
  | ⟨.store (.appendEvent ..), .ok e⟩ => some e
  | _ => none

/-- The entries that are added to the log, in their order. -/
def logged (es : List (Answered Ask.Reply)) : List Event :=
  es.filterMap loggedBy?

/-- The question asks for an entry in the log. -/
def Ask.Appends : Ask → Prop
  | .store (.appendEvent ..) => True
  | _ => False

/-- An entry says what it was asked to say. -/
def Ask.Enters : (q : Ask) → q.Reply → Prop
  | .store (.appendEvent task type payload correlation), .ok e =>
    e.task = task ∧ e.type = type ∧ e.payload = payload ∧ e.correlation = correlation
  | _, _ => True

variable {es es' : List (Answered Ask.Reply)}

@[simp] theorem logged_nil : logged [] = [] := rfl

theorem logged_cons (e : Answered Ask.Reply) : logged (e :: es) = logged [e] ++ logged es :=
  List.filterMap_append (l := [e])

@[simp] theorem logged_append : logged (es ++ es') = logged es ++ logged es' :=
  List.filterMap_append

@[simp] theorem logged_appendEvent {task : Option String} {type : String} {payload : Payload}
    {correlation : Option String} {e : Event} :
    logged (⟨.store (.appendEvent task type payload correlation), .ok e⟩ :: es) =
      e :: logged es := rfl

theorem logged_single_of_not_appends {e : Answered Ask.Reply} (h : ¬ e.question.Appends) :
    logged [e] = [] := by
  refine List.filterMap_eq_nil_iff.2 fun e' he' ↦ ?_
  obtain rfl := List.mem_singleton.1 he'
  unfold loggedBy?
  split
  · exact absurd trivial h
  · rfl

/-- A question that asks for no entry adds none. -/
theorem logged_cons_of_not_appends {e : Answered Ask.Reply} (h : ¬ e.question.Appends) :
    logged (e :: es) = logged es := by
  rw [logged_cons, logged_single_of_not_appends h, List.nil_append]

/-- Whoever asks for no entry adds none. -/
theorem logged_eq_nil (h : ∀ e ∈ es, ¬ e.question.Appends) : logged es = [] := by
  induction es with
  | nil => rfl
  | cons e rest ih =>
    obtain ⟨he, hrest⟩ := List.forall_mem_cons.1 h
    rw [logged_cons_of_not_appends he, ih hrest]

namespace Store.Memory

variable {mayFail : Request → Prop} {m m' : Memory}

/-- A request for anything but an entry leaves the log as it is. -/
theorem events_perform_of_not_appends (m : Memory) (clock : Instant) (fresh : Uuid) {rq : Request}
    (h : ¬ (Ask.store rq).Appends) : (m.perform clock fresh rq).2.events = m.events := by
  cases rq with
  | appendEvent => exact absurd trivial h
  | acquireLease id worker seconds now =>
    simp only [perform, withTasks, acquireLease]
    repeat' split
    all_goals rfl
  | _ =>
    simp only [perform, withTasks, answered, upsert, releaseLease, reschedule, saveCheckpoint]
    repeat' split
    all_goals rfl

/-- One request adds its entry to the log, or leaves the log as it is. -/
theorem events_perform (m : Memory) (clock : Instant) (fresh : Uuid) (rq : Request) :
    (m.perform clock fresh rq).2.events =
      m.events ++ logged [⟨.store rq, (m.perform clock fresh rq).1⟩] := by
  by_cases h : (Ask.store rq).Appends
  · cases rq with
    | appendEvent => rfl
    | _ => exact h.elim
  · rw [logged_single_of_not_appends h, List.append_nil, events_perform_of_not_appends m _ _ h]

/-- **One answer** adds its entry to the log, or leaves the log as it is. -/
theorem Replies.events {q : Ask} {reply : q.Reply} (h : m.Replies mayFail q reply m') :
    m'.events = m.events ++ logged [⟨q, reply⟩] := by
  cases q with
  | store rq =>
    rcases h with ⟨clock, fresh, hperform⟩ | ⟨-, ⟨e, rfl⟩, rfl⟩
    · have hevents := events_perform m clock fresh rq
      rwa [hperform] at hevents
    · cases rq <;> exact (List.append_nil _).symm
  | _ =>
    obtain rfl := h
    exact (List.append_nil _).symm

/-- **The log behind a dialogue** is the log before it, and what the dialogue has added. -/
theorem Serves.events (h : m.Serves mayFail es m') : m'.events = m.events ++ logged es := by
  induction es generalizing m with
  | nil => exact h ▸ (List.append_nil _).symm
  | cons e rest ih =>
    obtain ⟨m₁, hreply, hrest⟩ := h
    rw [ih hrest, hreply.events, List.append_assoc, ← logged_cons]

/-- Every entry that a store in memory makes says what it was asked to say. -/
theorem Serves.enters (h : m.Serves mayFail es m') : Answers Ask.Enters es := by
  induction es generalizing m with
  | nil => exact answers_nil
  | cons e rest ih =>
    obtain ⟨m₁, hreply, hrest⟩ := h
    refine answers_cons.2 ⟨?_, ih hrest⟩
    obtain ⟨q, reply⟩ := e
    cases q with
    | store rq =>
      cases rq with
      | appendEvent task type payload correlation =>
        rcases hreply with ⟨clock, fresh, hperform⟩ | ⟨-, ⟨e, rfl⟩, -⟩
        · cases hperform
          exact ⟨rfl, rfl, rfl, rfl⟩
        · trivial
      | _ => trivial
    | _ => trivial

end Store.Memory

end Foreman
