import Foreman.Proofs.Interleaving
import Foreman.Proofs.Log
import Foreman.Proofs.Store.Readiness

/-!
# Sessions

A session is a store in memory together with what will be at hand for every question that it is
still going to be asked. Work that runs in a session has the store to itself until it ends, but time
passes between its questions, identifiers are drawn, and the receiving end of the bus may be given
up at any of them. Nothing fails in a session but what fails in a store in memory
(`Session.serves_transcript`).

If the clock of a session never goes back, its log is a chronicle: the entries are in the order of
their times, and none is later than now (`Session.Chronicled`). Every answer keeps it so
(`Session.Chronicled.answer`), and what a piece of work adds is not older than its beginning
(`Session.OnTime.le_createdAt`).
-/

namespace Foreman

open Time Store

/-! ### Measuring time -/

namespace Time.Instant

variable {a b c : Instant}

/-- The instant does not lie in a leap second. -/
def Plain (a : Instant) : Prop :=
  a.nanos < second

/-- Outside leap seconds, measuring is subtraction. -/
theorem nanos_since (ha : a.Plain) (hb : b.Plain) :
    (a.since b).nanos = (a.seconds - b.seconds) * second + (a.nanos - b.nanos) := by
  have hb' : ¬ second ≤ b.nanos := Nat.not_le.2 hb
  have ha' : ¬ second ≤ a.nanos := Nat.not_le.2 ha
  simp [since, ha', hb']

/-- What is earlier is longer ago. -/
theorem nanos_since_le_of_le (ha : a.Plain) (hb : b.Plain) (hc : c.Plain) (h : b ≤ c) :
    (a.since c).nanos ≤ (a.since b).nanos := by
  rw [nanos_since ha hc, nanos_since ha hb]
  rw [le_def] at h
  rw [Plain, second] at hb hc
  rw [second]
  omega

/-- Later it is longer ago. -/
theorem nanos_since_mono (ha : a.Plain) (hb : b.Plain) (hc : c.Plain) (h : a ≤ b) :
    (a.since c).nanos ≤ (b.since c).nanos := by
  rw [nanos_since ha hc, nanos_since hb hc]
  rw [le_def] at h
  rw [Plain, second] at ha hb
  rw [second]
  omega

end Time.Instant

/-! ### Sessions -/

/-- A store in memory, and what will be at hand when it is asked. -/
structure Session where
  memory : Memory
  /-- What is at hand for the questions to come, in their order. -/
  moments : Nat → Moment

namespace Session

variable {ε α : Type} {s : Session}

/-- The time. -/
def now (s : Session) : Instant :=
  (s.moments 0).clock

/-- Answers one question with what is at hand for it. -/
def answer (q : Ask) (s : Session) : q.Reply × Session :=
  ((s.memory.answer (s.moments 0) q).1,
    ⟨(s.memory.answer (s.moments 0) q).2, fun n ↦ s.moments (n + 1)⟩)

/-- Runs work that has the store to itself. -/
def run (s : Session) (w : Work ε α) : Except (Halt ε) α × Session :=
  w.run answer s

/-- What is said when the work runs. -/
def heard (s : Session) (w : Work ε α) : List (Answered Ask.Reply) :=
  w.transcript answer s

/-- What a piece of work has added to the log. -/
def added (s : Session) (w : Work ε α) : List Event :=
  (s.run w).2.memory.events.drop s.memory.events.length

/-- A sequence that begins with a request goes on with its value. -/
theorem run_store_bind {rq : Request} {v : rq.Value} (h : (s.answer (.store rq)).1 = .ok v)
    (f : rq.Value → Work StoreError α) :
    s.run (Work.store rq >>= f) = (s.answer (.store rq)).2.run (f v) := by
  change ((Plan.ofExcept (s.answer (.store rq)).1 >>= f).run answer (s.answer (.store rq)).2) = _
  rw [h]
  rfl

theorem dialogue_heard (s : Session) (w : Work ε α) : w.Dialogue (s.heard w) (s.run w).1 :=
  w.dialogue_run answer s

/-- **The induction over a run**: what every answer preserves, work preserves. -/
theorem run_invariant {I : Session → Prop} (hstep : ∀ q s, I s → I (s.answer q).2) (hs : I s)
    (w : Work ε α) : I (s.run w).2 := by
  induction w generalizing s with
  | done a => exact hs
  | halt h => exact hs
  | ask q next ih => exact ih _ (hstep q s hs)

/-- One answer is that of a store in memory. -/
theorem replies_answer (s : Session) (q : Ask) :
    s.memory.Replies (fun _ ↦ False) q (s.answer q).1 (s.answer q).2.memory := by
  cases q with
  | store rq => exact .inl ⟨_, _, rfl⟩
  | _ => rfl

/-- **The store of a session serves what is said in it**, and no request fails there without cause.
-/
theorem serves_heard (s : Session) (w : Work ε α) :
    s.memory.Serves (fun _ ↦ False) (s.heard w) (s.run w).2.memory := by
  induction w generalizing s with
  | done a => rfl
  | halt h => rfl
  | ask q next ih => exact ⟨_, s.replies_answer q, ih _ _⟩

theorem events_run (s : Session) (w : Work ε α) :
    (s.run w).2.memory.events = s.memory.events ++ s.added w := by
  rw [added, (s.serves_heard w).events, List.drop_left]

theorem added_eq_logged (s : Session) (w : Work ε α) : s.added w = logged (s.heard w) := by
  rw [added, (s.serves_heard w).events, List.drop_left]

theorem filed_run (hs : s.memory.Filed) (w : Work ε α) : (s.run w).2.memory.Filed := by
  refine run_invariant (I := fun s ↦ s.memory.Filed) (fun q s hs ↦ ?_) hs w
  cases q with
  | store rq => exact hs.after ⟨(s.moments 0).clock, (s.moments 0).fresh, rq⟩
  | _ => exact hs

/-- The bus of a session delivers while somebody holds its receiving end. -/
theorem delivers_heard (h : ∀ n, (s.moments n).receiving = true) (w : Work ε α) :
    Answers Ask.Delivers (s.heard w) := by
  induction w generalizing s with
  | done a => exact answers_nil
  | halt h => exact answers_nil
  | ask q next ih =>
    refine answers_cons.2 ⟨?_, ih _ fun n ↦ h (n + 1)⟩
    cases q with
    | busOpen => exact h 0
    | enqueue signal => exact h 0
    | _ => trivial

/-! ### Clocks that do not go back -/

/-- The clock never goes back, and like the clock of every system it counts no leap seconds. -/
structure OnTime (s : Session) : Prop where
  forward : ∀ i j, i ≤ j → (s.moments i).clock ≤ (s.moments j).clock
  plain : ∀ i, (s.moments i).clock.Plain

theorem OnTime.answer (h : s.OnTime) (q : Ask) : (s.answer q).2.OnTime where
  forward i j hij := h.forward (i + 1) (j + 1) (Nat.succ_le_succ hij)
  plain i := h.plain (i + 1)

theorem OnTime.now_le (h : s.OnTime) (q : Ask) : s.now ≤ (s.answer q).2.now :=
  h.forward 0 1 (Nat.zero_le 1)

theorem OnTime.run (h : s.OnTime) (w : Work ε α) : (s.run w).2.OnTime :=
  run_invariant (fun q _ hs ↦ hs.answer q) h w

/-- An entry is made at the time at which it is asked for. -/
theorem createdAt_of_answer {q : Ask} {e : Event} (he : e ∈ logged [⟨q, (s.answer q).1⟩]) :
    e.createdAt = s.now := by
  by_cases hq : q.Appends
  · unfold Ask.Appends at hq
    split at hq
    · obtain rfl := List.mem_singleton.1 he
      rfl
    · exact hq.elim
  · rw [logged_single_of_not_appends hq] at he
    cases he

/-- **A chronicle**: the entries of the log are in the order of their times, and none of them is
later than now. -/
structure Chronicled (s : Session) : Prop where
  onTime : s.OnTime
  ordered : s.memory.events.Pairwise fun e e' ↦ e.createdAt ≤ e'.createdAt
  past : ∀ e ∈ s.memory.events, e.createdAt ≤ s.now ∧ e.createdAt.Plain

/-- A store that is new has a chronicle. -/
theorem Chronicled.of_empty (h : s.OnTime) (hs : s.memory = {}) : s.Chronicled where
  onTime := h
  ordered := hs ▸ List.Pairwise.nil
  past := by simp [hs]

/-- **One answer** keeps the chronicle. -/
theorem Chronicled.answer (h : s.Chronicled) (q : Ask) : (s.answer q).2.Chronicled := by
  have hevents := (s.replies_answer q).events
  have hlater := h.onTime.now_le q
  refine ⟨h.onTime.answer q, ?_, ?_⟩
  · rw [hevents, List.pairwise_append]
    refine ⟨h.ordered, ?_, fun e he e' he' ↦ ?_⟩
    · refine List.Pairwise.imp_of_mem (R := fun _ _ ↦ True) (fun he he' _ ↦ ?_)
        (List.pairwise_of_forall fun _ _ ↦ trivial)
      rw [createdAt_of_answer he, createdAt_of_answer he']
      exact Instant.le_refl _
    · rw [createdAt_of_answer he']
      exact (h.past e he).1
  · intro e he
    rw [hevents] at he
    rcases List.mem_append.1 he with he | he
    · exact ⟨Instant.le_trans (h.past e he).1 hlater, (h.past e he).2⟩
    · rw [createdAt_of_answer he]
      exact ⟨hlater, h.onTime.plain 0⟩

/-- Work keeps the chronicle. -/
theorem Chronicled.run (h : s.Chronicled) (w : Work ε α) : (s.run w).2.Chronicled :=
  run_invariant (fun q _ hs ↦ hs.answer q) h w

/-- **What a piece of work adds is not older than its beginning.** -/
theorem OnTime.le_createdAt (h : s.OnTime) (w : Work ε α) :
    ∀ e ∈ s.added w, s.now ≤ e.createdAt := by
  rw [added_eq_logged]
  induction w generalizing s with
  | done a => exact List.forall_mem_nil _
  | halt e => exact List.forall_mem_nil _
  | ask q next ih =>
    intro e he
    change e ∈ logged (⟨q, (s.answer q).1⟩ :: (s.answer q).2.heard (next (s.answer q).1)) at he
    rw [logged_cons] at he
    rcases List.mem_append.1 he with he | he
    · rw [createdAt_of_answer he]
      exact Instant.le_refl _
    · exact Instant.le_trans (h.now_le q) (ih _ (h.answer q) e he)

end Session

end Foreman
