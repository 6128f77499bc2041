import Foreman.Proofs.Answers
import Foreman.Proofs.Runner.Dispatch

/-!
# The stages of a tick

The dialogues of a tick, written out. A tick lists tasks (`Ticked`), tries candidates one after the
other (`Tried`), dispatches the first whose lease it is granted (`Dispatched`), and gives the lease
back (`Released`). Each of these says which questions were asked, what the answers were, and what
became of it, for every way in which the stage can end; the theorem beside it says that there are no
others. Whoever reasons about a tick splits on the stage and opens no plan. That a store may be as
unkind as it likes is not idle: whichever candidates are refused and however the dispatch of the
next one ends, there is a tick that goes that way (`dialogue_tick_of_granted`).

Nothing is supposed of the answers here. A store may list what it likes, grant and refuse leases as
it likes, and fail at any request.
-/

namespace Foreman

open Time Store

/-- When a task that is dispatched at `now` is due again, `none` beyond the calendar. -/
def RunnerConfig.due? (c : RunnerConfig) (now : Instant) : Option Instant :=
  (Span.ofSeconds? (max c.cooldownSeconds 0)).bind now.add?

/-- For how long a warning silences the next, `none` beyond the longest span. -/
def RunnerConfig.warningSpan? (c : RunnerConfig) : Option Span :=
  Span.ofSeconds? (max c.warningCooldownSeconds 0)

namespace Runner

variable {r : Runner} {now : Instant} {t : Task} {es es' : List (Answered Ask.Reply)}

theorem dialogue_request {rq : Request} {result : Except (Halt TickError) rq.Value} :
    (request rq).Dialogue es result ↔
      ∃ reply : Except (Halt StoreError) rq.Value, es = [⟨.store rq, reply⟩] ∧
        result = reply.mapError (Halt.map .store) := by
  rw [request, Plan.dialogue_mapError]
  constructor
  · rintro ⟨_, ⟨reply, rest, rfl, h⟩, rfl⟩
    obtain ⟨rfl, rfl⟩ := Plan.dialogue_ofExcept.1 h
    exact ⟨_, rfl, rfl⟩
  · rintro ⟨reply, rfl, rfl⟩
    exact ⟨reply, ⟨reply, [], rfl, Plan.dialogue_ofExcept.2 ⟨rfl, rfl⟩⟩, rfl⟩

/-- A sequence that begins with a request ends with its halt, or goes on with its value. -/
theorem dialogue_request_bind {α : Type} {rq : Request} {f : rq.Value → Work TickError α}
    {result : Except (Halt TickError) α} (h : (request rq >>= f).Dialogue es result) :
    (∃ halt, es = [⟨.store rq, .error halt⟩] ∧ result = .error (halt.map .store)) ∨
      ∃ v rest, es = ⟨.store rq, .ok v⟩ :: rest ∧ (f v).Dialogue rest result := by
  rcases Plan.dialogue_bind.1 h with ⟨halt, rfl, hrequest⟩ | ⟨v, _, rest, rfl, hrequest, hrest⟩
  · obtain ⟨reply, rfl, hreply⟩ := dialogue_request.1 hrequest
    cases reply with
    | ok v => cases hreply
    | error halt' =>
      obtain rfl := Except.error.inj hreply
      exact .inl ⟨halt', rfl, rfl⟩
  · obtain ⟨reply, rfl, hreply⟩ := dialogue_request.1 hrequest
    cases reply with
    | error halt => cases hreply
    | ok v' =>
      obtain rfl := Except.ok.inj hreply
      exact .inr ⟨v, rest, rfl, hrest⟩

theorem dialogue_of_request {α : Type} (rq : Request) (v : rq.Value)
    {f : rq.Value → Work TickError α} {result : Except (Halt TickError) α}
    (h : (f v).Dialogue es result) :
    (request rq >>= f).Dialogue (⟨.store rq, .ok v⟩ :: es) result :=
  ⟨.ok v, es, rfl, h⟩

theorem dialogue_of_failed {α : Type} (rq : Request) (halt : Halt StoreError)
    (f : rq.Value → Work TickError α) :
    (request rq >>= f).Dialogue [⟨.store rq, .error halt⟩] (.error (halt.map .store)) :=
  ⟨.error halt, [], rfl, rfl, rfl⟩

/-! ### The dispatch -/

/-- What the signal of a dispatch is made of. -/
structure Stamp where
  correlation : Uuid
  birth : Signal.Birth

namespace Stamp

/-- The questions that it takes to make a signal. -/
def asked (stamp : Stamp) : List (Answered Ask.Reply) :=
  [⟨.freshId, stamp.correlation⟩, ⟨.freshId, stamp.birth.id⟩, ⟨.freshId, stamp.birth.correlation⟩,
    ⟨.clock, stamp.birth.at_⟩]

/-- The signal that asks for a slice of a task. -/
def signal (stamp : Stamp) (t : Task) : Signal :=
  sliceSignal stamp.birth stamp.correlation.render t

theorem isSliceOf_signal (stamp : Stamp) (t : Task) : IsSliceOf t (stamp.signal t) :=
  isSliceOf_sliceSignal ..

theorem correlation_signal (stamp : Stamp) (t : Task) :
    (stamp.signal t).correlation = stamp.correlation.render :=
  correlation_sliceSignal ..

/-- The request that records the dispatch of a task. -/
abbrev entry (stamp : Stamp) (r : Runner) (t : Task) : Request :=
  .appendEvent (some t.id) EventType.sliceRequested (r.dispatchPayload t)
    (some stamp.correlation.render)

/-- A stamp of three fixed identifiers. -/
def plain (now : Instant) : Stamp :=
  ⟨⟨0⟩, ⟨⟨1⟩, ⟨2⟩, now⟩⟩

end Stamp

/-- The request that puts a task off until it is due again. -/
abbrev putOff (r : Runner) (t : Task) (due : Instant) : Request :=
  .reschedule t.id r.config.worker (some due) .running

/-- **The ways in which a dispatch can end**, behind the questions for its stamp. -/
inductive Dispatched (r : Runner) (now : Instant) (t : Task) (stamp : Stamp) :
    List (Answered Ask.Reply) → Except (Halt TickError) Unit → Prop where
  | closed : Dispatched r now t stamp [⟨.busOpen, false⟩] (.error (.error (.bus .closed)))
  /-- The receiver was given up between the two questions to the bus. -/
  | hungUp :
    Dispatched r now t stamp [⟨.busOpen, true⟩, ⟨.enqueue (stamp.signal t), false⟩]
      (.error (.error (.bus .closed)))
  | unlogged (halt : Halt StoreError) :
    Dispatched r now t stamp
      [⟨.busOpen, true⟩, ⟨.enqueue (stamp.signal t), true⟩, ⟨.store (stamp.entry r t), .error halt⟩]
      (.error (halt.map .store))
  | endless (e : Event) (hdue : r.config.due? now = none) :
    Dispatched r now t stamp
      [⟨.busOpen, true⟩, ⟨.enqueue (stamp.signal t), true⟩, ⟨.store (stamp.entry r t), .ok e⟩]
      (.error .crash)
  | putOff (e : Event) {due : Instant} (hdue : r.config.due? now = some due)
    (reply : Except (Halt StoreError) Bool) :
    Dispatched r now t stamp
      [⟨.busOpen, true⟩, ⟨.enqueue (stamp.signal t), true⟩, ⟨.store (stamp.entry r t), .ok e⟩,
        ⟨.store (r.putOff t due), reply⟩]
      ((reply.mapError (Halt.map .store)).map fun _ ↦ ())

/-- A signal that is not durable is handed to the bus if that is open, and nothing else happens. -/
theorem dialogue_emit_bind {α : Type} (bus : Bus) {s : Signal} (hs : s.durable = false)
    {f : Unit → Work TickError α} {result : Except (Halt TickError) α}
    (h : ((bus.emit s).mapError .bus >>= f).Dialogue es result) :
    (es = [⟨.busOpen, false⟩] ∧ result = .error (.error (.bus .closed))) ∨
      (es = [⟨.busOpen, true⟩, ⟨.enqueue s, false⟩] ∧ result = .error (.error (.bus .closed))) ∨
        ∃ rest, es = ⟨.busOpen, true⟩ :: ⟨.enqueue s, true⟩ :: rest ∧
          (f ()).Dialogue rest result := by
  obtain ⟨isOpen, _, rfl, h⟩ := h
  cases isOpen with
  | false =>
    obtain ⟨rfl, rfl⟩ := h
    exact .inl ⟨rfl, rfl⟩
  | true =>
    have hrecord : bus.record s = .done () := by simp [Bus.record, hs]
    change ((bus.record s >>= fun _ ↦ _).mapError TickError.bus >>= f).Dialogue _ result at h
    rw [hrecord] at h
    obtain ⟨received, rest, rfl, h⟩ := h
    cases received with
    | false =>
      obtain ⟨rfl, rfl⟩ := h
      exact .inr (.inl ⟨rfl, rfl⟩)
    | true => exact .inr (.inr ⟨rest, rfl, h⟩)

theorem dialogue_emit_of_hungUp (bus : Bus) {s : Signal} (hs : s.durable = false) :
    ((bus.emit s).mapError TickError.bus).Dialogue [⟨.busOpen, true⟩, ⟨.enqueue s, false⟩]
      (.error (.error (.bus .closed))) := by
  have hrecord : bus.record s = .done () := by simp [Bus.record, hs]
  refine ⟨true, _, rfl, ?_⟩
  change ((bus.record s >>= fun _ ↦ _).mapError TickError.bus).Dialogue _ _
  rw [hrecord]
  exact ⟨false, [], rfl, rfl, rfl⟩

theorem dialogue_emit_of_open (bus : Bus) {s : Signal} (hs : s.durable = false) :
    ((bus.emit s).mapError TickError.bus).Dialogue [⟨.busOpen, true⟩, ⟨.enqueue s, true⟩]
      (.ok ()) := by
  have hrecord : bus.record s = .done () := by simp [Bus.record, hs]
  refine ⟨true, _, rfl, ?_⟩
  change ((bus.record s >>= fun _ ↦ _).mapError TickError.bus).Dialogue _ _
  rw [hrecord]
  exact ⟨true, [], rfl, rfl, rfl⟩

/-- What a dispatch does once it has its stamp. -/
def deliver (r : Runner) (now : Instant) (t : Task) (stamp : Stamp) : Work TickError Unit := do
  (r.bus.emit (stamp.signal t)).mapError .bus
  let _ ← request (stamp.entry r t)
  let due ← Plan.require (r.config.due? now)
  let _ ← request (r.putOff t due)
  pure ()

theorem dispatchLeased_eq (r : Runner) (now : Instant) (t : Task) :
    r.dispatchLeased now t = (do
      let correlation ← Work.freshId
      let birth ← Work.birth
      r.deliver now t ⟨correlation, birth⟩) := by
  have hdue (f : Instant → Work TickError Unit) :
      (Plan.require (Span.ofSeconds? (max r.config.cooldownSeconds 0)) >>= fun cooldown ↦
        Plan.require (now.add? cooldown) >>= f) = Plan.require (r.config.due? now) >>= f := by
    rw [RunnerConfig.due?]
    cases Span.ofSeconds? (max r.config.cooldownSeconds 0) <;> rfl
  simp only [dispatchLeased, hdue]
  rfl

/-- **A dispatch** gets its stamp and ends in one of these ways. -/
theorem dispatched_of_dialogue {result : Except (Halt TickError) Unit}
    (h : (r.dispatchLeased now t).Dialogue es result) :
    ∃ stamp es', es = stamp.asked ++ es' ∧ Dispatched r now t stamp es' result := by
  rw [dispatchLeased_eq] at h
  -- Three identifiers and the time make the stamp.
  obtain ⟨correlation, _, rfl, id, _, rfl, correlation', _, rfl, at_, rest, rfl, h⟩ := h
  let stamp : Stamp := ⟨correlation, ⟨id, correlation', at_⟩⟩
  change (r.deliver now t stamp).Dialogue rest result at h
  refine ⟨stamp, rest, rfl, ?_⟩
  have hdurable := (stamp.isSliceOf_signal t).durable
  rcases dialogue_emit_bind r.bus hdurable h with ⟨rfl, rfl⟩ | ⟨rfl, rfl⟩ | ⟨_, rfl, hentry⟩
  · exact .closed
  · exact .hungUp
  rcases dialogue_request_bind hentry with ⟨halt, rfl, rfl⟩ | ⟨e, _, rfl, hput⟩
  · exact .unlogged halt
  rcases hdue : r.config.due? now with _ | due
  · rw [hdue] at hput
    obtain ⟨rfl, rfl⟩ := hput
    exact .endless e hdue
  · rw [hdue] at hput
    rcases dialogue_request_bind hput with ⟨halt, rfl, rfl⟩ | ⟨moved, _, rfl, rfl, rfl⟩
    · exact .putOff e hdue (.error halt)
    · exact .putOff e hdue (.ok moved)

/-- Each of these ways is possible. -/
theorem dialogue_of_dispatched {stamp : Stamp} {result : Except (Halt TickError) Unit}
    (h : Dispatched r now t stamp es result) :
    (r.dispatchLeased now t).Dialogue (stamp.asked ++ es) result := by
  rw [dispatchLeased_eq]
  refine ⟨_, _, rfl, _, _, rfl, _, _, rfl, _, _, rfl, ?_⟩
  change (r.deliver now t stamp).Dialogue es result
  have hdurable := (stamp.isSliceOf_signal t).durable
  have hopen := dialogue_emit_of_open r.bus hdurable
  cases h with
  | closed => exact Plan.dialogue_bind.2 (.inl ⟨_, rfl, false, [], rfl, rfl, rfl⟩)
  | hungUp => exact Plan.dialogue_bind.2 (.inl ⟨_, rfl, dialogue_emit_of_hungUp r.bus hdurable⟩)
  | unlogged halt =>
    exact hopen.bind (dialogue_of_failed (stamp.entry r t) halt _)
  | endless e hdue =>
    refine hopen.bind (dialogue_of_request (stamp.entry r t) e ?_)
    rw [hdue]
    exact ⟨rfl, rfl⟩
  | putOff e hdue reply =>
    refine hopen.bind (dialogue_of_request (stamp.entry r t) e ?_)
    rw [hdue]
    cases reply with
    | error halt => exact dialogue_of_failed (r.putOff t _) halt _
    | ok moved => exact dialogue_of_request (r.putOff t _) moved ⟨rfl, rfl⟩

/-! ### Giving the lease back -/

/-- The result of a dispatch behind which the lease is given back: of two errors that of the
dispatch, and a crash if giving the lease back crashes. -/
def settled : Except TickError Unit → Except (Halt StoreError) Unit → Except (Halt TickError) Unit
  | _, .error .crash => .error .crash
  | .error e, _ => .error (.error e)
  | .ok (), .error (.error e) => .error (.error (.store e))
  | .ok (), .ok () => .ok ()

/-- **The lease is given back** behind every dispatch that does not crash, however it ended. -/
theorem dialogue_dispatchAndRelease {result : Except (Halt TickError) Unit}
    (h : (r.dispatchAndRelease now t).Dialogue es result) :
    ((r.dispatchLeased now t).Dialogue es (.error .crash) ∧ result = .error .crash) ∨
      ∃ (es' : List (Answered Ask.Reply)) (dispatched : Except TickError Unit)
        (released : Except (Halt StoreError) Unit),
        (r.dispatchLeased now t).Dialogue es' (dispatched.mapError .error) ∧
        es = es' ++ [⟨.store (.releaseLease t.id r.config.worker), released⟩] ∧
        result = settled dispatched released := by
  rcases Plan.dialogue_attempt_bind.1 h with ⟨hcrash, rfl⟩ |
    ⟨dispatched, es', _, rfl, hleased, hrest⟩
  · exact .inl ⟨hcrash, rfl⟩
  refine .inr ⟨es', dispatched, ?_⟩
  -- Giving the lease back is attempted too: its error is weighed against that of the dispatch.
  rcases Plan.dialogue_attempt_bind.1 hrest with ⟨hcrash, rfl⟩ |
    ⟨inner, es₁, _, rfl, hrelease, hend⟩
  · obtain ⟨reply, rfl, hreply⟩ := dialogue_request.1 hcrash
    rcases reply with (_ | _) | _
    · cases hreply
    · exact ⟨.error .crash, hleased, rfl, rfl⟩
    · cases hreply
  · obtain ⟨reply, rfl, hreply⟩ := dialogue_request.1 hrelease
    rcases reply with (e | _) | _ <;> rcases inner with e' | _ <;> cases hreply <;>
      rcases dispatched with d | _ <;> obtain ⟨rfl, rfl⟩ := hend
    · exact ⟨.error (.error e), hleased, rfl, rfl⟩
    · exact ⟨.error (.error e), hleased, rfl, rfl⟩
    · exact ⟨.ok (), hleased, rfl, rfl⟩
    · exact ⟨.ok (), hleased, rfl, rfl⟩

/-- However a dispatch ends that does not crash, and however the lease is given back. -/
theorem dialogue_of_released (dispatched : Except TickError Unit)
    (h : (r.dispatchLeased now t).Dialogue es (dispatched.mapError .error))
    (released : Except (Halt StoreError) Unit) :
    (r.dispatchAndRelease now t).Dialogue
      (es ++ [⟨.store (.releaseLease t.id r.config.worker), released⟩])
      (settled dispatched released) := by
  refine Plan.dialogue_attempt_bind.2 (.inr ⟨dispatched, es, _, rfl, h, ?_⟩)
  rcases released with (e | _) | _
  · refine Plan.dialogue_attempt_bind.2 (.inr ⟨.error (.store e), _, [],
      (List.append_nil _).symm, ⟨.error (.error e), [], rfl, rfl, rfl⟩, ?_⟩)
    rcases dispatched with _ | _ <;> exact ⟨rfl, rfl⟩
  · exact Plan.dialogue_attempt_bind.2 (.inl ⟨⟨.error .crash, [], rfl, rfl, rfl⟩, rfl⟩)
  · refine Plan.dialogue_attempt_bind.2 (.inr ⟨.ok (), _, [], (List.append_nil _).symm,
      ⟨.ok (), [], rfl, rfl, rfl⟩, ?_⟩)
    rcases dispatched with _ | _ <;> exact ⟨rfl, rfl⟩

/-! ### Trying candidates -/

/-- The request for the lease of a task. -/
abbrev lease (r : Runner) (now : Instant) (t : Task) : Request :=
  .acquireLease t.id r.config.worker r.config.leaseSeconds now

/-- The leases of these tasks are asked for, and each is refused. -/
def refusals (r : Runner) (now : Instant) (tasks : List Task) : List (Answered Ask.Reply) :=
  tasks.map fun t ↦ ⟨.store (r.lease now t), .ok false⟩

/-- **The ways in which the trying of candidates can end**, behind so many refusals and with these
candidates left. -/
inductive Tried (r : Runner) (now : Instant) (refused : Nat) :
    List Task → List (Answered Ask.Reply) → Except (Halt TickError) (Option Task × Nat) → Prop where
  | exhausted : Tried r now refused [] [] (.ok (none, refused))
  | halted (t : Task) (untried : List Task) (halt : Halt StoreError) :
    Tried r now refused (t :: untried) [⟨.store (r.lease now t), .error halt⟩]
      (.error (halt.map .store))
  | granted (t : Task) (untried : List Task) {es : List (Answered Ask.Reply)}
    {result : Except (Halt TickError) Unit} (h : (r.dispatchAndRelease now t).Dialogue es result) :
    Tried r now refused (t :: untried) (⟨.store (r.lease now t), .ok true⟩ :: es)
      (result.map fun _ ↦ (some t, refused))

theorem Tried.succ {refused : Nat} {rest : List Task}
    {result : Except (Halt TickError) (Option Task × Nat)}
    (h : Tried r now refused rest es result) :
    Tried r now (refused + 1) rest es (result.map fun (dispatched, n) ↦ (dispatched, n + 1)) := by
  cases h with
  | exhausted => exact .exhausted
  | halted t untried halt => exact .halted t untried halt
  | @granted t untried es result h =>
    cases result with
    | error halt => exact .granted t untried h
    | ok _ => exact .granted t untried h

/-- **Candidates are tried in their order**, each behind the refusal of the one before. -/
theorem tried_of_dialogue {tasks : List Task}
    {result : Except (Halt TickError) (Option Task × Nat)}
    (h : (r.dispatchFirst now tasks).Dialogue es result) :
    ∃ refused rest es', tasks = refused ++ rest ∧ es = r.refusals now refused ++ es' ∧
      Tried r now refused.length rest es' result := by
  induction tasks generalizing es result with
  | nil =>
    obtain ⟨rfl, rfl⟩ := h
    exact ⟨[], [], [], rfl, rfl, .exhausted⟩
  | cons t rest ih =>
    rcases dialogue_request_bind h with ⟨halt, rfl, rfl⟩ | ⟨leased, es, rfl, hleased⟩
    · exact ⟨[], t :: rest, _, rfl, rfl, .halted t rest halt⟩
    cases leased with
    | true =>
      refine ⟨[], t :: rest, _, rfl, rfl, ?_⟩
      rw [if_pos rfl] at hleased
      rcases Plan.dialogue_bind.1 hleased with ⟨halt, rfl, hdispatch⟩ |
        ⟨_, _, _, rfl, hdispatch, rfl, rfl⟩
      · exact .granted t rest hdispatch
      · rw [List.append_nil]
        exact .granted t rest hdispatch
    | false =>
      rw [if_neg Bool.false_ne_true] at hleased
      rcases Plan.dialogue_bind.1 hleased with ⟨halt, rfl, hrest⟩ | ⟨_, _, _, rfl, hrest, rfl, rfl⟩
      · obtain ⟨refused, untried, es', rfl, rfl, htried⟩ := ih hrest
        exact ⟨t :: refused, untried, es', rfl, rfl, htried.succ⟩
      · obtain ⟨refused, untried, es', rfl, rfl, htried⟩ := ih hrest
        refine ⟨t :: refused, untried, es', rfl, ?_, htried.succ⟩
        rw [List.append_nil]
        rfl

/-- Whichever leases are refused, the next candidate may be granted its own. -/
theorem dialogue_of_granted (refused untried : List Task)
    {result : Except (Halt TickError) Unit}
    (h : (r.dispatchAndRelease now t).Dialogue es result) :
    (r.dispatchFirst now (refused ++ t :: untried)).Dialogue
      (r.refusals now refused ++ ⟨.store (r.lease now t), .ok true⟩ :: es)
      (result.map fun _ ↦ (some t, refused.length)) := by
  induction refused with
  | nil =>
    refine dialogue_of_request (r.lease now t) true ?_
    cases result with
    | error halt => exact Plan.dialogue_bind.2 (.inl ⟨halt, rfl, h⟩)
    | ok _ => exact h.map fun _ ↦ (some t, 0)
  | cons u refused ih =>
    refine dialogue_of_request (r.lease now u) false ?_
    cases result with
    | error halt => exact Plan.dialogue_bind.2 (.inl ⟨halt, rfl, ih⟩)
    | ok _ => exact ih.map fun x ↦ (x.1, x.2 + 1)

/-! ### The tick -/

/-- The request for the tasks that a tick looks at. -/
abbrev listing (r : Runner) (now : Instant) : Request :=
  .listRunnable now r.config.batchLimit

/-- The runner behind a tick that dispatched this task, or none. -/
def served (r : Runner) (dispatched : Option Task) : Runner :=
  { r with lastOwner := (dispatched.map (·.owner)).or r.lastOwner }

/-- **The ways in which a tick can end.** -/
inductive Ticked (r : Runner) (now : Instant) :
    List (Answered Ask.Reply) → Except (Halt TickError) (TickReport × Runner) → Prop where
  | unlisted (halt : Halt StoreError) :
    Ticked r now [⟨.store (r.listing now), .error halt⟩] (.error (halt.map .store))
  | idle : Ticked r now [⟨.store (r.listing now), .ok []⟩] (.ok ({ candidates := 0 }, r))
  | unchecked {batch : List Task} {es : List (Answered Ask.Reply)} {halt : Halt TickError}
    (hbatch : batch ≠ []) (h : (r.checkStarvation now batch).Dialogue es (.error halt)) :
    Ticked r now (⟨.store (r.listing now), .ok batch⟩ :: es) (.error halt)
  | tried {batch refused rest : List Task} {es es' : List (Answered Ask.Reply)} {warnings : Nat}
    {result : Except (Halt TickError) (Option Task × Nat)} (hbatch : batch ≠ [])
    (hcheck : (r.checkStarvation now batch).Dialogue es (.ok warnings))
    (hcandidates : Task.candidates batch r.config.interactiveBoost r.lastOwner = refused ++ rest)
    (htried : Tried r now refused.length rest es' result) :
    Ticked r now (⟨.store (r.listing now), .ok batch⟩ :: (es ++ (r.refusals now refused ++ es')))
      (result.map fun (dispatched, conflicts) ↦
        (⟨batch.length, dispatched, conflicts, warnings⟩, r.served dispatched))

/-- **A tick** ends in one of these ways. -/
theorem ticked_of_dialogue {result : Except (Halt TickError) (TickReport × Runner)}
    (h : (r.tick now).Dialogue es result) : Ticked r now es result := by
  rcases dialogue_request_bind h with ⟨halt, rfl, rfl⟩ | ⟨batch, es, rfl, hbatch⟩
  · exact .unlisted halt
  rcases batch with _ | ⟨t, batch⟩
  · obtain ⟨rfl, rfl⟩ := hbatch
    exact .idle
  have hbatch' : t :: batch ≠ [] := List.cons_ne_nil t batch
  rcases Plan.dialogue_bind.1 hbatch with ⟨halt, rfl, hcheck⟩ | ⟨warnings, _, _, rfl, hcheck, hrest⟩
  · exact .unchecked hbatch' hcheck
  -- Behind the candidates comes the report, and that asks nothing.
  rcases Plan.dialogue_bind.1 hrest with ⟨halt, rfl, hfirst⟩ | ⟨_, _, _, rfl, hfirst, rfl, rfl⟩
  · obtain ⟨refused, rest, es', hcandidates, rfl, htried⟩ := tried_of_dialogue hfirst
    exact .tried hbatch' hcheck hcandidates htried
  · obtain ⟨refused, rest, es', hcandidates, rfl, htried⟩ := tried_of_dialogue hfirst
    rw [List.append_nil]
    exact .tried hbatch' hcheck hcandidates htried

/-- **Every selection is possible**: whatever a store lists and whichever leases it refuses, a tick
may be granted the lease of any candidate, and end as its dispatch ends. -/
theorem dialogue_tick_of_granted {batch refused untried : List Task} {warnings : Nat}
    {result : Except (Halt TickError) Unit} (hbatch : batch ≠ [])
    (hcheck : (r.checkStarvation now batch).Dialogue es (.ok warnings))
    (hcandidates : Task.candidates batch r.config.interactiveBoost r.lastOwner =
      refused ++ t :: untried)
    (hdispatch : (r.dispatchAndRelease now t).Dialogue es' result) :
    (r.tick now).Dialogue
      (⟨.store (r.listing now), .ok batch⟩ :: (es ++ (r.refusals now refused ++
        ⟨.store (r.lease now t), .ok true⟩ :: es')))
      (result.map fun _ ↦
        (⟨batch.length, some t, refused.length, warnings⟩, r.served (some t))) := by
  refine dialogue_of_request (r.listing now) batch ?_
  have hnonempty : batch.isEmpty = false := by simpa using hbatch
  rw [hnonempty, if_neg Bool.false_ne_true]
  refine hcheck.bind ?_
  have hfirst := dialogue_of_granted refused untried hdispatch
  rw [← hcandidates] at hfirst
  cases result with
  | error halt => exact Plan.dialogue_bind.2 (.inl ⟨halt, rfl, hfirst⟩)
  | ok _ =>
    exact hfirst.map fun x ↦ ((⟨batch.length, x.1, x.2, warnings⟩ : TickReport), r.served x.1)

/-! ### Leases and signals of a dialogue -/

/-- The request for a lease that is asked here, and whether it is granted. -/
def leaseOf? : Answered Ask.Reply → Option (Request × Bool)
  | ⟨.store (.acquireLease id worker seconds now), .ok granted⟩ =>
    some (.acquireLease id worker seconds now, granted)
  | _ => none

/-- The requests for leases in their order, each with whether it is granted. -/
def leases (es : List (Answered Ask.Reply)) : List (Request × Bool) :=
  es.filterMap leaseOf?

/-- The signal that is handed to the bus here. -/
def signalOf? (e : Answered Ask.Reply) : Option Signal :=
  match e.question with
  | .enqueue s => some s
  | _ => none

/-- The signals that are handed to the bus, in their order. -/
def signals (es : List (Answered Ask.Reply)) : List Signal :=
  es.filterMap signalOf?

@[simp] theorem leases_append : leases (es ++ es') = leases es ++ leases es' :=
  List.filterMap_append

@[simp] theorem signals_append : signals (es ++ es') = signals es ++ signals es' :=
  List.filterMap_append

theorem leases_listing {reply : Except (Halt StoreError) (List Task)} :
    leases (⟨.store (r.listing now), reply⟩ :: es) = leases es := rfl

theorem leases_lease {granted : Bool} :
    leases (⟨.store (r.lease now t), .ok granted⟩ :: es) = (r.lease now t, granted) :: leases es :=
  rfl

theorem signals_store {rq : Request} {reply : Except (Halt StoreError) rq.Value} :
    signals (⟨.store rq, reply⟩ :: es) = signals es := rfl

/-- Whoever asks for no lease is granted none. -/
theorem leases_eq_nil (h : ∀ e ∈ es, ¬ e.question.AsksLease) : leases es = [] := by
  refine List.filterMap_eq_nil_iff.2 fun e he ↦ ?_
  have hno := h e he
  unfold leaseOf?
  split
  · exact absurd trivial hno
  · rfl

theorem signals_eq_nil (h : ∀ e ∈ es, Silent e.question) : signals es = [] := by
  refine List.filterMap_eq_nil_iff.2 fun e he ↦ ?_
  have hsilent := h e he
  unfold signalOf?
  split
  · next s hs => exact absurd hs (hsilent s)
  · rfl

theorem leases_refusals (tasks : List Task) :
    leases (r.refusals now tasks) = tasks.map fun t ↦ (r.lease now t, false) := by
  simp only [leases, refusals, List.filterMap_map]
  exact congrFun (List.filterMap_eq_map (f := fun t ↦ (r.lease now t, false))) tasks

theorem Watches.not_asksLease {q : Ask} (h : Watches q) : ¬ q.AsksLease := by
  cases h <;> exact id

theorem Dispatches.not_asksLease {q : Ask} (h : Dispatches t q) : ¬ q.AsksLease := by
  cases h <;> exact id

theorem not_asksLease_of_checkStarvation {batch : List Task} {result : Except (Halt TickError) Nat}
    (h : (r.checkStarvation now batch).Dialogue es result) : ∀ e ∈ es, ¬ e.question.AsksLease :=
  fun e he ↦ (h.forall_of_asks (checkStarvation_asks r now batch) e he).not_asksLease

theorem not_asksLease_of_dispatchAndRelease {result : Except (Halt TickError) Unit}
    (h : (r.dispatchAndRelease now t).Dialogue es result) : ∀ e ∈ es, ¬ e.question.AsksLease :=
  fun e he ↦ (h.forall_of_asks (dispatchAndRelease_asks_dispatches r now t) e he).not_asksLease

/-- Every lease that a tick asks for ends within the calendar if the first does. -/
theorem leaseEnds_of_tick {result : Except (Halt TickError) (TickReport × Runner)}
    (h : (r.tick now).Dialogue es result) (hend : (leaseEnd? r.config.leaseSeconds now).isSome) :
    ∀ e ∈ es, e.question.LeaseEnds :=
  h.forall_of_asks (tick_asks_of (fun _ hq ↦ .of_not_asksLease hq.not_asksLease) (fun _ ↦ hend)
    fun _ _ hq ↦ .of_not_asksLease hq.not_asksLease)

/-- A dispatch hands at most one signal to the bus, and it asks for a slice of the task. -/
theorem signals_dispatchLeased {result : Except (Halt TickError) Unit}
    (h : (r.dispatchLeased now t).Dialogue es result) :
    (signals es).length ≤ 1 ∧ ∀ s ∈ signals es, IsSliceOf t s := by
  obtain ⟨stamp, es', rfl, hdispatched⟩ := dispatched_of_dialogue h
  have hasked : signals stamp.asked = [] := rfl
  rw [signals_append, hasked, List.nil_append]
  have hsignals : signals es' = [] ∨ signals es' = [stamp.signal t] := by
    cases hdispatched with
    | closed => exact .inl rfl
    | hungUp => exact .inr rfl
    | unlogged halt => exact .inr rfl
    | endless e hdue => exact .inr rfl
    | putOff e hdue reply => exact .inr rfl
  rcases hsignals with hnone | hone
  · simp [hnone]
  · simpa [hone] using stamp.isSliceOf_signal t

theorem signals_dispatchAndRelease {result : Except (Halt TickError) Unit}
    (h : (r.dispatchAndRelease now t).Dialogue es result) :
    (signals es).length ≤ 1 ∧ ∀ s ∈ signals es, IsSliceOf t s := by
  rcases dialogue_dispatchAndRelease h with ⟨hleased, -⟩ |
    ⟨es', dispatched, released, hleased, rfl, -⟩
  · exact signals_dispatchLeased hleased
  · have hrelease : signals [⟨.store (.releaseLease t.id r.config.worker), released⟩] = [] := rfl
    rw [signals_append, hrelease, List.append_nil]
    exact signals_dispatchLeased hleased

theorem leases_dispatchAndRelease {result : Except (Halt TickError) Unit}
    (h : (r.dispatchAndRelease now t).Dialogue es result) : leases es = [] :=
  leases_eq_nil (not_asksLease_of_dispatchAndRelease h)

theorem leases_checkStarvation {batch : List Task} {result : Except (Halt TickError) Nat}
    (h : (r.checkStarvation now batch).Dialogue es result) : leases es = [] :=
  leases_eq_nil (not_asksLease_of_checkStarvation h)

theorem signals_checkStarvation {batch : List Task} {result : Except (Halt TickError) Nat}
    (h : (r.checkStarvation now batch).Dialogue es result) : signals es = [] :=
  signals_eq_nil fun e he ↦ (h.forall_of_asks (checkStarvation_asks r now batch) e he).silent

theorem signals_refusals (tasks : List Task) : signals (r.refusals now tasks) = [] := by
  refine signals_eq_nil fun e he ↦ ?_
  obtain ⟨t, -, rfl⟩ := List.mem_map.1 he
  intro s hs
  cases hs

theorem mem_leases_of_granted {batch refused : List Task} {dispatch : List (Answered Ask.Reply)} :
    (r.lease now t, true) ∈ leases (⟨.store (r.listing now), .ok batch⟩ :: (es ++
      (r.refusals now refused ++ ⟨.store (r.lease now t), .ok true⟩ :: dispatch))) := by
  rw [leases_listing, leases_append, leases_append, leases_lease]
  simp

/-- **Every lease that is granted is granted so**: behind the listing, the starvation check and the
refusals of the candidates before, and the tick ends as the dispatch ends. -/
theorem Ticked.of_granted {result : Except (Halt TickError) (TickReport × Runner)}
    (h : Ticked r now es result) (hgranted : ∃ rq, (rq, true) ∈ leases es) :
    ∃ (batch refused untried : List Task) (t : Task) (warnings : Nat)
      (checked dispatch : List (Answered Ask.Reply)) (outcome : Except (Halt TickError) Unit),
      (r.checkStarvation now batch).Dialogue checked (.ok warnings) ∧
      Task.candidates batch r.config.interactiveBoost r.lastOwner = refused ++ t :: untried ∧
      (r.dispatchAndRelease now t).Dialogue dispatch outcome ∧
      es = ⟨.store (r.listing now), .ok batch⟩ :: (checked ++ (r.refusals now refused ++
        ⟨.store (r.lease now t), .ok true⟩ :: dispatch)) ∧
      result = outcome.map fun _ ↦
        (⟨batch.length, some t, refused.length, warnings⟩, r.served (some t)) := by
  obtain ⟨rq, hgranted⟩ := hgranted
  cases h with
  | unlisted halt => cases hgranted
  | idle => cases hgranted
  | unchecked hbatch hcheck =>
    rw [leases_listing, leases_checkStarvation hcheck] at hgranted
    cases hgranted
  | @tried batch refused rest es es' warnings result hbatch hcheck hcandidates htried =>
    rw [leases_listing, leases_append, leases_append, leases_checkStarvation hcheck,
      leases_refusals] at hgranted
    cases htried with
    | exhausted => simp [leases] at hgranted
    | halted t untried halt => simp [leases, leaseOf?] at hgranted
    | @granted t untried dispatch outcome hdispatch =>
      refine ⟨batch, refused, untried, t, warnings, es, dispatch, outcome, hcheck, hcandidates,
        hdispatch, rfl, ?_⟩
      cases outcome <;> rfl

/-- **What a tick reports as dispatched** is the candidate whose lease it was granted, and whose
dispatch came to its end. -/
theorem Ticked.of_dispatched {report : TickReport} {r' : Runner}
    (h : Ticked r now es (.ok (report, r'))) (ht : report.dispatched = some t) :
    ∃ (batch refused untried : List Task) (warnings : Nat)
      (checked dispatch : List (Answered Ask.Reply)),
      (r.checkStarvation now batch).Dialogue checked (.ok warnings) ∧
      Task.candidates batch r.config.interactiveBoost r.lastOwner = refused ++ t :: untried ∧
      (r.dispatchAndRelease now t).Dialogue dispatch (.ok ()) ∧
      es = ⟨.store (r.listing now), .ok batch⟩ :: (checked ++ (r.refusals now refused ++
        ⟨.store (r.lease now t), .ok true⟩ :: dispatch)) := by
  generalize hresult : Except.ok (report, r') = result at h
  cases h with
  | unlisted halt => cases hresult
  | idle =>
    cases hresult
    cases ht
  | unchecked hbatch hcheck => cases hresult
  | tried hbatch hcheck hcandidates htried =>
    cases htried with
    | exhausted =>
      cases hresult
      cases ht
    | halted u untried halt => cases hresult
    | @granted u untried _ result hdispatch =>
      cases result with
      | error halt => cases hresult
      | ok _ =>
        cases hresult
        cases ht
        exact ⟨_, _, _, _, _, _, hcheck, hcandidates, hdispatch, rfl⟩

/-- **A dispatch that came to its end**: the signal is out, the dispatch is recorded, the task is put
off, and the lease is given back. -/
theorem dispatch_of_ok (h : (r.dispatchAndRelease now t).Dialogue es (.ok ())) :
    ∃ (stamp : Stamp) (e : Event) (due : Instant) (moved : Bool), r.config.due? now = some due ∧
      es = stamp.asked ++
        [⟨.busOpen, true⟩, ⟨.enqueue (stamp.signal t), true⟩, ⟨.store (stamp.entry r t), .ok e⟩,
          ⟨.store (r.putOff t due), .ok moved⟩,
          ⟨.store (.releaseLease t.id r.config.worker), .ok ()⟩] := by
  rcases dialogue_dispatchAndRelease h with ⟨-, hcrash⟩ |
    ⟨es', dispatched, released, hdispatch, rfl, hsettled⟩
  · cases hcrash
  -- Two errors are weighed against each other, so success means that neither was made.
  rcases dispatched with _ | _ <;> rcases released with (_ | _) | _ <;> cases hsettled
  obtain ⟨stamp, es', rfl, hdispatched⟩ := dispatched_of_dialogue hdispatch
  generalize hok : Except.mapError Halt.error (Except.ok ()) = result at hdispatched
  cases hdispatched with
  | closed => cases hok
  | hungUp => cases hok
  | unlogged halt => cases hok
  | endless e hdue => cases hok
  | putOff e hdue reply =>
    rcases reply with _ | moved
    · cases hok
    · exact ⟨stamp, e, _, moved, hdue, by rw [List.append_assoc]; rfl⟩

/-! ### A store that succeeds -/

/-- A sequence that begins with a request ends with its halt, or as its second part ends. -/
theorem yields_request_bind {α : Type} {R : (q : Ask) → q.Reply → Prop}
    {Q : Except (Halt TickError) α → Prop} {rq : Request} {f : rq.Value → Work TickError α}
    (hhalt : ∀ halt, R (.store rq) (.error halt) → Q (.error (halt.map .store)))
    (hf : ∀ v, (f v).Yields R Q) : (request rq >>= f).Yields R Q := by
  rintro (halt | v) hr
  · exact hhalt halt hr
  · exact hf v

/-- **The starvation check** ends with the halt of a request, crashes because the cooldown of
warnings is no span, or comes to its end. -/
theorem checkStarvation_yields_of {R : (q : Ask) → q.Reply → Prop}
    {Q : Except (Halt TickError) Nat → Prop} (r : Runner) (now : Instant) (batch : List Task)
    (hhalt : ∀ rq halt, R (.store rq) (.error halt) → Q (.error (halt.map .store)))
    (hcrash : r.config.warningSpan? = none → Q (.error .crash))
    (hok : r.config.warningSpan?.isSome → ∀ n, Q (.ok n)) :
    (r.checkStarvation now batch).Yields R Q := by
  let Failed {α : Type} (result : Except (Halt TickError) α) : Prop :=
    ∃ rq halt, R (.store rq) (.error halt) ∧ result = .error (halt.map .store)
  have hwarn (cooldown : Span) (depth : Nat) (t : Task) :
      (r.warnAbout now cooldown depth t).Yields R fun result ↦
        (∃ b, result = .ok b) ∨ Failed result := by
    simp only [warnAbout]
    split
    · exact .inl ⟨_, rfl⟩
    · split
      · exact .inl ⟨_, rfl⟩
      · refine yields_request_bind (fun halt h ↦ .inr ⟨_, halt, h, rfl⟩) fun last ↦ ?_
        split
        · exact .inl ⟨_, rfl⟩
        · exact yields_request_bind (fun halt h ↦ .inr ⟨_, halt, h, rfl⟩) fun _ ↦ .inl ⟨_, rfl⟩
  have hwarnEach (cooldown : Span) (depth : Nat) (tasks : List Task) :
      (r.warnEach now cooldown depth tasks).Yields R fun result ↦
        (∃ n, result = .ok n) ∨ Failed result := by
    induction tasks with
    | nil => exact .inl ⟨_, rfl⟩
    | cons t rest ih =>
      refine (hwarn ..).bind (fun halt h ↦ .inr ?_) fun _ _ ↦
        ih.bind (fun halt h ↦ .inr ?_) fun _ _ ↦ .inl ⟨_, rfl⟩ <;>
      · obtain ⟨_, h⟩ | ⟨rq, halt', hr, h⟩ := h
        · cases h
        · exact ⟨rq, halt', hr, congrArg Except.error (Except.error.inj h)⟩
  have hwarnStarving (tasks : List Task) : (r.warnStarving now tasks).Yields R Q := by
    rw [warnStarving]
    rcases hspan : Span.ofSeconds? (max r.config.warningCooldownSeconds 0) with _ | cooldown
    · exact hcrash hspan
    · refine (hwarnEach cooldown _ tasks).mono fun _ h ↦ ?_
      obtain ⟨n, rfl⟩ | ⟨rq, halt, hr, rfl⟩ := h
      · exact hok (Option.isSome_iff_exists.2 ⟨_, hspan⟩) n
      · exact hhalt rq halt hr
  simp only [checkStarvation]
  split
  · exact hwarnStarving batch
  · exact yields_request_bind (hhalt _) fun _ ↦ hwarnStarving _

/-- Over a store that succeeds nothing halts the starvation check but a cooldown of warnings that is
no span. -/
theorem crash_of_checkStarvation {batch : List Task} {halt : Halt TickError}
    (h : (r.checkStarvation now batch).Dialogue es (.error halt))
    (hstore : Answers Ask.Succeeds es) : halt = .crash ∧ r.config.warningSpan? = none := by
  have hyields : (r.checkStarvation now batch).Yields Ask.Succeeds fun result ↦
      ∀ halt, result = .error halt → halt = .crash ∧ r.config.warningSpan? = none := by
    refine checkStarvation_yields_of r now batch ?_ ?_ ?_
    · rintro rq halt ⟨_, ⟨⟩⟩
    · rintro hnone _ ⟨⟩
      exact ⟨rfl, hnone⟩
    · rintro _ _ _ ⟨⟩
  exact h.of_yields hstore hyields halt rfl

/-- A starvation check that comes to its end has reckoned with a span. -/
theorem isSome_warningSpan?_of_checked {batch : List Task} {warnings : Nat}
    (h : (r.checkStarvation now batch).Dialogue es (.ok warnings)) :
    r.config.warningSpan?.isSome := by
  have hyields : (r.checkStarvation now batch).Yields (fun _ _ ↦ True) fun result ↦
      ∀ n, result = .ok n → r.config.warningSpan?.isSome := by
    refine checkStarvation_yields_of r now batch ?_ ?_ fun hspan _ _ _ ↦ hspan
    · rintro _ _ _ _ ⟨⟩
    · rintro _ _ ⟨⟩
  exact h.of_yields (fun _ _ ↦ trivial) hyields warnings rfl

/-- A dispatch over a store that succeeds and a bus that delivers crashes if the task cannot be put
off, and comes to its end if it can. -/
theorem Dispatched.undisturbed {stamp : Stamp} {result : Except (Halt TickError) Unit}
    (h : Dispatched r now t stamp es result) (hstore : Answers Ask.Succeeds es)
    (hbus : Answers Ask.Delivers es) :
    ∃ e, r.config.due? now = none ∧ result = .error .crash ∧ es =
        [⟨.busOpen, true⟩, ⟨.enqueue (stamp.signal t), true⟩, ⟨.store (stamp.entry r t), .ok e⟩] ∨
      ∃ due moved, r.config.due? now = some due ∧ result = .ok () ∧ es =
        [⟨.busOpen, true⟩, ⟨.enqueue (stamp.signal t), true⟩, ⟨.store (stamp.entry r t), .ok e⟩,
          ⟨.store (r.putOff t due), .ok moved⟩] := by
  cases h with
  | closed => simp [Ask.Delivers] at hbus
  | hungUp => simp [Ask.Delivers] at hbus
  | unlogged halt => simp [Ask.Succeeds] at hstore
  | endless e hnone => exact ⟨e, .inl ⟨hnone, rfl, rfl⟩⟩
  | putOff e hdue reply =>
    simp only [answers_cons, Ask.Succeeds] at hstore
    obtain ⟨moved, rfl⟩ := hstore.2.2.2.1
    exact ⟨e, .inr ⟨_, moved, hdue, rfl, rfl⟩⟩

/-- **An undisturbed dispatch**: the signal goes out and the dispatch is recorded. Then the task is
put off and the lease is given back; or the dispatch crashes, and neither of them is done. -/
theorem undisturbed_dispatchAndRelease {result : Except (Halt TickError) Unit}
    (h : (r.dispatchAndRelease now t).Dialogue es result) (hstore : Answers Ask.Succeeds es)
    (hbus : Answers Ask.Delivers es) :
    ∃ (stamp : Stamp) (e : Event),
      r.config.due? now = none ∧ result = .error .crash ∧ es = stamp.asked ++
        [⟨.busOpen, true⟩, ⟨.enqueue (stamp.signal t), true⟩, ⟨.store (stamp.entry r t), .ok e⟩] ∨
      ∃ due moved, r.config.due? now = some due ∧ result = .ok () ∧ es = stamp.asked ++
        [⟨.busOpen, true⟩, ⟨.enqueue (stamp.signal t), true⟩, ⟨.store (stamp.entry r t), .ok e⟩,
          ⟨.store (r.putOff t due), .ok moved⟩,
          ⟨.store (.releaseLease t.id r.config.worker), .ok ()⟩] := by
  rcases dialogue_dispatchAndRelease h with ⟨hdispatch, rfl⟩ |
    ⟨es', dispatched, released, hdispatch, rfl, rfl⟩
  · obtain ⟨stamp, _, rfl, hdispatched⟩ := dispatched_of_dialogue hdispatch
    obtain ⟨e, ⟨hnone, -, rfl⟩ | ⟨_, _, -, hok, -⟩⟩ :=
      hdispatched.undisturbed (answers_append.1 hstore).2 (answers_append.1 hbus).2
    · exact ⟨stamp, e, .inl ⟨hnone, rfl, rfl⟩⟩
    · cases hok
  · obtain ⟨stamp, _, rfl, hdispatched⟩ := dispatched_of_dialogue hdispatch
    simp only [answers_append, answers_cons] at hstore hbus
    obtain ⟨⟨-, hbody⟩, ⟨_, rfl⟩, -⟩ := hstore
    obtain ⟨e, ⟨-, hcrash, -⟩ | ⟨due, moved, hdue, hok, rfl⟩⟩ :=
      hdispatched.undisturbed hbody hbus.1.2
    · cases dispatched <;> cases hcrash
    · cases dispatched with
      | error _ => cases hok
      | ok _ => exact ⟨stamp, e, .inr ⟨due, moved, hdue, rfl, by rw [List.append_assoc]; rfl⟩⟩

/-- A task that can be put off is put off, and its lease is given back. -/
theorem undisturbed_dispatch {due : Instant} {result : Except (Halt TickError) Unit}
    (h : (r.dispatchAndRelease now t).Dialogue es result) (hstore : Answers Ask.Succeeds es)
    (hbus : Answers Ask.Delivers es) (hdue : r.config.due? now = some due) :
    ∃ (stamp : Stamp) (e : Event) (moved : Bool), es = stamp.asked ++
        [⟨.busOpen, true⟩, ⟨.enqueue (stamp.signal t), true⟩, ⟨.store (stamp.entry r t), .ok e⟩,
          ⟨.store (r.putOff t due), .ok moved⟩,
          ⟨.store (.releaseLease t.id r.config.worker), .ok ()⟩] ∧
      result = .ok () := by
  obtain ⟨stamp, e, ⟨hnone, -⟩ | ⟨due', moved, hdue', hresult, hes⟩⟩ :=
    undisturbed_dispatchAndRelease h hstore hbus
  · exact absurd (hdue.symm.trans hnone) (Option.some_ne_none _)
  · obtain rfl := Option.some.inj (hdue'.symm.trans hdue)
    exact ⟨stamp, e, moved, hes, hresult⟩

/-- **A tick comes to its end** over a store that succeeds and a bus that delivers, if what its
settings say is within the calendar. -/
theorem Ticked.completes {result : Except (Halt TickError) (TickReport × Runner)}
    (h : Ticked r now es result) (hstore : Answers Ask.Succeeds es)
    (hbus : Answers Ask.Delivers es) (hdue : (r.config.due? now).isSome)
    (hspan : r.config.warningSpan?.isSome) : ∃ report r', result = .ok (report, r') := by
  obtain ⟨due, hdue⟩ := Option.isSome_iff_exists.1 hdue
  cases h with
  | unlisted halt => simp [Ask.Succeeds] at hstore
  | idle => exact ⟨_, _, rfl⟩
  | unchecked hbatch hcheck =>
    obtain ⟨-, hnone⟩ := crash_of_checkStarvation hcheck (answers_cons.1 hstore).2
    rw [hnone] at hspan
    cases hspan
  | tried hbatch hcheck hcandidates htried =>
    simp only [answers_cons, answers_append] at hstore hbus
    cases htried with
    | exhausted => exact ⟨_, _, rfl⟩
    | halted t untried halt => simp [Ask.Succeeds] at hstore
    | granted t untried hdispatch =>
      simp only [answers_cons] at hstore hbus
      obtain ⟨_, _, _, -, rfl⟩ := undisturbed_dispatch hdispatch hstore.2.2.2.2 hbus.2.2.2.2 hdue
      exact ⟨_, _, rfl⟩

end Runner

end Foreman
