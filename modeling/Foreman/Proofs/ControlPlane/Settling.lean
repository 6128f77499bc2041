import Foreman.Proofs.ControlPlane.Interpreter
import Foreman.Proofs.ControlPlane.Rounds

/-!
# The built-in control plane settles

Every state of the built-in control plane hands a requested slice out, and leaves for `working`; the
outcome of the slice leads on to `idle` or to `degraded`. Between the two, further requests may be
dispatched, and outcomes of earlier slices arrive in states that know nothing of them. That the
control plane comes to rest in the state of the last slice nevertheless is due to the order of the
bus. An outcome is put behind everything that was on the bus when its slice was handed out, so the
outcome of the last slice is the last of all.

The invariant is about the queue. `Builtin.eventually` is the key that the outcomes in a queue lead
to; it does not look at requests. Behind a slice it is the key of this slice, whatever it was before
(`Attended.round_of_request`), and nothing but the next slice changes it
(`Attended.round_of_ne`). When the queue is empty, it is the key of the current state.
-/

namespace Foreman.ControlPlane

/-! ### The built-in table -/

namespace Builtin

theorem declared_eq : definition.declared =
    [⟨1, idle, "Idle", true⟩, ⟨2, working, "Working", true⟩, ⟨3, degraded, "Degraded", true⟩] := rfl

theorem eq_of_mem_declared {s : State} (hs : s ∈ definition.declared) :
    s = ⟨1, idle, "Idle", true⟩ ∨ s = ⟨2, working, "Working", true⟩ ∨
      s = ⟨3, degraded, "Degraded", true⟩ := by
  simpa [declared_eq] using hs

theorem enabled_of_mem_declared {s : State} (hs : s ∈ definition.declared) : s.enabled = true := by
  rcases eq_of_mem_declared hs with rfl | rfl | rfl <;> rfl

/-- The key that the result of a slice leads to. -/
def settled : Except Failure Json → String
  | .ok _ => idle
  | .error _ => degraded

/-- The key behind a signal that asks for no slice. -/
def led (key : String) (s : Signal) : String :=
  if s.type = SignalType.actionSucceeded then idle
  else if s.type = SignalType.actionFailed then degraded
  else key

/-- The key that the outcomes in a queue lead to. -/
def eventually (key : String) (queue : List Signal) : String :=
  queue.foldl led key

theorem led_of_request {s : Signal} (h : s.type = SignalType.sliceRequested) (key : String) :
    led key s = key := by
  simp [led, h, SignalType.sliceRequested, SignalType.actionSucceeded, SignalType.actionFailed]

/-- Requests lead nowhere by themselves. -/
theorem eventually_append_of_requests {queue as : List Signal}
    (h : ∀ s ∈ as, s.type = SignalType.sliceRequested) (key : String) :
    eventually key (queue ++ as) = eventually key queue := by
  simp only [eventually, List.foldl_append]
  induction as generalizing queue with
  | nil => rfl
  | cons s as ih =>
    rw [List.foldl_cons, led_of_request (h s (List.mem_cons_self ..))]
    exact ih fun s' hs' ↦ h s' (List.mem_cons_of_mem _ hs')

/-- The outcome of a slice leads to its key from anywhere. -/
theorem eventually_concat_outcome {s : Signal} {handled : Except Failure Json}
    (h : s.type = Dispatcher.outcomeType handled) (key : String) (queue : List Signal) :
    eventually key (queue ++ [s]) = settled handled := by
  rw [eventually, List.foldl_append, List.foldl_cons, List.foldl_nil, led, h]
  cases handled with
  | ok output => rfl
  | error failure => rfl

theorem outcomeType_ne_request (handled : Except Failure Json) :
    Dispatcher.outcomeType handled ≠ SignalType.sliceRequested := by
  cases handled with
  | ok output => exact show SignalType.actionSucceeded ≠ _ by decide
  | error failure => exact show SignalType.actionFailed ≠ _ by decide

/-- Every state hands slices out. -/
theorem row?_request {s : State} (hs : s ∈ definition.declared) :
    (definition.row? s.key SignalType.sliceRequested).map Transition.route =
      some ⟨some runSlice, some working⟩ := by
  rcases eq_of_mem_declared hs with rfl | rfl | rfl <;> decide

/-- A state without a row for a signal is the one that the signal leads to, and a row leads there
and runs nothing. -/
theorem row?_of_ne {s : State} (hs : s ∈ definition.declared) {signal : Signal}
    (h : signal.type ≠ SignalType.sliceRequested) :
    (definition.row? s.key signal.type = none ∧ led s.key signal = s.key) ∨
      ∃ row ∈ definition.transitions, definition.row? s.key signal.type = some row ∧
        row.action = none ∧ row.next = some (led s.key signal) := by
  by_cases hok : signal.type = SignalType.actionSucceeded
  · simp only [led, hok]
    rcases eq_of_mem_declared hs with rfl | rfl | rfl <;> decide
  by_cases hfail : signal.type = SignalType.actionFailed
  · simp only [led, hfail]
    rcases eq_of_mem_declared hs with rfl | rfl | rfl <;> decide
  -- No row is for a signal of another type.
  refine .inl ⟨?_, by simp only [led, hok, hfail, if_false]⟩
  have hsignals : ∀ row ∈ definition.transitions, row.signal = SignalType.sliceRequested ∨
      row.signal = SignalType.actionSucceeded ∨ row.signal = SignalType.actionFailed := by
    decide
  refine List.find?_eq_none.2 fun row hrow hmatch ↦ ?_
  simp only [Bool.and_eq_true, beq_iff_eq] at hmatch
  rcases hsignals row hrow with hsignal | hsignal | hsignal
  · exact h (hmatch.2.symm.trans hsignal)
  · exact hok (hmatch.2.symm.trans hsignal)
  · exact hfail (hmatch.2.symm.trans hsignal)

end Builtin

open Builtin

/-! ### A dispatcher that attends to slices -/

/-- Whether an action was run and succeeded. -/
def DispatchReport.isSuccess : DispatchReport → Bool
  | succeeded .. => true
  | _ => false

/-- The result of an action is a success. -/
def isSuccess : Except Failure Json → Bool
  | .ok _ => true
  | .error _ => false

/-- A signal that is no request for a slice, or one that the breaker lets the outcome of pass. -/
def IsShallow (maxDepth : Nat) (s : Signal) : Prop :=
  s.type = SignalType.sliceRequested → s.depth < maxDepth

/-- A request for a slice that the breaker lets the outcome of pass. -/
def IsRequest (maxDepth : Nat) (s : Signal) : Prop :=
  s.type = SignalType.sliceRequested ∧ s.depth < maxDepth

/-- A handler that takes nothing off the bus, whose receiving end is the dispatcher's. What it puts
there is up to it, but for requests for slices that are too deep. -/
def Handler.Polite (maxDepth : Nat) (handler : Handler) : Prop :=
  ∀ signal here, (handler signal here).Asks fun q ↦
    q ≠ .receive ∧ ∀ s, q = .enqueue s → IsShallow maxDepth s

/-- **A dispatcher over the built-in table** with a handler for slices, and a queue of signals whose
outcomes are not withheld. -/
structure Attended (maxDepth : Nat) (handler : Handler) (d : Dispatcher) (queue : List Signal) :
    Prop where
  table : d.table.Describes definition
  current : d.current ∈ definition.declared
  registered : d.registry.find? runSlice = some handler
  bound : d.config.maxDepth = maxDepth
  shallow : ∀ s ∈ queue, IsShallow maxDepth s

namespace Attended

variable {maxDepth : Nat} {handler : Handler} {d : Dispatcher} {signal : Signal}
  {queue queue' : List Signal}

/-- The dispatcher moves to a declared state, and the queue becomes another one. -/
theorem moved {here : State} (h : Attended maxDepth handler d queue)
    (hhere : here ∈ definition.declared) (hqueue : ∀ s ∈ queue', IsShallow maxDepth s) :
    Attended maxDepth handler { d with current := here } queue' :=
  ⟨h.table, hhere, h.registered, h.bound, hqueue⟩

/-- **A request is handed to the handler**, in every state. -/
theorem dispatch_of_request (h : Attended maxDepth handler d queue)
    (hs : signal.type = SignalType.sliceRequested) :
    d.dispatch signal =
      (handler signal d.current).attempt >>= d.conclude signal runSlice (some working) := by
  have hlookup : d.table.lookup d.current.id signal.type = some ⟨some runSlice, some working⟩ := by
    rw [h.table.lookup_eq h.current, if_pos (enabled_of_mem_declared h.current), hs]
    exact row?_request h.current
  simp only [Dispatcher.dispatch, hlookup]
  rw [Dispatcher.dispatchAction_eq]
  simp only [Dispatcher.runAction, h.registered]

/-- **Any other signal** only moves the dispatcher, to where it leads. -/
theorem dispatch_of_ne (h : Attended maxDepth handler d queue)
    (hs : signal.type ≠ SignalType.sliceRequested) :
    ∃ report, ∃ here ∈ definition.declared,
      d.dispatch signal = .done (report, { d with current := here }) ∧
        here.key = led d.current.key signal := by
  have hlookup := h.table.lookup_eq h.current signal.type
  rw [if_pos (enabled_of_mem_declared h.current)] at hlookup
  rcases row?_of_ne h.current hs with ⟨hrow, hled⟩ | ⟨row, hmem, hrow, haction, hnext⟩
  · refine ⟨.unmatched, d.current, h.current, ?_, hled.symm⟩
    simp only [Dispatcher.dispatch, hlookup, hrow, Option.map_none]
    rfl
  · have hadvance := h.table.advance_eq h.current hmem
    obtain ⟨hdeclared, hkey⟩ := Definition.mem_of_declared? hadvance
    refine ⟨.transitioned d.current.key (d.table.advance d.current row.next).key,
      d.table.advance d.current row.next, hdeclared, ?_, by rw [hkey, hnext, Option.getD_some]⟩
    simp only [Dispatcher.dispatch, hlookup, hrow, Option.map_some, Transition.route, haction]
    rfl

/-- What follows the result of a slice: the report tells the result, and the dispatcher is in a
declared state. -/
theorem conclude_always (h : Attended maxDepth handler d queue) (signal : Signal)
    (handled : Except Failure Json) :
    (d.conclude signal runSlice (some working) handled).Always fun x ↦
      x.1.isSuccess = isSuccess handled ∧
        ∃ here ∈ definition.declared, x.2 = { d with current := here } := by
  cases handled with
  | ok output =>
    refine (Plan.always_true _).bind fun emitted _ ↦ ⟨rfl, _, ?_, rfl⟩
    have hrow : ⟨idle, SignalType.sliceRequested, some runSlice, some working⟩ ∈
        definition.transitions := List.mem_cons_self ..
    exact (Definition.mem_of_declared? (h.table.advance_eq h.current hrow)).1
  | error failure =>
    exact (Plan.always_true _).bind fun emitted _ ↦ ⟨rfl, d.current, h.current, rfl⟩

/-- **What follows the result of a slice** puts the outcome behind all else, so that the queue leads
to the result, whatever it led to before. -/
theorem traffic_conclude {handled : Except Failure Json} {put : List Signal}
    {report : DispatchReport} {after : Dispatcher}
    (h : Attended maxDepth handler d queue) (hs : IsRequest maxDepth signal)
    (hconclude : Traffic (IsRequest maxDepth) true
      (d.conclude signal runSlice (some working) handled) queue put (.ok (report, after)) queue') :
    report.isSuccess = isSuccess handled ∧ Attended maxDepth handler after queue' ∧
      eventually after.current.key queue' = settled handled := by
  obtain ⟨hreport, here, hhere, hafter⟩ := hconclude.always (h.conclude_always signal handled)
  change after = _ at hafter
  have hqueue := hconclude.queue_eq_append (d.conclude_asks ..)
  obtain ⟨arrivals, sent, emitted, fields, report', harrivals, rfl, -, hemission⟩ :=
    Dispatcher.traffic_conclude hconclude
  have hdepth : Dispatcher.outcomeDepth signal ≤ d.config.maxDepth := by
    have hle := Dispatcher.outcomeDepth_le signal
    have hlt := hs.2
    rw [h.bound]
    omega
  -- The breaker lets the outcome pass, so it is the last signal in the queue.
  obtain ⟨s, rfl, htype⟩ := hemission.eq_sent hdepth
  rw [← List.append_assoc] at hqueue
  subst hafter hqueue
  refine ⟨hreport, h.moved hhere ?_, eventually_concat_outcome htype _ _⟩
  have houtcome : IsShallow maxDepth s := by
    intro hrequest
    exact absurd (htype.symm.trans hrequest) (outcomeType_ne_request handled)
  simp only [List.forall_mem_append, List.forall_mem_singleton]
  exact ⟨⟨h.shallow, fun s hs _ ↦ (harrivals s hs).2⟩, houtcome⟩

end Attended

/-! ### Rounds -/

/-- **A round that hands its signal to the handler**: the dispatch is one run of the handler, on the
signal and in the state of the round, and what follows from its result; and in this round it came to
the result given. -/
structure Round.Hands (maxDepth : Nat) (handler : Handler) (r : Round)
    (handled : Except Failure Json) : Prop where
  dispatch_eq : r.before.dispatch r.signal =
    (handler r.signal r.before.current).attempt >>=
      r.before.conclude r.signal runSlice (some working)
  run : ∃ queue put₁ queue₁ put₂ queue', r.put = put₁ ++ put₂ ∧
    Traffic (IsRequest maxDepth) true
      ((handler r.signal r.before.current).attempt : Work Empty _) queue put₁ (.ok handled) queue₁ ∧
    Traffic (IsRequest maxDepth) true (r.before.conclude r.signal runSlice (some working) handled)
      queue₁ put₂ (.ok (r.report, r.after)) queue'
  report : r.report.isSuccess = isSuccess handled

/-- What a round does with its signal: a request goes to the handler, and no other signal asks
anything of anyone. -/
inductive Round.Attends (maxDepth : Nat) (handler : Handler) (r : Round) : Prop where
  | handed (handled : Except Failure Json) (hs : r.signal.type = SignalType.sliceRequested)
      (h : r.Hands maxDepth handler handled)
  | moved (hs : r.signal.type ≠ SignalType.sliceRequested)
      (h : r.before.dispatch r.signal = .done (r.report, r.after))

/-- Where a round leaves the control plane to settle. -/
def Round.settle (key : String) (r : Round) : String :=
  if r.signal.type = SignalType.sliceRequested then
    if r.report.isSuccess then idle else degraded
  else key

theorem Round.Attends.asks {maxDepth : Nat} {handler : Handler} {r : Round}
    (hpolite : handler.Polite maxDepth) (h : r.Attends maxDepth handler) :
    (r.before.dispatch r.signal).Asks (· ≠ .receive) := by
  cases h with
  | handed handled _ h =>
    rw [h.dispatch_eq]
    have hrun := (hpolite r.signal r.before.current).mono fun _ hq ↦ hq.1
    exact hrun.attempt.bind fun handled ↦ r.before.conclude_asks ..
  | moved _ h =>
    rw [h]
    trivial

variable {maxDepth : Nat} {handler : Handler}

/-- **One round**: the signal is attended to, and where the queue led to is kept, unless a slice was
handed out, whose result the queue leads to from now on. -/
theorem Attended.round {r : Round} {queue queue' : List Signal} (hpolite : handler.Polite maxDepth)
    (h : Attended maxDepth handler r.before (r.signal :: queue))
    (hround : Traffic (IsRequest maxDepth) true (r.before.dispatch r.signal) queue r.put
      (.ok (r.report, r.after)) queue') :
    r.Attends maxDepth handler ∧ Attended maxDepth handler r.after queue' ∧
      eventually r.after.current.key queue' =
        r.settle (eventually r.before.current.key (r.signal :: queue)) := by
  obtain ⟨hshallow, hrest⟩ := List.forall_mem_cons.1 h.shallow
  by_cases hs : r.signal.type = SignalType.sliceRequested
  · have hdispatch := h.dispatch_of_request hs
    have hasks := hpolite r.signal r.before.current
    rw [hdispatch] at hround
    rcases hround.of_bind with
      ⟨e, hresult, -⟩ | ⟨handled, put₁, put₂, queue₁, hput, hrun, hconclude⟩
    · cases hresult
    · -- The handler may have put anything on the bus that is not too deep.
      have hqueue₁ := hrun.queue_eq_append (hasks.mono fun _ hq ↦ hq.1).attempt
      have hput₁ := hrun.forall_mem_put (hasks.mono fun _ hq ↦ hq.2).attempt fun _ hs _ ↦ hs.2
      have hrun₁ : Attended maxDepth handler r.before queue₁ := by
        refine h.moved h.current ?_
        rw [hqueue₁]
        exact List.forall_mem_append.2 ⟨hrest, hput₁⟩
      obtain ⟨hreport, hafter, heventually⟩ := hrun₁.traffic_conclude ⟨hs, hshallow hs⟩ hconclude
      refine ⟨.handed handled hs
        ⟨hdispatch, ⟨queue, put₁, queue₁, put₂, queue', hput, hrun, hconclude⟩, hreport⟩,
        hafter, ?_⟩
      rw [heventually, Round.settle, if_pos hs, hreport]
      cases handled <;> rfl
  · obtain ⟨report, here, hhere, hdispatch, hkey⟩ := h.dispatch_of_ne hs
    rw [hdispatch] at hround
    obtain ⟨-, hresult, rfl⟩ := hround.of_done
    obtain ⟨hreport, hafter⟩ := Prod.mk.inj (Except.ok.inj hresult)
    refine ⟨.moved hs (by rw [hdispatch, hreport, hafter]), ?_, ?_⟩
    · rw [hafter]
      exact h.moved hhere hrest
    · rw [hafter, Round.settle, if_neg hs, hkey]
      rfl

/-- **Rounds**: every signal is attended to, and the queue leads to where the last slice left the
control plane to settle. -/
theorem Attended.rounds {d d' : Dispatcher} {queue put queue' : List Signal} {rounds : List Round}
    (hpolite : handler.Polite maxDepth) (hd : Attended maxDepth handler d queue)
    (h : Rounds (IsRequest maxDepth) true d queue put rounds d' queue') :
    (∀ r ∈ rounds, r.Attends maxDepth handler) ∧
      eventually d'.current.key queue' =
        rounds.foldl Round.settle (eventually d.current.key queue) := by
  induction h with
  | nil => exact ⟨List.forall_mem_nil _, rfl⟩
  | @arrival d d' s queue put queue' rounds hs _ ih =>
    have hqueue : ∀ s' ∈ queue ++ [s], IsShallow maxDepth s' := by
      simp only [List.forall_mem_append, List.forall_mem_singleton]
      exact ⟨hd.shallow, fun _ ↦ hs.2⟩
    obtain ⟨hattends, heventually⟩ := ih (hd.moved hd.current hqueue)
    refine ⟨hattends, ?_⟩
    rwa [eventually_append_of_requests (List.forall_mem_singleton.2 hs.1)] at heventually
  | round hround _ ih =>
    obtain ⟨hattends, hafter, hsettle⟩ := hd.round hpolite hround
    obtain ⟨hrest, heventually⟩ := ih hafter
    refine ⟨List.forall_mem_cons.2 ⟨hattends, hrest⟩, ?_⟩
    rw [heventually, hsettle, List.foldl_cons]

/-- Rounds without a request leave the control plane to settle where it was about to. -/
theorem foldl_settle_of_ne {rounds : List Round} (key : String)
    (h : ∀ r ∈ rounds, r.signal.type ≠ SignalType.sliceRequested) :
    rounds.foldl Round.settle key = key := by
  induction rounds with
  | nil => rfl
  | cons r rounds ih =>
    obtain ⟨hfirst, hrest⟩ := List.forall_mem_cons.1 h
    rw [List.foldl_cons, Round.settle, if_neg hfirst]
    exact ih hrest

/-! ### The result -/

theorem config_of_start? {table : Table} {registry : Registry} {bus : Bus}
    {config : DispatcherConfig} {keepers : List Housekeeper} {d : Dispatcher}
    (h : Dispatcher.start? table registry bus config keepers = .ok d) : d.config = config := by
  simp only [Dispatcher.start?] at h
  split at h
  · obtain rfl := Except.ok.inj h
    rfl
  · split at h
    · obtain rfl := Except.ok.inj h
      rfl
    · cases h

/-- **The built-in control plane settles to the result of the last slice.** Let a dispatcher be
started over the built-in table with a polite handler for slices, on an open bus with nothing on it,
and let requests for slices come onto the bus whenever they like, between the rounds and during
them. Then every signal that comes onto the bus is dispatched once and in its turn, or is still
there; a request is handed to the handler, in whatever state it arrives, and no other signal is. And
once the bus is empty behind a request, the state is `idle` if the last request succeeded, and
`degraded` if it failed; it is not `working`. -/
theorem settles_to_last_slice {table : Table} {registry : Registry} {bus : Bus}
    {config : DispatcherConfig} {keepers : List Housekeeper} {d d' : Dispatcher}
    {put queue' : List Signal} {rounds : List Round}
    (htable : Table.ofDefinition? definition = .ok table)
    (hstart : Dispatcher.start? table registry bus config keepers = .ok d)
    (hhandler : registry.find? "run_slice" = some handler)
    (hpolite : handler.Polite config.maxDepth)
    (h : Rounds (IsRequest config.maxDepth) true d [] put rounds d' queue') :
    put = rounds.map Round.signal ++ queue' ∧
      (∀ r ∈ rounds, r.Attends config.maxDepth handler) ∧
      ∀ earlier r later, rounds = earlier ++ r :: later →
        r.signal.type = "pdca.slice.requested" →
        (∀ r' ∈ later, r'.signal.type ≠ "pdca.slice.requested") → queue' = [] →
          d'.current.key = (if r.report.isSuccess then "idle" else "degraded") ∧
            d'.current.key ≠ "working" := by
  have hdescribes := Table.describes_of_ofDefinition? htable
  obtain ⟨rfl, rfl, hdeclared⟩ := declared?_of_start? hdescribes hstart
  obtain rfl := config_of_start? hstart
  have hd : Attended d.config.maxDepth handler d [] :=
    ⟨hdescribes, (Definition.mem_of_declared? hdeclared).1, hhandler, rfl, List.forall_mem_nil _⟩
  obtain ⟨hattends, heventually⟩ := hd.rounds hpolite h
  refine ⟨h.queue_append_put fun r hr ↦ (hattends r hr).asks hpolite, hattends, ?_⟩
  rintro earlier r later rfl hs hlater rfl
  have hkey : d'.current.key = if r.report.isSuccess then idle else degraded := by
    rw [List.foldl_append, List.foldl_cons, foldl_settle_of_ne _ hlater, Round.settle,
      if_pos (show r.signal.type = SignalType.sliceRequested from hs)] at heventually
    exact heventually
  refine ⟨hkey, ?_⟩
  rw [hkey]
  split <;> decide

theorem settles_to_last_slice_failing :
    let registry : Registry := .ofList [("run_slice", Handler.acknowledge)]
    let request : Signal := .new ⟨⟨0⟩, ⟨1⟩, ⟨0, 0⟩⟩ "pdca.slice.requested"
    ∃ table d put r₁ r₂ d', Table.ofDefinition? definition = .ok table ∧
      Dispatcher.start? table registry ⟨false⟩ {} [] = .ok d ∧
      Handler.acknowledge.Polite 8 ∧
      Rounds (IsRequest 8) true d [] (request :: put) [r₁, r₂] d' [] ∧
      r₁.Attends 8 Handler.acknowledge ∧ d'.current.key = "degraded" := by
  intro registry request
  let site : Site := { clock := ⟨0, 0⟩, queue := [request] }
  obtain ⟨table, d, htable, hstart, hreports⟩ : ∃ table d,
      Table.ofDefinition? definition = .ok table ∧
      Dispatcher.start? table registry ⟨false⟩ {} [] = .ok d ∧
      (site.run (d.pump 3)).1.toOption.map
          (·.1.map fun x ↦ (x.signal.type, x.report.isSuccess)) =
        some [(SignalType.sliceRequested, false), (SignalType.actionFailed, false)] :=
    ⟨_, _, rfl, rfl, by decide +kernel⟩
  have hpolite : Handler.acknowledge.Polite 8 := by
    intro signal here
    simp only [Handler.acknowledge]
    split <;> trivial
  obtain ⟨put, htraffic⟩ := Site.traffic_run (IsRequest 8) (d.pump 3) site
  obtain ⟨put₁, put₂, rounds, d', queue', -, hrounds, hending⟩ := Rounds.of_pump htraffic
  generalize (site.run (d.pump 3)).1 = result at hending hreports
  generalize (site.run (d.pump 3)).2.queue = left at hending
  cases hending with
  | crashed => cases hreports
  | finished hend =>
    simp only [Except.toOption, Option.map_some, List.map_map, Option.some.injEq] at hreports
    obtain ⟨r₁, r₂, rfl⟩ : ∃ r₁ r₂, rounds = [r₁, r₂] :=
      List.length_eq_two.1 (by simpa using congrArg List.length hreports)
    obtain rfl : queue' = [] := hend.resolve_left (by simp)
    simp only [List.map_cons, List.map_nil, List.cons.injEq, Function.comp, Round.dispatched,
      Prod.mk.injEq] at hreports
    obtain ⟨⟨htype₁, hreport₁⟩, ⟨htype₂, -⟩, -⟩ := hreports
    have h : Rounds (IsRequest 8) true d [] (request :: put₁) [r₁, r₂] d' [] :=
      .arrival ⟨rfl, by decide⟩ hrounds
    obtain ⟨-, hattends, hlast⟩ := settles_to_last_slice htable hstart rfl hpolite h
    obtain ⟨hkey, -⟩ := hlast [] r₁ [r₂] rfl htype₁
      (List.forall_mem_singleton.2 (by rw [htype₂]; decide)) rfl
    rw [hreport₁] at hkey
    exact ⟨table, d, put₁, r₁, r₂, d', htable, hstart, hpolite, h,
      hattends r₁ (List.mem_cons_self ..), hkey⟩

end Foreman.ControlPlane
