import Foreman.Command
import Foreman.Proofs.ControlPlane.Settling
import Foreman.Proofs.Runner.Entries
import Foreman.Proofs.Runner.Rota

/-!
# A request keeps its identity

A request for a slice goes through several hands. The runner writes the task into the payload of a
signal and its correlation into the log, the table of the control plane routes the signal by its
type, the handler reads a request from the payload, and what it answers is wrapped into the signal of
an outcome. All they share are the names of fields.

The names agree: what is read from a signal that asks for a slice of a task is the request for this
task (`IsSliceOf.ofSignal?`), and what a handler answers, the task and the correlation are found in
the outcome (`Attended.acknowledges`). `request_keeps_identity` puts the two together, from the
record that a tick has listed to the outcome of the request, for all texts in the record, empty ones
included.
-/

namespace Foreman

open Time Store

/-- What a handler answers that acknowledges a request, member by member. -/
def SliceRequest.acknowledged (request : SliceRequest) : Json :=
  .obj [("acknowledged", .obj
    [("conversation_key", .str request.conversation), ("correlation_id", .str request.correlation),
      ("owner_id", .str request.owner), ("session_id", .str request.session),
      ("task_id", .str request.task)])]

theorem SliceRequest.record_toJson (request : SliceRequest) :
    Json.record [("acknowledged", request.toJson)] = request.acknowledged := by
  simp only [acknowledged, toJson, Json.record, Keyed.ofList, Keyed.merge, List.foldl_cons,
    List.foldl_nil, Keyed.insert, String.reduceEq, String.reduceLT, reduceIte]

namespace Runner

/-! ### What is read from the signal of a dispatch -/

namespace IsSliceOf

variable {t : Task} {signal : Signal}

/-- **The request that is read** is the one for the task. -/
theorem ofSignal? (h : IsSliceOf t signal) :
    SliceRequest.ofSignal? signal =
      some ⟨t.id, t.owner, t.conversation, t.session, signal.correlation⟩ := by
  have htype : signal.type = SignalType.sliceRequested := h.type
  have htext (key : String) : signal.text? key = Payload.text? key
      [("conversation_key", .str t.conversation), ("correlation_id", .str signal.correlation),
        ("owner_id", .str t.owner), ("session_id", .str t.session), ("task_id", .str t.id)] := by
    rw [Signal.text?, h.payload]
  simp only [SliceRequest.ofSignal?, if_pos htype, htext]
  rfl

theorem find?_task (h : IsSliceOf t signal) :
    Keyed.find? "task_id" signal.payload = some (.str t.id) := by
  rw [h.payload]
  rfl

/-- A request is the beginning of a cascade. -/
theorem depth (h : IsSliceOf t signal) : signal.depth = 0 := by
  rw [Signal.depth, h.payload]
  rfl

theorem correlation_ne_empty (h : IsSliceOf t signal) : signal.correlation ≠ "" := by
  obtain ⟨id, hid⟩ := h.correlation
  exact hid ▸ id.render_ne_empty

end IsSliceOf

/-! ### What a dispatch sends and records -/

variable {m m' : Memory} {r r' : Runner} {now : Instant} {t : Task} {report : TickReport}
  {es : List (Answered Ask.Reply)}

/-- What the starvation check logs are warnings. -/
theorem type_of_logged_checkStarvation {batch : List Task} {result : Except (Halt TickError) Nat}
    (h : (r.checkStarvation now batch).Dialogue es result) (henters : Answers Ask.Enters es) :
    ∀ e ∈ logged es, e.type = EventType.starvationWarning := by
  intro e he
  obtain ⟨⟨q, reply⟩, hmem, hlogged⟩ := List.mem_filterMap.1 he
  have hwarns := h.forall_of_asks (checkStarvation_asks_warns r now batch) _ hmem
  have henter := henters _ hmem
  cases hwarns with
  | list => cases hlogged
  | latest => cases hlogged
  | append task payload correlation =>
    rcases reply with _ | e'
    · cases hlogged
    · obtain rfl : e' = e := Option.some.inj hlogged
      exact henter.2.1

/-- **A tick that dispatches a task** sends one signal, which asks for a slice of the task, and
enters one dispatch in the log, under the correlation of the signal. -/
theorem Ticked.requested (h : Ticked r now es (.ok (report, r')))
    (ht : report.dispatched = some t) (henters : Answers Ask.Enters es) :
    ∃ signal entry, signals es = [signal] ∧ IsSliceOf t signal ∧
      (logged es).filter (·.type == "slice.requested") = [entry] ∧ entry.task = some t.id ∧
      entry.correlation = some signal.correlation := by
  obtain ⟨batch, refused, untried, warnings, checked, dispatch, hcheck, -, hdispatch, rfl⟩ :=
    h.of_dispatched ht
  obtain ⟨stamp, entry, due, moved, -, rfl⟩ := dispatch_of_ok hdispatch
  obtain ⟨htask, htype, -, hcorrelation⟩ :=
    henters ⟨.store (stamp.entry r t), .ok entry⟩ (by simp)
  have hwarnings := type_of_logged_checkStarvation hcheck fun e he ↦ henters e (by simp [he])
  refine ⟨stamp.signal t, entry, ?_, stamp.isSliceOf_signal t, ?_, htask,
    hcorrelation.trans (congrArg some (stamp.correlation_signal t).symm)⟩
  · rw [signals_store, signals_append, signals_append, signals_checkStarvation hcheck,
      signals_refusals]
    rfl
  · rw [logged_listing]
    change (logged checked ++ [entry]).filter _ = [entry]
    have hnone : (logged checked).filter (·.type == "slice.requested") = [] :=
      List.filter_eq_nil_iff.2 fun e he ↦ by simp [hwarnings e he, EventType.starvationWarning]
    rw [List.filter_append, hnone, List.filter_singleton, htype]
    rfl

end Runner

/-! ### What becomes of a request -/

namespace ControlPlane

open Builtin Dispatcher

variable {d : Dispatcher} {signal : Signal} {es : List (Answered Ask.Reply)}

/-- An emission says whether it has put the signal on the bus, and does not fail. Over a bus that
delivers, an outcome that is not too deep is put there. -/
theorem sent_of_emitOutcome {type : String} {fields : Payload} {result : Except (Halt Empty) Bool}
    (h : (d.emitOutcome type signal fields).Dialogue es result) :
    ∃ emitted, result = .ok emitted ∧
      (Answers Ask.Delivers es → outcomeDepth signal ≤ d.config.maxDepth →
        emitted = true ∧ ∃ birth, Runner.signals es = [outcomeSignal birth type signal fields]) := by
  rw [emitOutcome_eq] at h
  split at h
  · next hdeep =>
    obtain ⟨rfl, rfl⟩ := h
    exact ⟨false, rfl, fun _ hdepth ↦ absurd hdepth (Nat.not_le_of_lt hdeep)⟩
  · obtain ⟨id, _, rfl, correlation, _, rfl, now, _, rfl, isOpen, _, rfl, h⟩ := h
    cases isOpen with
    | false =>
      obtain ⟨rfl, rfl⟩ := h
      exact ⟨false, rfl, fun hbus ↦ by simp [Ask.Delivers] at hbus⟩
    | true =>
      obtain ⟨received, _, rfl, rfl, rfl⟩ := h
      refine ⟨received, rfl, fun hbus _ ↦ ⟨?_, ⟨id, correlation, now⟩, rfl⟩⟩
      simpa [Ask.Delivers] using hbus

/-- The handler of a control plane that hands its slices to nobody. -/
theorem find?_registry {c : Config} {registry : Registry} (hurl : c.actions.webhookUrl = none)
    (h : Command.registry c = .ok registry) :
    registry.find? runSlice = some Handler.acknowledge := by
  simp only [Command.registry, hurl] at h
  obtain rfl := Except.ok.inj h
  rfl

/-- A request leads to `working` from every state. -/
theorem Attended.key_working {maxDepth : Nat} {handler : Handler} {queue : List Signal}
    (h : Attended maxDepth handler d queue) :
    (d.table.advance d.current (some working)).key = working := by
  have hrow : ⟨idle, SignalType.sliceRequested, some runSlice, some working⟩ ∈
      definition.transitions := List.mem_cons_self ..
  exact (Definition.mem_of_declared? (h.table.advance_eq h.current hrow)).2

/-- **A request that is acknowledged** succeeds, whatever is answered meanwhile. Over a bus that
delivers, the outcome is put there, with the request in it. -/
theorem Attended.acknowledges {maxDepth : Nat} {queue : List Signal} {request : SliceRequest}
    {result : Except (Halt Empty) (DispatchReport × Dispatcher)}
    (h : Attended maxDepth Handler.acknowledge d queue)
    (hs : signal.type = SignalType.sliceRequested)
    (hrequest : SliceRequest.ofSignal? signal = some request)
    (hdialogue : (d.dispatch signal).Dialogue es result) :
    ∃ after emitted, result = .ok (.succeeded runSlice d.current.key working emitted, after) ∧
      after.current.key = working ∧
      (Answers Ask.Delivers es → outcomeDepth signal ≤ d.config.maxDepth →
        emitted = true ∧ ∃ birth fields,
          Runner.signals es = [outcomeSignal birth SignalType.actionSucceeded signal fields] ∧
          Keyed.find? "output" fields = some request.acknowledged) := by
  have hhandler : Handler.acknowledge signal d.current = .done request.acknowledged := by
    simp only [Handler.acknowledge, hrequest, request.record_toJson]
    rfl
  rw [h.dispatch_of_request hs, hhandler] at hdialogue
  let after : Dispatcher := { d with current := d.table.advance d.current (some working) }
  let fields : Payload := Keyed.ofList
    [("action_key", .str runSlice), ("state", .str d.current.key),
      ("next_state", .str after.current.key),
      ("output", request.acknowledged)]
  have hkey : after.current.key = working := h.key_working
  change (after.emitOutcome SignalType.actionSucceeded signal fields >>= fun emitted ↦
    .done (.succeeded runSlice d.current.key after.current.key emitted, after)).Dialogue es
      result at hdialogue
  rw [hkey] at hdialogue
  rcases Plan.dialogue_bind.1 hdialogue with ⟨halt, -, hemit⟩ | ⟨_, es₁, _, rfl, hemit, rfl, rfl⟩
  · obtain ⟨_, hok, -⟩ := sent_of_emitOutcome hemit
    cases hok
  · obtain ⟨emitted, hok, hsent⟩ := sent_of_emitOutcome hemit
    obtain rfl := Except.ok.inj hok
    refine ⟨after, _, rfl, hkey, fun hbus hdepth ↦ ?_⟩
    rw [List.append_nil] at hbus ⊢
    obtain ⟨hemitted, birth, hsignals⟩ := hsent hbus hdepth
    exact ⟨hemitted, birth, fields, hsignals, Keyed.find?_merge_of_mem (by simp) (by simp) []⟩

/-- **A signal that asks for a slice** is acknowledged by a control plane that hands its slices to
nobody. Over a bus that delivers, the outcome repeats who asked for what. -/
theorem Attended.acknowledges_slice {maxDepth : Nat} {queue : List Signal} {t : Task}
    {result : Except (Halt Empty) (DispatchReport × Dispatcher)}
    (h : Attended maxDepth Handler.acknowledge d queue) (hslice : Runner.IsSliceOf t signal)
    (hdialogue : (d.dispatch signal).Dialogue es result) :
    ∃ after emitted, result = .ok (.succeeded runSlice d.current.key working emitted, after) ∧
      after.current.key = working ∧
      (Answers Ask.Delivers es → 1 ≤ d.config.maxDepth →
        emitted = true ∧ ∃ outcome, Runner.signals es = [outcome] ∧
          outcome.type = "action.succeeded" ∧
          Keyed.find? "output" outcome.payload = some (.obj [("acknowledged", .obj
            [("conversation_key", .str t.conversation),
              ("correlation_id", .str signal.correlation), ("owner_id", .str t.owner),
              ("session_id", .str t.session), ("task_id", .str t.id)])]) ∧
          outcome.correlation = signal.correlation ∧
          Keyed.find? "task_id" outcome.payload = some (.str t.id) ∧
          Keyed.find? "depth" outcome.payload = some (.int 1) ∧ outcome.depth = 1) := by
  obtain ⟨after, emitted, hresult, hkey, hsent⟩ :=
    h.acknowledges hslice.type hslice.ofSignal? hdialogue
  refine ⟨after, emitted, hresult, hkey, fun hbus hdepth ↦ ?_⟩
  have hone : outcomeDepth signal = 1 := by
    rw [outcomeDepth, hslice.depth]
    rfl
  obtain ⟨hemitted, birth, fields, hput, houtput⟩ := hsent hbus (hone ▸ hdepth)
  refine ⟨hemitted, _, hput, type_outcomeSignal, ?_, ?_, ?_, ?_, ?_⟩
  · rw [payload_outcomeSignal, find?_outcomePayload (by decide), houtput]
    rfl
  · exact correlation_outcomeSignal hslice.correlation_ne_empty
  · rw [payload_outcomeSignal, find?_task_outcomePayload hslice.find?_task]
  · rw [payload_outcomeSignal, find?_depth_outcomePayload, hone]
    rfl
  · rw [depth_outcomeSignal, hone]

end ControlPlane

open ControlPlane Runner

/-- **A request keeps its identity**, from the queue to its outcome. Let a tick over a store in
memory report that it dispatched a task. The task is one that the store holds. The tick has sent one
signal, and what is read from it is the request for this task, under the correlation of the signal;
the one dispatch that the tick has entered in the log is that of the task, under the same
correlation. Let then a dispatcher over the built-in table route this signal, from any state, with
the actions of a configuration that names no webhook. It succeeds and goes on to `working`, whatever
is answered meanwhile. If the bus delivers and the breaker lets one outcome pass, it has sent one
signal: that the action succeeded, with this very request as its output, under the same correlation,
for the same task, and at depth one. -/
theorem request_keeps_identity {mayFail : Request → Prop} {m m' : Memory} {r r' : Runner}
    {now : Instant} {t : Task} {report : TickReport} {es : List (Answered Ask.Reply)}
    (htick : (r.tick now).Dialogue es (.ok (report, r'))) (hserves : m.Serves mayFail es m')
    (ht : report.dispatched = some t) :
    (m.Filed → m.tasks.find? t.id = some t) ∧
    ∃ signal entry, signals es = [signal] ∧
      SliceRequest.ofSignal? signal =
        some ⟨t.id, t.owner, t.conversation, t.session, signal.correlation⟩ ∧
      m'.events = m.events ++ logged es ∧
      (logged es).filter (·.type == "slice.requested") = [entry] ∧ entry.task = some t.id ∧
      entry.correlation = some signal.correlation ∧
      ∀ (c : Config) (d : Dispatcher) (es' : List (Answered Ask.Reply))
        (result : Except (Halt Empty) (DispatchReport × Dispatcher)),
        Table.ofDefinition? Builtin.definition = .ok d.table →
        d.current ∈ Builtin.definition.declared →
        c.actions.webhookUrl = none → Command.registry c = .ok d.registry →
        (d.dispatch signal).Dialogue es' result →
        ∃ after emitted,
          result = .ok (.succeeded "run_slice" d.current.key "working" emitted, after) ∧
          after.current.key = "working" ∧
          (Answers Ask.Delivers es' → 1 ≤ d.config.maxDepth →
            emitted = true ∧ ∃ outcome, signals es' = [outcome] ∧
              outcome.type = "action.succeeded" ∧
              Keyed.find? "output" outcome.payload = some (.obj [("acknowledged", .obj
                [("conversation_key", .str t.conversation),
                  ("correlation_id", .str signal.correlation), ("owner_id", .str t.owner),
                  ("session_id", .str t.session), ("task_id", .str t.id)])]) ∧
              outcome.correlation = signal.correlation ∧
              Keyed.find? "task_id" outcome.payload = some (.str t.id) ∧
              Keyed.find? "depth" outcome.payload = some (.int 1) ∧ outcome.depth = 1) := by
  have hticked := ticked_of_dialogue htick
  obtain ⟨signal, entry, hsignals, hslice, hentry, htask, hcorrelation⟩ :=
    hticked.requested ht hserves.enters
  refine ⟨fun hm ↦ (hm.find?_of_mem_listRunnable (hticked.mem_listRunnable hserves ht)).1,
    signal, entry, hsignals, hslice.ofSignal?, hserves.events, hentry, htask, hcorrelation, ?_⟩
  intro c d es' result htable hcurrent hurl hregistry hdialogue
  have hd : Attended d.config.maxDepth Handler.acknowledge d [] :=
    ⟨Table.describes_of_ofDefinition? htable, hcurrent, find?_registry hurl hregistry, rfl,
      List.forall_mem_nil _⟩
  exact hd.acknowledges_slice hslice hdialogue

/-- At a site with one task, the plain runner dispatches it, and a control plane that has just been
started acknowledges the request. -/
theorem plain_request_acknowledged :
    let c : Config := { runner := plainRunner.config }
    let first := Round.ofSite oneTaskSite plainRunner ⟨5, 0⟩
    let behind := (oneTaskSite.run (plainRunner.tick ⟨5, 0⟩)).2
    ∃ table registry d signal after outcome,
      Table.ofDefinition? Builtin.definition = .ok table ∧ Command.registry c = .ok registry ∧
      Dispatcher.start? table registry ⟨true⟩ c.dispatcher [] = .ok d ∧
      first.Dispatches plainTask ∧ signals first.asked = [signal] ∧
      SliceRequest.ofSignal? signal = some ⟨"a", "o", "c", "s", signal.correlation⟩ ∧
      (behind.run (d.dispatch signal)).1 =
        .ok (.succeeded "run_slice" d.current.key "working" true, after) ∧
      signals ((d.dispatch signal).transcript Site.answer behind) = [outcome] ∧
      outcome.type = "action.succeeded" ∧
      Keyed.find? "output" outcome.payload = some (.obj [("acknowledged", .obj
        [("conversation_key", .str "c"), ("correlation_id", .str signal.correlation),
          ("owner_id", .str "o"), ("session_id", .str "s"), ("task_id", .str "a")])]) ∧
      outcome.correlation = signal.correlation ∧
      Keyed.find? "task_id" outcome.payload = some (.str "a") ∧
      Keyed.find? "depth" outcome.payload = some (.int 1) := by
  intro c first behind
  have hfits : plainRunner.config.Fits ⟨5, 0⟩ := fits_plainRunner (by decide) (by decide)
  have hfirst : first.Undisturbed := Round.undisturbed_ofSite (.of_nothing rfl rfl rfl) rfl hfits
  obtain ⟨_, ht⟩ : ∃ t, first.Dispatches t :=
    (hfirst.dispatches_or_idle filed_oneTask rfl).resolve_right
      fun hidle ↦ List.cons_ne_nil plainTask [] hidle.1
  obtain rfl := List.mem_singleton.1 ht.runnable
  obtain ⟨_, _, hreport⟩ := ht.report
  have htick := hfirst.dialogue
  rw [hreport] at htick
  obtain ⟨-, signal, entry, hsignals, hrequest, -, -, -, -, hdispatch⟩ :=
    request_keeps_identity htick hfirst.serves rfl
  obtain ⟨table, d, htable, hstart⟩ : ∃ table d,
      Table.ofDefinition? Builtin.definition = .ok table ∧
      Dispatcher.start? table (.ofList [(Builtin.runSlice, Handler.acknowledge)]) ⟨true⟩
        c.dispatcher [] = .ok d :=
    ⟨_, _, rfl, rfl⟩
  obtain ⟨rfl, hregistry, hdeclared⟩ :=
    declared?_of_start? (Table.describes_of_ofDefinition? htable) hstart
  obtain ⟨after, emitted, hresult, -, hsent⟩ := hdispatch c d _ _ htable
    (Definition.mem_of_declared? hdeclared).1 rfl (hregistry ▸ rfl)
    ((d.dispatch signal).dialogue_run Site.answer behind)
  obtain ⟨rfl, outcome, hput, htype, houtput, hcorrelation, htask, hdepth, -⟩ :=
    hsent (Site.delivers_transcript (Site.receiving_run oneTaskSite _) _)
      (by rw [config_of_start? hstart]; decide)
  exact ⟨d.table, _, d, signal, after, outcome, htable, rfl, hstart, ht, hsignals, hrequest,
    hresult, hput, htype, houtput, hcorrelation, htask, hdepth⟩

end Foreman
