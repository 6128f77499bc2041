import Foreman.Bus
import Foreman.Proofs.Log
import Mathlib.Data.List.Forall2

/-!
# Delivery and audit

A signal that is emitted goes to two places, one after the other: to the log, if it is durable and
the bus keeps one, and then to the queue. The log may refuse the entry, and then the signal is not
queued; the receiver may be gone, and then nothing happens at all. So the two never disagree: what
was accepted is what was queued, in that order (`delivered_in_order`), and of what was accepted the
durable signals are what was recorded, in that order (`recorded_in_order`).

A history around a bus is a list of whole happenings (`Happening`): signals are emitted, through
whichever clone of the bus, and taken; other clients use the store, the store begins to refuse
requests or stops to, time passes, and the receiving end is given up. `Emission` says once what
emitting one signal comes to.
-/

namespace Foreman

open Time Store

/-! ### What a site adds to its log -/

namespace Store.Rehearsal

/-- A store for rehearsals adds the entry that it answers with, and nothing else. -/
theorem events_perform (r : Rehearsal) (clock : Instant) (fresh : Uuid) (rq : Request) :
    (r.perform clock fresh rq).2.memory.events =
      r.memory.events ++ logged [⟨.store rq, (r.perform clock fresh rq).1⟩] := by
  have hpass (r : Rehearsal) (rq : Request) :
      (r.pass clock fresh rq).2.memory.events =
        r.memory.events ++ logged [⟨.store rq, (r.pass clock fresh rq).1⟩] :=
    Memory.events_perform r.memory clock fresh rq
  simp only [perform]
  split
  · cases rq <;> exact (List.append_nil _).symm
  · split
    · split
      · exact (List.append_nil _).symm
      · exact hpass ..
    · next id state taskState expected =>
      rw [hpass]
      refine congrArg (· ++ _) ?_
      simp only [race]
      split
      · rfl
      · exact @Memory.events_perform_of_not_appends r.memory clock fresh (.saveCheckpoint ..)
          not_false
    · exact hpass ..

/-- What it answers with is what it was asked to enter. -/
theorem enters_perform (r : Rehearsal) (clock : Instant) (fresh : Uuid) (rq : Request) :
    (Ask.store rq).Enters (r.perform clock fresh rq).1 := by
  cases rq with
  | appendEvent task type payload correlation =>
    simp only [perform]
    split
    · trivial
    · exact ⟨rfl, rfl, rfl, rfl⟩
  | _ => trivial

end Store.Rehearsal

/-- **The entry that records a durable signal** tells whose task the signal is about, if its payload
has a text under `task_id`, and otherwise repeats the signal. -/
structure Signal.RecordedBy (signal : Signal) (e : Event) : Prop where
  type : e.type = "signal.emitted"
  task : ∀ task, e.task = some task ↔ Keyed.find? "task_id" signal.payload = some (.str task)
  payload : e.payload =
    [("payload", .obj signal.payload), ("signal_id", .str signal.id.render),
      ("signal_type", .str signal.type), ("source", .str signal.source)]
  correlation : e.correlation = some signal.correlation

/-- What a bus tells its log about a signal, member by member. -/
theorem Bus.auditPayload_eq (signal : Signal) :
    auditPayload signal =
      [("payload", .obj signal.payload), ("signal_id", .str signal.id.render),
        ("signal_type", .str signal.type), ("source", .str signal.source)] := by
  simp only [auditPayload, Keyed.ofList, Keyed.merge, List.foldl_cons, List.foldl_nil, Keyed.insert,
    String.reduceEq, String.reduceLT, reduceIte]

namespace Signal.RecordedBy

variable {signal : Signal} {e : Event}

/-- What a bus asks its log to enter records the signal. -/
theorem of_enters (h : (Ask.store (Bus.auditRequest signal)).Enters (.ok e)) :
    signal.RecordedBy e := by
  obtain ⟨htask, htype, hpayload, hcorrelation⟩ := h
  refine ⟨htype, fun task ↦ ?_, hpayload.trans (Bus.auditPayload_eq signal), hcorrelation⟩
  rw [htask]
  exact Payload.text?_eq_some_iff

/-- It names the signal. -/
theorem signal_id (h : signal.RecordedBy e) :
    Keyed.find? "signal_id" e.payload = some (.str signal.id.render) := by
  rw [h.payload]
  rfl

variable {signals : List Signal} {entries : List Event}

theorem map_signal_id (h : List.Forall₂ Signal.RecordedBy signals entries) :
    entries.map (fun e ↦ Keyed.find? "signal_id" e.payload) =
      signals.map fun signal ↦ some (.str signal.id.render) := by
  induction h with
  | nil => rfl
  | cons he _ ih => rw [List.map_cons, List.map_cons, ih, he.signal_id]

theorem exists_of_mem (h : List.Forall₂ Signal.RecordedBy signals entries)
    (hmem : signal ∈ signals) : ∃ e ∈ entries, signal.RecordedBy e := by
  induction h with
  | nil => cases hmem
  | cons he _ ih =>
    rcases List.mem_cons.1 hmem with rfl | hmem
    · exact ⟨_, List.mem_cons_self, he⟩
    · obtain ⟨e, hmem, he⟩ := ih hmem
      exact ⟨e, List.mem_cons_of_mem _ hmem, he⟩

end Signal.RecordedBy

namespace Site

variable {s : Site} {bus : Bus} {signal : Signal}

/-- The log of a site. -/
abbrev events (s : Site) : List Event :=
  s.store.memory.events

/-- The entries of a site's log that record signals. -/
def records (s : Site) : List Event :=
  s.events.filter (·.type == "signal.emitted")

theorem events_answer_store (s : Site) (rq : Request) :
    (s.answer (.store rq)).2.events =
      s.events ++ logged [⟨.store rq, (s.answer (.store rq)).1⟩] :=
  s.store.events_perform ..

/-! ### One signal -/

/-- **What emitting a signal comes to**: the receiver is gone; the log refuses the entry; the signal
is recorded and queued; or it is queued, and needs no entry. -/
inductive Emission (bus : Bus) (s : Site) (signal : Signal) :
    Except (Halt BusError) Unit → Site → Prop where
  | closed (hreceiving : s.receiving = false) :
    Emission bus s signal (.error (.error .closed)) s
  | refused {halt : Halt StoreError} {s' : Site} (hqueue : s'.queue = s.queue)
    (hevents : s'.events = s.events) : Emission bus s signal (.error (halt.map .persist)) s'
  | recorded {e : Event} {s' : Site} (haudited : (signal.durable && bus.audited) = true)
    (hqueue : s'.queue = s.queue ++ [signal]) (hevents : s'.events = s.events ++ [e])
    (he : signal.RecordedBy e) : Emission bus s signal (.ok ()) s'
  | queued (hplain : (signal.durable && bus.audited) = false) :
    Emission bus s signal (.ok ()) { s with queue := s.queue ++ [signal] }

/-- What is put on the bus while somebody receives is behind everything that is on it. -/
theorem run_enqueue (hreceiving : s.receiving = true) :
    Plan.run answer (do
      let received ← Plan.question (Ask.enqueue signal)
      if received then pure () else (Plan.fail .closed : Work BusError Unit)) s =
      (.ok (), { s with queue := s.queue ++ [signal] }) := by
  simp only [Plan.question, Plan.ask_bind, Plan.done_bind, Plan.run_ask, answer, hreceiving,
    if_true]
  rfl

/-- A durable signal of a bus with a log is recorded if the log answers the request for the entry,
and the halt of the log is the halt of the bus. -/
theorem run_record (haudited : (signal.durable && bus.audited) = true) :
    Plan.run answer (bus.record signal) s =
      (match (s.answer (.store (Bus.auditRequest signal))).1 with
        | .ok _ => .ok ()
        | .error halt => .error (halt.map .persist),
        (s.answer (.store (Bus.auditRequest signal))).2) := by
  have hrun : Plan.run answer (bus.record signal) s =
      Plan.run answer ((Plan.ofExcept (s.answer (.store (Bus.auditRequest signal))).1).mapError
        BusError.persist >>= fun _ ↦ pure ()) (s.answer (.store (Bus.auditRequest signal))).2 := by
    rw [Bus.record, if_pos haudited]
    rfl
  rw [hrun]
  cases (s.answer (.store (Bus.auditRequest signal))).1 <;> rfl

/-- **Every signal that is emitted** comes to one of these. -/
theorem emission (bus : Bus) (s : Site) (signal : Signal) :
    Emission bus s signal (s.run (bus.emit signal)).1 (s.run (bus.emit signal)).2 := by
  have hrun : s.run (bus.emit signal) =
      Plan.run answer (if s.receiving then do
        bus.record signal
        let received ← Plan.question (Ask.enqueue signal)
        if received then pure () else Plan.fail .closed
      else Plan.fail .closed) s := rfl
  rw [hrun]
  cases hreceiving : s.receiving with
  | false => exact .closed hreceiving
  | true =>
    rw [if_pos rfl, Plan.run_bind]
    cases haudited : signal.durable && bus.audited with
    | false =>
      have hrecord : bus.record signal = .done () := by simp [Bus.record, haudited]
      simp only [hrecord, Plan.run_done, run_enqueue hreceiving]
      exact .queued haudited
    | true =>
      have hevents := s.events_answer_store (Bus.auditRequest signal)
      have henters : (Ask.store (Bus.auditRequest signal)).Enters
          (s.answer (.store (Bus.auditRequest signal))).1 :=
        s.store.enters_perform s.clock s.ids.next (Bus.auditRequest signal)
      have hqueue : (s.answer (.store (Bus.auditRequest signal))).2.queue = s.queue := rfl
      have hstays : (s.answer (.store (Bus.auditRequest signal))).2.receiving = true := hreceiving
      rw [run_record haudited]
      generalize s.answer (.store (Bus.auditRequest signal)) = answered at *
      obtain ⟨reply, s'⟩ := answered
      cases reply with
      | error halt => exact .refused hqueue (hevents.trans (List.append_nil _))
      | ok e =>
        simp only [run_enqueue hstays]
        exact .recorded haudited (congrArg (· ++ [signal]) hqueue) hevents (.of_enters henters)

namespace Emission

variable {halt : Halt BusError} {s' : Site}

/-- **A signal that is not accepted** is not queued, and nothing is added to the log. -/
theorem of_error (h : Emission bus s signal (.error halt) s') :
    s'.queue = s.queue ∧ s'.events = s.events := by
  cases h with
  | closed => exact ⟨rfl, rfl⟩
  | refused hqueue hevents => exact ⟨hqueue, hevents⟩

theorem queue_of_ok (h : Emission bus s signal (.ok ()) s') :
    s'.queue = s.queue ++ [signal] := by
  cases h with
  | recorded _ hqueue => exact hqueue
  | queued => rfl

/-- A bus with a log adds the entry of a durable signal, and none for another one. -/
theorem records_of_ok (h : Emission bus s signal (.ok ()) s') (haudited : bus.audited = true) :
    ∃ entries, s'.records = s.records ++ entries ∧
      List.Forall₂ Signal.RecordedBy ([signal].filter (·.durable)) entries := by
  rw [List.filter_singleton]
  cases h with
  | @recorded e _ hdurable _ hevents he =>
    rw [haudited, Bool.and_true] at hdurable
    refine ⟨[e], ?_, ?_⟩
    · rw [records, hevents, List.filter_append, List.filter_singleton, he.type]
      rfl
    · rw [hdurable]
      exact .cons he .nil
  | queued hplain =>
    rw [haudited, Bool.and_true] at hplain
    rw [hplain]
    exact ⟨[], (List.append_nil _).symm, .nil⟩

end Emission

end Site

/-! ### Histories around a bus -/

/-- What happens around a bus. -/
inductive Happening where
  /-- A signal is emitted, through any clone of the bus. -/
  | emit (signal : Signal)
  /-- The receiver takes the oldest signal, if there is one. -/
  | receive
  /-- The receiving end is given up. -/
  | hangUp
  /-- Another client uses the store that holds the log. -/
  | request (request : Request)
  /-- From now on the store refuses the requests of these names, and no others. -/
  | refuse (names : List String)
  /-- Time passes. -/
  | wait (clock : Instant)

/-- Another client enters something in the name of the bus. -/
inductive Happening.Forges : Happening → Prop where
  | append {task : Option String} {payload : Payload} {correlation : Option String} :
    Forges (.request (.appendEvent task "signal.emitted" payload correlation))

namespace Site

variable {s : Site} {bus : Bus} {signal : Signal} {h : Happening} {hs : List Happening}

/-- What a happening leaves behind. -/
def left (bus : Bus) (s : Site) : Happening → Site
  | .emit signal => (s.run (bus.emit signal)).2
  | .receive => (s.answer .receive).2
  | .hangUp => s.hangUp
  | .request rq => (s.answer (.store rq)).2
  | .refuse names => { s with store := { s.store with refused := names } }
  | .wait clock => { s with clock := clock }

/-- The signal that is accepted here. -/
def taken (bus : Bus) (s : Site) : Happening → List Signal
  | .emit signal =>
    match (s.run (bus.emit signal)).1 with
    | .ok () => [signal]
    | .error _ => []
  | _ => []

/-- The signal that is received here. -/
def given (s : Site) : Happening → List Signal
  | .receive => (s.answer .receive).1.toList
  | _ => []

/-- The site behind a history. -/
def behind (bus : Bus) (s : Site) (hs : List Happening) : Site :=
  hs.foldl (left bus) s

/-- The signals that are accepted in a history, in the order in which they are emitted. -/
def accepted (bus : Bus) : Site → List Happening → List Signal
  | _, [] => []
  | s, h :: hs => s.taken bus h ++ accepted bus (s.left bus h) hs

/-- The signals that are received in a history, in the order in which they are received. -/
def received (bus : Bus) : Site → List Happening → List Signal
  | _, [] => []
  | s, h :: hs => s.given h ++ received bus (s.left bus h) hs

/-- **One happening** hands out what is at the head of the queue and puts what it accepts at its
end; only giving up the receiving end loses anything. -/
theorem given_append_queue (bus : Bus) (s : Site) (h : Happening) :
    (s.given h ++ (s.left bus h).queue).Sublist (s.queue ++ s.taken bus h) ∧
      (h ≠ .hangUp → s.given h ++ (s.left bus h).queue = s.queue ++ s.taken bus h) := by
  have hsame (heq : s.given h ++ (s.left bus h).queue = s.queue ++ s.taken bus h) :
      (s.given h ++ (s.left bus h).queue).Sublist (s.queue ++ s.taken bus h) ∧
        (h ≠ .hangUp → s.given h ++ (s.left bus h).queue = s.queue ++ s.taken bus h) :=
    ⟨heq ▸ List.Sublist.refl _, fun _ ↦ heq⟩
  cases h with
  | emit signal =>
    refine hsame ?_
    have hemission := emission bus s signal
    simp only [given, left, taken]
    generalize s.run (bus.emit signal) = outcome at hemission
    obtain ⟨reply, s'⟩ := outcome
    cases reply with
    | error halt => exact hemission.of_error.1.trans (List.append_nil _).symm
    | ok => exact hemission.queue_of_ok
  | receive =>
    refine hsame ?_
    simp only [given, left, taken, answer, List.append_nil]
    cases s.queue <;> rfl
  | hangUp => exact ⟨List.nil_sublist _, fun hne ↦ absurd rfl hne⟩
  | _ => exact hsame (List.append_nil _).symm

/-- The requests of others record no signals. -/
theorem records_answer_store (s : Site) {rq : Request} (hforges : ¬ (Happening.request rq).Forges) :
    (s.answer (.store rq)).2.records = s.records := by
  rw [records, events_answer_store, List.filter_append]
  refine (congrArg (s.records ++ ·) ?_).trans (List.append_nil _)
  by_cases happends : (Ask.store rq).Appends
  · cases rq with
    | appendEvent task type payload correlation =>
      have henters := s.store.enters_perform s.clock s.ids.next
        (.appendEvent task type payload correlation)
      change (Ask.store _).Enters (s.answer (.store (.appendEvent ..))).1 at henters
      generalize (s.answer (.store (.appendEvent task type payload correlation))).1 = reply
        at henters
      cases reply with
      | error halt => rfl
      | ok e =>
        have htype : type ≠ "signal.emitted" := by
          rintro rfl
          exact hforges .append
        rw [logged_appendEvent, logged_nil, List.filter_singleton, henters.2.1,
          beq_false_of_ne htype]
        rfl
    | _ => exact happends.elim
  · rw [logged_single_of_not_appends happends]
    rfl

/-- One happening records the durable signal that it accepts, and nothing else. -/
theorem records_left (haudited : bus.audited = true) (hforges : ¬ h.Forges) :
    ∃ entries, (s.left bus h).records = s.records ++ entries ∧
      List.Forall₂ Signal.RecordedBy ((s.taken bus h).filter (·.durable)) entries := by
  cases h with
  | emit signal =>
    have hemission := emission bus s signal
    simp only [left, taken]
    generalize s.run (bus.emit signal) = outcome at hemission
    obtain ⟨reply, s'⟩ := outcome
    cases reply with
    | error halt =>
      refine ⟨[], ?_, .nil⟩
      rw [records, hemission.of_error.2, List.append_nil]
      rfl
    | ok => exact hemission.records_of_ok haudited
  | request rq =>
    exact ⟨[], (records_answer_store s hforges).trans (List.append_nil _).symm, .nil⟩
  | _ => exact ⟨[], (List.append_nil _).symm, .nil⟩

/-! ### What a history delivers, and what it records -/

/-- **Signals are delivered in order**: what was received and what is still queued is a part of what
was queued and what was accepted since, and it is all of it until the receiver is given up. -/
theorem delivered_in_order (bus : Bus) (s : Site) (hs : List Happening) :
    (s.received bus hs ++ (s.behind bus hs).queue).Sublist (s.queue ++ s.accepted bus hs) ∧
      (.hangUp ∉ hs →
        s.received bus hs ++ (s.behind bus hs).queue = s.queue ++ s.accepted bus hs) := by
  induction hs generalizing s with
  | nil => exact ⟨by simp [received, accepted, behind], by simp [received, accepted, behind]⟩
  | cons h rest ih =>
    obtain ⟨hpart, hall⟩ := given_append_queue bus s h
    obtain ⟨ihpart, ihall⟩ := ih (s.left bus h)
    change (s.given h ++ _ ++ ((s.left bus h).behind bus rest).queue).Sublist
        (s.queue ++ (s.taken bus h ++ _)) ∧
      (.hangUp ∉ h :: rest → s.given h ++ _ ++ ((s.left bus h).behind bus rest).queue =
        s.queue ++ (s.taken bus h ++ _))
    rw [List.append_assoc, ← List.append_assoc s.queue]
    constructor
    · have hrest := ihpart.append_left (s.given h)
      rw [← List.append_assoc (s.given h) (s.left bus h).queue] at hrest
      exact hrest.trans (hpart.append_right _)
    · intro hhangUp
      rw [List.mem_cons, not_or] at hhangUp
      rw [ihall hhangUp.2, ← List.append_assoc, hall (Ne.symm hhangUp.1)]

/-- **Durable signals are recorded in order**: if the bus has a log that nobody else enters signals
in, then what the log has gained is an entry for every durable signal that was accepted. -/
theorem recorded_in_order (s : Site) (haudited : bus.audited = true)
    (hforges : ∀ h ∈ hs, ¬ h.Forges) :
    ∃ entries, (s.behind bus hs).records = s.records ++ entries ∧
      List.Forall₂ Signal.RecordedBy ((s.accepted bus hs).filter (·.durable)) entries := by
  induction hs generalizing s with
  | nil => exact ⟨[], (List.append_nil _).symm, .nil⟩
  | cons h rest ih =>
    obtain ⟨hh, hrest⟩ := List.forall_mem_cons.1 hforges
    obtain ⟨first, hfirst, hrecorded⟩ := s.records_left haudited hh
    obtain ⟨others, hothers, hrecorded'⟩ := ih (s.left bus h) hrest
    refine ⟨first ++ others, ?_, ?_⟩
    · rw [← List.append_assoc, ← hfirst]
      exact hothers
    · rw [accepted, List.filter_append]
      exact List.rel_append hrecorded hrecorded'

/-- **Delivery and audit.** While nobody gives up the receiving end, what was received and what is
still queued is what was queued and what was accepted since, in the order of the emissions. A signal
that is not accepted leaves queue and log as they are. And if the bus has a log that nobody else
enters signals in, then the log has gained one entry for every durable signal that was accepted, in
the order of the emissions; so every durable signal that is delivered, or waits to be, has its
entry, unless it was queued before. -/
theorem delivery_and_audit (bus : Bus) (s : Site) (hs : List Happening) :
    (.hangUp ∉ hs →
      s.received bus hs ++ (s.behind bus hs).queue = s.queue ++ s.accepted bus hs) ∧
    (∀ signal halt, ((s.behind bus hs).run (bus.emit signal)).1 = .error halt →
      (s.behind bus (hs ++ [.emit signal])).queue = (s.behind bus hs).queue ∧
        (s.behind bus (hs ++ [.emit signal])).events = (s.behind bus hs).events) ∧
    (bus.audited = true → (∀ h ∈ hs, ¬ h.Forges) →
      ∃ entries, (s.behind bus hs).records = s.records ++ entries ∧
        entries.map (fun e ↦ Keyed.find? "signal_id" e.payload) =
          ((s.accepted bus hs).filter (·.durable)).map (fun signal ↦ some (.str signal.id.render)) ∧
        List.Forall₂ Signal.RecordedBy ((s.accepted bus hs).filter (·.durable)) entries ∧
        ∀ signal ∈ s.received bus hs ++ (s.behind bus hs).queue, signal.durable = true →
          signal ∈ s.queue ∨ ∃ e ∈ entries, signal.RecordedBy e) := by
  obtain ⟨hpart, hall⟩ := delivered_in_order bus s hs
  refine ⟨hall, fun signal halt herror ↦ ?_, fun haudited hforges ↦ ?_⟩
  · have hemission := emission bus (s.behind bus hs) signal
    rw [herror] at hemission
    rw [behind, List.foldl_append]
    exact hemission.of_error
  · obtain ⟨entries, hrecords, hrecorded⟩ := recorded_in_order s haudited hforges
    refine ⟨entries, hrecords, Signal.RecordedBy.map_signal_id hrecorded, hrecorded,
      fun signal hmem hdurable ↦ ?_⟩
    rcases List.mem_append.1 (hpart.subset hmem) with hqueued | haccepted
    · exact .inl hqueued
    · exact .inr (Signal.RecordedBy.exists_of_mem hrecorded
        (List.mem_filter.2 ⟨haccepted, hdurable⟩))

/-- A durable signal and one that is not; a durable one is emitted while the log refuses entries. The
entry of the first repeats it. -/
theorem one_of_three_is_recorded :
    let signal (n : Nat) (durable : Bool) : Signal :=
      ⟨⟨n⟩, "task.updated", [("task_id", .str "a")], "", "c", ⟨0, 0⟩, durable⟩
    let hs : List Happening :=
      [.emit (signal 1 true), .refuse ["append_event"], .emit (signal 2 true), .refuse [], .receive,
        .emit (signal 3 false)]
    let s : Site := { clock := ⟨5, 0⟩ }
    .hangUp ∉ hs ∧ (∀ h ∈ hs, ¬ h.Forges) ∧
      (s.behind ⟨true⟩ (hs.take 3)).queue = [signal 1 true] ∧
      s.received ⟨true⟩ hs ++ (s.behind ⟨true⟩ hs).queue = [signal 1 true, signal 3 false] ∧
      ∃ e, (s.behind ⟨true⟩ hs).records = [e] ∧ e.type = "signal.emitted" ∧ e.task = some "a" ∧
        e.payload = [("payload", .obj [("task_id", .str "a")]),
          ("signal_id", .str "00000000-0000-0000-0000-000000000001"),
          ("signal_type", .str "task.updated"), ("source", .str "")] ∧
        e.correlation = some "c" := by
  intro signal hs s
  have hhangUp : .hangUp ∉ hs := by simp [hs]
  have hforges : ∀ h ∈ hs, ¬ h.Forges := by
    simp only [hs, List.forall_mem_cons]
    refine ⟨?_, ?_, ?_, ?_, ?_, ?_, List.forall_mem_nil _⟩ <;> rintro ⟨⟩
  have haccepted : s.accepted ⟨true⟩ hs = [signal 1 true, signal 3 false] := rfl
  obtain ⟨hdelivered, -, haudit⟩ := delivery_and_audit ⟨true⟩ s hs
  obtain ⟨entries, hrecords, -, hrecorded, -⟩ := haudit rfl hforges
  have hrefused := (delivery_and_audit ⟨true⟩ s (hs.take 2)).2.1 (signal 2 true)
    (.error (.persist .lockPoisoned)) rfl
  refine ⟨hhangUp, hforges, hrefused.1.trans rfl, (hdelivered hhangUp).trans haccepted, ?_⟩
  rw [haccepted] at hrecorded
  obtain _ | ⟨he, _ | _⟩ := hrecorded
  have hid : (signal 1 true).id.render = "00000000-0000-0000-0000-000000000001" := by
    decide +kernel
  exact ⟨_, hrecords, he.type, (he.task "a").2 rfl, hid ▸ he.payload, he.correlation⟩

end Site

end Foreman
