import Foreman.Proofs.ControlPlane.Rounds

/-!
# Cascades of outcomes are finite

A table may lead from the outcome of an action back to an action, in a cycle if it likes, so that
every dispatch puts another signal on the bus. What stops this is the depth breaker alone. Each
signal on the bus is given an allowance, the number of dispatches that it can be the cause of; a
dispatch pays one out of the allowance of its signal and hands the rest to the outcome
(`Reaction.allowance_le`). So the allowance of a queue bounds the number of rounds from it.

The handlers may do anything but put signals on the bus: what a handler emits has a depth of the
handler's choosing, and a handler that emits a signal of depth zero whenever it runs keeps the bus
busy for ever.
-/

namespace Foreman.ControlPlane

/-- No handler puts signals on the bus. -/
def Registry.Quiet (registry : Registry) : Prop :=
  ∀ action handler, registry.find? action = some handler →
    ∀ signal here, (handler signal here).Asks fun q ↦ ∀ s, q ≠ .enqueue s

/-- The number of dispatches that a queue can lead to under a bound on the depth: one for each
signal, and one for each level between the signal and the bound. -/
def allowance (maxDepth : Nat) : (queue : List Signal) → Nat
  | [] => 0
  | s :: queue => 1 + (maxDepth - s.depth) + allowance maxDepth queue

theorem allowance_append (maxDepth : Nat) (queue queue' : List Signal) :
    allowance maxDepth (queue ++ queue') =
      allowance maxDepth queue + allowance maxDepth queue' := by
  induction queue with
  | nil => simp [allowance]
  | cons s queue ih =>
    rw [List.cons_append, allowance, allowance, ih]
    omega

/-- A signal goes one level deeper than the one that led to it, and under its correlation. -/
structure FollowsFrom (maxDepth : Nat) (trigger s : Signal) : Prop where
  depth_eq : s.depth = trigger.depth + 1
  depth_le : s.depth ≤ maxDepth
  correlation_eq : trigger.correlation ≠ "" → s.correlation = trigger.correlation

/-- What becomes of a queue when a signal is dispatched and no handler puts signals on the bus: less
of it may be left, and behind it stands at most one signal, which follows from the one dispatched.
-/
structure Reaction (maxDepth : Nat) (signal : Signal) (queue put queue' : List Signal) : Prop where
  queue_eq : ∃ kept, kept <:+ queue ∧ queue' = kept ++ put
  length_le : put.length ≤ 1
  follows : ∀ s ∈ put, FollowsFrom maxDepth signal s

theorem Reaction.of_suffix {maxDepth : Nat} {signal : Signal} {queue queue' : List Signal}
    (h : queue' <:+ queue) : Reaction maxDepth signal queue [] queue' where
  queue_eq := ⟨queue', h, (List.append_nil _).symm⟩
  length_le := Nat.zero_le _
  follows := List.forall_mem_nil _

namespace Dispatcher

variable {d : Dispatcher} {signal : Signal} {receiving : Bool} {queue put queue' : List Signal}

/-- What an emission sends follows from its trigger, as long as depths can be written. -/
theorem Emission.followsFrom {maxDepth : Nat} {type : String} {fields : Payload} {emitted : Bool}
    (hmax : maxDepth < Machine.limit64 - 1)
    (h : Emission maxDepth receiving type signal fields put emitted) :
    put.length ≤ 1 ∧ ∀ s ∈ put, FollowsFrom maxDepth signal s := by
  cases h with
  | withheld _ => exact ⟨Nat.zero_le _, List.forall_mem_nil _⟩
  | sent birth hdepth _ =>
    refine ⟨Nat.le_refl _, fun s hs ↦ ?_⟩
    obtain rfl := List.mem_singleton.1 hs
    have hwritten : (outcomeSignal birth type signal fields).depth = outcomeDepth signal :=
      depth_outcomeSignal
    exact ⟨hwritten.trans (outcomeDepth_eq hmax hdepth), hwritten ▸ hdepth,
      correlation_outcomeSignal⟩

/-- **A dispatch with quiet handlers** is a reaction to its signal. If a handler crashes, nothing is
put on the bus. -/
theorem reaction_of_dispatch {result : Except (Halt Empty) (DispatchReport × Dispatcher)}
    (hquiet : d.registry.Quiet) (hmax : d.config.maxDepth < Machine.limit64 - 1)
    (h : Traffic (fun _ ↦ False) receiving (d.dispatch signal) queue put result queue') :
    Reaction d.config.maxDepth signal queue put queue' ∧ (result = .error .crash → put = []) := by
  rcases d.dispatch_cases signal with ⟨report, here, hdispatch⟩ | ⟨action, next, hdispatch⟩
  · rw [hdispatch] at h
    obtain ⟨rfl, -, rfl⟩ := h.of_done
    exact ⟨.of_suffix (List.suffix_refl _), fun _ ↦ rfl⟩
  · rw [hdispatch] at h
    have hasks : (d.runAction action signal).Asks fun q ↦ ∀ s, q ≠ .enqueue s :=
      runAction_asks fun handler hfind ↦ hquiet action handler hfind signal d.current
    rcases h.of_bind with ⟨e, rfl, hrun⟩ | ⟨handled, put₁, put₂, queue₁, rfl, hrun, hconclude⟩
    · obtain ⟨rfl, hsuffix⟩ := hrun.suffix_of_silent hasks
      exact ⟨.of_suffix hsuffix, fun _ ↦ rfl⟩
    · obtain ⟨rfl, hsuffix⟩ := hrun.suffix_of_silent hasks
      have hqueue := hconclude.queue_eq_append (conclude_asks ..)
      obtain ⟨arrivals, sent, emitted, fields, report, harrivals, rfl, rfl, hemission⟩ :=
        traffic_conclude hconclude
      obtain rfl := List.eq_nil_iff_forall_not_mem.2 harrivals
      obtain ⟨hlength, hfollows⟩ := hemission.followsFrom hmax
      refine ⟨⟨⟨queue₁, hsuffix, hqueue⟩, hlength, hfollows⟩, fun hcrash ↦ ?_⟩
      cases hcrash

end Dispatcher

/-- **A reaction is paid for by the allowance of its signal.** -/
theorem Reaction.allowance_le {maxDepth : Nat} {signal : Signal} {queue put queue' : List Signal}
    (h : Reaction maxDepth signal queue put queue') :
    1 + allowance maxDepth queue' ≤ allowance maxDepth (signal :: queue) := by
  obtain ⟨⟨kept, ⟨gone, rfl⟩, rfl⟩, hlength, hfollows⟩ := h
  rw [allowance, allowance_append, allowance_append]
  match put, hlength, hfollows with
  | [], _, _ =>
    have hnil : allowance maxDepth [] = 0 := rfl
    omega
  | [s], _, hfollows =>
    have hs := hfollows s (List.mem_singleton.2 rfl)
    have hdepth := hs.depth_eq
    have hle := hs.depth_le
    have hone : allowance maxDepth [s] = 1 + (maxDepth - s.depth) := rfl
    omega

/-! ### Runs -/

variable {receiving : Bool} {d d' : Dispatcher} {queue put queue' : List Signal}
  {rounds : List Round}

/-- **Rounds with quiet handlers**, while nobody else puts signals on the bus: their number and the
allowance that is left are within the allowance of the queue, and whatever is put on the bus follows
from the signal that is dispatched. -/
theorem Rounds.length_add_allowance_le (hquiet : d.registry.Quiet)
    (hmax : d.config.maxDepth < Machine.limit64 - 1)
    (h : Rounds (fun _ ↦ False) receiving d queue put rounds d' queue') :
    rounds.length + allowance d.config.maxDepth queue' ≤ allowance d.config.maxDepth queue ∧
      ∀ r ∈ rounds, ∀ s ∈ r.put, FollowsFrom d.config.maxDepth r.signal s := by
  induction h with
  | nil => exact ⟨Nat.le_of_eq (Nat.zero_add _), List.forall_mem_nil _⟩
  | arrival hs => exact hs.elim
  | @round r d' queue queue₁ put queue' rounds hround _ ih =>
    obtain ⟨here, hafter⟩ := hround.always (r.before.dispatch_always r.signal)
    obtain ⟨hreaction, -⟩ := Dispatcher.reaction_of_dispatch hquiet hmax hround
    have hpaid := hreaction.allowance_le
    -- The dispatcher behind the round differs in its state only, and is as quiet.
    change r.after = _ at hafter
    simp only [hafter] at ih
    obtain ⟨hle, hrest⟩ := ih hquiet hmax
    refine ⟨?_, List.forall_mem_cons.2 ⟨hreaction.follows, hrest⟩⟩
    rw [List.length_cons]
    omega

/-- A queue without allowance is empty. -/
theorem eq_nil_of_allowance_eq_zero {maxDepth : Nat} (h : allowance maxDepth queue = 0) :
    queue = [] := by
  cases queue with
  | nil => rfl
  | cons s queue =>
    rw [allowance] at h
    omega

/-- **Every cascade of outcomes is finite.** Let no handler put signals on the bus, and let the
bound on the depth be less than the largest number that can be written. From any state of any table
and any queue, and whatever the handlers come to, a dispatcher that is left alone makes no more
rounds than the queue has allowance, and each signal that it emits follows from the one that it
dispatched: one level deeper, within the bound, and under its correlation. And at every site its
loop, if allowed that many rounds, ends with an empty bus, unless a handler crashes in the next
dispatch, which then has emitted nothing. -/
theorem cascade_finite (hquiet : d.registry.Quiet)
    (hmax : d.config.maxDepth < Machine.limit64 - 1) :
    (∀ receiving queue put rounds d' queue',
      Rounds (fun _ ↦ False) receiving d queue put rounds d' queue' →
        rounds.length + allowance d.config.maxDepth queue' ≤ allowance d.config.maxDepth queue ∧
          ∀ r ∈ rounds, ∀ s ∈ r.put, FollowsFrom d.config.maxDepth r.signal s) ∧
      ∀ (site : Site) (limit : Nat), allowance d.config.maxDepth site.queue ≤ limit →
        ∃ put rounds d' queue',
          Rounds (fun _ ↦ False) site.receiving d site.queue put rounds d' queue' ∧
          (((site.run (d.pump limit)).1 = .ok (rounds.map Round.dispatched, d') ∧ queue' = [] ∧
              (site.run (d.pump limit)).2.queue = []) ∨
            ∃ signal rest, queue' = signal :: rest ∧
              Traffic (fun _ ↦ False) site.receiving (d'.dispatch signal) rest [] (.error .crash)
                (site.run (d.pump limit)).2.queue ∧
              (site.run (d.pump limit)).1 = .error .crash) := by
  refine ⟨fun _ _ _ _ _ _ h ↦ h.length_add_allowance_le hquiet hmax, fun site limit hlimit ↦ ?_⟩
  obtain ⟨put, htraffic⟩ := Site.traffic_run (fun _ ↦ False) (d.pump limit) site
  obtain ⟨put₁, put₂, rounds, d', queue', -, hrounds, hending⟩ := Rounds.of_pump htraffic
  refine ⟨put₁, rounds, d', queue', hrounds, ?_⟩
  obtain ⟨hpaid, -⟩ := hrounds.length_add_allowance_le hquiet hmax
  generalize (site.run (d.pump limit)).1 = result at hending ⊢
  generalize (site.run (d.pump limit)).2.queue = left at hending ⊢
  cases hending with
  | finished hend =>
    have hqueue : queue' = [] := by
      rcases hend with hlength | hempty
      · -- As many rounds as the limit allows have spent the whole allowance.
        have hspent : allowance d.config.maxDepth queue' = 0 := by omega
        exact eq_nil_of_allowance_eq_zero hspent
      · exact hempty
    exact .inl ⟨rfl, hqueue, hqueue⟩
  | @crashed signal rest _ _ hcrash =>
    obtain ⟨here, rfl⟩ := hrounds.dispatcher_eq
    obtain ⟨-, hput⟩ :=
      Dispatcher.reaction_of_dispatch (d := { d with current := here }) hquiet hmax hcrash
    obtain rfl := hput rfl
    exact .inr ⟨signal, rest, rfl, hcrash, rfl⟩

/-- One state, in which every success runs the action that it is the success of once more. -/
def feedback : Definition where
  initial := "on"
  states := [{ key := "on" }]
  transitions :=
    [⟨"on", "go", some "echo", none⟩, ⟨"on", SignalType.actionSucceeded, some "echo", none⟩]

theorem cascade_finite_feedback :
    let registry : Registry := .ofList [("echo", Handler.echo)]
    let site : Site := { clock := ⟨0, 0⟩, queue := [.new ⟨⟨0⟩, ⟨1⟩, ⟨0, 0⟩⟩ "go"] }
    ∃ table disp, Table.ofDefinition? feedback = .ok table ∧
      Dispatcher.start? table registry ⟨false⟩ { maxDepth := 2 } [] = .ok disp ∧
      registry.Quiet ∧ 2 < Machine.limit64 - 1 ∧
      ∃ put rounds d' queue', Rounds (fun _ ↦ False) true disp site.queue put rounds d' queue' ∧
        rounds.length + allowance 2 queue' ≤ 3 ∧
        (site.run (disp.pump 3)).1.toOption.map (·.1.length) = some 3 ∧
        (site.run (disp.pump 3)).2.queue = [] := by
  intro registry site
  obtain ⟨table, disp, htable, hstart, hconfig, hregistry, hrun⟩ : ∃ table disp,
      Table.ofDefinition? feedback = .ok table ∧
      Dispatcher.start? table registry ⟨false⟩ { maxDepth := 2 } [] = .ok disp ∧
      disp.config.maxDepth = 2 ∧ disp.registry = registry ∧
      (site.run (disp.pump 3)).1.toOption.map (·.1.length) = some 3 :=
    ⟨_, _, rfl, rfl, rfl, rfl, by decide +kernel⟩
  have hquiet : registry.Quiet := by
    intro action handler hfind signal here
    have hmem : (action, handler) ∈ [("echo", Handler.echo)] :=
      Register.find?_eq_some_iff_mem.1 hfind
    obtain ⟨-, rfl⟩ := Prod.mk.inj (List.mem_singleton.1 hmem)
    trivial
  have hmax : 2 < Machine.limit64 - 1 := by
    unfold Machine.limit64
    omega
  obtain ⟨hbound, hends⟩ := cascade_finite (d := disp) (hregistry ▸ hquiet) (hconfig ▸ hmax)
  obtain ⟨put, rounds, d', queue', hrounds, hend⟩ := hends site 3 (by rw [hconfig]; decide)
  refine ⟨table, disp, htable, hstart, hquiet, hmax, put, rounds, d', queue', hrounds, ?_, hrun, ?_⟩
  · have hle := (hbound _ _ _ _ _ _ hrounds).1
    rw [hconfig] at hle
    exact Nat.le_trans hle (by decide)
  · rcases hend with ⟨-, -, hempty⟩ | ⟨_, _, -, -, hcrash⟩
    · exact hempty
    · rw [hcrash] at hrun
      cases hrun

end Foreman.ControlPlane
