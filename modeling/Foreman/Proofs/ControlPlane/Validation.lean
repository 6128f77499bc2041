import Foreman.Proofs.ControlPlane.Table

/-!
# What checking accepts, and what it complains about

A definition can be read without checking it: every place of its lists is compared with the places
before it, and whatever is wrong there is written down. `Definition.faults` is that list, for people
who want to know all that is wrong, and `Definition.Valid` says what a definition without faults is
like (`faults_eq_nil_iff`).

Checking stops early, builds its index on the way, and looks for repeated transitions under the
identifier of a state where the definition speaks of keys. It complains about the first fault all
the same. That is a property which a sequence inherits from its parts (`StopsAtFirst.bind`), so it
is proved for one state, for one transition behind others that have been accepted, and put together.
-/

namespace Foreman.ControlPlane

/-! ### Checks that stop -/

section StopsAtFirst

variable {ε α β : Type}

/-- A check that fails with the first of these faults, and succeeds when there is none. -/
def StopsAtFirst (faults : List ε) (result : Except ε α) : Prop :=
  ∀ e, result = .error e ↔ faults.head? = some e

theorem stopsAtFirst_ok (a : α) : StopsAtFirst ([] : List ε) (.ok a) := by
  simp [StopsAtFirst]

theorem stopsAtFirst_error (e : ε) (rest : List ε) :
    StopsAtFirst (e :: rest) (.error e : Except ε α) := by
  simp [StopsAtFirst]

variable {faults faults' : List ε} {result : Except ε α}

/-- A check succeeds exactly where nothing is wrong. -/
theorem StopsAtFirst.exists_ok_iff (h : StopsAtFirst faults result) :
    (∃ a, result = .ok a) ↔ faults = [] := by
  cases result with
  | ok a =>
    cases faults with
    | nil => simp
    | cons e rest => exact absurd ((h e).2 rfl) (by simp)
  | error e =>
    cases faults with
    | nil => exact absurd ((h e).1 rfl) (by simp)
    | cons e' rest => simp

/-- **A sequence of checks** complains about what its parts complain about, in their order. -/
theorem StopsAtFirst.bind {f : α → Except ε β} (h : StopsAtFirst faults result)
    (hf : ∀ a, result = .ok a → StopsAtFirst faults' (f a)) :
    StopsAtFirst (faults ++ faults') (result >>= f) := by
  cases result with
  | ok a =>
    obtain rfl := h.exists_ok_iff.1 ⟨a, rfl⟩
    exact hf a rfl
  | error e =>
    intro e'
    have hhead := (h e).1 rfl
    simp only [bind, Except.bind, List.head?_append, hhead, Option.some_or, Except.error.injEq,
      Option.some.injEq]

end StopsAtFirst

/-! ### Place by place -/

section Placewise

variable {α κ τ : Type}

/-- What a check finds at every place of a list, given the places before it. -/
def placewise (check : List α → α → List τ) (before : List α) : List α → List τ
  | [] => []
  | a :: rest => check before a ++ placewise check (before ++ [a]) rest

/-- Nothing is found when nothing is found at any place. -/
theorem placewise_eq_nil_iff {check : List α → α → List τ} {before l : List α} :
    placewise check before l = [] ↔
      ∀ i a, l[i]? = some a → check (before ++ l.take i) a = [] := by
  induction l generalizing before with
  | nil => simp [placewise]
  | cons a rest ih =>
    simp only [placewise, List.append_eq_nil_iff, ih]
    constructor
    · rintro ⟨hhead, hrest⟩ (_ | i) b hb
      · obtain rfl : a = b := by simpa using hb
        simpa using hhead
      · simpa using hrest i b (by simpa using hb)
    · intro h
      refine ⟨by simpa using h 0 a rfl, fun i b hb ↦ ?_⟩
      simpa using h (i + 1) b (by simpa using hb)

/-- A trait does not repeat when at no place it has occurred before. -/
theorem nodup_map_iff_not_mem_take {trait : α → κ} {l : List α} :
    (l.map trait).Nodup ↔ ∀ i a, l[i]? = some a → trait a ∉ (l.take i).map trait := by
  rw [List.nodup_iff_getElem?_ne_getElem?]
  constructor
  · intro h i a ha hmem
    obtain ⟨b, hb, heq⟩ := List.mem_map.1 hmem
    obtain ⟨j, hj, rfl⟩ := List.mem_take_iff_getElem.1 hb
    obtain ⟨hi, -⟩ := List.getElem?_eq_some_iff.1 ha
    refine h j i (by omega) (by simpa using hi) ?_
    rw [List.getElem?_map, List.getElem?_map, ha, List.getElem?_eq_getElem (by omega),
      Option.map_some, Option.map_some, heq]
  · intro h i j hij hj heq
    rw [List.length_map] at hj
    have hi : i < l.length := by omega
    refine h j l[j] (List.getElem?_eq_getElem hj) (List.mem_map.2 ⟨l[i], ?_, ?_⟩)
    · exact List.mem_take_iff_getElem.2 ⟨i, by omega, rfl⟩
    · simpa [List.getElem?_map, List.getElem?_eq_getElem hj, List.getElem?_eq_getElem hi] using heq

end Placewise

/-! ### The faults of a definition -/

/-- What is wrong with a state behind others: its key has occurred, or its identifier. -/
def stateFaults (before : List State) (s : State) : List TableError :=
  (if s.key ∈ before.map (·.key) then [.duplicateState s.key] else []) ++
    (if s.id ∈ before.map (·.id) then [.duplicateStateId s.id] else [])

/-- Where a row applies. -/
def Transition.pair (t : Transition) : String × String :=
  (t.state, t.signal)

/-- What is wrong with a row behind others: its state is unknown, its target is, or another row
applies where it does. -/
def transitionFaults (keys : List String) (before : List Transition) (t : Transition) :
    List TableError :=
  (if t.state ∈ keys then [] else [.unknownState t.state]) ++
    ((t.next.filter (· ∉ keys)).toList.map .unknownState ++
      if t.pair ∈ before.map Transition.pair then [.duplicateTransition t.state t.signal] else [])

theorem stateFaults_eq_nil_iff {before : List State} {s : State} :
    stateFaults before s = [] ↔ s.key ∉ before.map (·.key) ∧ s.id ∉ before.map (·.id) := by
  simp only [stateFaults, List.append_eq_nil_iff, ite_eq_right_iff, List.cons_ne_nil, imp_false]

theorem transitionFaults_eq_nil_iff {keys : List String} {before : List Transition}
    {t : Transition} :
    transitionFaults keys before t = [] ↔
      t.state ∈ keys ∧ (∀ key, t.next = some key → key ∈ keys) ∧
        t.pair ∉ before.map Transition.pair := by
  have htarget : (t.next.filter (· ∉ keys)).toList = [] ↔
      ∀ key, t.next = some key → key ∈ keys := by
    cases t.next with
    | none => simp
    | some key => by_cases hkey : key ∈ keys <;> simp [Option.filter_some, hkey]
  simp only [transitionFaults, List.append_eq_nil_iff, List.map_eq_nil_iff, htarget,
    ite_eq_left_iff, ite_eq_right_iff, List.cons_ne_nil, imp_false, Decidable.not_not]

namespace Definition

variable (d : Definition)

/-- The keys of the states. -/
def keys : List String :=
  d.states.map (·.key)

/-- **Everything that is wrong with a definition**, in the order in which people read it: states,
initial state, transitions. -/
def faults : List TableError :=
  placewise stateFaults [] d.declared ++
    ((if d.initial ∈ d.keys then [] else [.unknownInitialState d.initial]) ++
      placewise (transitionFaults d.keys) [] d.transitions)

/-- What a definition must be like. A state without an identifier has its position for one, counted
from one. -/
structure Valid : Prop where
  keys : d.keys.Nodup
  ids : (d.states.mapIdx fun i s ↦ s.id.getD (i + 1)).Nodup
  initial : d.initial ∈ d.keys
  sources : ∀ t ∈ d.transitions, t.state ∈ d.keys
  targets : ∀ t ∈ d.transitions, ∀ key, t.next = some key → key ∈ d.keys
  pairs : (d.transitions.map Transition.pair).Nodup

theorem map_key_declared : d.declared.map (·.key) = d.keys :=
  List.ext_getElem? fun i ↦ by simp [declared, keys, Table.stateAt, Function.comp_def]

theorem map_id_declared :
    d.declared.map (·.id) = d.states.mapIdx fun i s ↦ s.id.getD (i + 1) :=
  List.ext_getElem? fun i ↦ by simp [declared, Table.stateAt, Function.comp_def]

variable {d}

/-- **A definition without faults** is one that is as it must be. -/
theorem faults_eq_nil_iff : d.faults = [] ↔ d.Valid := by
  have hstates : placewise stateFaults [] d.declared = [] ↔
      d.keys.Nodup ∧ (d.states.mapIdx fun i s ↦ s.id.getD (i + 1)).Nodup := by
    rw [← map_key_declared, ← map_id_declared, nodup_map_iff_not_mem_take,
      nodup_map_iff_not_mem_take, placewise_eq_nil_iff]
    simp only [List.nil_append, stateFaults_eq_nil_iff, forall_and]
  have htransitions : placewise (transitionFaults d.keys) [] d.transitions = [] ↔
      (∀ t ∈ d.transitions, t.state ∈ d.keys) ∧
        (∀ t ∈ d.transitions, ∀ key, t.next = some key → key ∈ d.keys) ∧
        (d.transitions.map Transition.pair).Nodup := by
    rw [nodup_map_iff_not_mem_take, placewise_eq_nil_iff]
    simp only [List.nil_append, transitionFaults_eq_nil_iff, forall_and, List.mem_iff_getElem?,
      forall_exists_index]
    rw [forall_comm, forall_comm (β := Transition)]
  have hinitial : (if d.initial ∈ d.keys then [] else [TableError.unknownInitialState d.initial]) = []
      ↔ d.initial ∈ d.keys := by
    simp only [ite_eq_left_iff, List.cons_ne_nil, imp_false, Decidable.not_not]
  rw [faults, List.append_eq_nil_iff, List.append_eq_nil_iff, hstates, hinitial, htransitions]
  constructor
  · rintro ⟨⟨hkeys, hids⟩, hinitial, hsources, htargets, hpairs⟩
    exact ⟨hkeys, hids, hinitial, hsources, htargets, hpairs⟩
  · rintro ⟨hkeys, hids, hinitial, hsources, htargets, hpairs⟩
    exact ⟨⟨hkeys, hids⟩, hinitial, hsources, htargets, hpairs⟩

end Definition

/-! ### Checking -/

namespace Table

theorem unknownTarget?_eq {x : StateIndex} (hx : x.Faithful) (t : Transition) :
    unknownTarget? x t = t.next.filter (· ∉ x.states.map (·.key)) := by
  refine congrArg t.next.filter (funext fun key ↦ Bool.eq_iff_iff.2 ?_)
  rw [Bool.not_eq_true', ← Bool.not_eq_true, hx.contains_key_iff, decide_eq_true_eq]

/-- States are checked one behind the other. The index is asked for what the faults ask of the
states. -/
theorem stopsAtFirst_addStates {x : StateIndex} (hx : x.Faithful) (defs : List StateDefinition) :
    StopsAtFirst
      (placewise stateFaults x.states (defs.mapIdx fun i d ↦ stateAt (x.states.length + i) d))
      (addStates x defs) := by
  induction defs generalizing x with
  | nil => exact stopsAtFirst_ok x
  | cons d rest ih =>
    simp only [addStates, List.mapIdx_cons, Nat.add_zero, placewise, stateFaults,
      hx.contains_key_iff, hx.contains_id_iff]
    split
    · exact stopsAtFirst_error _ _
    · next hkey =>
      split
      · exact stopsAtFirst_error _ _
      · next hid =>
        have hadd : (x.add (stateAt x.states.length d)).Faithful :=
          hx.add (hx.keys.eq_none_iff.2 hkey) (hx.ids.eq_none_iff.2 hid)
        simpa [StateIndex.add, Nat.add_assoc, Nat.add_comm 1] using ih hadd

theorem isSome_rowIn?_iff {rows : List Transition} {state signal : String} :
    (rowIn? rows state signal).isSome ↔ (state, signal) ∈ rows.map Transition.pair := by
  simp [rowIn?, Transition.pair]

/-- A row is checked behind those that have been accepted. The routes are asked under an identifier
for what the faults ask under a key. -/
theorem Indexes.stopsAtFirst_addRoute {x : StateIndex} (hx : x.Faithful) {rows : List Transition}
    {routes : Routes} (h : Indexes x.states rows routes) (t : Transition) :
    StopsAtFirst (transitionFaults (x.states.map (·.key)) rows t) (addRoute x routes t) := by
  cases horigin : x.state? t.state with
  | none =>
    have hstate := hx.state?_eq_none_iff.1 horigin
    simp only [addRoute, horigin, transitionFaults, if_neg hstate]
    exact stopsAtFirst_error _ _
  | some origin =>
    obtain ⟨hmem, hkey⟩ := hx.state?_eq_some_iff.1 horigin
    have hstate : t.state ∈ x.states.map (·.key) := hkey ▸ List.mem_map_of_mem hmem
    simp only [addRoute, horigin, transitionFaults, if_pos hstate, List.nil_append,
      unknownTarget?_eq hx]
    cases t.next.filter (· ∉ x.states.map (·.key)) with
    | some key => exact stopsAtFirst_error _ _
    | none =>
      have hcontains : (routes.ofState origin.id).contains t.signal =
          decide (t.pair ∈ rows.map Transition.pair) := by
        rw [Register.contains, h.routes origin hmem, hkey, Option.isSome_map]
        exact Bool.eq_iff_iff.2 (by rw [isSome_rowIn?_iff, decide_eq_true_eq, Transition.pair])
      simp only [hcontains, decide_eq_true_eq, Option.toList_none, List.map_nil, List.nil_append]
      split
      · exact stopsAtFirst_error _ _
      · exact stopsAtFirst_ok _

/-- Rows are checked one behind the other. -/
theorem Indexes.stopsAtFirst_addRoutes {x : StateIndex} (hx : x.Faithful)
    {rows : List Transition} {routes : Routes} (h : Indexes x.states rows routes)
    (rest : List Transition) :
    StopsAtFirst (placewise (transitionFaults (x.states.map (·.key))) rows rest)
      (addRoutes x routes rest) := by
  induction rest generalizing rows routes with
  | nil => exact stopsAtFirst_ok routes
  | cons t rest ih =>
    exact (h.stopsAtFirst_addRoute hx t).bind fun routes' ht ↦ ih (h.concat hx ht)

/-- **Checking complains about the first fault.** -/
theorem stopsAtFirst_ofDefinition? (d : Definition) : StopsAtFirst d.faults (ofDefinition? d) := by
  have hstates : StopsAtFirst (placewise stateFaults [] d.declared) (addStates .empty d.states) := by
    simpa [Definition.declared, StateIndex.empty] using
      stopsAtFirst_addStates StateIndex.faithful_empty d.states
  refine hstates.bind fun x hok ↦ ?_
  obtain ⟨hlist, hx⟩ := addStates_eq_ok hok StateIndex.faithful_empty
  have hkeys : x.states.map (·.key) = d.keys := by
    rw [← d.map_key_declared]
    simp [hlist, Definition.declared, StateIndex.empty]
  have hplace : (x.place? d.initial).isSome = true ↔ d.initial ∈ d.keys := by
    rw [StateIndex.place?, Option.isSome_pmap, hx.keys.isSome_iff, hkeys]
  cases hstart : x.place? d.initial with
  | none =>
    have hunknown : d.initial ∉ d.keys := by
      rw [← hplace, hstart]
      exact Bool.false_ne_true
    rw [if_neg hunknown]
    exact stopsAtFirst_error _ _
  | some start =>
    have hknown : d.initial ∈ d.keys := by
      rw [← hplace, hstart]
      rfl
    have hroutes := (indexes_nil x.states).stopsAtFirst_addRoutes hx d.transitions
    rw [hkeys] at hroutes
    rw [if_pos hknown, List.nil_append, ← List.append_nil (placewise _ _ _)]
    exact hroutes.bind fun routes _ ↦ stopsAtFirst_ok _

/-- What is valid is accepted, and nothing else. -/
theorem exists_ofDefinition?_iff_valid {d : Definition} :
    (∃ t, ofDefinition? d = .ok t) ↔ d.Valid :=
  (stopsAtFirst_ofDefinition? d).exists_ok_iff.trans Definition.faults_eq_nil_iff

end Table

/-! ### Counting transitions -/

/-- The number of routes of all states. -/
def Routes.count (routes : Routes) : Nat :=
  routes.foldr (fun e n ↦ e.2.size + n) 0

/-- Other routes for a state count instead of those that it had. -/
theorem Routes.count_insert (id : Int) (r : Register Route) (routes : Routes) :
    count (Numbered.insert id r routes) + (routes.ofState id).size = routes.count + r.size := by
  induction routes with
  | nil =>
    have hempty : (∅ : Register Route).size = 0 := rfl
    simp [Numbered.insert, Numbered.find?, count, ofState, hempty]
  | cons e rest ih =>
    by_cases he : e.1 = id
    · simp [Numbered.insert, Numbered.find?, count, ofState, he]
      omega
    · simp only [count, ofState] at ih
      simp [Numbered.insert, Numbered.find?, count, ofState, he]
      omega

namespace Table

variable {x : StateIndex} {routes routes' : Routes}

theorem count_addRoute {t : Transition} (h : addRoute x routes t = .ok routes') :
    routes'.count = routes.count + 1 := by
  obtain ⟨origin, -, -, hfresh, rfl⟩ := addRoute_eq_ok h
  have hcount := Routes.count_insert origin.id
    ((routes.ofState origin.id).insert t.signal t.route) routes
  have hsize := Register.size_insert_of_find?_eq_none hfresh t.route
  omega

/-- Every row that is accepted counts. -/
theorem count_addRoutes {rest : List Transition} (h : addRoutes x routes rest = .ok routes') :
    routes'.count = routes.count + rest.length := by
  induction rest generalizing routes with
  | nil =>
    obtain rfl : routes = routes' := Except.ok.inj h
    rfl
  | cons t rest ih =>
    simp only [addRoutes, bind, Except.bind] at h
    cases ht : addRoute x routes t with
    | error e =>
      rw [ht] at h
      cases h
    | ok routes'' =>
      rw [ht] at h
      have hrest := ih h
      have hone := count_addRoute ht
      rw [List.length_cons]
      omega

theorem transitionCount_of_ofDefinition? {d : Definition} {t : Table}
    (h : ofDefinition? d = .ok t) : t.transitionCount = d.transitions.length := by
  obtain ⟨-, -, hroutes⟩ := ofDefinition?_eq_ok h
  have hcount := count_addRoutes hroutes
  have hnone : Routes.count [] = 0 := rfl
  exact hcount.trans (by omega)

/-- **Checking is exact.** A definition is accepted when it is valid and only then; otherwise the
error is its first fault. An accepted table lists the states in the order of the definition, finds
each of them by its key and by its identifier and nothing under any other, and counts the
transitions. -/
theorem checking_exact (d : Definition) :
    ((∃ t, ofDefinition? d = .ok t) ↔ d.Valid) ∧
      (∀ e, ofDefinition? d = .error e ↔ d.faults.head? = some e) ∧
      ∀ t, ofDefinition? d = .ok t →
        (t.states = d.states.mapIdx fun i s ↦
          { id := s.id.getD (i + 1)
            key := s.key
            name := if s.name = "" then s.key else s.name
            enabled := s.enabled }) ∧
        (∀ key s, t.state? key = some s ↔ s ∈ t.states ∧ s.key = key) ∧
        (∀ id s, t.stateById? id = some s ↔ s ∈ t.states ∧ s.id = id) ∧
        t.transitionCount = d.transitions.length := by
  refine ⟨exists_ofDefinition?_iff_valid, stopsAtFirst_ofDefinition? d, fun t ht ↦ ?_⟩
  have hdescribes := describes_of_ofDefinition? ht
  exact ⟨hdescribes.states, fun _ _ ↦ hdescribes.faithful.state?_eq_some_iff,
    fun _ _ ↦ hdescribes.faithful.stateById?_eq_some_iff, transitionCount_of_ofDefinition? ht⟩

/-- An identifier of its own can be one that another state is counted by. -/
example : ofDefinition?
    { initial := "a", states := [{ id := some 2, key := "a" }, { key := "b" }] } =
      .error (.duplicateStateId 2) := rfl

/-- An identifier of its own between two that are counted, and a name between two that are not
given. -/
def mixedStates : Definition where
  initial := "third"
  states := [{ key := "first" }, { id := some 7, key := "second", name := "Two" },
    { key := "third" }]
  transitions := [⟨"first", "go", none, some "third"⟩, ⟨"third", "go", some "echo", none⟩]

theorem checking_exact_mixedStates :
    ∃ t, ofDefinition? mixedStates = .ok t ∧
      t.states = [⟨1, "first", "first", true⟩, ⟨7, "second", "Two", true⟩,
        ⟨3, "third", "third", true⟩] ∧
      t.state? "second" = some ⟨7, "second", "Two", true⟩ ∧
      t.stateById? 3 = some ⟨3, "third", "third", true⟩ ∧ t.stateById? 2 = none ∧
      t.transitionCount = 2 := by
  obtain ⟨haccepts, -, hfound⟩ := checking_exact mixedStates
  obtain ⟨t, ht⟩ := haccepts.2
    ⟨by decide, by decide, by decide, by decide, by decide, by decide⟩
  obtain ⟨hstates, hkeys, hids, hcount⟩ := hfound t ht
  have hlist : t.states = [⟨1, "first", "first", true⟩, ⟨7, "second", "Two", true⟩,
    ⟨3, "third", "third", true⟩] := hstates
  refine ⟨t, ht, hlist, (hkeys _ _).2 ⟨?_, rfl⟩, (hids _ _).2 ⟨?_, rfl⟩,
    Option.eq_none_iff_forall_ne_some.2 fun s hs ↦ ?_, hcount⟩
  · simp [hlist]
  · simp [hlist]
  · obtain ⟨hmem, hid⟩ := (hids 2 s).1 hs
    have hnone : ∀ s ∈ mixedStates.declared, s.id ≠ 2 := by decide
    rw [hstates] at hmem
    exact hnone s hmem hid

end Table

end Foreman.ControlPlane
