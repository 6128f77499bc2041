import Foreman.ControlPlane.Table
import Mathlib.Data.List.Nodup

/-!
# What an accepted table says

Checking turns a definition into an index: two maps lead from keys and from identifiers to the
positions of the states, and the routes are filed under the identifier of their state and then by
signal. `Table.Describes` says that the index and the definition tell the same story, so that
whoever holds an accepted table can read the lists of the definition instead.

The story has two sides. The maps lead to every state and to nothing else (`StateIndex.Faithful`),
which is kept by every state that is added behind others with other keys and identifiers. The routes
of a state are the rows of its key (`Indexes`), which is kept by every transition that is added:
since identifiers and keys each name one state, a row that is filed under the identifier of a state
is a row of its key and of no other.
-/

namespace Foreman.ControlPlane

/-! ### The lists of a definition -/

/-- The states that a definition declares. -/
def Definition.declared (d : Definition) : List State :=
  d.states.mapIdx Table.stateAt

/-- The declared state of a key. -/
def Definition.declared? (d : Definition) (key : String) : Option State :=
  d.declared.find? fun s ↦ s.key == key

/-- The first row in a list of transitions for a state and a signal. -/
def rowIn? (rows : List Transition) (state signal : String) : Option Transition :=
  rows.find? fun t ↦ t.state == state && t.signal == signal

/-- The row of a definition for a state and a signal. -/
def Definition.row? (d : Definition) (state signal : String) : Option Transition :=
  rowIn? d.transitions state signal

/-- Where a row leads. -/
def Transition.route (t : Transition) : Route :=
  ⟨t.action, t.next⟩

theorem rowIn?_concat (rows : List Transition) (t : Transition) (state signal : String) :
    rowIn? (rows ++ [t]) state signal =
      (rowIn? rows state signal).or
        (if t.state = state ∧ t.signal = signal then some t else none) := by
  by_cases ht : t.state = state ∧ t.signal = signal
  · simp [rowIn?, List.find?_append, ht]
  · have hbeq : (t.state == state && t.signal == signal) = false := by
      simpa using ht
    simp [rowIn?, List.find?_append, hbeq, ht]

section Locates

variable {α κ : Type}

/-- A map that leads from every entry of a list to its position, and from nothing else. -/
def Locates (place? : κ → Option Nat) (l : List κ) : Prop :=
  ∀ k i, place? k = some i ↔ l[i]? = some k

variable {place? place'? : κ → Option Nat} {l : List κ} {k : κ}

/-- **An entry more**: the map goes on to lead everywhere when it leads to the end of the list from
the new entry, and from the others to where it led. -/
theorem Locates.concat (h : Locates place? l) (hfresh : place? k = none)
    (hself : place'? k = some l.length) (hother : ∀ k', k' ≠ k → place'? k' = place? k') :
    Locates place'? (l ++ [k]) := by
  intro k' i
  rw [List.getElem?_append]
  by_cases hk : k' = k
  · subst hk
    have hnew (i : Nat) : l[i]? ≠ some k' := fun hi ↦ by simp [(h k' i).2 hi] at hfresh
    rw [hself, Option.some.injEq]
    split
    · next hi => exact iff_of_false (by omega) (hnew i)
    · rw [List.getElem?_singleton, ite_eq_left_iff]
      simp only [reduceCtorEq, imp_false, Decidable.not_not]
      omega
  · rw [hother k' hk, h k' i]
    split
    · exact Iff.rfl
    · next hi =>
      rw [List.getElem?_eq_none (Nat.le_of_not_lt hi), List.getElem?_singleton]
      split <;> simp [Ne.symm hk]

theorem Locates.isSome_iff (h : Locates place? l) : (place? k).isSome ↔ k ∈ l := by
  simp only [Option.isSome_iff_exists, h k, List.mem_iff_getElem?]

theorem Locates.eq_none_iff (h : Locates place? l) : place? k = none ↔ k ∉ l := by
  rw [← h.isSome_iff, Option.not_isSome_iff_eq_none]

/-- Entries that a map can tell apart are different. -/
theorem Locates.nodup (h : Locates place? l) : l.Nodup := by
  rw [List.nodup_iff_getElem?_ne_getElem?]
  intro i j hij hj heq
  have hj' : l[j]? = some l[j] := List.getElem?_eq_getElem hj
  have hplaces := ((h l[j] i).2 (heq.trans hj')).symm.trans ((h l[j] j).2 hj')
  exact Nat.ne_of_lt hij (Option.some.inj hplaces)

/-- Following a map over the traits of a list, one arrives at the entry that has the trait. -/
theorem Locates.bind_eq_some_iff {trait : α → κ} {l : List α}
    (h : Locates place? (l.map trait)) {a : α} :
    ((place? k).bind fun i ↦ l[i]?) = some a ↔ a ∈ l ∧ trait a = k := by
  rw [Option.bind_eq_some_iff, List.mem_iff_getElem?]
  constructor
  · rintro ⟨i, hi, ha⟩
    have hk := (h k i).1 hi
    rw [List.getElem?_map, ha] at hk
    exact ⟨⟨i, ha⟩, Option.some.inj hk⟩
  · rintro ⟨⟨i, ha⟩, rfl⟩
    exact ⟨i, (h _ i).2 (by rw [List.getElem?_map, ha, Option.map_some]), ha⟩

/-- An entry that is read at a position within the list is the one that is there. -/
theorem map_getElem_pmap_mk {l : List α} {place : Option Nat}
    (h : ∀ i, place = some i → i < l.length) :
    ((place.pmap Fin.mk h).map fun i ↦ l[i]) = place.bind fun i ↦ l[i]? := by
  cases place with
  | none => rfl
  | some i => simp [List.getElem?_eq_getElem (h i rfl)]

/-- A scan arrives there as well, when no trait repeats. -/
theorem find?_eq_some_iff_of_nodup [DecidableEq κ] {trait : α → κ} {l : List α}
    (h : (l.map trait).Nodup) {a : α} :
    (l.find? fun b ↦ trait b == k) = some a ↔ a ∈ l ∧ trait a = k := by
  constructor
  · intro hfind
    exact ⟨List.mem_of_find?_eq_some hfind, by simpa using List.find?_some hfind⟩
  · rintro ⟨ha, rfl⟩
    cases hfind : l.find? fun b ↦ trait b == trait a with
    | none => exact absurd (List.find?_eq_none.1 hfind a ha) (by simp)
    | some b =>
      have htrait : trait b = trait a := by simpa using List.find?_some hfind
      rw [List.inj_on_of_nodup_map h (List.mem_of_find?_eq_some hfind) ha htrait]

end Locates

namespace StateIndex

variable {x : StateIndex} {s : State}

/-- **An index is faithful**: it leads from the key and from the identifier of every state to its
position, and from nothing else. -/
structure Faithful (x : StateIndex) : Prop where
  keys : Locates (x.byKey.find? ·) (x.states.map (·.key))
  ids : Locates (Numbered.find? · x.byId) (x.states.map (·.id))

theorem faithful_empty : empty.Faithful where
  keys _ _ := by simp [empty]
  ids _ _ := by simp [empty, Numbered.find?]

/-- **A state more**, with a key and an identifier of its own, is indexed. -/
theorem Faithful.add (h : x.Faithful) (hkey : x.byKey.find? s.key = none)
    (hid : Numbered.find? s.id x.byId = none) : (x.add s).Faithful where
  keys := by
    rw [StateIndex.add, List.map_append]
    refine h.keys.concat hkey ?_ fun key hne ↦ Register.find?_insert_of_ne hne ..
    rw [Register.find?_insert_self, List.length_map]
  ids := by
    rw [StateIndex.add, List.map_append]
    refine h.ids.concat hid ?_ fun id hne ↦ Numbered.find?_insert_of_ne hne ..
    rw [Numbered.find?_insert_self, List.length_map]

theorem state?_eq_bind (x : StateIndex) (key : String) :
    x.state? key = (x.byKey.find? key).bind fun i ↦ x.states[i]? :=
  map_getElem_pmap_mk (x.byKey_lt key)

theorem stateById?_eq_bind (x : StateIndex) (id : Int) :
    x.stateById? id = (Numbered.find? id x.byId).bind fun i ↦ x.states[i]? :=
  map_getElem_pmap_mk (x.byId_lt id)

namespace Faithful

/-- **A look-up by key** finds the state that has the key. -/
theorem state?_eq_some_iff (h : x.Faithful) {key : String} :
    x.state? key = some s ↔ s ∈ x.states ∧ s.key = key := by
  rw [state?_eq_bind]
  exact h.keys.bind_eq_some_iff

/-- **A look-up by identifier** finds the state that has the identifier. -/
theorem stateById?_eq_some_iff (h : x.Faithful) {id : Int} :
    x.stateById? id = some s ↔ s ∈ x.states ∧ s.id = id := by
  rw [stateById?_eq_bind]
  exact h.ids.bind_eq_some_iff

theorem contains_key_iff (h : x.Faithful) {key : String} :
    x.byKey.contains key ↔ key ∈ x.states.map (·.key) :=
  h.keys.isSome_iff

theorem contains_id_iff (h : x.Faithful) {id : Int} :
    Numbered.contains id x.byId ↔ id ∈ x.states.map (·.id) :=
  h.ids.isSome_iff

theorem state?_eq_none_iff (h : x.Faithful) {key : String} :
    x.state? key = none ↔ key ∉ x.states.map (·.key) := by
  simp [Option.eq_none_iff_forall_ne_some, h.state?_eq_some_iff]

theorem eq_of_key (h : x.Faithful) {t : State} (hs : s ∈ x.states) (ht : t ∈ x.states)
    (hkey : s.key = t.key) : s = t :=
  List.inj_on_of_nodup_map h.keys.nodup hs ht hkey

theorem eq_of_id (h : x.Faithful) {t : State} (hs : s ∈ x.states) (ht : t ∈ x.states)
    (hid : s.id = t.id) : s = t :=
  List.inj_on_of_nodup_map h.ids.nodup hs ht hid

end Faithful

end StateIndex

namespace Table

/-! ### The states -/

/-- States that are accepted are those before and those described, each at its position; and the
index stays faithful. -/
theorem addStates_eq_ok {defs : List StateDefinition} {x y : StateIndex}
    (h : addStates x defs = .ok y) (hx : x.Faithful) :
    y.states = x.states ++ defs.mapIdx (fun i d ↦ stateAt (x.states.length + i) d) ∧
      y.Faithful := by
  induction defs generalizing x with
  | nil =>
    obtain rfl : x = y := Except.ok.inj h
    exact ⟨by simp, hx⟩
  | cons d rest ih =>
    simp only [addStates] at h
    split at h
    · cases h
    · next hkey =>
      split at h
      · cases h
      · next hid =>
        have hadd : (x.add (stateAt x.states.length d)).Faithful :=
          hx.add (by simpa [Register.contains] using hkey) (by simpa [Numbered.contains] using hid)
        obtain ⟨hstates, hy⟩ := ih h hadd
        refine ⟨?_, hy⟩
        simpa [StateIndex.add, List.mapIdx_cons, Nat.add_assoc, Nat.add_comm 1] using hstates

/-! ### The routes -/

/-- The routes of every state are the rows of its key, every row leads to a known state, and no two
rows are for one state and one signal. -/
structure Indexes (states : List State) (rows : List Transition) (routes : Routes) : Prop where
  routes : ∀ s ∈ states, ∀ signal,
    (routes.ofState s.id).find? signal = (rowIn? rows s.key signal).map Transition.route
  targets : ∀ row ∈ rows, ∀ key, row.next = some key → key ∈ states.map (·.key)
  unique : (rows.map fun row ↦ (row.state, row.signal)).Nodup

theorem indexes_nil (states : List State) : Indexes states [] [] where
  routes _ _ _ := rfl
  targets := nofun
  unique := List.nodup_nil

variable {x : StateIndex}

/-- What it takes for a transition to be added, and where it goes. -/
theorem addRoute_eq_ok {routes routes' : Routes} {t : Transition}
    (h : addRoute x routes t = .ok routes') :
    ∃ origin, x.state? t.state = some origin ∧
      (∀ key, t.next = some key → x.byKey.contains key) ∧
      (routes.ofState origin.id).find? t.signal = none ∧
      routes' = Numbered.insert origin.id ((routes.ofState origin.id).insert t.signal t.route)
        routes := by
  simp only [addRoute] at h
  split at h
  · cases h
  · next origin horigin =>
    split at h
    · cases h
    · next hknown =>
      split at h
      · cases h
      · next hfresh =>
        refine ⟨origin, horigin, fun key hkey ↦ ?_, ?_, (Except.ok.inj h).symm⟩
        · rw [unknownTarget?, hkey] at hknown
          simpa [Option.filter_some] using hknown
        · simpa [Register.contains] using hfresh

/-- **One transition more**: the routes go on to be those of the rows. -/
theorem Indexes.concat (hx : x.Faithful) {rows : List Transition} {routes routes' : Routes}
    {t : Transition} (h : Indexes x.states rows routes) (ht : addRoute x routes t = .ok routes') :
    Indexes x.states (rows ++ [t]) routes' := by
  obtain ⟨origin, horigin, htargets, hfresh, rfl⟩ := addRoute_eq_ok ht
  obtain ⟨hmem, hkey⟩ := hx.state?_eq_some_iff.1 horigin
  have hnone : rowIn? rows t.state t.signal = none := by
    rw [h.routes origin hmem, hkey] at hfresh
    simpa using hfresh
  refine ⟨fun s hs signal ↦ ?_, fun row hrow ↦ ?_, ?_⟩
  · rw [rowIn?_concat]
    by_cases hid : s.id = origin.id
    · -- The routes that were changed are those of the state that the row names.
      obtain rfl := hx.eq_of_id hs hmem hid
      rw [Routes.ofState_insert_self]
      by_cases hsignal : signal = t.signal
      · subst hsignal
        simp [hkey, hnone]
      · rw [Register.find?_insert_of_ne hsignal, h.routes s hs]
        simp [Ne.symm hsignal]
    · have hstate : t.state ≠ s.key := fun heq ↦
        hid (congrArg State.id (hx.eq_of_key hs hmem (heq.symm.trans hkey.symm)))
      rw [Routes.ofState_insert_of_ne hid, h.routes s hs]
      simp [hstate]
  · rcases List.mem_append.1 hrow with hrow | hrow
    · exact h.targets row hrow
    · obtain rfl := List.mem_singleton.1 hrow
      exact fun key hnext ↦ hx.contains_key_iff.1 (htargets key hnext)
  · rw [List.map_append]
    refine h.unique.append (List.nodup_singleton _) ?_
    simp only [List.map_cons, List.map_nil, List.disjoint_singleton, List.mem_map, Prod.mk.injEq]
    rintro ⟨row, hrow, hstate, hsignal⟩
    have hmiss := List.find?_eq_none.1 hnone row hrow
    simp [hstate, hsignal] at hmiss

/-- Transitions that are accepted are indexed. -/
theorem addRoutes_eq_ok (hx : x.Faithful) {rest rows : List Transition} {routes routes' : Routes}
    (hrows : Indexes x.states rows routes) (h : addRoutes x routes rest = .ok routes') :
    Indexes x.states (rows ++ rest) routes' := by
  induction rest generalizing rows routes with
  | nil =>
    obtain rfl : routes = routes' := Except.ok.inj h
    simpa using hrows
  | cons t rest ih =>
    simp only [addRoutes] at h
    cases ht : addRoute x routes t with
    | error e => rw [ht] at h; cases h
    | ok routes'' =>
      rw [ht] at h
      simpa using ih (hrows.concat hx ht) h

/-! ### The table -/

/-- **A table and a definition tell the same story.** -/
structure Describes (t : Table) (d : Definition) : Prop where
  states : t.states = d.declared
  faithful : t.toStateIndex.Faithful
  initial : t.initial.key = d.initial
  indexes : Indexes t.states d.transitions t.routes

/-- What it takes for a definition to be accepted, and the table that it becomes. -/
theorem ofDefinition?_eq_ok {d : Definition} {t : Table} (h : ofDefinition? d = .ok t) :
    addStates .empty d.states = .ok t.toStateIndex ∧ t.place? d.initial = some t.start ∧
      addRoutes t.toStateIndex [] d.transitions = .ok t.routes := by
  simp only [ofDefinition?, bind, Except.bind] at h
  split at h
  · cases h
  · next x hstates =>
    split at h
    · cases h
    · next start hstart =>
      split at h
      · cases h
      · next routes hroutes =>
        obtain rfl := Except.ok.inj h
        exact ⟨hstates, hstart, hroutes⟩

/-- **An accepted table tells the story of its definition.** -/
theorem describes_of_ofDefinition? {d : Definition} {t : Table} (h : ofDefinition? d = .ok t) :
    t.Describes d := by
  obtain ⟨hstates, hstart, hroutes⟩ := ofDefinition?_eq_ok h
  obtain ⟨hlist, hfaithful⟩ := addStates_eq_ok hstates StateIndex.faithful_empty
  have hinitial : t.state? d.initial = some t.initial := by
    rw [StateIndex.state?, hstart, Option.map_some, initial]
  refine ⟨by simpa [Definition.declared, StateIndex.empty] using hlist, hfaithful,
    (hfaithful.state?_eq_some_iff.1 hinitial).2, ?_⟩
  simpa using addRoutes_eq_ok hfaithful (indexes_nil _) hroutes

theorem initial_mem_states (t : Table) : t.initial ∈ t.states :=
  List.getElem_mem _

namespace Describes

variable {t : Table} {d : Definition} {s : State}

/-- **A state is found by its key** as in the definition. -/
theorem state?_eq (h : t.Describes d) (key : String) : t.state? key = d.declared? key := by
  refine Option.ext fun s ↦ ?_
  rw [h.faithful.state?_eq_some_iff, Definition.declared?, ← h.states,
    find?_eq_some_iff_of_nodup h.faithful.keys.nodup]

/-- **A state is found by its identifier** as in the definition. -/
theorem stateById?_eq (h : t.Describes d) (id : Int) :
    t.stateById? id = d.declared.find? fun s ↦ s.id == id := by
  refine Option.ext fun s ↦ ?_
  rw [h.faithful.stateById?_eq_some_iff, ← h.states,
    find?_eq_some_iff_of_nodup h.faithful.ids.nodup]

/-- A declared state is the one that its key declares. -/
theorem declared?_eq (h : t.Describes d) (hs : s ∈ d.declared) : d.declared? s.key = some s := by
  rw [← h.state?_eq, h.faithful.state?_eq_some_iff, h.states]
  exact ⟨hs, rfl⟩

theorem declared?_initial (h : t.Describes d) : d.declared? d.initial = some t.initial := by
  rw [← h.state?_eq, h.faithful.state?_eq_some_iff]
  exact ⟨t.initial_mem_states, h.initial⟩

/-- **A look-up is a scan of the rows**, unless the state is disabled. -/
theorem lookup_eq (h : t.Describes d) (hs : s ∈ d.declared) (signal : String) :
    t.lookup s.id signal =
      if s.enabled then (d.row? s.key signal).map Transition.route else none := by
  rw [← h.states] at hs
  have hfind : t.stateById? s.id = some s := h.faithful.stateById?_eq_some_iff.2 ⟨hs, rfl⟩
  simp only [lookup, hfind, h.indexes.routes s hs signal]
  rfl

/-- **A move leads where the row says**, and stays where the row says nothing. -/
theorem advance_eq (h : t.Describes d) (hs : s ∈ d.declared) {row : Transition}
    (hrow : row ∈ d.transitions) :
    d.declared? (row.next.getD s.key) = some (t.advance s row.next) := by
  cases hnext : row.next with
  | none => simpa [advance] using h.declared?_eq hs
  | some key =>
    obtain ⟨target, htarget, rfl⟩ := List.mem_map.1 (h.indexes.targets row hrow key hnext)
    rw [h.states] at htarget
    simp [advance, h.state?_eq, h.declared?_eq htarget]

end Describes

end Table

/-- What a key declares is declared, under this key. -/
theorem Definition.mem_of_declared? {d : Definition} {key : String} {s : State}
    (h : d.declared? key = some s) : s ∈ d.declared ∧ s.key = key :=
  ⟨List.mem_of_find?_eq_some h, by simpa using List.find?_some h⟩

end Foreman.ControlPlane
