import Foreman.ControlPlane.Definition
import Foreman.Files
import Foreman.Register

/-!
# State tables

A state table is a definition that has been checked, indexed for look-up. Checking goes through the
definition in the order in which people read it, states, initial state, transitions, and stops at
the first fault.

Look-up is total: a pair of state and signal without a transition, and every pair whose state is
disabled, leads nowhere.
-/

namespace Foreman.ControlPlane

/-- A state of the machine. -/
structure State where
  id : Int
  key : String
  name : String
  enabled : Bool
deriving DecidableEq, Repr

/-- Where a signal leads: the action to run, if any, and the state to move to, if any. -/
structure Route where
  action : Option String
  next : Option String
deriving DecidableEq, Repr

/-- What is wrong with a state table. -/
inductive TableError where
  /-- The file could not be read, for this reason. -/
  | unreadable (path : String) (reason : FileError)
  /-- The text is not the YAML of a definition. -/
  | malformed
  | duplicateState (key : String)
  | duplicateStateId (id : Int)
  | duplicateTransition (state signal : String)
  | unknownState (key : String)
  | unknownInitialState (key : String)
deriving DecidableEq, Repr

/-- The wording of an error. -/
def TableError.message : TableError → String
  | unreadable path reason => s!"failed to read state table {path}: {reason.message}"
  | malformed => "invalid state table yaml"
  | duplicateState key => s!"duplicate state key: {key}"
  | duplicateStateId id => s!"duplicate state id: {id}"
  | duplicateTransition state signal =>
    s!"duplicate transition for state {state} on signal {signal}"
  | unknownState key => s!"transition references unknown state: {key}"
  | unknownInitialState key => s!"initial state not defined: {key}"

/-! ### Maps under identifiers -/

/-- A list of values, each under an identifier. -/
abbrev Numbered (α : Type) := List (Int × α)

namespace Numbered

variable {α : Type}

/-- The value under an identifier. -/
def find? (id : Int) : Numbered α → Option α
  | [] => none
  | (i, a) :: rest => if i = id then some a else find? id rest

/-- Puts a value under an identifier, replacing the one there. -/
def insert (id : Int) (a : α) : Numbered α → Numbered α
  | [] => [(id, a)]
  | (i, b) :: rest => if i = id then (id, a) :: rest else (i, b) :: insert id a rest

/-- Whether there is a value under an identifier. -/
def contains (id : Int) (m : Numbered α) : Bool :=
  (find? id m).isSome

@[simp] theorem find?_insert_self (id : Int) (a : α) (m : Numbered α) :
    find? id (insert id a m) = some a := by
  induction m with
  | nil => simp [insert, find?]
  | cons e rest ih => by_cases he : e.1 = id <;> simp [insert, find?, he, ih]

theorem find?_insert_of_ne {id other : Int} (h : other ≠ id) (a : α) (m : Numbered α) :
    find? other (insert id a m) = find? other m := by
  induction m with
  | nil => simp [insert, find?, Ne.symm h]
  | cons e rest ih =>
    by_cases he : e.1 = id
    · simp [insert, find?, he, Ne.symm h]
    · simp [insert, find?, he, ih]

end Numbered

/-- The routes of the states that have any, under the identifiers of these; within an entry by
signal. -/
abbrev Routes := Numbered (Register Route)

namespace Routes

/-- The routes of the state of an identifier. -/
def ofState (routes : Routes) (id : Int) : Register Route :=
  (Numbered.find? id routes).getD ∅

/-- The routes of a state are those that it was given last. -/
@[simp] theorem ofState_insert_self (routes : Routes) (id : Int) (r : Register Route) :
    ofState (Numbered.insert id r routes) id = r := by
  simp [ofState]

/-- Those of the other states stay as they are. -/
theorem ofState_insert_of_ne {id other : Int} (h : other ≠ id) (routes : Routes)
    (r : Register Route) :
    ofState (Numbered.insert id r routes) other = routes.ofState other := by
  rw [ofState, Numbered.find?_insert_of_ne h, ofState]

end Routes

/-! ### Indexed states -/

/-- States in a row, with two maps into the row: from keys and from identifiers to positions. No
position lies behind the end of the row. Whether it is the right one is another matter: for the
index of a definition this is proved, and not part of the type. -/
structure StateIndex where
  /-- The states in the order of the definition. -/
  states : List State
  /-- The position of the state of a key. -/
  byKey : Register Nat
  /-- The position of the state of an identifier. -/
  byId : Numbered Nat
  byKey_lt : ∀ key i, byKey.find? key = some i → i < states.length
  byId_lt : ∀ id i, Numbered.find? id byId = some i → i < states.length
deriving DecidableEq

namespace StateIndex

/-- No states. -/
def empty : StateIndex where
  states := []
  byKey := ∅
  byId := []
  byKey_lt _ _ h := by cases h
  byId_lt _ _ h := by cases h

/-- The position of the state of a key. -/
def place? (x : StateIndex) (key : String) : Option (Fin x.states.length) :=
  (x.byKey.find? key).pmap Fin.mk (x.byKey_lt key)

/-- The position of the state of an identifier. -/
def placeById? (x : StateIndex) (id : Int) : Option (Fin x.states.length) :=
  (Numbered.find? id x.byId).pmap Fin.mk (x.byId_lt id)

/-- The state of a key. -/
def state? (x : StateIndex) (key : String) : Option State :=
  (x.place? key).map fun i ↦ x.states[i]

/-- The state of an identifier. -/
def stateById? (x : StateIndex) (id : Int) : Option State :=
  (x.placeById? id).map fun i ↦ x.states[i]

/-- Puts a state at the end of the row, and its position under its key and its identifier. -/
def add (x : StateIndex) (s : State) : StateIndex where
  states := x.states ++ [s]
  byKey := x.byKey.insert s.key x.states.length
  byId := Numbered.insert s.id x.states.length x.byId
  byKey_lt key i h := by
    rw [Register.find?_insert] at h
    rw [List.length_append, List.length_singleton]
    split at h
    · exact Option.some.inj h ▸ Nat.lt_succ_self _
    · exact Nat.lt_succ_of_lt (x.byKey_lt key i h)
  byId_lt id i h := by
    rw [List.length_append, List.length_singleton]
    by_cases hid : id = s.id
    · rw [hid, Numbered.find?_insert_self] at h
      exact Option.some.inj h ▸ Nat.lt_succ_self _
    · rw [Numbered.find?_insert_of_ne hid] at h
      exact Nat.lt_succ_of_lt (x.byId_lt id i h)

end StateIndex

/-- A checked state machine. -/
structure Table extends StateIndex where
  routes : Routes
  /-- The position of the initial state. -/
  start : Fin states.length
deriving DecidableEq

namespace Table

/-! ### Checking a definition -/

/-- The state that a definition describes at a position, counted from zero. -/
def stateAt (position : Nat) (d : StateDefinition) : State where
  id := d.id.getD (position + 1)
  key := d.key
  name := if d.name = "" then d.key else d.name
  enabled := d.enabled

/-- Adds the states of a definition to those before them. -/
def addStates (x : StateIndex) : List StateDefinition → Except TableError StateIndex
  | [] => .ok x
  | d :: rest =>
    let s := stateAt x.states.length d
    if x.byKey.contains s.key then .error (.duplicateState s.key)
    else if x.byId.contains s.id then .error (.duplicateStateId s.id)
    else addStates (x.add s) rest

/-- The key of the state that a transition moves to, if there is no such state. -/
def unknownTarget? (x : StateIndex) (t : Transition) : Option String :=
  t.next.filter fun key ↦ !x.byKey.contains key

/-- Adds one transition to the routes. -/
def addRoute (x : StateIndex) (routes : Routes) (t : Transition) : Except TableError Routes :=
  match x.state? t.state with
  | none => .error (.unknownState t.state)
  | some origin =>
    match unknownTarget? x t with
    | some key => .error (.unknownState key)
    | none =>
      let known := routes.ofState origin.id
      if known.contains t.signal then .error (.duplicateTransition t.state t.signal)
      else .ok (routes.insert origin.id (known.insert t.signal ⟨t.action, t.next⟩))

/-- Adds the transitions of a definition in order. -/
def addRoutes (x : StateIndex) (routes : Routes) : List Transition → Except TableError Routes
  | [] => .ok routes
  | t :: rest => do addRoutes x (← addRoute x routes t) rest

/-- **Checks a definition**: the table, or the first fault. -/
def ofDefinition? (d : Definition) : Except TableError Table := do
  let x ← addStates .empty d.states
  match x.place? d.initial with
  | none => .error (.unknownInitialState d.initial)
  | some start => .ok ⟨x, ← addRoutes x [] d.transitions, start⟩

/-! ### Look-up -/

/-- The initial state. -/
def initial (t : Table) : State :=
  t.states[t.start]

/-- The number of transitions. -/
def transitionCount (t : Table) : Nat :=
  t.routes.foldr (fun e n ↦ e.2.size + n) 0

/-- **Where a signal leads** in the state of an identifier, `none` when nowhere. -/
def lookup (t : Table) (id : Int) (signal : String) : Option Route :=
  match t.stateById? id with
  | some s => if s.enabled then (t.routes.ofState id).find? signal else none
  | none => none

/-- The state behind a route: its target, or the same state when it has none. -/
def advance (t : Table) (current : State) (next : Option String) : State :=
  (next.bind t.state?).getD current

end Table

/-! ### Record form -/

/-- A state as a JSON object. -/
def State.toJson (s : State) : Json :=
  .record
    [("id", .int s.id), ("key", .str s.key), ("name", .str s.name), ("enabled", .bool s.enabled)]

/-- Reads a state; every field must be there. -/
def State.ofJson? (v : Json) : Option State := do
  let f ← v.fields? ["id", "key", "name", "enabled"]
  some
    { id := ← f.required "id" Json.signed?
      key := ← f.required "key" Json.text?
      name := ← f.required "name" Json.text?
      enabled := ← f.required "enabled" Json.bool? }

/-- The outcome of a look-up as a JSON object. -/
def routeJson : Option Route → Json
  | some r => .record
      [("matched", .bool true), ("action_key", .ofText? r.action), ("next_state_key", .ofText? r.next)]
  | none => .record [("matched", .bool false), ("action_key", .null), ("next_state_key", .null)]

end Foreman.ControlPlane
