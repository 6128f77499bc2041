import Foreman.Proofs.ControlPlane.Validation
import Foreman.Sql.Server
import Mathlib.Data.List.Find
import Mathlib.Data.List.Forall2

/-!
# A control plane provisioned in a database

The tables of states and transitions are declared with constraints: most columns are never null,
keys and identifiers are unique, and a transition refers to states that exist. `Provisioned` says of
rows that they keep to the constraints; it speaks of the rows as they come back, before anything is
read.

From such rows a table always comes out (`provisioned_table`): no row fails to be read, and every
fault that checking could find is one that a constraint rules out. What the table does can be said
in terms of the rows alone.
-/

namespace Foreman.Sql

open ControlPlane

/-! ### Rows that keep to the constraints -/

/-- A row of a state: no column is null. -/
structure StateColumns (r : Row) : Prop where
  id : ∃ n, r.value "id" = .int n
  key : ∃ s, r.value "key" = .text s
  name : ∃ s, r.value "name" = .text s
  enabled : ∃ b, r.value "enabled" = .bool b
  initial : ∃ b, r.value "is_initial" = .bool b

/-- A row of a transition: action and next state may be null. -/
structure TransitionColumns (r : Row) : Prop where
  state : ∃ s, r.value "state_key" = .text s
  signal : ∃ s, r.value "signal_key" = .text s
  action : ∃ o, r.value "action_key" = .orNull .text o
  next : ∃ o, r.value "next_state_key" = .orNull .text o

/-- Rows of states and of transitions that meet the constraints of their tables. -/
structure Provisioned (states transitions : List Row) : Prop where
  stateColumns : ∀ r ∈ states, StateColumns r
  transitionColumns : ∀ r ∈ transitions, TransitionColumns r
  ids : (states.map (·.value "id")).Nodup
  keys : (states.map (·.value "key")).Nodup
  sources : ∀ r ∈ transitions, r.value "state_key" ∈ states.map (·.value "key")
  targets : ∀ r ∈ transitions, r.value "next_state_key" ≠ .null →
    r.value "next_state_key" ∈ states.map (·.value "key")
  pairs : (transitions.map fun r ↦ (r.value "state_key", r.value "signal_key")).Nodup

/-! ### What the rows say -/

/-- The row of the initial state: the first that is marked, or else the first of all. -/
def initialRow? (states : List Row) : Option Row :=
  (states.find? fun r ↦ r.value "is_initial" == .bool true).or states.head?

/-- The state is that of the row. -/
structure IsStateOf (s : State) (r : Row) : Prop where
  id : r.value "id" = .int s.id
  key : r.value "key" = .text s.key
  name : ∃ name, r.value "name" = .text name ∧ s.name = if name = "" then s.key else name
  enabled : r.value "enabled" = .bool s.enabled

/-- Where the rows lead a signal in the state of an identifier: the state must be enabled, and there
must be a row for its key and the signal. -/
def routeIn? (states transitions : List Row) (id : Int) (signal : String) : Option Route := do
  let s ← states.find? fun r ↦ r.value "id" == .int id
  if s.value "enabled" = .bool true then
    let row ← transitions.find? fun r ↦
      r.value "state_key" == s.value "key" && r.value "signal_key" == .text signal
    some ⟨(row.value "action_key").text?, (row.value "next_state_key").text?⟩
  else none

/-! ### Reading the rows -/

namespace Row

/-- The text in a column. -/
def textIn (r : Row) (column : String) : String :=
  (r.value column).text?.getD ""

/-- The integer in a column. -/
def intIn (r : Row) (column : String) : Int :=
  (r.value column).int?.getD 0

/-- The truth value in a column. -/
def boolIn (r : Row) (column : String) : Bool :=
  (r.value column).bool?.getD false

/-- The state that a row defines. -/
def stateDefinition (r : Row) : StateDefinition where
  id := some (r.intIn "id")
  key := r.textIn "key"
  name := r.textIn "name"
  enabled := r.boolIn "enabled"

/-- The transition that a row defines. -/
def transition (r : Row) : Transition where
  state := r.textIn "state_key"
  signal := r.textIn "signal_key"
  action := (r.value "action_key").text?
  next := (r.value "next_state_key").text?

/-- The state of a row in a table. -/
def state (r : Row) : State where
  id := r.intIn "id"
  key := r.textIn "key"
  name := if r.textIn "name" = "" then r.textIn "key" else r.textIn "name"
  enabled := r.boolIn "enabled"

variable {r : Row}

theorem value_eq_text {column : String} (h : ∃ s, r.value column = .text s) :
    r.value column = .text (r.textIn column) := by
  obtain ⟨s, hs⟩ := h
  rw [textIn, hs]
  rfl

theorem value_eq_int {column : String} (h : ∃ n, r.value column = .int n) :
    r.value column = .int (r.intIn column) := by
  obtain ⟨n, hn⟩ := h
  rw [intIn, hn]
  rfl

theorem value_eq_bool {column : String} (h : ∃ b, r.value column = .bool b) :
    r.value column = .bool (r.boolIn column) := by
  obtain ⟨b, hb⟩ := h
  rw [boolIn, hb]
  rfl

end Row

variable {r : Row}

theorem StateColumns.ofRow? (h : StateColumns r) :
    StateDefinition.ofRow? r = some (r.stateDefinition, r.boolIn "is_initial") := by
  simp only [StateDefinition.ofRow?, Row.required, Row.value_eq_int h.id, Row.value_eq_text h.key,
    Row.value_eq_text h.name, Row.value_eq_bool h.enabled, Row.value_eq_bool h.initial]
  rfl

theorem StateColumns.isStateOf (h : StateColumns r) : IsStateOf r.state r where
  id := Row.value_eq_int h.id
  key := Row.value_eq_text h.key
  name := ⟨r.textIn "name", Row.value_eq_text h.name, rfl⟩
  enabled := Row.value_eq_bool h.enabled

/-- A column that may be null is read as it stands. -/
theorem Row.optional_text {column : String} (h : ∃ o, r.value column = .orNull .text o) :
    r.optional column Datum.text? = some (r.value column).text? := by
  obtain ⟨o, ho⟩ := h
  rw [optional, ho]
  cases o <;> rfl

theorem TransitionColumns.ofRow? (h : TransitionColumns r) :
    Transition.ofRow? r = some r.transition := by
  simp only [Transition.ofRow?, Row.required, Row.value_eq_text h.state,
    Row.value_eq_text h.signal, Row.optional_text h.action, Row.optional_text h.next]
  rfl

/-- Rows that can be read one by one can be read together. -/
theorem mapM_eq_some_map {α β : Type} {l : List α} {f : α → Option β} {g : α → β}
    (h : ∀ a ∈ l, f a = some (g a)) : l.mapM f = some (l.map g) := by
  induction l with
  | nil => rfl
  | cons a l ih =>
    obtain ⟨ha, hl⟩ := List.forall_mem_cons.1 h
    simp [List.mapM_cons, ha, ih hl]

/-! ### The definition in the rows -/

/-- The definition that rows hold. -/
def definitionIn (states transitions : List Row) : Definition where
  initial := ((initialRow? states).map (·.textIn "key")).getD ""
  states := states.map Row.stateDefinition
  transitions := transitions.map Row.transition

namespace Provisioned

variable {states transitions : List Row}

/-- Which row is marked is read off the row. -/
theorem initialOf_eq (h : Provisioned states transitions) :
    initialOf (states.map fun r ↦ (r.stateDefinition, r.boolIn "is_initial")) =
      ((initialRow? states).map (·.textIn "key")).getD "" := by
  have hmarked : (states.find? fun r ↦ r.boolIn "is_initial") =
      states.find? fun r ↦ r.value "is_initial" == .bool true := by
    refine List.find?_congr fun r hr ↦ ?_
    rw [Row.value_eq_bool (h.stateColumns r hr).initial]
    cases r.boolIn "is_initial" <;> rfl
  rw [initialOf, List.find?_map, List.head?_map, ← Option.map_or, Option.map_map]
  exact congrArg (fun o : Option Row ↦ ((o.or states.head?).map (·.textIn "key")).getD "") hmarked

/-- **The rows are read**, states first. -/
theorem query_definition (h : Provisioned states transitions) {p : Premises} {n m : Nat}
    {rest : List (Option Outcome)} (hopen : p.server.closed = false)
    (hreplies : p.server.replies = some ⟨states, n⟩ :: some ⟨transitions, m⟩ :: rest) :
    (p.query Query.definition).1 = .ok (definitionIn states transitions) := by
  have hstates := mapM_eq_some_map fun r hr ↦ (h.stateColumns r hr).ofRow?
  have htransitions := mapM_eq_some_map fun r hr ↦ (h.transitionColumns r hr).ofRow?
  simp only [Premises.query, Query.definition, Query.rows, Query.execute, Query.decoded,
    Plan.pure_eq, Plan.ask_bind, Plan.run_ask, Premises.answerQuery, Server.execute, hopen, hreplies,
    Bool.false_eq_true, if_false, Plan.done_bind, hstates, htransitions, h.initialOf_eq, Plan.run_done]
  simp [definitionIn, Function.comp_def]

end Provisioned

theorem declared_definitionIn (states transitions : List Row) :
    (definitionIn states transitions).declared = states.map Row.state :=
  List.ext_getElem? fun i ↦ by
    simp [Definition.declared, definitionIn, Table.stateAt, Row.stateDefinition, Function.comp_def]
    rfl

theorem keys_definitionIn (states transitions : List Row) :
    (definitionIn states transitions).keys = states.map (·.textIn "key") := by
  simp [Definition.keys, definitionIn, Row.stateDefinition, Function.comp_def]

theorem exists_initialRow? {states : List Row} (hne : states ≠ []) :
    ∃ r ∈ states, initialRow? states = some r := by
  cases hmarked : states.find? fun r ↦ r.value "is_initial" == .bool true with
  | some r =>
    exact ⟨r, List.mem_of_find?_eq_some hmarked, by rw [initialRow?, hmarked, Option.some_or]⟩
  | none =>
    refine ⟨states.head hne, List.head_mem hne, ?_⟩
    rw [initialRow?, hmarked, Option.none_or, List.head?_eq_some_head hne]

/-- Columns that hold the same value hold the same text. -/
theorem textIn_mem {states : List Row} {column column' : String}
    (h : r.value column ∈ states.map (·.value column')) :
    r.textIn column ∈ states.map (·.textIn column') := by
  obtain ⟨r', hr', heq⟩ := List.mem_map.1 h
  exact List.mem_map.2 ⟨r', hr', by rw [Row.textIn, Row.textIn, heq]⟩

namespace Provisioned

variable {states transitions : List Row}

/-- **No constraint is left over**: each of them rules out one of the faults, and between them they
rule out all. -/
theorem valid (h : Provisioned states transitions) (hne : states ≠ []) :
    (definitionIn states transitions).Valid where
  keys := by
    have hkeys : states.map (·.value "key") = (states.map (·.textIn "key")).map .text := by
      rw [List.map_map]
      exact List.map_congr_left fun r hr ↦ Row.value_eq_text (h.stateColumns r hr).key
    rw [keys_definitionIn]
    exact (hkeys ▸ h.keys).of_map
  ids := by
    have hids : states.map (·.value "id") = (states.map (·.intIn "id")).map .int := by
      rw [List.map_map]
      exact List.map_congr_left fun r hr ↦ Row.value_eq_int (h.stateColumns r hr).id
    rw [← Definition.map_id_declared, declared_definitionIn, List.map_map]
    exact (hids ▸ h.ids).of_map
  initial := by
    obtain ⟨r, hr, hrow⟩ := exists_initialRow? hne
    rw [keys_definitionIn]
    simp only [definitionIn, hrow, Option.map_some, Option.getD_some]
    exact List.mem_map_of_mem hr
  sources := by
    rw [keys_definitionIn]
    rintro _ ht
    obtain ⟨r, hr, rfl⟩ := List.mem_map.1 ht
    exact textIn_mem (h.sources r hr)
  targets := by
    rw [keys_definitionIn]
    rintro _ ht key hkey
    obtain ⟨r, hr, rfl⟩ := List.mem_map.1 ht
    have htext : r.textIn "next_state_key" = key := by
      rw [Row.textIn, show (r.value "next_state_key").text? = some key from hkey, Option.getD_some]
    have hvalue : r.value "next_state_key" ≠ .null := by
      intro hnull
      simp [Row.transition, hnull, Datum.text?] at hkey
    exact htext ▸ textIn_mem (h.targets r hr hvalue)
  pairs := by
    have hpairs : transitions.map (fun r ↦ (r.value "state_key", r.value "signal_key")) =
        ((transitions.map Row.transition).map Transition.pair).map
          (Prod.map Datum.text Datum.text) := by
      rw [List.map_map, List.map_map]
      refine List.map_congr_left fun r hr ↦ Prod.ext ?_ ?_
      · exact Row.value_eq_text (h.transitionColumns r hr).state
      · exact Row.value_eq_text (h.transitionColumns r hr).signal
    exact (hpairs ▸ h.pairs).of_map

/-- The row that applies to a state and a signal is found by the values in it. -/
theorem row?_eq (h : Provisioned states transitions) {r : Row} (hr : r ∈ states) (signal : String) :
    (definitionIn states transitions).row? (r.textIn "key") signal =
      (transitions.find? fun t ↦
        t.value "state_key" == r.value "key" && t.value "signal_key" == .text signal).map
        Row.transition := by
  rw [Definition.row?, rowIn?, definitionIn, List.find?_map]
  refine congrArg _ (List.find?_congr fun t ht ↦ ?_)
  rw [Row.value_eq_text (h.transitionColumns t ht).state,
    Row.value_eq_text (h.transitionColumns t ht).signal,
    Row.value_eq_text (h.stateColumns r hr).key]
  exact Bool.eq_iff_iff.2 (by simp [Row.transition])

/-- **A look-up is a scan of the rows.** -/
theorem lookup_eq (h : Provisioned states transitions) {t : Table}
    (ht : t.Describes (definitionIn states transitions)) (id : Int) (signal : String) :
    t.lookup id signal = routeIn? states transitions id signal := by
  cases hrow : states.find? fun r ↦ r.value "id" == .int id with
  | none =>
    have hnone : t.stateById? id = none := by
      rw [ht.stateById?_eq, declared_definitionIn, List.find?_map, Option.map_eq_none_iff, ← hrow]
      refine List.find?_congr fun r hr ↦ ?_
      rw [Row.value_eq_int (h.stateColumns r hr).id]
      exact Bool.eq_iff_iff.2 (by simp [Row.state])
    simp only [Table.lookup, hnone, routeIn?, hrow, Option.bind_eq_bind, Option.bind_none]
  | some r =>
    have hr := List.mem_of_find?_eq_some hrow
    have hstate := (h.stateColumns r hr).isStateOf
    have hid : r.state.id = id := by
      have hvalue : r.value "id" = .int id := by simpa using List.find?_some hrow
      exact Datum.int.inj (hstate.id.symm.trans hvalue)
    have hdeclared : r.state ∈ (definitionIn states transitions).declared := by
      rw [declared_definitionIn]
      exact List.mem_map_of_mem hr
    rw [← hid, ht.lookup_eq hdeclared, hid, show r.state.key = r.textIn "key" from rfl,
      h.row?_eq hr, Option.map_map]
    simp only [routeIn?, hrow, Option.bind_eq_bind, Option.bind_some, hstate.enabled,
      Datum.bool.injEq]
    split
    · cases transitions.find? _ <;> rfl
    · rfl

end Provisioned

/-- **Rows that keep to the constraints make a table.** When the states and the transitions that
come back from a database meet the constraints of their tables and there is a state at all, the rows
are read and the definition in them is accepted. The table begins in the state of the first row that
is marked, or of the first row; it has the state of each row, in their order; and it leads a signal
where the rows say. -/
theorem provisioned_table {p : Premises} {states transitions : List Row} {n m : Nat}
    {rest : List (Option Outcome)} (hopen : p.server.closed = false)
    (hreplies : p.server.replies = some ⟨states, n⟩ :: some ⟨transitions, m⟩ :: rest)
    (h : Provisioned states transitions) (hne : states ≠ []) :
    ∃ d t, (p.query Query.definition).1 = .ok d ∧ Table.ofDefinition? d = .ok t ∧
      (∃ r, initialRow? states = some r ∧ IsStateOf t.initial r) ∧
      List.Forall₂ IsStateOf t.states states ∧
      ∀ id signal, t.lookup id signal = routeIn? states transitions id signal := by
  obtain ⟨t, ht⟩ := Table.exists_ofDefinition?_iff_valid.2 (h.valid hne)
  have hdescribes := Table.describes_of_ofDefinition? ht
  refine ⟨_, t, h.query_definition hopen hreplies, ht, ?_, ?_, h.lookup_eq hdescribes⟩
  · obtain ⟨r, hr, hrow⟩ := exists_initialRow? hne
    have hstate := (h.stateColumns r hr).isStateOf
    have hinitial : (definitionIn states transitions).declared? r.state.key = some t.initial := by
      rw [← hdescribes.declared?_initial]
      simp only [definitionIn, hrow, Option.map_some, Option.getD_some]
      rfl
    have hdeclared : r.state ∈ (definitionIn states transitions).declared := by
      rw [declared_definitionIn]
      exact List.mem_map_of_mem hr
    rw [hdescribes.declared?_eq hdeclared] at hinitial
    exact ⟨r, hrow, Option.some.inj hinitial ▸ hstate⟩
  · rw [hdescribes.states, declared_definitionIn, List.forall₂_map_left_iff, List.forall₂_same]
    exact fun r hr ↦ (h.stateColumns r hr).isStateOf

/-- Identifiers with gaps, the first state not marked, the two behind it marked, the first of these
disabled. -/
def stateRows : List Row :=
  [[("id", .int 4), ("key", .text "a"), ("name", .text "A"), ("enabled", .bool true),
    ("is_initial", .bool false)],
   [("id", .int 10), ("key", .text "off"), ("name", .text ""), ("enabled", .bool false),
    ("is_initial", .bool true)],
   [("id", .int (-2)), ("key", .text "b"), ("name", .text "B"), ("enabled", .bool true),
    ("is_initial", .bool true)]]

/-- One row for each state, all for one signal. -/
def transitionRows : List Row :=
  [[("state_key", .text "b"), ("signal_key", .text "go"), ("action_key", .text "echo"),
    ("next_state_key", .null)],
   [("state_key", .text "off"), ("signal_key", .text "go"), ("action_key", .null),
    ("next_state_key", .text "a")],
   [("state_key", .text "a"), ("signal_key", .text "go"), ("action_key", .null),
    ("next_state_key", .text "off")]]

theorem provisioned_stateRows : Provisioned stateRows transitionRows where
  stateColumns := by
    simp only [stateRows, List.forall_mem_cons]
    exact ⟨⟨⟨_, rfl⟩, ⟨_, rfl⟩, ⟨_, rfl⟩, ⟨_, rfl⟩, ⟨_, rfl⟩⟩,
      ⟨⟨_, rfl⟩, ⟨_, rfl⟩, ⟨_, rfl⟩, ⟨_, rfl⟩, ⟨_, rfl⟩⟩,
      ⟨⟨_, rfl⟩, ⟨_, rfl⟩, ⟨_, rfl⟩, ⟨_, rfl⟩, ⟨_, rfl⟩⟩, List.forall_mem_nil _⟩
  transitionColumns := by
    simp only [transitionRows, List.forall_mem_cons]
    exact ⟨⟨⟨_, rfl⟩, ⟨_, rfl⟩, ⟨some "echo", rfl⟩, ⟨none, rfl⟩⟩,
      ⟨⟨_, rfl⟩, ⟨_, rfl⟩, ⟨none, rfl⟩, ⟨some "a", rfl⟩⟩,
      ⟨⟨_, rfl⟩, ⟨_, rfl⟩, ⟨none, rfl⟩, ⟨some "off", rfl⟩⟩,
      List.forall_mem_nil _⟩
  ids := by decide
  keys := by decide
  sources := by decide
  targets := by decide
  pairs := by decide

theorem provisioned_table_marked_twice :
    let p : Premises :=
      ⟨{ clock := ⟨0, 0⟩ }, { replies := [some ⟨stateRows, 3⟩, some ⟨transitionRows, 3⟩] }⟩
    ∃ d t, (p.query Query.definition).1 = .ok d ∧ Table.ofDefinition? d = .ok t ∧
      t.initial.key = "off" ∧ t.states.length = 3 ∧
      t.lookup (-2) "go" = some ⟨some "echo", none⟩ ∧ t.lookup 10 "go" = none := by
  intro p
  obtain ⟨d, t, hd, ht, ⟨r, hr, hinitial⟩, hstates, hlookup⟩ :=
    provisioned_table (p := p) rfl rfl provisioned_stateRows (by decide)
  obtain rfl : stateRows[1] = r := Option.some.inj hr
  exact ⟨d, t, hd, ht, (Datum.text.inj hinitial.key).symm, hstates.length_eq, hlookup _ _,
    hlookup _ _⟩

end Foreman.Sql
