import Foreman.Json.Basic

/-!
# Tables of a TOML document

A document is written in pieces: headers, dotted keys and values contribute to one tree of tables, and
each table may be **given** once only. A table comes into being in three ways, by its own header, in
passing under a longer header, or by a dotted key, and what may be added to it later depends on that:

* a header names a table that is not there, or one that is implied so far;
* a header of an array adds a table to an array made by such headers;
* a dotted key goes through implied and dotted tables and ends in a dotted one; and
* no key is given twice.

An array made by headers stands for its last table wherever a path leads through it.
-/

namespace Foreman.Toml

/-- How a table came into being. -/
inductive Origin where
  /-- By its own header. -/
  | given
  /-- In passing, under a longer header. -/
  | implied
  /-- By a dotted key. -/
  | dotted
deriving DecidableEq, Repr

/-- What stands under a key. -/
inductive Item where
  | value (v : Json)
  | table (origin : Origin) (members : List (String × Item))
  /-- An array of tables, made by headers; the last table first. -/
  | tables (last : List (String × Item)) (before : List (List (String × Item)))

/-- The members of a table. -/
abbrev Members := List (String × Item)

/-- A path of keys: those that lead to a table, and the last one. -/
structure Path where
  parents : List String
  last : String

/-- The path of a list of keys, `none` of the empty list. -/
def Path.ofKeys? (keys : List String) : Option Path :=
  keys.getLast?.map fun last ↦ ⟨keys.dropLast, last⟩

/-- The keys of a path. -/
def Path.keys (p : Path) : List String :=
  p.parents ++ [p.last]

/-! ### Values -/

mutual

/-- The value of an item. -/
def Item.toJson : Item → Json
  | .value v => v
  | .table _ members => .obj (membersJson members)
  | .tables last before => .arr ((tablesJson before).reverse ++ [.obj (membersJson last)])

/-- The values of the members of a table. -/
def membersJson : List (String × Item) → List (String × Json)
  | [] => []
  | (key, item) :: rest => (key, item.toJson) :: membersJson rest

/-- The values of tables. -/
def tablesJson : List (List (String × Item)) → List Json
  | [] => []
  | ms :: rest => .obj (membersJson ms) :: tablesJson rest

end

namespace Members

/-! ### Headers -/

/-- Changes the table at a path of a header. Tables on the way that are not there are implied. -/
def alterAt (f : Members → Option Members) : List String → Members → Option Members
  | [], ms => f ms
  | key :: path, ms => do
    let item ← match Keyed.find? key ms with
      | none => (alterAt f path []).map (Item.table .implied)
      | some (.table origin inner) => (alterAt f path inner).map (Item.table origin)
      | some (.tables last before) => (alterAt f path last).map fun last ↦ .tables last before
      | some (.value _) => none
    some (Keyed.insert key item ms)

/-- The header of a table. -/
def openTable (path : Path) : Members → Option Members :=
  alterAt (fun ms ↦
    match Keyed.find? path.last ms with
    | none => some (Keyed.insert path.last (.table .given []) ms)
    | some (.table .implied inner) => some (Keyed.insert path.last (.table .given inner) ms)
    | _ => none) path.parents

/-- The header of a table in an array of tables. -/
def openArray (path : Path) : Members → Option Members :=
  alterAt (fun ms ↦
    match Keyed.find? path.last ms with
    | none => some (Keyed.insert path.last (.tables [] []) ms)
    | some (.tables last before) => some (Keyed.insert path.last (.tables [] (last :: before)) ms)
    | _ => none) path.parents

/-! ### Keys and values -/

/-- Puts a value under a key that is not there. -/
def put (key : String) (v : Json) (ms : Members) : Option Members :=
  if Keyed.contains key ms then none else some (Keyed.insert key (.value v) ms)

/-- Puts a value under a dotted key. `takes` says whether the table at hand takes keys: the one in which
the path begins and dotted ones do. -/
def putDotted (key : String) (v : Json) : List String → (takes : Bool) → Members → Option Members
  | [], takes, ms => if takes then put key v ms else none
  | k :: path, _, ms => do
    let item ← match Keyed.find? k ms with
      | none => (putDotted key v path true []).map (Item.table .dotted)
      | some (.table .given _) => none
      | some (.table origin inner) =>
        (putDotted key v path (origin == .dotted) inner).map (Item.table origin)
      | some (.tables last before) =>
        (putDotted key v path false last).map fun last ↦ .tables last before
      | some (.value _) => none
    some (Keyed.insert k item ms)

/-- Puts a value under a path of keys into a table. -/
def putAt (path : Path) (v : Json) (ms : Members) : Option Members :=
  putDotted path.last v path.parents true ms

end Members

end Foreman.Toml
