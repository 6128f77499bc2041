import Foreman.Json.Basic

/-!
# Reading records out of JSON

A record is an object, its fields found by name, or an array, its fields taken in the order of their
declaration. Unknown names are ignored; an array longer than the record is refused.

A field is **required**, **defaulted** (it may be missing, but null is no value), or **optional** (it
may be missing or null). Every reader answers `none` where the value does not fit; which field was at
fault is not kept.
-/

namespace Foreman.Json

/-- The fields found in a value that stands for a record. -/
structure Fields where
  found : Keyed Json
  positional : Bool

/-- The fields of a value, for a record with these names. -/
def fields? (names : List String) : Json → Option Fields
  | .obj members => some ⟨members, false⟩
  | .arr items => if items.length ≤ names.length then some ⟨names.zip items, true⟩ else none
  | _ => none

namespace Fields

variable {α : Type}

/-- A field that must be there. -/
def required (f : Fields) (name : String) (read : Json → Option α) : Option α :=
  (Keyed.find? name f.found).bind read

/-- A field that has a value when it is missing. -/
def defaulted (f : Fields) (name : String) (read : Json → Option α) (value : α) : Option α :=
  match Keyed.find? name f.found with
  | some v => read v
  | none => some value

/-- A field that may be missing or null. -/
def optional (f : Fields) (name : String) (read : Json → Option α) : Option (Option α) :=
  match Keyed.find? name f.found with
  | none | some .null => some none
  | some v => (read v).map some

/-- A field that may be null, and missing only where fields are found by name. -/
def nullable (f : Fields) (name : String) (read : Json → Option α) : Option (Option α) :=
  match Keyed.find? name f.found with
  | none => if f.positional then none else some none
  | some .null => some none
  | some v => (read v).map some

end Fields

/-- An array, every item read in the same way. -/
def listOf? {α : Type} (read : Json → Option α) (v : Json) : Option (List α) :=
  v.items?.bind fun items ↦ items.mapM read

/-- An object with the members given, put in key order. -/
def record (members : List (String × Json)) : Json :=
  .obj (Keyed.ofList members)

end Foreman.Json
