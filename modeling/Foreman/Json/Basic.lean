import Foreman.Keyed
import Foreman.Machine

/-!
# JSON values

A number is an integer when it was written as one and fits 64 bits, signed or not; every other number
is a double, kept as its bits so that values have decidable equality and no arithmetic is ever done
on them. Objects are name-keyed lists in key order.

A `Payload` is the object part alone: what signals, events, checkpoints and the metadata of tasks
carry.
-/

namespace Foreman

/-- A JSON value. -/
inductive Json where
  | null
  | bool (b : Bool)
  | int (n : Int)
  | float (bits : UInt64)
  | str (s : String)
  | arr (items : List Json)
  | obj (members : List (String × Json))
deriving Inhabited

/-- A name-keyed map of JSON values. -/
abbrev Payload := Keyed Json

namespace Json

/-! ### Equality -/

mutual

/-- Whether two values are the same. -/
def same : Json → Json → Bool
  | .null, .null => true
  | .bool a, .bool b => a == b
  | .int a, .int b => a == b
  | .float a, .float b => a == b
  | .str a, .str b => a == b
  | .arr a, .arr b => sameItems a b
  | .obj a, .obj b => sameMembers a b
  | _, _ => false

/-- Whether two lists of values are the same. -/
def sameItems : List Json → List Json → Bool
  | [], [] => true
  | a :: as, b :: bs => same a b && sameItems as bs
  | _, _ => false

/-- Whether two lists of members are the same. -/
def sameMembers : List (String × Json) → List (String × Json) → Bool
  | [], [] => true
  | (k, a) :: as, (l, b) :: bs => k == l && same a b && sameMembers as bs
  | _, _ => false

end

mutual

theorem same_eq_true {a b : Json} : same a b = true ↔ a = b := by
  cases a <;> cases b <;>
    simp [same, sameItems_eq_true, sameMembers_eq_true]

theorem sameItems_eq_true {a b : List Json} : sameItems a b = true ↔ a = b := by
  cases a <;> cases b <;> simp [sameItems, same_eq_true, sameItems_eq_true]

theorem sameMembers_eq_true {a b : List (String × Json)} : sameMembers a b = true ↔ a = b := by
  rcases a with _ | ⟨⟨k, a⟩, as⟩ <;> rcases b with _ | ⟨⟨l, b⟩, bs⟩ <;>
    simp [sameMembers, same_eq_true, sameMembers_eq_true, and_assoc]

end

instance : DecidableEq Json := fun a b ↦
  if h : same a b = true then .isTrue (same_eq_true.1 h)
  else .isFalse fun heq ↦ h (same_eq_true.2 heq)

/-! ### Views -/

/-- The text of a string. -/
def text? : Json → Option String
  | .str s => some s
  | _ => none

/-- The value of a number that is an integer of 64 bits with sign. -/
def signed? : Json → Option Int
  | .int n => if Machine.isSigned n then some n else none
  | _ => none

/-- The value of a number that is an integer of 64 bits without sign. -/
def unsigned? : Json → Option Nat
  | .int n => if 0 ≤ n && n < Machine.limit64 then some n.toNat else none
  | _ => none

/-- The value of a truth value. -/
def bool? : Json → Option Bool
  | .bool b => some b
  | _ => none

/-- The members of an object. -/
def members? : Json → Option Payload
  | .obj m => some m
  | _ => none

/-- The items of an array. -/
def items? : Json → Option (List Json)
  | .arr l => some l
  | _ => none

/-- The members of an object, and no members for every other value. -/
def toPayload : Json → Payload
  | .obj m => m
  | _ => []

theorem text?_eq_some_iff {v : Json} {s : String} : v.text? = some s ↔ v = .str s := by
  cases v <;> simp [text?]

@[simp] theorem toPayload_obj (m : Payload) : toPayload (.obj m) = m := rfl

/-- A string, or null when there is none. -/
def ofText? : Option String → Json
  | some s => .str s
  | none => .null

end Json

namespace Payload

/-- The text under a name, when it is a string. -/
def text? (key : String) (p : Payload) : Option String :=
  (Keyed.find? key p).bind Json.text?

theorem text?_eq_some_iff {key s : String} {p : Payload} :
    text? key p = some s ↔ Keyed.find? key p = some (.str s) := by
  simp [text?, Option.bind_eq_some_iff, Json.text?_eq_some_iff]

theorem text?_insert_self (key value : String) (p : Payload) :
    text? key (Keyed.insert key (.str value) p) = some value := by
  simp [text?, Json.text?]

end Payload

end Foreman
