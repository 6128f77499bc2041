import Foreman.ControlPlane.Table
import Foreman.Machine
import Foreman.Yaml.Node
import Foreman.Yaml.Scalar

/-!
# Definitions in YAML

The control plane as it is provisioned in a file. A definition is a mapping; names of fields are strings,
unknown ones are ignored, and none may be given twice. What a scalar says depends on what is expected of
it: as a text every scalar is itself, however it is written; as a number or a truth value it must be
plain; and where nothing is required, a plain scalar that is empty or says null is nothing. An empty
plain scalar also stands for a collection without members.

A definition is written with every field of its records, in blocks of their own; items are not indented,
and a list without items is written in brackets.
-/

namespace Foreman.Yaml

open ControlPlane

/-- The anchored nodes of the document that is read. -/
abbrev Anchors := List (Nat × Node)

/-! ### Scalars -/

/-- A scalar that may be read as something else than a text: a plain one, or a literal block with the tag
of what is expected. -/
def readable? (tag : String) : Node → Option String
  | .scalar .plain _ text => some text
  | .scalar .literal (some t) text => if t = tag then some text else none
  | _ => none

/-- A text. -/
def text? (a : Anchors) (n : Node) : Option String :=
  match n.target a with
  | .scalar _ _ text => some text
  | _ => none

/-- A truth value. -/
def bool? (a : Anchors) (n : Node) : Option Bool :=
  (readable? "tag:yaml.org,2002:bool" (n.target a)).bind boolWord?

/-- An integer of 64 bits with sign. -/
def integer? (a : Anchors) (n : Node) : Option Int :=
  ((readable? "tag:yaml.org,2002:int" (n.target a)).bind integerWord?).filter
    Machine.isSigned

/-- Something or nothing; `none` when it is tagged as nothing and says something. -/
def option? {α : Type} (read : Anchors → Node → Option α) (a : Anchors) (n : Node) :
    Option (Option α) :=
  match n.target a with
  | .scalar .plain none text =>
    if text = "" || isNullWord text then some none else (read a n).map some
  | .scalar .plain (some tag) text =>
    if tag = "tag:yaml.org,2002:null" then (if isNullWord text then some none else none)
    else (read a n).map some
  | _ => (read a n).map some

/-! ### Collections -/

/-- A sequence, every item read in the same way. -/
def list? {α : Type} (read : Anchors → Node → Option α) (a : Anchors) (n : Node) :
    Option (List α) :=
  match n.target a with
  | .sequence items => items.mapM (read a)
  | .scalar .plain _ "" => some []
  | _ => none

/-- The known fields of a mapping, `none` when one of them is given twice or a name is no text. -/
def fields? (names : List String) (a : Anchors) (n : Node) : Option (List (String × Node)) :=
  match n.target a with
  | .mapping pairs => do
    let named ← pairs.mapM fun (k, v) ↦ (text? a k).map fun name ↦ (name, v)
    let known := named.filter fun e ↦ names.contains e.1
    if (known.map (·.1)).eraseDups.length = known.length then some known else none
  | .scalar .plain _ "" => some []
  | _ => none

/-- A field, or what stands for it when it is missing. -/
def field {α : Type} (fs : List (String × Node)) (name : String) (read : Node → Option α)
    (missing : Option α) : Option α :=
  match fs.find? fun e ↦ e.1 == name with
  | some (_, n) => read n
  | none => missing

/-! ### Records -/

/-- A state. -/
def state? (a : Anchors) (n : Node) : Option StateDefinition := do
  let fs ← fields? ["id", "key", "name", "enabled"] a n
  some
    { id := ← field fs "id" (option? integer? a) (some none)
      key := ← field fs "key" (text? a) none
      name := ← field fs "name" (text? a) (some "")
      enabled := ← field fs "enabled" (bool? a) (some true) }

/-- A transition. -/
def transition? (a : Anchors) (n : Node) : Option Transition := do
  let fs ← fields? ["state_key", "signal_key", "action_key", "next_state_key"] a n
  some
    { state := ← field fs "state_key" (text? a) none
      signal := ← field fs "signal_key" (text? a) none
      action := ← field fs "action_key" (option? text? a) (some none)
      next := ← field fs "next_state_key" (option? text? a) (some none) }

/-- A definition. -/
def definition? (a : Anchors) (n : Node) : Option Definition := do
  let fs ← fields? ["initial_state", "states", "transitions"] a n
  some
    { initial := ← field fs "initial_state" (text? a) none
      states := ← field fs "states" (list? state? a) none
      transitions := ← field fs "transitions" (list? transition? a) (some []) }

/-! ### Writing -/

/-- The line of a field. A value that ends with a break of its own ends the line. -/
def line (name value : String) : String :=
  name ++ ": " ++ value ++ if value.toList.getLast?.any isBreak then "" else "\n"

/-- The lines of a record that is an item of a list. -/
def item (fields : List (String × String)) : String :=
  "- " ++ "  ".intercalate (fields.map fun e ↦ line e.1 e.2)

/-- The lines of a list that is a field. -/
def listLines (name : String) : List String → String
  | [] => line name "[]"
  | items => name ++ ":\n" ++ .join items

/-- A text or nothing. -/
def ofOption (indent : Nat) : Option String → String
  | some s => ofText indent s
  | none => "null"

/-- The lines of a state. -/
def ofState (s : StateDefinition) : String :=
  item
    [("id", (s.id.map toString).getD "null"), ("key", ofText 4 s.key), ("name", ofText 4 s.name),
     ("enabled", if s.enabled then "true" else "false")]

/-- The lines of a transition. -/
def ofTransition (t : Transition) : String :=
  item
    [("state_key", ofText 4 t.state), ("signal_key", ofText 4 t.signal),
     ("action_key", ofOption 4 t.action), ("next_state_key", ofOption 4 t.next)]

end Yaml

/-- **Reads a definition** from YAML. -/
def ControlPlane.Definition.ofYaml? (s : String) : Option ControlPlane.Definition :=
  (Yaml.Node.ofString? s).bind fun n ↦ Yaml.definition? n.anchors n

/-- **Loads a definition** from a file. -/
def ControlPlane.Definition.ofFile? (files : Files) (path : String) :
    Except ControlPlane.TableError ControlPlane.Definition :=
  match files path with
  | .error reason => .error (.unreadable path reason)
  | .ok text =>
    match ofYaml? text with
    | some d => .ok d
    | none => .error .malformed

/-- **Writes a definition** as YAML. -/
def ControlPlane.Definition.toYaml (d : ControlPlane.Definition) : String :=
  Yaml.line "initial_state" (Yaml.ofText 2 d.initial)
    ++ Yaml.listLines "states" (d.states.map Yaml.ofState)
    ++ Yaml.listLines "transitions" (d.transitions.map Yaml.ofTransition)

end Foreman
