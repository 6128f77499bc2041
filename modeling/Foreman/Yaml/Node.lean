import Foreman.Yaml.Token.Read

/-!
# Documents

A document is a tree of scalars, sequences and mappings. A node may be **anchored**, and an alias stands
for the node with its anchor. Anchors are numbered where they occur, each with the number of different
names in use so far; an alias has the number that its name has at that moment, and stands for the last
node of the document with that number.

A text holds exactly one document. It may begin with directives, the version among them, and end with the
mark of its end.
-/

namespace Foreman.Yaml

/-- A node of a document. -/
inductive Node where
  | scalar (style : Style) (tag : Option String) (text : String)
  | sequence (items : List Node)
  | mapping (pairs : List (Node × Node))
  | alias_ (number : Nat)
  | anchored (number : Nat) (node : Node)
deriving Inhabited

namespace Node

/-- The scalar that stands where nothing is written. -/
def empty : Node := .scalar .plain none ""

/-! ### From tokens to nodes -/

/-- The tokens ahead, the anchors in use, and the handles of tags. -/
structure Source where
  tokens : List Token
  anchors : List (String × Nat) := []
  handles : List (String × String)

namespace Source

/-- The token ahead. -/
def next? (s : Source) : Option Token :=
  s.tokens.head?

/-- Passes over one token. -/
def skip (s : Source) : Source :=
  { s with tokens := s.tokens.drop 1 }

/-- Whether one of these tokens is ahead. -/
def sees (s : Source) (ts : List Token) : Bool :=
  s.next?.any ts.contains

/-- Gives an anchor its number. -/
def define (s : Source) (name : String) : Nat × Source :=
  let number := (s.anchors.map (·.1)).eraseDups.length
  (number, { s with anchors := (name, number) :: s.anchors })

/-- The full form of a tag, `none` if its handle is not defined. -/
def resolve (s : Source) (handle suffix : String) : Option String :=
  if handle = "" then some suffix
  else (s.handles.find? fun h ↦ h.1 == handle).map fun h ↦ h.2 ++ suffix

end Source

/-- The properties of a node: its anchor and its tag. -/
structure Properties where
  anchor : Option String := none
  tag : Option String := none

/-- Reads anchor and tag, in either order and at most one of each. -/
def readProperties (s : Source) : Option (Properties × Source) :=
  match s.tokens with
  | .anchor name :: .tag handle suffix :: _ =>
    (s.resolve handle suffix).map fun t ↦ (⟨some name, some t⟩, s.skip.skip)
  | .anchor name :: _ => some (⟨some name, none⟩, s.skip)
  | .tag handle suffix :: .anchor name :: _ =>
    (s.resolve handle suffix).map fun t ↦ (⟨some name, some t⟩, s.skip.skip)
  | .tag handle suffix :: _ => (s.resolve handle suffix).map fun t ↦ (⟨none, some t⟩, s.skip)
  | _ => some ({}, s)

/-- Puts an anchor to a node. -/
def withAnchor (number : Option Nat) (n : Node) : Node :=
  match number with
  | some k => .anchored k n
  | none => n

mutual

/-- A node. Block collections are refused inside flow collections; a sequence that is not indented may
be the key or the value of a mapping only. -/
def readNode : (fuel : Nat) → (block unindented : Bool) → Source → Option (Node × Source)
  | 0, _, _, _ => none
  | fuel + 1, block, unindented, s =>
    match s.next? with
    | some (.alias_ name) => do
      let (_, number) ← s.anchors.find? fun a ↦ a.1 == name
      some (.alias_ number, s.skip)
    | _ => do
      let (properties, s) ← readProperties s
      let (number, s) : Option Nat × Source := match properties.anchor with
        | some name => let (n, s) := s.define name; (some n, s)
        | none => (none, s)
      let close (r : Option (Node × Source)) : Option (Node × Source) :=
        r.map fun (n, s) ↦ (withAnchor number n, s)
      match s.next? with
      | some .blockEntry =>
        if unindented then
          close ((readUnindented fuel s).map fun (ns, s) ↦ (.sequence ns, s))
        else if number.isSome || properties.tag.isSome then
          some (withAnchor number (.scalar .plain properties.tag ""), s)
        else none
      | some (.scalar style text) =>
        -- An exclamation mark alone leaves it open what the scalar says.
        let tag := if properties.tag == some "!" then none else properties.tag
        some (withAnchor number (.scalar style tag text), s.skip)
      | some .flowSequenceStart =>
        close ((readFlowItems fuel true s.skip).map fun (ns, s) ↦ (.sequence ns, s))
      | some .flowMappingStart =>
        close ((readFlowPairs fuel true s.skip).map fun (ps, s) ↦ (.mapping ps, s))
      | some t =>
        if block && t == .blockSequenceStart then
          close ((readBlockItems fuel s.skip).map fun (ns, s) ↦ (.sequence ns, s))
        else if block && t == .blockMappingStart then
          close ((readBlockPairs fuel s.skip).map fun (ps, s) ↦ (.mapping ps, s))
        else if number.isSome || properties.tag.isSome then
          some (withAnchor number (.scalar .plain properties.tag ""), s)
        else none
      | none => none

/-- A node, or the empty scalar where one of these tokens follows at once. -/
def readOptional : (fuel : Nat) → (block unindented : Bool) → List Token → Source →
    Option (Node × Source)
  | 0, _, _, _, _ => none
  | fuel + 1, block, unindented, ends, s =>
    if s.sees ends then some (empty, s) else readNode fuel block unindented s

/-- The items of a block sequence up to its end. -/
def readBlockItems : (fuel : Nat) → Source → Option (List Node × Source)
  | 0, _ => none
  | fuel + 1, s =>
    match s.next? with
    | some .blockEntry => do
      let (n, s) ← readOptional fuel true false [.blockEntry, .blockEnd] s.skip
      let (ns, s) ← readBlockItems fuel s
      some (n :: ns, s)
    | some .blockEnd => some ([], s.skip)
    | _ => none

/-- The items of a sequence that is not indented. -/
def readUnindented : (fuel : Nat) → Source → Option (List Node × Source)
  | 0, _ => none
  | fuel + 1, s =>
    match s.next? with
    | some .blockEntry => do
      let (n, s) ← readOptional fuel true false [.blockEntry, .key, .value, .blockEnd] s.skip
      let (ns, s) ← readUnindented fuel s
      some (n :: ns, s)
    | _ => some ([], s)

/-- The pairs of a block mapping up to its end. -/
def readBlockPairs : (fuel : Nat) → Source → Option (List (Node × Node) × Source)
  | 0, _ => none
  | fuel + 1, s =>
    match s.next? with
    | some .key => do
      let (k, s) ← readOptional fuel true true [.key, .value, .blockEnd] s.skip
      let (v, s) ← readBlockValue fuel s
      let (ps, s) ← readBlockPairs fuel s
      some ((k, v) :: ps, s)
    | some .blockEnd => some ([], s.skip)
    | _ => none

/-- The value of a pair of a block mapping. -/
def readBlockValue : (fuel : Nat) → Source → Option (Node × Source)
  | 0, _ => none
  | fuel + 1, s =>
    match s.next? with
    | some .value => readOptional fuel true true [.key, .value, .blockEnd] s.skip
    | _ => some (empty, s)

/-- The items of a flow sequence up to its end; an item may be a single pair. -/
def readFlowItems : (fuel : Nat) → (first : Bool) → Source → Option (List Node × Source)
  | 0, _, _ => none
  | fuel + 1, first, s =>
    match s.next? with
    | some .flowSequenceEnd => some ([], s.skip)
    | some t =>
      if !first && t != .flowEntry then none
      else
        let s := if first then s else s.skip
        match s.next? with
        | some .flowSequenceEnd => some ([], s.skip)
        | some .key => do
          let (p, s) ← readSinglePair fuel s.skip
          let (ns, s) ← readFlowItems fuel false s
          some (.mapping [p] :: ns, s)
        | _ => do
          let (n, s) ← readNode fuel false false s
          let (ns, s) ← readFlowItems fuel false s
          some (n :: ns, s)
    | none => none

/-- The only pair of a mapping inside a flow sequence. Where its key is missing, the token that follows
is passed over. -/
def readSinglePair : (fuel : Nat) → Source → Option ((Node × Node) × Source)
  | 0, _ => none
  | fuel + 1, s => do
    let (k, s) ←
      if s.sees [.value, .flowEntry, .flowSequenceEnd] then some (empty, s.skip)
      else readNode fuel false false s
    let (v, s) ←
      if s.sees [.value] then
        readOptional fuel false false [.flowEntry, .flowSequenceEnd] s.skip
      else some (empty, s)
    some ((k, v), s)

/-- The pairs of a flow mapping up to its end; a key alone has an empty value. -/
def readFlowPairs : (fuel : Nat) → (first : Bool) → Source → Option (List (Node × Node) × Source)
  | 0, _, _ => none
  | fuel + 1, first, s =>
    match s.next? with
    | some .flowMappingEnd => some ([], s.skip)
    | some t =>
      if !first && t != .flowEntry then none
      else
        let s := if first then s else s.skip
        match s.next? with
        | some .flowMappingEnd => some ([], s.skip)
        | some .key => do
          let (k, s) ← readOptional fuel false false [.value, .flowEntry, .flowMappingEnd] s.skip
          let (v, s) ←
            if s.sees [.value] then
              readOptional fuel false false [.flowEntry, .flowMappingEnd] s.skip
            else some (empty, s)
          let (ps, s) ← readFlowPairs fuel false s
          some ((k, v) :: ps, s)
        | _ => do
          let (k, s) ← readNode fuel false false s
          let (ps, s) ← readFlowPairs fuel false s
          some ((k, empty) :: ps, s)
    | none => none

end

/-! ### Documents -/

/-- What the directives in front of a document say. -/
structure Directives where
  versioned : Bool := false
  handles : List (String × String) := []

/-- Reads directives up to the mark of the document. Version 1.1 and 1.2 are known; nothing may be said
twice. -/
def readDirectives (d : Directives) : List Token → Option (Directives × List Token)
  | .versionDirective major minor :: ts =>
    if d.versioned || major != 1 || (minor != 1 && minor != 2) then none
    else readDirectives { d with versioned := true } ts
  | .tagDirective handle expansion :: ts =>
    if d.handles.any fun h ↦ h.1 == handle then none
    else readDirectives { d with handles := d.handles ++ [(handle, expansion)] } ts
  | .documentStart :: ts => some (d, ts)
  | _ => none

/-- The handles that every document has. -/
def defaultHandles : List (String × String) :=
  [("!", "!"), ("!!", "tag:yaml.org,2002:")]

/-- Whether only ends of documents are left, and the end of the text. -/
def endsText : List Token → Bool
  | [.streamEnd] => true
  | .documentEnd :: ts => endsText ts
  | _ => false

/-- The one document of a list of tokens. A text without a document stands for the empty scalar. -/
def ofTokens? (ts : List Token) : Option Node := do
  let fuel := 4 * ts.length + 8
  let (n, rest) ←
    match ts with
    | [.streamEnd] => some (empty, ts)
    | t :: _ =>
      match t with
      | .versionDirective .. | .tagDirective .. | .documentStart => do
        let (d, ts) ← readDirectives {} ts
        let s : Source := { tokens := ts, handles := d.handles ++ defaultHandles }
        match s.next? with
        | some (.versionDirective ..) | some (.tagDirective ..) | some .documentStart
        | some .documentEnd | some .streamEnd => some (empty, s.tokens)
        | _ => (readNode fuel true false s).map fun (n, s) ↦ (n, s.tokens)
      | _ =>
        (readNode fuel true false { tokens := ts, handles := defaultHandles }).map
          fun (n, s) ↦ (n, s.tokens)
    | [] => none
  if endsText rest then some n else none

/-- The one document of a text. -/
def ofString? (s : String) : Option Node :=
  (Token.ofChars? s.toList).bind ofTokens?

/-! ### Aliases -/

mutual

/-- The anchored nodes of a document, in the order of their anchors. -/
def anchors : Node → List (Nat × Node)
  | .scalar .. => []
  | .sequence items => anchorsOfItems items
  | .mapping pairs => anchorsOfPairs pairs
  | .alias_ _ => []
  | .anchored number n => (number, n) :: anchors n

/-- The anchored nodes of a list. -/
def anchorsOfItems : List Node → List (Nat × Node)
  | [] => []
  | n :: ns => anchors n ++ anchorsOfItems ns

/-- The anchored nodes of a list of pairs. -/
def anchorsOfPairs : List (Node × Node) → List (Nat × Node)
  | [] => []
  | (k, v) :: ps => anchors k ++ anchors v ++ anchorsOfPairs ps

end

/-- The node that a node stands for: itself, or what its alias points to. -/
def target (table : List (Nat × Node)) : Node → Node
  | .alias_ number => ((table.reverse.find? fun e ↦ e.1 == number).map (·.2)).getD empty
  | .anchored _ n => n
  | n => n

end Node

end Foreman.Yaml
