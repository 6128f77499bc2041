import Foreman.Text.Utf8
import Foreman.Yaml.Token.Basic
import Foreman.Yaml.Token.Scalar

/-!
# Reading tokens

The reader goes through the text once and keeps what it needs to know about the structure around it: the
columns of the block collections that are open, the number of flow collections that are open, and for
each of these where a **simple key** may have begun.

A simple key is a key that no question mark announces. It is recognised only at the colon behind it, so
the token that marks it, and perhaps the beginning of a block mapping, are put in afterwards, in front of
tokens that are read already. It must be on one line and not longer than 1024 characters; where only a
key can stand, at the column of a block mapping, a colon must follow.
-/

namespace Foreman.Yaml

/-- A place where a simple key may have begun. -/
structure SimpleKey where
  /-- Only a key can stand there. -/
  required : Bool
  /-- The number of tokens in front of it. -/
  number : Nat
  start : Cursor

/-- The reader of tokens between two of them. -/
structure Reader where
  at_ : Cursor
  /-- The tokens read, the last one first. -/
  tokens : List Token := []
  /-- The column of the innermost block collection, -1 outside all of them. -/
  indent : Int := -1
  /-- The columns of the block collections around it. -/
  outer : List Int := []
  /-- The number of open flow collections. -/
  flow : Nat := 0
  keyAllowed : Bool := true
  /-- The possible simple key of the innermost collection, then of those around it. -/
  keys : List (Option SimpleKey) := [none]

namespace Reader

/-! ### Tokens and indentation -/

/-- Adds a token. -/
def push (r : Reader) (t : Token) : Reader :=
  { r with tokens := t :: r.tokens }

/-- Puts a token in front of all but the first `number` ones. -/
def insertAt (r : Reader) (number : Nat) (t : Token) : Reader :=
  let later := r.tokens.length - number
  { r with tokens := r.tokens.take later ++ t :: r.tokens.drop later }

/-- Moves to another position. -/
def moveTo (r : Reader) (p : Cursor) : Reader :=
  { r with at_ := p }

/-- Opens a block collection at a column that lies deeper, its token behind the first `number` ones. -/
def openBlock (r : Reader) (column number : Nat) (t : Token) : Reader :=
  if r.flow = 0 && r.indent < column then
    { r.insertAt number t with indent := column, outer := r.indent :: r.outer }
  else r

/-- Closes the block collections that lie deeper than a column. -/
def closeBlocks (r : Reader) (column : Int) : Reader :=
  if r.flow = 0 then go r r.outer else r
where
  /-- Closes them from the inside. -/
  go (r : Reader) : List Int → Reader
    | [] => r
    | i :: outer =>
      if column < r.indent then go { r.push .blockEnd with indent := i, outer := outer } outer else r

/-! ### Simple keys -/

/-- Forgets the possible simple key of the innermost collection, unless a key is required there. -/
def dropKey (r : Reader) : Option Reader :=
  match r.keys with
  | some k :: ks => if k.required then none else some { r with keys := none :: ks }
  | _ => some r

/-- Notes that a simple key may begin here, if one may. -/
def saveKey (r : Reader) : Option Reader :=
  if r.keyAllowed then do
    let required := r.flow = 0 && r.indent == (r.at_.column : Int)
    let r ← r.dropKey
    some { r with keys := some ⟨required, r.tokens.length, r.at_⟩ :: r.keys.drop 1 }
  else some r

/-- Whether a simple key that began there can still end here. -/
def isFresh (here : Cursor) (k : SimpleKey) : Bool :=
  here.line ≤ k.start.line && here.index ≤ k.start.index + 1024

/-- Forgets the simple keys that cannot end here any more. -/
def dropStaleKeys (r : Reader) : Option Reader := do
  let keys ← r.keys.mapM fun
    | none => some none
    | some k =>
      if isFresh r.at_ k then some (some k) else if k.required then none else some none
  some { r with keys := keys }

/-! ### Between tokens -/

/-- The position of the next token: spacing, comments and line breaks are passed over. Behind a line
break in a block a simple key may begin, and indentation is made of spaces alone. -/
def skipGap : (fuel : Nat) → Reader → Reader
  | 0, r => r
  | fuel + 1, r =>
    -- A byte order mark may stand in front of any line.
    let p := if r.at_.column == 0 && r.at_.sees '\uFEFF' then r.at_.skip else r.at_
    -- Where a simple key may begin, spacing is indentation, and tabs are none.
    let tabs := r.flow != 0 || !r.keyAllowed
    let p := p.skipWhile fun c ↦ c == ' ' || (tabs && c == '\t')
    let p := if p.sees '#' then p.skipLine else p
    if p.here?.any isBreak then
      skipGap fuel { r.moveTo p.skipBreak with keyAllowed := r.flow = 0 || r.keyAllowed }
    else r.moveTo p

/-! ### Directives, anchors and tags -/

/-- A number of a version, of at most nine digits. -/
def readVersionNumber (p : Cursor) : Option (Nat × Cursor) :=
  let ds := p.rest.takeWhile Char.isDigit
  if ds.isEmpty || 9 < ds.length then none
  else some (ds.foldl (fun n c ↦ n * 10 + (c.toNat - '0'.toNat)) 0, p.skipMany ds.length)

/-- Octets of a character that are written with percent signs, the first of them ahead. -/
def readUriCharacter (p : Cursor) : Option (Char × Cursor) := do
  let octet (p : Cursor) : Option Nat :=
    if p.sees '%' then
      match p.rest.drop 1 with
      | h :: l :: _ => Text.hexNumber? [h, l]
      | _ => none
    else none
  let first ← octet p
  -- The first octet says how many there are.
  let count ← if first < 0x80 then some 1 else if first / 32 = 6 then some 2
    else if first / 16 = 14 then some 3 else if first / 8 = 30 then some 4 else none
  let octets ← (List.range count).mapM fun i ↦ octet (p.skipMany (3 * i))
  if (octets.drop 1).all fun o ↦ o / 64 = 2 then
    match Text.Utf8.parts (octets.map Nat.toUInt8) with
    | [some c] => some (c, p.skipMany (3 * count))
    | _ => some (Text.Utf8.replacement, p.skipMany (3 * count))
  else none

/-- The characters of a tag; inside angle brackets there are a few more. -/
def isUriChar (verbatim : Bool) (c : Char) : Bool :=
  isWordChar c || ";/?:@&=+$.~*'()%!".toList.contains c || (verbatim && ",[]".toList.contains c)

/-- Characters of a tag, percent signs resolved. -/
def readUri (verbatim : Bool) : (fuel : Nat) → Cursor → Option (List Char × Cursor)
  | 0, p => some ([], p)
  | fuel + 1, p =>
    match p.here? with
    | some c =>
      if c == '%' then do
        let (c, p) ← readUriCharacter p
        (readUri verbatim fuel p).map fun (cs, q) ↦ (c :: cs, q)
      else if isUriChar verbatim c then
        (readUri verbatim fuel p.skip).map fun (cs, q) ↦ (c :: cs, q)
      else some ([], p)
    | none => some ([], p)

/-- The handle of a tag: an exclamation mark, a word, and an exclamation mark if there is one. -/
def readHandle (p : Cursor) : Option (List Char × Cursor) :=
  if p.sees '!' then
    let word := p.skip.rest.takeWhile isWordChar
    let q := p.skip.skipMany word.length
    if q.sees '!' then some ('!' :: word ++ ['!'], q.skip) else some ('!' :: word, q)
  else none

/-- A directive, the percent sign ahead, and its line. -/
def readDirective (p : Cursor) : Option (Token × Cursor) := do
  let name := p.skip.rest.takeWhile isWordChar
  let q := p.skip.skipMany name.length
  if name.isEmpty || !endsWord q.here? then none
  else
    let q := q.skipWhile isSpacing
    let (t, q) ←
      if name == "YAML".toList then do
        let (major, q) ← readVersionNumber q
        if q.sees '.' then
          let (minor, q) ← readVersionNumber q.skip
          some (Token.versionDirective major minor, q)
        else none
      else if name == "TAG".toList then do
        let (handle, q) ← readHandle q
        if handle != ['!'] && handle.getLast? != some '!' then none
        else if !(q.here?.any isSpacing) then none
        else
          let q := q.skipWhile isSpacing
          let (expansion, q) ← readUri true (q.rest.length + 1) q
          if expansion.isEmpty || !endsWord q.here? then none
          else some (Token.tagDirective (.ofList handle) (.ofList expansion), q)
      else none
    some (t, ← readLineEnd q)

/-- The name of an anchor or an alias, its mark ahead. -/
def readName (p : Cursor) : Option (String × Cursor) :=
  let name := p.skip.rest.takeWhile isWordChar
  let q := p.skip.skipMany name.length
  let ends := endsWord q.here? || q.here?.any fun c ↦ "?:,]%@".toList.contains c || c == '\x7d'
    || c == '\x60'
  if name.isEmpty || !ends then none else some (.ofList name, q)

/-- A tag: handle and suffix. -/
def readTag (flow : Bool) (p : Cursor) : Option (Token × Cursor) := do
  let (handle, suffix, q) ←
    -- A tag in angle brackets is taken as it is.
    if p.at? 1 == some '<' then do
      let (suffix, q) ← readUri true (p.rest.length + 1) (p.skipMany 2)
      if suffix.isEmpty || !q.sees '>' then none else some ([], suffix, q.skip)
    else do
      let (handle, q) ← readHandle p
      if 1 < handle.length && handle.getLast? == some '!' then do
        let (suffix, q) ← readUri false (q.rest.length + 1) q
        if suffix.isEmpty then none else some (handle, suffix, q)
      else do
        -- What began like a handle was the beginning of the suffix.
        let (rest, q) ← readUri false (q.rest.length + 1) q
        let suffix := handle.drop 1 ++ rest
        if suffix.isEmpty then some ([], ['!'], q) else some (['!'], suffix, q)
  if endsWord q.here? || (flow && q.sees ',') then
    some (.tag (.ofList handle) (.ofList suffix), q)
  else none

/-! ### One token -/

/-- A token of one character that may not be part of a key and after which one may begin, or not. -/
def mark (r : Reader) (t : Token) (keyAllowed : Bool) : Option Reader := do
  let r ← r.dropKey
  some { (r.push t).moveTo r.at_.skip with keyAllowed := keyAllowed }

/-- The end of the text: every block is closed. -/
def endStream (r : Reader) : Option Reader := do
  let r ← (r.closeBlocks (-1)).dropKey
  some { r.push .streamEnd with keyAllowed := false }

/-- A directive. -/
def directive (r : Reader) : Option Reader := do
  let r ← (r.closeBlocks (-1)).dropKey
  let (t, p) ← readDirective r.at_
  some { (r.push t).moveTo p with keyAllowed := false }

/-- The mark between documents. -/
def documentMark (r : Reader) (t : Token) : Option Reader := do
  let r ← (r.closeBlocks (-1)).dropKey
  some { (r.push t).moveTo (r.at_.skipMany 3) with keyAllowed := false }

/-- The beginning of a flow collection. -/
def openFlow (r : Reader) (t : Token) : Option Reader := do
  let r ← r.saveKey
  some { (r.push t).moveTo r.at_.skip with
    keys := none :: r.keys, flow := r.flow + 1, keyAllowed := true }

/-- The end of a flow collection. -/
def closeFlow (r : Reader) (t : Token) : Option Reader := do
  let r ← r.dropKey
  some { (r.push t).moveTo r.at_.skip with
    keys := if r.flow = 0 then r.keys else r.keys.drop 1, flow := r.flow - 1, keyAllowed := false }

/-- The mark of an item, a key or a value that may open a block collection here. -/
def blockMark (r : Reader) (opening t : Token) (keyAllowed : Bool) : Option Reader :=
  if r.flow = 0 && !r.keyAllowed then none
  else (r.openBlock r.at_.column r.tokens.length opening).mark t keyAllowed

/-- The colon behind a key. -/
def valueMark (r : Reader) : Option Reader :=
  match r.keys with
  -- What was read since then is the key: its mark goes in front, and perhaps a mapping begins there.
  | some k :: ks =>
    let r := (r.insertAt k.number .key).openBlock k.start.column k.number .blockMappingStart
    some { (r.push .value).moveTo r.at_.skip with keys := none :: ks, keyAllowed := false }
  -- The key has a mark of its own, or is not there at all.
  | _ =>
    if r.flow = 0 && !r.keyAllowed then none
    else
      let r := r.openBlock r.at_.column r.tokens.length .blockMappingStart
      some { (r.push .value).moveTo r.at_.skip with keyAllowed := r.flow = 0 }

/-- A token that may begin a simple key. -/
def content (r : Reader) (read : Cursor → Option (Token × Cursor)) : Option Reader := do
  let r ← r.saveKey
  let (t, p) ← read r.at_
  some { (r.push t).moveTo p with keyAllowed := false }

/-- A block scalar. -/
def block (r : Reader) (folded : Bool) : Option Reader := do
  let r ← r.dropKey
  let (text, p) ← readBlock folded r.indent r.at_
  some { (r.push (.scalar (if folded then .folded else .literal) (.ofList text))).moveTo p with
    keyAllowed := true }

/-- A plain scalar; a key may begin behind it if a line break does not belong to it any more. -/
def plain (r : Reader) : Option Reader := do
  let r ← r.saveKey
  let (text, breaks, p) ← readPlain (r.flow != 0) (r.indent + 1).toNat r.at_
  some { (r.push (.scalar .plain (.ofList text))).moveTo p with keyAllowed := breaks }

/-- The characters that no plain scalar begins with, some of them only before spacing. -/
def isIndicator (c : Char) : Bool :=
  "-?:,[]#&*!|>'\"%@".toList.contains c || c == '\x7b' || c == '\x7d' || c == '\x60'

/-- Whether a plain scalar begins here. -/
def startsPlain (r : Reader) (c : Char) : Bool :=
  let next := r.at_.at? 1
  !isIndicator c || (c == '-' && !(next.any isSpacing))
    || (r.flow = 0 && (c == '?' || c == ':') && !endsWord next)

/-- Reads one token that begins with a character. -/
def readToken (r : Reader) (c : Char) : Option Reader :=
  let p := r.at_
  let flowing := r.flow != 0
  let wordEnds := endsWord (p.at? 1)
  if p.column == 0 && c == '%' then r.directive
  else if p.column == 0 && p.seesTriple '-' then r.documentMark .documentStart
  else if p.column == 0 && p.seesTriple '.' then r.documentMark .documentEnd
  else if c == '[' then r.openFlow .flowSequenceStart
  else if c == '\x7b' then r.openFlow .flowMappingStart
  else if c == ']' then r.closeFlow .flowSequenceEnd
  else if c == '\x7d' then r.closeFlow .flowMappingEnd
  else if c == ',' then r.mark .flowEntry true
  else if c == '-' && wordEnds then r.blockMark .blockSequenceStart .blockEntry true
  else if c == '?' && (flowing || wordEnds) then r.blockMark .blockMappingStart .key (!flowing)
  else if c == ':' && (flowing || wordEnds) then r.valueMark
  else if c == '*' then r.content fun p ↦ (readName p).map fun (n, q) ↦ (.alias_ n, q)
  else if c == '&' then r.content fun p ↦ (readName p).map fun (n, q) ↦ (.anchor n, q)
  else if c == '!' then r.content (readTag flowing)
  else if c == '|' && !flowing then r.block false
  else if c == '>' && !flowing then r.block true
  else if c == '\'' then
    r.content fun p ↦ (readQuoted true p).map fun (t, q) ↦ (.scalar .singleQuoted (.ofList t), q)
  else if c == '"' then
    r.content fun p ↦ (readQuoted false p).map fun (t, q) ↦ (.scalar .doubleQuoted (.ofList t), q)
  else if r.startsPlain c then r.plain
  else none

/-- Reads tokens to the end of the text. -/
def readAll : (fuel : Nat) → Reader → Option (List Token)
  | 0, _ => none
  | fuel + 1, r => do
    let r := r.skipGap (r.at_.rest.length + 1)
    let r ← r.dropStaleKeys
    let r := r.closeBlocks r.at_.column
    match r.at_.here? with
    | none => (r.moveTo ⟨[], r.at_.index, r.at_.line, 0⟩).endStream.map fun r ↦ r.tokens.reverse
    | some c => do readAll fuel (← r.readToken c)

end Reader

/-- **The tokens of a text**, `none` if some part of it is no token. -/
def Token.ofChars? (cs : List Char) : Option (List Token) :=
  if cs.all isAllowed then Reader.readAll (cs.length + 2) { at_ := ⟨cs, 0, 0, 0⟩ } else none

end Foreman.Yaml
