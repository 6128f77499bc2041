import Foreman.Text.Hex
import Foreman.Yaml.Cursor

/-!
# The text of scalars

Scalars come plain, in quotes of two kinds, and as blocks. Plain and quoted ones **fold**: between two
words a single line break counts as a space, and of several breaks all but the first are kept. Blocks
keep their lines, or fold them too, and say what becomes of the breaks at their end.

Each reader answers the text and the position behind the scalar, and `none` where the text breaks a rule
of its form. Repetition is bounded by the length of the text ahead.
-/

namespace Foreman.Yaml

/-! ### Gaps between words -/

/-- What stands between two words: spacing on one line, or line breaks. -/
structure Gap where
  /-- There is a line break. -/
  breaks : Bool
  /-- Spacing, when there is none. -/
  spacing : List Char
  /-- What the first break adds to a value. -/
  first : List Char
  /-- What the other breaks add. -/
  more : List Char

namespace Gap

/-- No gap at all. -/
def none : Gap := ⟨false, [], [], []⟩

/-- What a gap adds to a value. -/
def fold (g : Gap) : List Char :=
  if g.breaks then
    if g.first == ['\n'] then (if g.more.isEmpty then [' '] else g.more) else g.first ++ g.more
  else g.spacing

end Gap

/-- Reads a gap that may have begun with an escaped break. A tab in front of column `margin` on a line of
its own would be indentation, and is refused. -/
def readGap (margin : Nat) : (fuel : Nat) → Gap → Cursor → Option (Gap × Cursor)
  | 0, g, p => some (g, p)
  | fuel + 1, g, p =>
    match p.here? with
    | some c =>
      if isSpacing c then
        if g.breaks && c == '\t' && p.column < margin then .none
        else if g.breaks then readGap margin fuel g p.skip
        else readGap margin fuel { g with spacing := g.spacing ++ [c] } p.skip
      else if isBreak c then
        if g.breaks then readGap margin fuel { g with more := g.more ++ p.breakText } p.skipBreak
        else readGap margin fuel ⟨true, [], p.breakText, []⟩ p.skipBreak
      else some (g, p)
    | .none => some (g, p)

/-! ### Plain scalars -/

/-- The characters that structure flow collections. -/
def isFlowIndicator (c : Char) : Bool :=
  c == ',' || c == '[' || c == ']' || c == '\x7b' || c == '\x7d'

/-- Whether a plain word ends here though no spacing does: at a colon that ends a word, and in flow
collections at their indicators. -/
def endsPlain (flow : Bool) (p : Cursor) : Bool :=
  (p.sees ':' && endsWord (p.at? 1)) || (flow && p.here?.any isFlowIndicator)

/-- A plain word: `none` where a flow collection has a colon in front of an indicator. -/
def readPlainWord (flow : Bool) : (fuel : Nat) → Cursor → Option (List Char × Cursor)
  | 0, p => some ([], p)
  | fuel + 1, p =>
    match p.here? with
    | some c =>
      if endsWord (some c) then some ([], p)
      else if flow && c == ':' && (p.at? 1).any (fun d ↦ isFlowIndicator d || d == '?') then none
      else if endsPlain flow p then some ([], p)
      else (readPlainWord flow fuel p.skip).map fun (cs, p) ↦ (c :: cs, p)
    | none => some ([], p)

/-- The words of a plain scalar behind a gap; answers whether a gap with a line break came last. -/
def readPlainWords (flow : Bool) (margin : Nat) :
    (fuel : Nat) → Gap → Cursor → Option (List Char × Bool × Cursor)
  | 0, g, p => some ([], g.breaks, p)
  | fuel + 1, g, p =>
    if p.seesDocumentMark || p.sees '#' then some ([], g.breaks, p)
    else do
      let (word, p) ← readPlainWord flow p.rest.length p
      if word.isEmpty then some ([], g.breaks, p)
      else if !(endsWord p.here?) || p.here?.isNone then some (g.fold ++ word, false, p)
      else
        let (gap, p) ← readGap margin p.rest.length .none p
        if !flow && p.column < margin then some (g.fold ++ word, gap.breaks, p)
        else
          let (rest, breaks, p) ← readPlainWords flow margin fuel gap p
          some (g.fold ++ word ++ rest, breaks, p)

/-- A plain scalar; its further lines are indented to `margin` at least. -/
def readPlain (flow : Bool) (margin : Nat) (p : Cursor) : Option (List Char × Bool × Cursor) :=
  readPlainWords flow margin (p.rest.length + 1) .none p

/-! ### Quoted scalars -/

/-- The character of a short escape. -/
def shortEscape? : Char → Option Char
  | '0' => some '\x00'
  | 'a' => some '\x07'
  | 'b' => some '\x08'
  | 't' => some '\t'
  | '\t' => some '\t'
  | 'n' => some '\n'
  | 'v' => some '\x0b'
  | 'f' => some '\x0c'
  | 'r' => some '\r'
  | 'e' => some '\x1b'
  | ' ' => some ' '
  | '"' => some '"'
  | '/' => some '/'
  | '\\' => some '\\'
  | 'N' => some '\u0085'
  | '_' => some '\u00a0'
  | 'L' => some '\u2028'
  | 'P' => some '\u2029'
  | _ => none

/-- The number of digits of an escape by code point. -/
def escapeLength? : Char → Option Nat
  | 'x' => some 2
  | 'u' => some 4
  | 'U' => some 8
  | _ => none

/-- An escape, the backslash still ahead. -/
def readEscape (p : Cursor) : Option (Char × Cursor) := do
  let mark ← p.at? 1
  match shortEscape? mark with
  | some c => some (c, p.skipMany 2)
  | none => do
    let count ← escapeLength? mark
    let digits := (p.rest.drop 2).take count
    let n ← Text.hexNumber? digits
    if digits.length < count || (0xD800 ≤ n && n ≤ 0xDFFF) || 0x10FFFF < n then none
    else some (.ofNat n, p.skipMany (2 + count))

/-- A word in quotes, up to spacing, the closing quote or an escaped break; answers whether it ended with
the latter. -/
def readQuotedWord (single : Bool) : (fuel : Nat) → Cursor → Option (List Char × Bool × Cursor)
  | 0, p => some ([], false, p)
  | fuel + 1, p =>
    match p.here? with
    | none => some ([], false, p)
    | some c =>
      if endsWord (some c) then some ([], false, p)
      else if single && c == '\'' && p.at? 1 == some '\'' then
        (readQuotedWord single fuel (p.skipMany 2)).map fun (cs, e) ↦ (c :: cs, e)
      else if c == (if single then '\'' else '"') then some ([], false, p)
      else if !single && c == '\\' && (p.at? 1).any isBreak then some ([], true, p.skip.skipBreak)
      else if !single && c == '\\' then do
        let (d, p) ← readEscape p
        (readQuotedWord single fuel p).map fun (cs, e) ↦ (d :: cs, e)
      else (readQuotedWord single fuel p.skip).map fun (cs, e) ↦ (c :: cs, e)

/-- The words of a quoted scalar up to the closing quote. -/
def readQuotedWords (single : Bool) : (fuel : Nat) → Cursor → Option (List Char × Cursor)
  | 0, _ => none
  | fuel + 1, p => do
    if p.seesDocumentMark || p.here?.isNone then none
    else
      let (word, escaped, p) ← readQuotedWord single p.rest.length p
      if p.sees (if single then '\'' else '"') then some (word, p.skip)
      else
        let start : Gap := if escaped then ⟨true, [], [], []⟩ else .none
        let (gap, p) ← readGap 0 p.rest.length start p
        let (rest, p) ← readQuotedWords single fuel p
        some (word ++ gap.fold ++ rest, p)

/-- A quoted scalar, the opening quote still ahead. -/
def readQuoted (single : Bool) (p : Cursor) : Option (List Char × Cursor) :=
  readQuotedWords single (p.rest.length + 1) p.skip

/-! ### Blocks -/

/-- What becomes of the line breaks at the end of a block. -/
inductive Chomping where
  /-- All are dropped. -/
  | strip
  /-- One is kept. -/
  | clip
  /-- All are kept. -/
  | keep
deriving DecidableEq, Repr

/-- A chomping indicator. -/
def readChomping (p : Cursor) : Option (Chomping × Cursor) :=
  match p.here? with
  | some '+' => some (.keep, p.skip)
  | some '-' => some (.strip, p.skip)
  | _ => none

/-- An indentation indicator, if there is a digit; zero is refused. -/
def readIndentation (p : Cursor) : Option (Nat × Cursor) :=
  match p.here? with
  | some c =>
    if c == '0' then none
    else if c.isDigit then some (c.toNat - '0'.toNat, p.skip)
    else some (0, p)
  | none => some (0, p)

/-- Chomping and indentation indicators in either order. -/
def readHeader (p : Cursor) : Option (Chomping × Nat × Cursor) :=
  match readChomping p with
  | some (chomping, p) => (readIndentation p).map fun (n, p) ↦ (chomping, n, p)
  | none => do
    let (n, p) ← readIndentation p
    match if n = 0 then none else readChomping p with
    | some (chomping, p) => some (chomping, n, p)
    | none => some (.clip, n, p)

/-- The rest of a line that may only hold a comment, and its break. -/
def readLineEnd (p : Cursor) : Option Cursor :=
  let p := p.skipWhile isSpacing
  let p := if p.sees '#' then p.skipLine else p
  if endsLine p.here? then some p.skipBreak else none

/-- Indentation and empty lines in front of a line of a block: what the breaks add to a value, and the
greatest column reached. An indentation of zero is not known yet. -/
def readBlockBreaks (indent : Nat) : (fuel : Nat) → (widest : Nat) → Cursor →
    Option (List Char × Nat × Cursor)
  | 0, widest, p => some ([], widest, p)
  | fuel + 1, widest, p =>
    let spaces := (p.rest.takeWhile (· == ' ')).length
    let p := p.skipMany (if indent = 0 then spaces else min spaces (indent - p.column))
    let widest := max widest p.column
    if (indent = 0 || p.column < indent) && p.sees '\t' then none
    else if p.here?.any isBreak then
      (readBlockBreaks indent fuel widest p.skipBreak).map fun (cs, w, q) ↦ (p.breakText ++ cs, w, q)
    else some ([], widest, p)

/-- What the break before a line and the empty lines behind it add to a value. -/
def joinLines (folded blankBefore blankHere : Bool) (leading trailing : List Char) : List Char :=
  if folded && leading == ['\n'] && !blankBefore && !blankHere then
    (if trailing.isEmpty then [' '] else []) ++ trailing
  else leading ++ trailing

/-- The lines of a block at the given indentation. The break of the line before, the empty lines behind
it, and whether that line began with spacing are passed along. -/
def readBlockLines (folded : Bool) (chomping : Chomping) (indent : Nat) :
    (fuel : Nat) → (blankBefore : Bool) → (leading trailing : List Char) → Cursor →
    Option (List Char × Cursor)
  | 0, _, _, _, p => some ([], p)
  | fuel + 1, blankBefore, leading, trailing, p =>
    if p.column == indent && p.here?.isSome then do
      let blankHere := p.here?.any isSpacing
      let line := p.rest.takeWhile fun c ↦ !isBreak c
      let q := p.skipMany line.length
      let (breaks, _, r) ← readBlockBreaks indent q.rest.length 0 q.skipBreak
      let (rest, last) ← readBlockLines folded chomping indent fuel blankHere q.breakText breaks r
      some (joinLines folded blankBefore blankHere leading trailing ++ line ++ rest, last)
    else
      some ((if chomping == .strip then [] else leading)
        ++ (if chomping == .keep then trailing else []), p)

/-- A block, its mark still ahead, inside a collection at indentation `parent`. -/
def readBlock (folded : Bool) (parent : Int) (p : Cursor) : Option (List Char × Cursor) := do
  let (chomping, increment, p) ← readHeader p.skip
  let p ← readLineEnd p
  let given : Nat := if increment = 0 then 0 else (max parent 0).toNat + increment
  let (breaks, widest, p) ← readBlockBreaks given (p.rest.length + 1) 0 p
  let indent := if given = 0 then max (max widest (parent + 1).toNat) 1 else given
  readBlockLines folded chomping indent (p.rest.length + 1) false [] breaks p

end Foreman.Yaml
