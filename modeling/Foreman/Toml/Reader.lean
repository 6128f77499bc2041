import Foreman.Decimal.Numeral
import Foreman.Machine
import Foreman.Text.Hex
import Foreman.Text.Reads
import Foreman.Time.Calendar
import Foreman.Toml.Item

/-!
# Reading TOML

A document is a list of expressions, each on its own line: the header of a table, the header of a table
in an array, or a key with a value. What they say together is `Foreman.Toml.Item`; the result is a JSON
object. A date or a time, for which JSON has nothing, is an object without members: no setting takes one,
and where settings are expected it says nothing.

Arrays and inline tables may be nested `nestingLimit` deep, and a key may have that many parts.
-/

namespace Foreman.Toml

open Text (Reads behind?)

/-- How deep values may be nested, and how many parts a key may have. -/
def nestingLimit : Nat := 79

/-! ### Between tokens -/

/-- Space and tab. -/
def isSpacing (c : Char) : Bool :=
  c == ' ' || c == '\t'

/-- Whether a character may stand in a comment: all but control characters other than the tab. -/
def isCommentChar (c : Char) : Bool :=
  c == '\t' || (0x20 ≤ c.toNat && c.toNat != 0x7F)

/-- Drops spaces and tabs. -/
def skipSpacing (cs : List Char) : List Char :=
  cs.dropWhile isSpacing

/-- What is behind a line break. -/
def behindBreak? : List Char → Option (List Char)
  | '\n' :: r => some r
  | '\r' :: '\n' :: r => some r
  | _ => none

/-- Drops a comment, if there is one. -/
def skipComment : List Char → List Char
  | '#' :: r => r.dropWhile isCommentChar
  | cs => cs

/-- What is behind the rest of a line: spacing, a comment, and a break or the end of the text. -/
def behindLine? (cs : List Char) : Option (List Char) :=
  match skipComment (skipSpacing cs) with
  | [] => some []
  | cs => behindBreak? cs

/-- Drops spacing, breaks and whole comments, as they stand between the items of an array. -/
def skipLines : (fuel : Nat) → List Char → Option (List Char)
  | 0, _ => none
  | fuel + 1, cs =>
    match skipSpacing cs with
    | '#' :: r => (behindBreak? (r.dropWhile isCommentChar)).bind (skipLines fuel)
    | r =>
      match behindBreak? r with
      | some r => skipLines fuel r
      | none => some r

/-! ### Strings -/

/-- Whether a character may stand in a string as it is, tabs included. -/
def isStringChar (c : Char) : Bool :=
  isCommentChar c

/-- The character of an escape whose backslash has been read. -/
def readEscape : Reads Char
  | 'b' :: r => some ('\x08', r)
  | 't' :: r => some ('\t', r)
  | 'n' :: r => some ('\n', r)
  | 'f' :: r => some ('\x0c', r)
  | 'r' :: r => some ('\r', r)
  | '"' :: r => some ('"', r)
  | '\\' :: r => some ('\\', r)
  | 'u' :: r => coded 4 r
  | 'U' :: r => coded 8 r
  | _ => none
where
  /-- A character by its number, in exactly this many digits of base sixteen. -/
  coded (width : Nat) (cs : List Char) : Option (Char × List Char) := do
    let digits := cs.take width
    let n ← if digits.length = width then Text.hexNumber? digits else none
    if n.isValidChar then some (.ofNat n, cs.drop width) else none

/-- The rest of a string in double quotes, its characters so far in reverse. -/
def readBasic : (fuel : Nat) → List Char → Reads String
  | 0, _, _ => none
  | fuel + 1, acc, cs =>
    match cs with
    | '"' :: r => some (.ofList acc.reverse, r)
    | '\\' :: r => (readEscape r).bind fun (c, r) ↦ readBasic fuel (c :: acc) r
    | c :: r => if isStringChar c then readBasic fuel (c :: acc) r else none
    | [] => none

/-- The rest of a string in single quotes: no escapes. -/
def readLiteral (cs : List Char) : Option (String × List Char) :=
  let inside := cs.takeWhile fun c ↦ isStringChar c && c != '\''
  match cs.drop inside.length with
  | '\'' :: r => some (.ofList inside, r)
  | _ => none

/-- The quotes that end a string of several lines: three, and up to two more in front of them that
belong to the string. -/
def closing? (quote : Char) (cs : List Char) : Option (List Char × List Char) :=
  let run := (cs.takeWhile (· == quote)).take 5
  if 3 ≤ run.length then some (run.drop 3, cs.drop run.length) else none

/-- Drops a line break right behind the opening quotes. -/
def skipFirstBreak (cs : List Char) : List Char :=
  (behindBreak? cs).getD cs

/-- Drops what a backslash at the end of a line takes away: spacing, the break, and all spacing and breaks
behind it. -/
def behindFold? (cs : List Char) : Option (List Char) :=
  (behindBreak? (skipSpacing cs)).map fun r ↦ go (r.length + 1) r
where
  /-- Drops spacing and breaks. -/
  go : Nat → List Char → List Char
    | 0, cs => cs
    | fuel + 1, cs =>
      let r := skipSpacing cs
      match behindBreak? r with
      | some r => go fuel r
      | none => r

/-- The rest of a string of several lines in the given quotes, its characters so far in reverse. Escapes
are read in double quotes only; every break is a line feed. -/
def readLines (quote : Char) : (fuel : Nat) → List Char → Reads String
  | 0, _, _ => none
  | fuel + 1, acc, cs =>
    match closing? quote cs with
    | some (inside, r) => some (.ofList (acc.reverse ++ inside), r)
    | none =>
      match behindBreak? cs with
      | some r => readLines quote fuel ('\n' :: acc) r
      | none =>
        match cs with
        | [] => none
        | c :: r =>
          if c == '\\' && quote == '"' then
            match behindFold? r with
            | some r => readLines quote fuel acc r
            | none => (readEscape r).bind fun (c, r) ↦ readLines quote fuel (c :: acc) r
          else if isStringChar c then readLines quote fuel (c :: acc) r
          else none

/-- A string of one line. -/
def readShortString : Reads String
  | '"' :: r => readBasic (r.length + 1) [] r
  | '\'' :: r => readLiteral r
  | _ => none

/-- A string. -/
def readString : Reads String
  | '"' :: '"' :: '"' :: r => readLines '"' (r.length + 1) [] (skipFirstBreak r)
  | '\'' :: '\'' :: '\'' :: r => readLines '\'' (r.length + 1) [] (skipFirstBreak r)
  | cs => readShortString cs

/-! ### Keys -/

/-- Whether a character may stand in a key without quotes. -/
def isBareKeyChar (c : Char) : Bool :=
  c.isAlphanum || c == '-' || c == '_'

/-- One part of a key. -/
def readKeyPart (cs : List Char) : Option (String × List Char) :=
  match cs with
  | '"' :: _ => readShortString cs
  | '\'' :: _ => readShortString cs
  | _ =>
    let bare := cs.takeWhile isBareKeyChar
    if bare.isEmpty then none else some (.ofList bare, cs.drop bare.length)

/-- The parts of a key, points between them, spacing around each. -/
def readKeyParts : (limit : Nat) → Reads (List String)
  | 0, _ => none
  | limit + 1, cs => do
    let (part, r) ← readKeyPart (skipSpacing cs)
    match skipSpacing r with
    | '.' :: r => (readKeyParts limit r).map fun (parts, r) ↦ (part :: parts, r)
    | r => some ([part], r)

/-- A key. -/
def readKey (cs : List Char) : Option (Path × List Char) := do
  let (parts, r) ← readKeyParts nestingLimit cs
  some (← Path.ofKeys? parts, r)

/-! ### Dates and times -/

/-- A number of exactly so many digits within bounds. -/
def readBounded (width low high : Nat) (cs : List Char) : Option (Nat × List Char) :=
  let ds := (cs.take width).takeWhile Char.isDigit
  let n := Decimal.ofDigits ds
  if ds.length = width && low ≤ n && n ≤ high then some (n, cs.drop width) else none

/-- A date. -/
def behindDate? (cs : List Char) : Option (List Char) := do
  let (year, r) ← readBounded 4 0 9999 cs
  let (month, r) ← readBounded 2 1 12 (← behind? ['-'] r)
  let (_, r) ← readBounded 2 1 (Time.monthLength year month) (← behind? ['-'] r)
  some r

/-- A time of day, with places of the second or without. -/
def behindTime? (cs : List Char) : Option (List Char) := do
  let (_, r) ← readBounded 2 0 23 cs
  let (_, r) ← readBounded 2 0 59 (← behind? [':'] r)
  let (_, r) ← readBounded 2 0 60 (← behind? [':'] r)
  match r with
  | '.' :: p => if p.head?.any Char.isDigit then some (p.dropWhile Char.isDigit) else none
  | _ => some r

/-- The offset of a time, if there is one. -/
def behindOffset? : List Char → Option (List Char)
  | 'Z' :: r => some r
  | 'z' :: r => some r
  | c :: r =>
    if c == '+' || c == '-' then do
      let (_, r) ← readBounded 2 0 23 r
      let (_, r) ← readBounded 2 0 59 (← behind? [':'] r)
      some r
    else some (c :: r)
  | [] => some []

/-- A date, a time, or both. -/
def behindMoment? (cs : List Char) : Option (List Char) :=
  match behindDate? cs with
  | none => behindTime? cs
  | some [] => some []
  | some (c :: r) =>
    if c == 'T' || c == 't' || c == ' ' then
      match behindTime? r with
      | some r => behindOffset? r
      | none => if c == ' ' then some (c :: r) else none
    else some (c :: r)

/-! ### Numbers -/

/-- Digits with underscores between them; what is behind an underscore must be a digit again. -/
def readDigits (isDigit : Char → Bool) : (afterDigit : Bool) → List Char →
    Option (List Char × List Char)
  | _, [] => some ([], [])
  | afterDigit, c :: cs =>
    if isDigit c then (readDigits isDigit true cs).map fun (ds, r) ↦ (c :: ds, r)
    else if c == '_' && afterDigit then
      match cs with
      | [] => none
      | d :: _ => if isDigit d then readDigits isDigit false cs else none
    else some ([], c :: cs)

/-- At least one digit, with underscores between them. -/
def readSomeDigits (isDigit : Char → Bool) (cs : List Char) : Option (List Char × List Char) :=
  (readDigits isDigit false cs).filter fun (ds, _) ↦ !ds.isEmpty

/-- A sign, if there is one. -/
def readSign : List Char → List Char × List Char
  | '+' :: r => (['+'], r)
  | '-' :: r => (['-'], r)
  | cs => ([], cs)

/-- The places behind a point, if there is one, the point included. -/
def readPlaces : List Char → Option (List Char × List Char)
  | '.' :: r => (readSomeDigits Char.isDigit r).map fun (ds, r) ↦ ('.' :: ds, r)
  | cs => some ([], cs)

/-- The exponent, if there is one, its mark included. -/
def readExponent : List Char → Option (List Char × List Char)
  | [] => some ([], [])
  | c :: r =>
    if c == 'e' || c == 'E' then
      let (sign, r) := readSign r
      (readSomeDigits Char.isDigit r).map fun (ds, r) ↦ ('e' :: sign ++ ds, r)
    else some ([], c :: r)

/-- An integer of 64 bits with sign. -/
def asInteger (n : Int) : Option Json :=
  if Machine.isSigned n then some (.int n) else none

/-- A number in base sixteen, eight or two, its mark read. -/
def readInBase (base : Nat) (cs : List Char) : Option (Json × List Char) := do
  let isDigit (c : Char) : Bool := (Text.hexValue? c).any (· < base)
  let (ds, r) ← readSomeDigits isDigit cs
  let n := (ds.filterMap Text.hexValue?).foldl (fun n d ↦ n * base + d) 0
  some (← asInteger n, r)

/-- A number in base ten: digits without a zero in front, perhaps places and an exponent, which make it a
double. A positive one that is too large for a double is refused. -/
def readDecimal (cs : List Char) : Option (Json × List Char) := do
  let (sign, r) := readSign cs
  let (whole, r) ← match r with
    | '0' :: r => some (['0'], r)
    | r => readSomeDigits Char.isDigit r
  let (places, r) ← readPlaces r
  let (exponent, r) ← readExponent r
  if places.isEmpty && exponent.isEmpty then
    let n := Decimal.ofDigits whole
    some (← asInteger (if sign == ['-'] then -(n : Int) else n), r)
  else
    let n ← Decimal.Numeral.ofChars? (sign ++ whole ++ places ++ exponent)
    if n.isFinite || n.negative then some (.float n.toBits, r) else none

/-- The words for what is beyond all numbers. -/
def readSpecial (cs : List Char) : Option (Json × List Char) := do
  let (sign, r) := readSign cs
  let bits (f : Float) : Json := .float (if sign == ['-'] then -f else f).toBits
  match behind? ['i', 'n', 'f'] r with
  | some r => some (bits (1.0 / 0.0), r)
  | none => (behind? ['n', 'a', 'n'] r).map fun r ↦ (bits (0.0 / 0.0), r)

/-- A number, a date or a time. -/
def readNumber (cs : List Char) : Option (Json × List Char) :=
  match behindMoment? cs with
  | some r => some (.obj [], r)
  | none =>
    match cs with
    | '0' :: 'x' :: r => readInBase 16 r
    | '0' :: 'o' :: r => readInBase 8 r
    | '0' :: 'b' :: r => readInBase 2 r
    | _ => (readSpecial cs).or (readDecimal cs)

/-! ### Arrays and inline tables -/

/-- The items of an array up to its end; a comma may follow the last one. -/
def readItems (item : Reads Json) : (fuel : Nat) → Reads (List Json)
  | 0, _ => none
  | fuel + 1, cs => do
    match ← skipLines (cs.length + 1) cs with
    | ']' :: r => some ([], r)
    | cs => do
      let (v, r) ← item cs
      match ← skipLines (r.length + 1) r with
      | ',' :: r => (readItems item fuel r).map fun (vs, r) ↦ (v :: vs, r)
      | ']' :: r => some ([v], r)
      | _ => none

/-- A key, an equals sign and a value. -/
def readPair (value : Reads Json) (cs : List Char) : Option ((Path × Json) × List Char) := do
  let (path, r) ← readKey cs
  let (v, r) ← value (skipSpacing (← behind? ['='] r))
  some ((path, v), r)

/-- The pairs of an inline table that is not empty up to its end, put into the table so far. -/
def readPairs (value : Reads Json) : (fuel : Nat) → Members → Reads Members
  | 0, _, _ => none
  | fuel + 1, ms, cs => do
    let ((path, v), r) ← readPair value cs
    let ms ← ms.putAt path v
    match skipSpacing r with
    | ',' :: r => readPairs value fuel ms r
    | '\x7d' :: r => some (ms, r)
    | _ => none

/-- A value that may be nested so deep. -/
def readValue : (nesting : Nat) → Reads Json
  | nesting, '[' :: r =>
    match nesting with
    | 0 => none
    | n + 1 => (readItems (readValue n) (r.length + 1) r).map fun (vs, r) ↦ (.arr vs, r)
  | nesting, '\x7b' :: r =>
    match nesting with
    | 0 => none
    | n + 1 =>
      match skipSpacing r with
      | '\x7d' :: r => some (.obj [], r)
      | r => (readPairs (readValue n) (r.length + 1) [] r).map fun (ms, r) ↦ (.obj (membersJson ms), r)
  | _, cs =>
    match cs.head? with
    | some '"' | some '\'' => (readString cs).map fun (s, r) ↦ (.str s, r)
    | some 't' => (behind? "true".toList cs).map fun r ↦ (.bool true, r)
    | some 'f' => (behind? "false".toList cs).map fun r ↦ (.bool false, r)
    | _ => readNumber cs

/-! ### Documents -/

/-- A document in the making: its tables, and the path of the last header. -/
structure Document where
  root : Members := []
  current : List String := []

/-- The header of a table in an array, its brackets read. -/
def Document.readArrayHeader (d : Document) (cs : List Char) : Option (Document × List Char) := do
  let (path, r) ← readKey cs
  let r ← behindLine? (← behind? [']', ']'] r)
  some (⟨← d.root.openArray path, path.keys⟩, r)

/-- The header of a table, its bracket read. -/
def Document.readHeader (d : Document) (cs : List Char) : Option (Document × List Char) := do
  let (path, r) ← readKey cs
  let r ← behindLine? (← behind? [']'] r)
  some (⟨← d.root.openTable path, path.keys⟩, r)

/-- A key and its value, put into the table of the last header. -/
def Document.readKeyed (d : Document) (cs : List Char) : Option (Document × List Char) := do
  let ((path, v), r) ← readPair (readValue nestingLimit) cs
  let r ← behindLine? r
  some ({ d with root := ← d.root.alterAt (fun ms ↦ Members.putAt path v ms) d.current }, r)

/-- Reads expressions to the end of the text. -/
def Document.read : (fuel : Nat) → Document → List Char → Option Document
  | 0, _, _ => none
  | fuel + 1, d, cs =>
    match skipSpacing cs with
    | [] => some d
    | '#' :: r => (behindLine? ('#' :: r)).bind (d.read fuel)
    | '[' :: '[' :: r => (d.readArrayHeader r).bind fun (d, r) ↦ d.read fuel r
    | '[' :: r => (d.readHeader r).bind fun (d, r) ↦ d.read fuel r
    | cs =>
      match behindBreak? cs with
      | some r => d.read fuel r
      | none => (d.readKeyed cs).bind fun (d, r) ↦ d.read fuel r

/-- **Reads a document**; a byte order mark in front is dropped. -/
def ofString? (s : String) : Option Json := do
  let cs := match s.toList with
    | '\uFEFF' :: r => r
    | cs => cs
  let d ← Document.read (cs.length + 2) {} cs
  some (.obj (membersJson d.root))

end Foreman.Toml
