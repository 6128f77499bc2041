import Foreman.Json.Basic
import Foreman.Text.Hex
import Foreman.Text.Reads

/-!
# Reading JSON text

Nesting is bounded by `nestingLimit`, and the recursion is on that bound; repetition inside an array or
object is bounded by the number of characters ahead, each round consuming at least one.

**Numbers.** A number without fraction and exponent that fits 64 bits is an integer; negative zero and
all others are doubles. A double is assembled from its first digits, as many as fit an unsigned word,
and a power of ten, by one rounding for the digits and one for the scaling. The result can differ from
the nearest double in the last place.
-/

namespace Foreman.Json

open Text (Reads)

/-- Arrays and objects may be nested this deep. -/
def nestingLimit : Nat := 127

/-- Space, tab, line feed and carriage return stand between tokens. -/
def isGap (c : Char) : Bool :=
  c == ' ' || c == '\t' || c == '\n' || c == '\r'

/-- Drops the gap in front of a token. -/
def skipGap (cs : List Char) : List Char :=
  cs.dropWhile isGap

/-! ### Numbers -/

/-- The greatest unsigned word. -/
def wordMax : Nat := Machine.limit64 - 1

/-- The value of a decimal digit. -/
def digitValue (c : Char) : Nat :=
  c.toNat - '0'.toNat

/-- Powers of ten that a double holds, correctly rounded. -/
def powerOfTen (n : Nat) : Float :=
  .ofScientific 1 false n

/-- Scales a double by a power of ten, in steps of at most `10 ^ 308`. It fails where the result is
too large for a double. -/
def scale (f : Float) (exponent : Int) : Option Float :=
  if exponent.natAbs ≤ 308 then
    if 0 ≤ exponent then
      let g := f * powerOfTen exponent.natAbs
      if g.isInf then none else some g
    else some (f / powerOfTen exponent.natAbs)
  else if f == 0 then some f
  else if 0 ≤ exponent then none
  else scale (f / powerOfTen 308) (exponent + 308)
termination_by (-exponent).toNat
decreasing_by omega

/-- The double made of leading digits and a power of ten. -/
def ofParts (negative : Bool) (digits : Nat) (exponent : Int) : Option Json :=
  (scale (.ofNat digits) exponent).map fun f ↦ .float (if negative then -f else f).toBits

/-- Saturates an exponent at the range of a signed half word. -/
def clampExponent (e : Int) : Int :=
  max (-0x80000000) (min e 0x7FFFFFFF)

/-- The exponent mark has been read. An exponent too long to count gives zero, or fails when the
digits are not zero and the exponent is positive. -/
def readExponent (negative : Bool) (digits : Nat) (exponent : Int) (cs : List Char) :
    Option (Json × List Char) :=
  let (down, cs) : Bool × List Char := match cs with
    | '+' :: r => (false, r)
    | '-' :: r => (true, r)
    | _ => (false, cs)
  let written := cs.takeWhile Char.isDigit
  let rest := cs.dropWhile Char.isDigit
  if written.isEmpty then none
  else
    let size := written.foldl (fun n c ↦ min 0x80000000 (n * 10 + digitValue c)) 0
    if size = 0x80000000 then
      if digits != 0 && !down then none
      else some (.float (if negative then -0.0 else 0.0 : Float).toBits, rest)
    else
      (ofParts negative digits (clampExponent (if down then exponent - size else exponent + size))).map
        fun v ↦ (v, rest)

/-- The digits so far are complete: an exponent may follow. -/
def endNumber (negative : Bool) (digits : Nat) (exponent : Int) (cs : List Char) :
    Option (Json × List Char) :=
  match cs with
  | 'e' :: r => readExponent negative digits exponent r
  | 'E' :: r => readExponent negative digits exponent r
  | _ => (ofParts negative digits exponent).map fun v ↦ (v, cs)

/-- Collects digits behind the point while the word holds them; the others are dropped. -/
def readPlaces (negative : Bool) (digits : Nat) (exponent : Int) : List Char →
    Option (Json × List Char)
  | [] => endNumber negative digits exponent []
  | c :: cs =>
    if c.isDigit then
      let more := digits * 10 + digitValue c
      if wordMax < more then endNumber negative digits exponent (cs.dropWhile Char.isDigit)
      else readPlaces negative more (exponent - 1) cs
    else endNumber negative digits exponent (c :: cs)

/-- The point has been read: at least one digit follows. -/
def readFraction (negative : Bool) (digits : Nat) (exponent : Int) (cs : List Char) :
    Option (Json × List Char) :=
  match cs with
  | c :: _ => if c.isDigit then readPlaces negative digits exponent cs else none
  | [] => none

/-- The number in front, its sign read: whole digits, then what turns it into a double. -/
def endWhole (negative : Bool) (digits : Nat) (cs : List Char) : Option (Json × List Char) :=
  match cs with
  | '.' :: r => readFraction negative digits 0 r
  | 'e' :: r => readExponent negative digits 0 r
  | 'E' :: r => readExponent negative digits 0 r
  | _ =>
    if !negative then some (.int digits, cs)
    else if digits = 0 || 0x8000000000000000 < digits then some (.float (-(Float.ofNat digits)).toBits, cs)
    else some (.int (-digits), cs)

/-- The word is full: further whole digits only raise the exponent. -/
def readLong (negative : Bool) (digits : Nat) (cs : List Char) : Option (Json × List Char) :=
  let skipped := (cs.takeWhile Char.isDigit).length
  match cs.dropWhile Char.isDigit with
  | '.' :: r => readFraction negative digits skipped r
  | rest => endNumber negative digits skipped rest

/-- Collects whole digits while the word holds them. -/
def readWhole (negative : Bool) (digits : Nat) : List Char → Option (Json × List Char)
  | [] => endWhole negative digits []
  | c :: cs =>
    if c.isDigit then
      let more := digits * 10 + digitValue c
      if wordMax < more then readLong negative digits (c :: cs) else readWhole negative more cs
    else endWhole negative digits (c :: cs)

/-- A number whose sign has been read. Only zero itself begins with the digit zero. -/
def readNumber (negative : Bool) : List Char → Option (Json × List Char)
  | '0' :: c :: cs => if c.isDigit then none else endWhole negative 0 (c :: cs)
  | ['0'] => endWhole negative 0 []
  | c :: cs => if c.isDigit then readWhole negative 0 (c :: cs) else none
  | [] => none

/-! ### Strings -/

/-- Four hexadecimal digits. -/
def readUnit : List Char → Option (Nat × List Char)
  | a :: b :: c :: d :: rest => (Text.hexNumber? [a, b, c, d]).map fun n ↦ (n, rest)
  | _ => none

/-- The character of a `\u` escape whose mark has been read: one unit, or a leading and a trailing
surrogate. A surrogate alone is no character. -/
def readUnicode (cs : List Char) : Option (Char × List Char) := do
  let (unit, rest) ← readUnit cs
  if 0xD800 ≤ unit && unit < 0xDC00 then
    match rest with
    | '\\' :: 'u' :: rest =>
      let (trail, rest) ← readUnit rest
      if 0xDC00 ≤ trail && trail < 0xE000 then
        some (.ofNat (0x10000 + (unit - 0xD800) * 0x400 + (trail - 0xDC00)), rest)
      else none
    | _ => none
  else if 0xDC00 ≤ unit && unit < 0xE000 then none
  else some (.ofNat unit, rest)

/-- The character of an escape whose backslash has been read. -/
def readEscape : List Char → Option (Char × List Char)
  | '"' :: r => some ('"', r)
  | '\\' :: r => some ('\\', r)
  | '/' :: r => some ('/', r)
  | 'b' :: r => some ('\x08', r)
  | 'f' :: r => some ('\x0c', r)
  | 'n' :: r => some ('\n', r)
  | 'r' :: r => some ('\r', r)
  | 't' :: r => some ('\t', r)
  | 'u' :: r => readUnicode r
  | _ => none

/-- The rest of a string whose opening quote has been read, `acc` holding the characters before it in
reverse. Control characters must be escaped. -/
def readString : Nat → List Char → List Char → Option (String × List Char)
  | 0, _, _ => none
  | _ + 1, _, [] => none
  | fuel + 1, acc, c :: cs =>
    if c = '"' then some (.ofList acc.reverse, cs)
    else if c = '\\' then do
      let (c, rest) ← readEscape cs
      readString fuel (c :: acc) rest
    else if c.toNat < 0x20 then none
    else readString fuel (c :: acc) cs

/-- A string with its quotes. -/
def readQuoted : Reads String
  | '"' :: cs => readString (cs.length + 1) [] cs
  | _ => none

/-! ### Arrays and objects -/

/-- Items separated by commas up to the closing character, at least one item. -/
def readItems {α : Type} (item : Reads α) (close : Char) : Nat → Reads (List α)
  | 0, _ => none
  | fuel + 1, cs => do
    let (x, rest) ← item (skipGap cs)
    match skipGap rest with
    | c :: rest =>
      if c = close then some ([x], rest)
      else if c = ',' then do
        let (xs, rest) ← readItems item close fuel rest
        some (x :: xs, rest)
      else none
    | [] => none

/-- Items up to the closing character, possibly none; the opening character has been read. -/
def readGroup {α : Type} (item : Reads α) (close : Char) : Reads (List α) := fun cs ↦
  match skipGap cs with
  | c :: rest => if c = close then some ([], rest) else readItems item close (cs.length + 1) cs
  | [] => none

/-- A name, a colon and a value. -/
def readMember (value : Reads Json) : Reads (String × Json) := fun cs ↦ do
  let (key, rest) ← readQuoted cs
  match skipGap rest with
  | ':' :: rest => do
    let (v, rest) ← value (skipGap rest)
    some ((key, v), rest)
  | _ => none

/-- Removes a word from the front. -/
def readWord (word : String) (value : Json) : Reads Json := fun cs ↦
  if word.toList.isPrefixOf cs then some (value, cs.drop word.length) else none

/-- One value, the gap in front of it read. Of members with one name the last stands. -/
def readValue : Nat → Reads Json
  | _, '"' :: cs => (readQuoted ('"' :: cs)).map fun (s, rest) ↦ (.str s, rest)
  | 0, '[' :: _ => none
  | nesting + 1, '[' :: cs =>
    (readGroup (readValue nesting) ']' cs).map fun (items, rest) ↦ (.arr items, rest)
  | 0, '\x7b' :: _ => none
  | nesting + 1, '\x7b' :: cs =>
    (readGroup (readMember (readValue nesting)) '\x7d' cs).map fun (ms, rest) ↦
      (.obj (Keyed.ofList ms), rest)
  | _, 'n' :: cs => readWord "null" .null ('n' :: cs)
  | _, 't' :: cs => readWord "true" (.bool true) ('t' :: cs)
  | _, 'f' :: cs => readWord "false" (.bool false) ('f' :: cs)
  | _, '-' :: cs => readNumber true cs
  | _, cs => readNumber false cs

/-- **Reads a whole text as one value**, with nothing but a gap around it. -/
def ofChars? (cs : List Char) : Option Json :=
  match readValue nestingLimit (skipGap cs) with
  | some (v, rest) => if (skipGap rest).isEmpty then some v else none
  | none => none

/-- Reads a whole string as one value. -/
def ofString? (s : String) : Option Json :=
  ofChars? s.toList

end Foreman.Json
