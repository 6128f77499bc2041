import Foreman.Yaml.Cursor
import Foreman.Yaml.Token.Basic
import Foreman.Yaml.Word

/-!
# Writing scalars

A text is written in the plainest style in which it reads back: plain, in single quotes, in double quotes
with escapes, or, when it has several lines, as a literal block. **Traits** of the text decide: what it
begins and ends with, the indicators in it, and the characters that only an escape can write.

Lines are never folded. Inside a scalar, `indent` is the column at which its further lines begin.
-/

namespace Foreman.Yaml

/-- Whether a character may be written as it is. -/
def isPrintable (c : Char) : Bool :=
  let n := c.toNat
  n == 0x0A || (0x20 ≤ n && n ≤ 0x7E) || (0xA0 ≤ n && n != 0xFEFF && n != 0xFFFE && n != 0xFFFF)

/-! ### Traits -/

/-- Characters with a meaning of their own at the beginning of a scalar. -/
def isLeadingIndicator (c : Char) : Bool :=
  "#,[]&*!|>'\"%@".toList.contains c || c == '\x7b' || c == '\x7d' || c == '\x60'

/-- Whether a list of characters is empty or begins with spacing or a break. -/
def endsHere (cs : List Char) : Bool :=
  endsWord cs.head?

/-- Whether a text begins with an indicator of blocks. -/
def beginsWithIndicator : List Char → Bool
  | [] => false
  | c :: rest =>
    ['-', '-', '-'].isPrefixOf (c :: rest) || ['.', '.', '.'].isPrefixOf (c :: rest)
      || isLeadingIndicator c || ((c == '?' || c == ':' || c == '-') && endsHere rest)

/-- Whether an indicator stands behind the first character: a colon at the end of a word, or a number
sign at the beginning of one. -/
def hasInnerIndicator : (previous : Char) → List Char → Bool
  | _, [] => false
  | previous, c :: rest =>
    (c == ':' && endsHere rest) || (c == '#' && endsWord (some previous))
      || hasInnerIndicator c rest

/-- Whether one kind of character is followed by another kind. -/
def hasPair (first second : Char → Bool) : List Char → Bool
  | a :: b :: rest => (first a && second b) || hasPair first second (b :: rest)
  | _ => false

/-- Whether a character is the space. -/
def isSpace (c : Char) : Bool :=
  c == ' '

/-- Whether only an escape can write the text: a character that is not printable, or a space in front
of a break. -/
def needsEscapes (cs : List Char) : Bool :=
  cs.any (fun c ↦ !isPrintable c) || hasPair isSpace isBreak cs

/-- Whether a text may be written plain. -/
def allowsPlain (cs : List Char) : Bool :=
  !(needsEscapes cs || cs.any isBreak || cs.head?.any isSpace || cs.getLast?.any isSpace
    || beginsWithIndicator cs
    || match cs with
      | [] => false
      | c :: rest => hasInnerIndicator c rest)

/-- Whether a text may be written in single quotes. -/
def allowsSingleQuotes (cs : List Char) : Bool :=
  !(needsEscapes cs || hasPair isBreak isSpace cs)

/-- Whether a text may be written as a literal block. -/
def allowsLiteral (cs : List Char) : Bool :=
  !(cs.isEmpty || needsEscapes cs || cs.getLast?.any isSpace)

/-- **The style of a text.** Several lines ask for a literal block, what would be read as something else
for single quotes; where that is not allowed, quotes are. -/
def Style.ofText (s : String) : Style :=
  let cs := s.toList
  if cs.contains '\n' then (if allowsLiteral cs then .literal else .doubleQuoted)
  else if isTextWord s && allowsPlain cs then .plain
  else if allowsSingleQuotes cs then .singleQuoted
  else .doubleQuoted

/-! ### Quotes -/

/-- The escape of a character, behind the backslash. -/
def escape (c : Char) : List Char :=
  let coded (mark : Char) (width : Nat) : List Char :=
    mark :: (Text.hexDigits width c.toNat).map Char.toUpper
  match c.toNat with
  | 0x00 => ['0']
  | 0x07 => ['a']
  | 0x08 => ['b']
  | 0x09 => ['t']
  | 0x0A => ['n']
  | 0x0B => ['v']
  | 0x0C => ['f']
  | 0x0D => ['r']
  | 0x1B => ['e']
  | 0x22 => ['"']
  | 0x5C => ['\\']
  | 0x85 => ['N']
  | 0x2028 => ['L']
  | 0x2029 => ['P']
  | n => if n ≤ 0xFF then coded 'x' 2 else if n ≤ 0xFFFF then coded 'u' 4 else coded 'U' 8

/-- A character between double quotes. -/
def doubleQuotedChar (c : Char) : List Char :=
  if !isPrintable c || isBreak c || c == '"' || c == '\\' then '\\' :: escape c else [c]

/-- A text in double quotes. -/
def doubleQuoted (cs : List Char) : List Char :=
  '"' :: cs.flatMap doubleQuotedChar ++ ['"']

/-- Spaces up to a column. -/
def spaces (indent : Nat) : List Char :=
  List.replicate indent ' '

/-- The inside of single quotes: a quote is written twice, and the first of several line feeds too; the
line behind a break is indented. -/
def singleQuotedInside (indent : Nat) : (afterBreak : Bool) → List Char → List Char
  | afterBreak, [] => if afterBreak then spaces indent else []
  | afterBreak, c :: cs =>
    if isBreak c then
      (if c == '\n' && !afterBreak then ['\n', '\n'] else [c]) ++ singleQuotedInside indent true cs
    else
      (if afterBreak then spaces indent else []) ++ (if c == '\'' then ['\'', '\''] else [c])
        ++ singleQuotedInside indent false cs

/-- A text in single quotes. -/
def singleQuoted (indent : Nat) (cs : List Char) : List Char :=
  '\'' :: singleQuotedInside indent false cs ++ ['\'']

/-! ### Blocks -/

/-- The header of a literal block: the indentation where the first line does not show it, and what
becomes of the breaks at the end. One break is kept without saying. -/
def literalHeader (cs : List Char) : List Char :=
  let hint := if cs.head?.any fun c ↦ isSpace c || isBreak c then ['2'] else []
  let chomping := match cs.reverse with
    | last :: rest =>
      if !isBreak last then ['-']
      else match rest with
        | [] => ['+']
        | c :: _ => if isBreak c then ['+'] else []
    | [] => ['-']
  '|' :: hint ++ chomping ++ ['\n']

/-- The lines of a literal block; empty ones are not indented. -/
def literalLines (indent : Nat) : (afterBreak : Bool) → List Char → List Char
  | _, [] => []
  | afterBreak, c :: cs =>
    if isBreak c then c :: literalLines indent true cs
    else (if afterBreak then spaces indent else []) ++ c :: literalLines indent false cs

/-- A text as a literal block. -/
def literal (indent : Nat) (cs : List Char) : List Char :=
  literalHeader cs ++ literalLines indent true cs

/-- **A text as a scalar.** -/
def ofText (indent : Nat) (s : String) : String :=
  let cs := s.toList
  .ofList (match Style.ofText s with
    | .plain => cs
    | .singleQuoted => singleQuoted indent cs
    | .literal => literal indent cs
    | _ => doubleQuoted cs)

end Foreman.Yaml
