/-!
# Positions in a YAML text

A cursor is the text ahead and where it begins: a count of characters, a line and a column. Line breaks
come in five kinds, and a carriage return with a line feed behind it is one break; in the value of a
scalar all of them are line feeds, but for the two Unicode separators, which stay what they are.
-/

namespace Foreman.Yaml

/-- A position, and the text from there on. -/
structure Cursor where
  rest : List Char
  index : Nat := 0
  line : Nat := 0
  column : Nat := 0

/-- Whether a character may occur in a text at all. -/
def isAllowed (c : Char) : Bool :=
  let n := c.toNat
  n == 0x09 || n == 0x0A || n == 0x0D || (0x20 ≤ n && n ≤ 0x7E) || n == 0x85
    || (0xA0 ≤ n && n ≤ 0xD7FF) || (0xE000 ≤ n && n ≤ 0xFFFD) || 0x10000 ≤ n

/-- Whether a character breaks a line. -/
def isBreak (c : Char) : Bool :=
  c == '\n' || c == '\r' || c == '\u0085' || c == '\u2028' || c == '\u2029'

/-- Space and tab. -/
def isSpacing (c : Char) : Bool :=
  c == ' ' || c == '\t'

/-- Whether a word ends here: at spacing, a break, or the end of the text. -/
def endsWord : Option Char → Bool
  | some c => isSpacing c || isBreak c
  | none => true

/-- Whether a line ends here: at a break or the end of the text. -/
def endsLine : Option Char → Bool
  | some c => isBreak c
  | none => true

/-- Letters, digits, hyphen and underscore. -/
def isWordChar (c : Char) : Bool :=
  c.isAlphanum || c == '-' || c == '_'

namespace Cursor

/-- The character `n` places ahead. -/
def at? (p : Cursor) (n : Nat) : Option Char :=
  p.rest[n]?

/-- The character here. -/
def here? (p : Cursor) : Option Char :=
  p.rest.head?

/-- Whether this character is here. -/
def sees (p : Cursor) (c : Char) : Bool :=
  p.here? == some c

/-- The position one character further on the line. -/
def skip (p : Cursor) : Cursor :=
  ⟨p.rest.drop 1, p.index + 1, p.line, p.column + 1⟩

/-- The position `n` characters further on the line. -/
def skipMany (p : Cursor) (n : Nat) : Cursor :=
  ⟨p.rest.drop n, p.index + n, p.line, p.column + n⟩

/-- The position behind a line break, or the same one where there is none. -/
def skipBreak (p : Cursor) : Cursor :=
  match p.rest with
  | '\r' :: '\n' :: r => ⟨r, p.index + 2, p.line + 1, 0⟩
  | c :: r => if isBreak c then ⟨r, p.index + 1, p.line + 1, 0⟩ else p
  | [] => p

/-- What a line break here adds to a value. -/
def breakText (p : Cursor) : List Char :=
  match p.here? with
  | some c => if c == '\u2028' || c == '\u2029' then [c] else if isBreak c then ['\n'] else []
  | none => []

/-- The position behind all characters ahead of a kind that is on one line. -/
def skipWhile (p : Cursor) (kind : Char → Bool) : Cursor :=
  p.skipMany (p.rest.takeWhile kind).length

/-- The position at the end of the line. -/
def skipLine (p : Cursor) : Cursor :=
  p.skipWhile fun c ↦ !isBreak c

/-- Whether three of a character stand here and end a word. -/
def seesTriple (p : Cursor) (c : Char) : Bool :=
  p.at? 0 == some c && p.at? 1 == some c && p.at? 2 == some c && endsWord (p.at? 3)

/-- Whether the line begins here with the mark of a document. -/
def seesDocumentMark (p : Cursor) : Bool :=
  p.column == 0 && (p.seesTriple '-' || p.seesTriple '.')

end Cursor

end Foreman.Yaml
