import Foreman.Decimal.Shortest
import Foreman.Json.Basic
import Foreman.Text.Hex

/-!
# Writing JSON text

Two forms of one value: `compact` without any space, which is what goes over the wire, and `pretty`
with a line for each item and two columns for each level, which is what is printed for people. They
share the scalars: in a string only quotes, backslashes and control characters are escaped, and a
double is the shortest decimal that reads back.
-/

namespace Foreman.Json

/-! ### Scalars -/

/-- The characters that stand for one character of a string. -/
def escapeChar (c : Char) : List Char :=
  if c = '"' then ['\\', '"']
  else if c = '\\' then ['\\', '\\']
  else if c = '\x08' then ['\\', 'b']
  else if c = '\x0c' then ['\\', 'f']
  else if c = '\n' then ['\\', 'n']
  else if c = '\r' then ['\\', 'r']
  else if c = '\t' then ['\\', 't']
  else if c.toNat < 0x20 then '\\' :: 'u' :: Text.hexDigits 4 c.toNat
  else [c]

/-- A string with its quotes. -/
def quote (s : String) : String :=
  .ofList ('"' :: s.toList.flatMap escapeChar ++ ['"'])

/-- The text of a double; what is no finite number has none and is written as null. -/
def renderFloat (bits : UInt64) : String :=
  (Decimal.render? bits).getD "null"

/-! ### Compact form -/

mutual

/-- A value without spaces. -/
def compact : Json → String
  | .null => "null"
  | .bool b => if b then "true" else "false"
  | .int n => toString n
  | .float bits => renderFloat bits
  | .str s => quote s
  | .arr [] => "[]"
  | .arr (x :: xs) => "[" ++ compact x ++ compactItems xs ++ "]"
  | .obj [] => "\x7b\x7d"
  | .obj ((k, v) :: ms) => "\x7b" ++ quote k ++ ":" ++ compact v ++ compactMembers ms ++ "\x7d"

/-- Further items, each behind a comma. -/
def compactItems : List Json → String
  | [] => ""
  | x :: xs => "," ++ compact x ++ compactItems xs

/-- Further members, each behind a comma. -/
def compactMembers : List (String × Json) → String
  | [] => ""
  | (k, v) :: ms => "," ++ quote k ++ ":" ++ compact v ++ compactMembers ms

end

/-! ### Pretty form -/

/-- A line break and the columns of a level. -/
def newLine (level : Nat) : String :=
  .ofList ('\n' :: List.replicate (2 * level) ' ')

mutual

/-- A value that begins on a line of the given level. -/
def prettyAt (level : Nat) : Json → String
  | .null => "null"
  | .bool b => if b then "true" else "false"
  | .int n => toString n
  | .float bits => renderFloat bits
  | .str s => quote s
  | .arr [] => "[]"
  | .arr (x :: xs) =>
    "[" ++ newLine (level + 1) ++ prettyAt (level + 1) x ++ prettyItems (level + 1) xs
      ++ newLine level ++ "]"
  | .obj [] => "\x7b\x7d"
  | .obj ((k, v) :: ms) =>
    "\x7b" ++ newLine (level + 1) ++ quote k ++ ": " ++ prettyAt (level + 1) v
      ++ prettyMembers (level + 1) ms ++ newLine level ++ "\x7d"

/-- Further items, each on a line of its own. -/
def prettyItems (level : Nat) : List Json → String
  | [] => ""
  | x :: xs => "," ++ newLine level ++ prettyAt level x ++ prettyItems level xs

/-- Further members, each on a line of its own. -/
def prettyMembers (level : Nat) : List (String × Json) → String
  | [] => ""
  | (k, v) :: ms =>
    "," ++ newLine level ++ quote k ++ ": " ++ prettyAt level v ++ prettyMembers level ms

end

/-- A value over several lines, members in the order given. -/
def pretty (v : Json) : String :=
  prettyAt 0 v

end Foreman.Json
