import Foreman.Text.Hex
import Foreman.Text.Utf8

/-!
# Percent encoding

In a URI a byte may be written as a percent sign and two hexadecimal digits; a percent sign that no two
digits follow stands for itself. A query is a list of names and values between ampersands, in which a
plus sign stands for a space.
-/

namespace Foreman.Text.Percent

/-- The bytes that a text stands for. -/
def decodeBytes : List UInt8 → List UInt8
  | [] => []
  | [b] => [b]
  | [b, c] => [b, c]
  | b :: h :: l :: rest =>
    match hexNumber? [Char.ofNat h.toNat, Char.ofNat l.toNat] with
    | some n => if b = '%'.toUInt8 then n.toUInt8 :: decodeBytes rest
                else b :: decodeBytes (h :: l :: rest)
    | none => b :: decodeBytes (h :: l :: rest)

/-- Decodes a part of a path, `none` when the bytes are no UTF-8. -/
def decodePath? (s : String) : Option String :=
  Utf8.strict? (decodeBytes (Utf8.encode s))

/-- Decodes a name or a value of a query. -/
def decodeQuery (cs : List Char) : String :=
  let spaced := String.ofList (cs.map fun c ↦ if c = '+' then ' ' else c)
  Utf8.lossy (decodeBytes (Utf8.encode spaced))

/-- The pieces of a list between separators. -/
def pieces (separator : Char) : List Char → List (List Char)
  | [] => [[]]
  | c :: cs =>
    if c = separator then [] :: pieces separator cs
    else
      match pieces separator cs with
      | p :: ps => (c :: p) :: ps
      | [] => [[c]]

/-- The names and values of a query, in order. -/
def query (cs : List Char) : List (String × String) :=
  ((pieces '&' cs).filter fun p ↦ !p.isEmpty).map fun p ↦
    (decodeQuery (p.takeWhile (· != '=')), decodeQuery ((p.dropWhile (· != '=')).drop 1))

end Foreman.Text.Percent
