import Foreman.Decimal.Numeral
import Foreman.Decimal.Power
import Foreman.Text.Hex

/-!
# Words of YAML

What a plain scalar says when nothing is known of what is expected: nothing, a truth value, a number, or
else a text. A reader asks for one of these; a writer must quote a text that would be taken for one.
-/

namespace Foreman.Yaml

/-- The words for nothing. -/
def isNullWord (s : String) : Bool :=
  ["null", "Null", "NULL", "~"].contains s

/-- The words for truth values. -/
def boolWord? (s : String) : Option Bool :=
  if ["true", "True", "TRUE"].contains s then some true
  else if ["false", "False", "FALSE"].contains s then some false
  else none

/-- The number of a list of digits in a base up to sixteen, at least one digit. -/
def numberIn? (base : Nat) (cs : List Char) : Option Nat :=
  if cs.isEmpty then none
  else (cs.mapM fun c ↦ (Text.hexValue? c).filter (· < base)).map fun ds ↦
    ds.foldl (fun n d ↦ n * base + d) 0

/-- Whether a text looks like a number but is none: a zero in front of further digits, a sign or not. -/
def isPadded (cs : List Char) : Bool :=
  let ds := match cs with
    | '-' :: r => r
    | '+' :: r => r
    | _ => cs
  1 < ds.length && ds.head? == some '0' && ds.all Char.isDigit

/-- An integer as YAML writes it: a sign, and digits in base ten, or in base sixteen, eight or two behind
a mark. -/
def integerWord? (s : String) : Option Int :=
  let cs := s.toList
  let (negative, digits) : Bool × List Char := match cs with
    | '-' :: r => (true, r)
    | '+' :: r => (false, r)
    | _ => (false, cs)
  let magnitude := match digits with
    | '0' :: 'x' :: r => numberIn? 16 r
    | '0' :: 'o' :: r => numberIn? 8 r
    | '0' :: 'b' :: r => numberIn? 2 r
    | _ => if isPadded digits then none else numberIn? 10 digits
  magnitude.map fun n ↦ if negative then -(n : Int) else n

/-- Whether a text is a number with a point or an exponent, within the range of doubles, or one of the
words for what is beyond it. -/
def isFloatWord (s : String) : Bool :=
  let cs := s.toList
  [".inf", ".Inf", ".INF", "+.inf", "+.Inf", "+.INF", "-.inf", "-.Inf", "-.INF", ".nan", ".NaN",
    ".NAN"].contains s
    || (!isPadded cs && (Decimal.Numeral.ofChars? cs).any Decimal.Numeral.isFinite)

/-- Whether an integer has its place in 128 bits, with a sign or without. -/
def isWide (n : Int) : Bool :=
  -(Decimal.twos 127 : Int) ≤ n && n < Decimal.twos 128

/-- **Whether a plain scalar is a text** and nothing else, and looks like nothing else. -/
def isTextWord (s : String) : Bool :=
  !(s = "" || isNullWord s || (boolWord? s).isSome || (integerWord? s).any isWide || isFloatWord s
    || isPadded s.toList)

end Foreman.Yaml
