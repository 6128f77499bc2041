import Foreman.Decimal.Power

/-!
# Decimal numerals with a point

A numeral is a sign, digits with or without a point among them, and with or without an exponent. Its
value is `digits · 10 ^ exponent`. Formats for configuration need to know of it only that it is well
formed and whether a double can hold it: rounded to the nearest, the values from half a unit above the
largest double on have nowhere to go.
-/

namespace Foreman.Decimal

/-- A numeral that has been read. -/
structure Numeral where
  negative : Bool
  digits : Nat
  exponent : Int
deriving DecidableEq, Repr

/-- The number of a list of digits. -/
def ofDigits (cs : List Char) : Nat :=
  cs.foldl (fun n c ↦ n * 10 + (c.toNat - '0'.toNat)) 0

/-- The exponent of a numeral, its mark in front if there is one. -/
def exponent? : List Char → Option Int
  | [] => some 0
  | mark :: cs =>
    let (negative, digits) : Bool × List Char := match cs with
      | '-' :: r => (true, r)
      | '+' :: r => (false, r)
      | _ => (false, cs)
    if (mark == 'e' || mark == 'E') && !digits.isEmpty && digits.all Char.isDigit then
      some (if negative then -(ofDigits digits : Int) else ofDigits digits)
    else none

/-- **Reads a numeral**: at least one digit in front of the point or behind it. -/
def Numeral.ofChars? (cs : List Char) : Option Numeral := do
  let (negative, cs) : Bool × List Char := match cs with
    | '-' :: r => (true, r)
    | '+' :: r => (false, r)
    | _ => (false, cs)
  let whole := cs.takeWhile Char.isDigit
  let (places, rest) : List Char × List Char := match cs.dropWhile Char.isDigit with
    | '.' :: r => (r.takeWhile Char.isDigit, r.dropWhile Char.isDigit)
    | r => ([], r)
  let exponent ← exponent? rest
  if whole.isEmpty && places.isEmpty then none
  else some ⟨negative, ofDigits (whole ++ places), exponent - places.length⟩

/-- Half a unit above the largest double: the least value that is rounded to infinity. -/
def doubleLimit : Nat :=
  (twos 54 - 1) * twos 970

/-- The number of decimal digits, zero for zero. -/
def width (n : Nat) : Nat :=
  if n = 0 then 0 else (Nat.toDigits 10 n).length

/-- **Whether a double can hold the value.** Far from the limit, the number of digits in front of the
point decides. -/
def Numeral.isFinite (n : Numeral) : Bool :=
  let size := width n.digits + n.exponent
  if n.digits = 0 || size < 300 then true
  else if 320 < size then false
  else if 0 ≤ n.exponent then n.digits * tens n.exponent.toNat < doubleLimit
  else n.digits < doubleLimit * tens (-n.exponent).toNat

/-- The bits of the double nearest to the value. -/
def Numeral.toBits (n : Numeral) : UInt64 :=
  let magnitude : Float :=
    if !n.isFinite then 1.0 / 0.0
    else if width n.digits + n.exponent < -400 then 0.0
    else .ofScientific n.digits (n.exponent < 0) n.exponent.natAbs
  (if n.negative then -magnitude else magnitude).toBits

end Foreman.Decimal
