import Foreman.Decimal.Power

/-!
# The fewest decimal digits that read back

A finite double is `m · 2 ^ q` for a natural `m`. The reals that round to it form an interval around
it, closed exactly when `m` is even. Of the decimals in that interval the printed one has the fewest
digits, and among those it is the nearest to the value.

The search goes over decimal grids, coarsest first: the grid with `n` digits has step
`10 ^ (e - n + 1)`, where `e` is the exponent of the leading digit, and if any of its points lies in
the interval then one of the two neighbours of the value does. All arithmetic is exact, on naturals.
-/

namespace Foreman.Decimal

/-- A positive double, `mantissa · 2 ^ exponent`, with the shape of its neighbourhood: `tight` says
that the next smaller double is only half as far away as the next larger one. -/
structure Binary where
  mantissa : Nat
  exponent : Int
  tight : Bool
deriving DecidableEq, Repr

/-- What the 64 bits of a double say. -/
inductive Reading where
  | zero (negative : Bool)
  | finite (negative : Bool) (magnitude : Binary)
  | notFinite
deriving DecidableEq, Repr

/-- Splits the bits of a double into sign, exponent and fraction. -/
def Reading.ofBits (bits : UInt64) : Reading :=
  let n := bits.toNat
  let negative := n / twos 63 == 1
  let field : Nat := n / twos 52 % twos 11
  let fraction : Nat := n % twos 52
  if field = 2047 then .notFinite
  else if field = 0 then
    -- Below the least normal double the leading bit is not implied.
    if fraction = 0 then .zero negative else .finite negative ⟨fraction, -1074, false⟩
  else .finite negative ⟨fraction + twos 52, (field : Int) - 1075, fraction == 0 && field != 1⟩

/-- A decimal `digits · 10 ^ exponent`. -/
structure Scaled where
  digits : Nat
  exponent : Int
deriving DecidableEq, Repr

/-- `a · 2 ^ p` against `b · 10 ^ k`, exactly. -/
private def compareScaled (a : Nat) (p : Int) (b : Nat) (k : Int) : Ordering :=
  compare (a * twos p.toNat * tens (-k).toNat) (b * tens k.toNat * twos (-p).toNat)

/-- Whether a decimal lies in the interval of reals that round to the double. -/
def Binary.holds (v : Binary) (d : Scaled) : Bool :=
  -- In quarters of a unit the ends of the interval are whole numbers.
  let below := compareScaled (4 * v.mantissa - if v.tight then 1 else 2) (v.exponent - 2)
    d.digits d.exponent
  let above := compareScaled (4 * v.mantissa + 2) (v.exponent - 2) d.digits d.exponent
  if v.mantissa % 2 = 0 then below != .gt && above != .lt
  else below == .lt && above == .gt

/-- The exponent of the leading decimal digit: the largest `e` with `10 ^ e ≤ v`. -/
def Binary.leading (v : Binary) : Int :=
  -- The logarithm of two is a little less than 30103 / 100000, so the guess misses by one at most.
  let guess := ((Nat.log2 v.mantissa : Int) + v.exponent) * 30103 / 100000
  if compareScaled v.mantissa v.exponent 1 (guess + 1) != .lt then guess + 1
  else if compareScaled v.mantissa v.exponent 1 guess != .lt then guess
  else guess - 1

/-- The neighbour of the value on the grid of step `10 ^ k` that reads back, the nearer one first
and of two equally near the even one. -/
def Binary.onGrid (v : Binary) (k : Int) : Option Scaled :=
  let num := v.mantissa * twos v.exponent.toNat * tens (-k).toNat
  let den := twos (-v.exponent).toNat * tens k.toNat
  let low := num / den
  let rest := num % den
  let lowFirst := 2 * rest < den || (2 * rest = den && low % 2 = 0)
  let order := if lowFirst then [low, low + 1] else [low + 1, low]
  (order.map fun d ↦ (⟨d, k⟩ : Scaled)).find? fun d ↦ d.digits != 0 && v.holds d

/-- Moves trailing zeros of the digits into the exponent. -/
def Scaled.strip : Nat → Scaled → Scaled
  | 0, d => d
  | fuel + 1, d =>
    if d.digits % 10 = 0 && d.digits != 0 then strip fuel ⟨d.digits / 10, d.exponent + 1⟩ else d

/-- The shortest decimal that reads back as the double. Seventeen digits always suffice. -/
def Binary.shortest (v : Binary) : Scaled :=
  let e := v.leading
  let grids := (List.range 17).map fun (n : Nat) ↦ e - n
  ((grids.findSome? v.onGrid).getD ⟨v.mantissa, v.exponent⟩).strip 20

/-! ### Layout -/

/-- Zeros, `n` of them. -/
private def zeros (n : Nat) : String :=
  .ofList (List.replicate n '0')

/-- **Layout of a positive decimal.** The point stands among the digits when it falls behind at most
sixteen of them or fewer than five places in front of them; otherwise the number is written with an
exponent. Whole numbers keep `.0` in positional form. -/
def Scaled.render (d : Scaled) : String :=
  let ds := (toString d.digits).toList
  let point : Int := ds.length + d.exponent
  if 0 ≤ d.exponent && point ≤ 16 then
    .ofList ds ++ zeros d.exponent.toNat ++ ".0"
  else if 0 < point && point ≤ 16 then
    .ofList (ds.take point.toNat) ++ "." ++ .ofList (ds.drop point.toNat)
  else if -5 < point && point ≤ 0 then
    "0." ++ zeros (-point).toNat ++ .ofList ds
  else
    let fraction := match ds.drop 1 with
      | [] => ""
      | rest => "." ++ .ofList rest
    .ofList (ds.take 1) ++ fraction ++ "e" ++ toString (point - 1)

/-- The text of a double, `none` for infinities and for what is not a number. -/
def render? (bits : UInt64) : Option String :=
  let signed (negative : Bool) (text : String) := if negative then "-" ++ text else text
  match Reading.ofBits bits with
  | .zero negative => some (signed negative "0.0")
  | .finite negative v => some (signed negative v.shortest.render)
  | .notFinite => none

end Foreman.Decimal
