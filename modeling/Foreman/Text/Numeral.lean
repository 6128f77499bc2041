import Foreman.Machine

/-!
# Decimal numerals

Integers as people write them into settings and queries: digits, with a plus sign that may stand in front
and, where negative numbers are allowed, a minus sign. No blanks, no separators, and at least one digit.
-/

namespace Foreman.Text

/-- The number that a list of digits denotes, `none` if there is none or another character. -/
def digits? (cs : List Char) : Option Nat :=
  if cs.isEmpty || !cs.all Char.isDigit then none
  else some (cs.foldl (fun n c ↦ n * 10 + (c.toNat - '0'.toNat)) 0)

/-- A number below a limit. -/
def natural? (limit : Nat) (s : String) : Option Nat :=
  (match s.toList with
    | '+' :: cs => digits? cs
    | cs => digits? cs).filter (· < limit)

/-- An integer of 64 bits with sign. -/
def integer? (s : String) : Option Int :=
  (match s.toList with
    | '+' :: cs => (digits? cs).map Int.ofNat
    | '-' :: cs => (digits? cs).map fun n ↦ -Int.ofNat n
    | cs => (digits? cs).map Int.ofNat).filter Machine.isSigned

end Foreman.Text
