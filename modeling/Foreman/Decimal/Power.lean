/-!
# Powers of ten and of two

A decimal is digits and a power of ten, a double is digits and a power of two, and comparing them is a
matter of multiplying with the one and with the other.
-/

namespace Foreman.Decimal

/-- A power of ten. -/
def tens (k : Nat) : Nat :=
  Nat.pow 10 k

/-- A power of two. -/
def twos (k : Nat) : Nat :=
  Nat.pow 2 k

end Foreman.Decimal
