import Foreman.Machine
import Foreman.Text.Hex

/-!
# Identifiers

Signals and events are named by 128-bit identifiers, written as thirty-two hexadecimal digits in groups
of eight, four, four, four and twelve. Reading also takes capital letters, the digits without hyphens,
and the written form in braces or behind `urn:uuid:`.

Fresh identifiers come from a **supply**: a number that counts the identifiers drawn so far. The n-th
identifier is a function of n alone, so a run can be replayed; its first eight digits are already
distinct, because they are n scrambled by an odd factor.
-/

namespace Foreman

/-- An identifier. -/
structure Uuid where
  value : Nat
deriving DecidableEq, Repr, Inhabited

namespace Uuid

/-! ### Text -/

/-- The thirty-two digits without hyphens. -/
def digits (id : Uuid) : List Char :=
  Text.hexDigits 32 id.value

/-- The written form. -/
def render (id : Uuid) : String :=
  let ds := id.digits
  .ofList (ds.take 8 ++ '-' :: (ds.drop 8).take 4 ++ '-' :: (ds.drop 12).take 4
    ++ '-' :: (ds.drop 16).take 4 ++ '-' :: ds.drop 20)

/-- The written form has thirty-six characters, so it is not empty. -/
theorem render_ne_empty (id : Uuid) : id.render ≠ "" := by
  intro h
  have hlength : id.render.toList.length = 36 := by
    simp [render, digits]
  rw [h] at hlength
  cases hlength

/-- Exactly thirty-two digits. -/
def ofDigits? (cs : List Char) : Option Uuid :=
  if cs.length = 32 then (Text.hexNumber? cs).map Uuid.mk else none

/-- The written form, with its four hyphens in place. -/
def ofGrouped? (cs : List Char) : Option Uuid :=
  if cs.length = 36 ∧ [8, 13, 18, 23].all fun i ↦ cs[i]? == some '-' then
    ofDigits? (cs.take 8 ++ (cs.drop 9).take 4 ++ (cs.drop 14).take 4 ++ (cs.drop 19).take 4
      ++ cs.drop 24)
  else none

/-- Reads an identifier in any of its forms. -/
def ofString? (s : String) : Option Uuid :=
  let cs := s.toList
  if cs.length = 32 then ofDigits? cs
  else if cs.length = 38 ∧ cs.head? = some '\x7b' ∧ cs.getLast? = some '\x7d' then
    ofGrouped? ((cs.drop 1).take 36)
  else if cs.length = 45 ∧ "urn:uuid:".toList.isPrefixOf cs then ofGrouped? (cs.drop 9)
  else ofGrouped? cs

/-! ### Fresh identifiers -/

/-- The n-th identifier of the supply, with the version and variant marks of a random one. -/
def nth (n : Nat) : Uuid :=
  let top := (n + 1) * 0x9E3779B1 % Machine.limit32
  ⟨((((top * 0x10000 + 0x5E7D) * 0x10 + 4) * 0x1000 + 0xC0A) * 4 + 2) * 0x4000000000000000
    + n % 0x4000000000000000⟩

/-- The name of a worker that was given none: `runner-` and eight digits of a fresh identifier. -/
def workerName (id : Uuid) : String :=
  "runner-" ++ .ofList (id.digits.take 8)

end Uuid

/-- Counts the identifiers drawn so far. -/
structure IdSupply where
  drawn : Nat := 0
deriving DecidableEq, Repr, Inhabited

namespace IdSupply

/-- The identifier that is drawn next. -/
def next (s : IdSupply) : Uuid :=
  .nth s.drawn

/-- The supply behind the next identifier. -/
def advance (s : IdSupply) : IdSupply :=
  ⟨s.drawn + 1⟩

end IdSupply

end Foreman
