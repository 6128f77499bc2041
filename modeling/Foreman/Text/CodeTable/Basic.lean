/-!
# Code tables

The characters of a charset have **places**, numbered from zero. Most of them are written out in rows of
94, where a space stands for a place without a character and rows without any are left out; places in a
row that stand for code points in a row need only their beginning.
-/

namespace Foreman.Text

/-- A table of characters by place. -/
structure CodeTable where
  /-- Rows of 94 places with their numbers. -/
  rows : List (Nat × String)
  /-- Runs of places: the first place, how many there are, and the code point of the first. -/
  runs : List (Nat × Nat × Nat) := []

namespace CodeTable

/-- The character in a row. -/
def inRow? (t : CodeTable) (place : Nat) : Option Char :=
  ((t.rows.find? fun row ↦ row.1 == place / 94).bind fun row ↦ row.2.toList[place % 94]?).filter
    (· != ' ')

/-- **The character at a place.** -/
def char? (t : CodeTable) (place : Nat) : Option Char :=
  match t.runs.find? fun run ↦ run.1 ≤ place && place < run.1 + run.2.1 with
  | some (first, _, code) => some (.ofNat (code + (place - first)))
  | none => t.inRow? place

end CodeTable

end Foreman.Text
