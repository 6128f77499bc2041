/-!
# Blank characters

The characters that count as white space wherever this library trims text: the code points with the
Unicode property `White_Space`. Statuses, environment values, timestamps and replies of collaborators
are all trimmed by this one table.

`Char.isWhitespace` knows four of these characters, so the table is written out; that it extends the
smaller class is `isBlank_of_isWhitespace`.
-/

namespace Foreman.Text

/-- The code points with the property `White_Space`, in order. -/
def blankPoints : List Nat :=
  [0x09, 0x0A, 0x0B, 0x0C, 0x0D, 0x20, 0x85, 0xA0, 0x1680,
   0x2000, 0x2001, 0x2002, 0x2003, 0x2004, 0x2005, 0x2006, 0x2007, 0x2008, 0x2009, 0x200A,
   0x2028, 0x2029, 0x202F, 0x205F, 0x3000]

/-- Whether a character has the property `White_Space`. -/
def isBlank (c : Char) : Bool :=
  blankPoints.contains c.toNat

theorem isBlank_of_isWhitespace {c : Char} (h : c.isWhitespace = true) : isBlank c = true := by
  simp only [Char.isWhitespace, Bool.or_eq_true, decide_eq_true_eq] at h
  rcases h with ((h | h) | h) | h <;> subst h <;> decide

/-! ### Trimming -/

/-- Drops the blanks in front. -/
def trimLeft (cs : List Char) : List Char :=
  cs.dropWhile isBlank

/-- Drops the blanks in front and behind. -/
def trimChars (cs : List Char) : List Char :=
  (trimLeft (trimLeft cs).reverse).reverse

/-- Drops the blanks at both ends of a string. -/
def trim (s : String) : String :=
  .ofList (trimChars s.toList)

/-- Letters `A` to `Z` become small; every other character stays. -/
def lowerAscii (s : String) : String :=
  s.map Char.toLower

end Foreman.Text
