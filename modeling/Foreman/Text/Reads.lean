/-!
# Readers of text

A reader is a function from the characters ahead to what stands in front and the characters behind it.
It answers `none` where nothing of its kind stands.
-/

namespace Foreman.Text

/-- A reader: the value in front and the characters behind it. -/
abbrev Reads (α : Type) := List Char → Option (α × List Char)

/-- The characters behind a word, if the text begins with it. -/
def behind? (word : List Char) (cs : List Char) : Option (List Char) :=
  if word.isPrefixOf cs then some (cs.drop word.length) else none

end Foreman.Text
