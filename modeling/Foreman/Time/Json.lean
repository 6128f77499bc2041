import Foreman.Json.Basic
import Foreman.Time.Rfc3339

/-!
# Timestamps in JSON

An instant is a string that holds its timestamp, and a missing instant is null.
-/

namespace Foreman.Time.Instant

/-- The timestamp as a JSON string. -/
def toJson (t : Instant) : Json :=
  .str t.render

/-- The timestamp, or null. -/
def optionJson : Option Instant → Json
  | some t => t.toJson
  | none => .null

/-- The instant whose timestamp a JSON string holds. -/
def ofJson? (v : Json) : Option Instant :=
  v.text?.bind Instant.ofString?

end Foreman.Time.Instant
