import Foreman.Json.Reader
import Foreman.Json.Writer
import Foreman.Sql.Server

/-!
# Scripts in JSON

A script is a list of replies, each an object: the rows that come back and the number of rows affected,
which is the number of rows unless something else is said; or an error. A statement is shown as its kind
and its values.

Documents go over the wire as text, so what arrives is the text read back (`overWire`).
-/

namespace Foreman.Sql

open Time

/-- A document as it arrives. -/
def overWire (v : Json) : Json :=
  (Json.ofString? v.compact).getD v

/-- The columns that hold instants. -/
def timeColumns : List String :=
  ["next_run_at", "lease_until", "created_at", "updated_at"]

/-- The columns that hold identifiers. -/
def uuidColumns : List String := ["event_id"]

namespace Datum

/-- Reads the value of a column. A document is wrapped, so that it may be null. -/
def ofJson? (column : String) : Json → Option Datum
  | .null => some .null
  | .bool b => some (.bool b)
  | .int n => some (.int n)
  | .str s =>
    if timeColumns.contains column then (Instant.ofString? s).map ofInstant
    else if uuidColumns.contains column then (Uuid.ofString? s).map .uuid
    else some (.text s)
  | .obj [("jsonb", v)] => some (.json (overWire v))
  | _ => none

/-- A value as it arrives at the server. -/
def toJson : Datum → Json
  | null => .null
  | bool b => .bool b
  | int n => .int n
  | text s => .str s
  | uuid id => .str id.render
  | time t => t.toJson
  | json v => overWire v

end Datum

/-- Reads a row. -/
def rowOfJson? (v : Json) : Option Row :=
  v.members?.bind fun ms ↦ ms.mapM fun (column, v) ↦
    (Datum.ofJson? column v).map fun d ↦ (column, d)

/-- Reads a reply; the inner `none` is a failing statement. -/
def replyOfJson? (v : Json) : Option (Option Outcome) := do
  let f ← v.fields? ["rows", "affected", "error"]
  match ← f.optional "error" Json.text? with
  | some _ => some none
  | none =>
    let rows := (← f.optional "rows" (Json.listOf? rowOfJson?)).getD []
    let affected := (← f.optional "affected" Json.unsigned?).getD rows.length
    some (some ⟨rows, affected⟩)

/-- A statement: its kind and its values. -/
def Statement.toJson (s : Statement) : Json :=
  .arr [.str s.kind, .arr (s.parameters.map Datum.toJson)]

/-- The statements that reached a server, in order. -/
def Server.askedJson (s : Server) : Json :=
  .arr (s.asked.reverse.map Statement.toJson)

end Foreman.Sql
