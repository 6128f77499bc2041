import Foreman.Sql.Row

/-!
# Reading the values of a row

A value is read by its kind: a text as a text, an instant as an instant, and nothing else. So what was
read says what is in the row. A column that may be null is read as a value of its kind or as none, and
again the one says the other (`Row.optional_eq_some`).
-/

namespace Foreman.Sql

theorem Datum.text?_eq_some {d : Datum} {s : String} : d.text? = some s ↔ d = .text s := by
  cases d <;> simp [text?]

theorem Datum.time?_eq_some {d : Datum} {t : Time.Instant} : d.time? = some t ↔ d = .time t := by
  cases d <;> simp [time?]

/-- **A column that may be null** holds what was read, or null. -/
theorem Row.optional_eq_some {α : Type} {read : Datum → Option α} {kind : α → Datum}
    (hread : ∀ {d a}, read d = some a ↔ d = kind a) (hkind : ∀ a, kind a ≠ .null) {row : Row}
    {column : String} {o : Option α} :
    row.optional column read = some o ↔ row.value column = .orNull kind o := by
  unfold optional
  split
  · next hnull =>
    rw [hnull]
    cases o with
    | none => simp [Datum.orNull]
    | some a => simpa [Datum.orNull] using (hkind a).symm
  · next hvalue =>
    cases o with
    | none => simpa [Datum.orNull] using hvalue
    | some a => simp [Datum.orNull, hread]

theorem Row.optional_text?_eq_some {row : Row} {column : String} {o : Option String} :
    row.optional column Datum.text? = some o ↔ row.value column = .orNull .text o :=
  optional_eq_some Datum.text?_eq_some nofun

theorem Row.optional_time?_eq_some {row : Row} {column : String} {o : Option Time.Instant} :
    row.optional column Datum.time? = some o ↔ row.value column = .orNull .time o :=
  optional_eq_some Datum.time?_eq_some nofun

end Foreman.Sql
