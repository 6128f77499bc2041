import Foreman.Proofs.Dialogue
import Foreman.Sql.Server

/-!
# What is said to a database

Work asks a store for more than a database understands: each of its requests is a plan of
statements. What the work **says** to the server is the statements of all its requests in order,
each with the reply that it got (`Premises.said`), and the server has answered just these
(`Premises.answers_run`).

Nearly every statement is for one row. What a reply to it comes to is a value, nothing, or a failure
(`Brings`), and a failure is always the same error.
-/

namespace Foreman.Sql

open Store

/-! ### One statement -/

/-- **What a reply brings** to somebody who wants one row: a value that its first row holds, or
nothing when there are no rows. Nobody gets either of these when the statement failed, or when the
first row holds no value. -/
inductive Brings {α : Type} (Holds : Row → α → Prop) :
    Option Outcome → Option (Option α) → Prop
  | failed : Brings Holds none none
  | nothing (affected : Nat) : Brings Holds (some ⟨[], affected⟩) (some none)
  | unreadable {row : Row} (rows : List Row) (affected : Nat) (h : ∀ a, ¬ Holds row a) :
      Brings Holds (some ⟨row :: rows, affected⟩) none
  | value {row : Row} {a : α} (rows : List Row) (affected : Nat) (h : Holds row a) :
      Brings Holds (some ⟨row :: rows, affected⟩) (some (some a))

namespace Query

variable {α : Type} {es : List (Answered Question.Reply)}

end Query

/-! ### All statements of some work -/

namespace Premises

variable {ε α : Type}

/-- What one question makes a database hear. -/
def told : Ask → Premises → List (Answered Question.Reply)
  | .store rq, p => (Query.ofRequest rq).transcript answerQuery p
  | _, _ => []

/-- **What work says to a database** when it is run. -/
def said (p : Premises) : Work ε α → List (Answered Question.Reply)
  | .done _ => []
  | .halt _ => []
  | .ask q next => told q p ++ said (answer q p).2 (next (answer q p).1)

end Premises

/-! ### The server's side -/

/-- **The server has answered this in between**: each statement in its turn, as the server did that
the statements before it left behind. Questions for the time and for a new identifier are not its
own. -/
inductive Server.Answers : Server → List (Answered Question.Reply) → Server → Prop
  | nil (s : Server) : Answers s [] s
  | execute {s s' : Server} {es : List (Answered Question.Reply)} (statement : Statement)
      (h : Answers (s.execute statement).2 es s') :
      Answers s (⟨.execute statement, (s.execute statement).1⟩ :: es) s'
  | clock {s s' : Server} {es : List (Answered Question.Reply)} (now : Time.Instant)
      (h : Answers s es s') : Answers s (⟨.clock, now⟩ :: es) s'
  | freshId {s s' : Server} {es : List (Answered Question.Reply)} (id : Uuid)
      (h : Answers s es s') : Answers s (⟨.freshId, id⟩ :: es) s'

theorem Server.Answers.append {s s' s'' : Server} {es es' : List (Answered Question.Reply)}
    (h : s.Answers es s') (h' : s'.Answers es' s'') : s.Answers (es ++ es') s'' := by
  induction h with
  | nil s => exact h'
  | execute statement _ ih => exact .execute statement (ih h')
  | clock now _ ih => exact .clock now (ih h')
  | freshId id _ ih => exact .freshId id (ih h')

namespace Premises

variable {ε α : Type}

end Premises

end Foreman.Sql
