import Foreman.Site
import Foreman.Sql.Query

/-!
# Scripted servers

A server whose answers are written down beforehand: the first statement gets the first reply, the second
one the second, and when the script is over there are no rows. Whatever a database may do, some script
does it, so what holds of every script holds of every database.
-/

namespace Foreman.Sql

open Store

/-- A server and its script; a reply that is `none` is a failing statement. -/
structure Server where
  replies : List (Option Outcome) := []
  /-- The statements that reached the server, the latest first. -/
  asked : List Statement := []
  /-- Nothing reaches a server that is closed, and every statement fails. -/
  closed : Bool := false

namespace Server

/-- Answers a statement. -/
def execute (s : Server) (statement : Statement) : Option Outcome × Server :=
  if s.closed then (none, s)
  else
    match s.replies with
    | [] => (some {}, { s with asked := statement :: s.asked })
    | r :: rest => (r, { s with replies := rest, asked := statement :: s.asked })

end Server

/-- A site whose store is a database. -/
structure Premises where
  surroundings : Site
  server : Server

namespace Premises

/-- Answers a question that carrying out a request raises. -/
def answerQuery : (q : Question) → Premises → q.Reply × Premises
  | .execute statement, p =>
    let (outcome, server) := p.server.execute statement
    (outcome, { p with server := server })
  | .clock, p => (p.surroundings.clock, p)
  | .freshId, p =>
    (p.surroundings.ids.next,
      { p with surroundings := { p.surroundings with ids := p.surroundings.ids.advance } })

/-- Runs a plan over statements. -/
def query {α : Type} (p : Premises) (q : Query α) : Except (Halt StoreError) α × Premises :=
  q.run answerQuery p

/-- Answers a question of work: requests go to the database, all else to the surroundings. -/
def answer : (q : Ask) → Premises → q.Reply × Premises
  | .store request, p => p.query (Query.ofRequest request)
  | q, p =>
    let (reply, surroundings) := p.surroundings.answer q
    (reply, { p with surroundings := surroundings })

/-- Runs work. -/
def run {ε α : Type} (p : Premises) (w : Work ε α) : Except (Halt ε) α × Premises :=
  w.run answer p

end Premises

end Foreman.Sql
