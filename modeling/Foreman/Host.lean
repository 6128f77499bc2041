import Foreman.Command
import Foreman.Sql.Server

/-!
# Hosts

A host is what a command runs on: a site with its store in memory, perhaps a database server in its
stead, and the ports that are in use. Commands run on a host are functions, so what they print and which
statements they issue can be read off.

A service that is started on a host is interrupted as soon as it listens for that.
-/

namespace Foreman

/-- The surroundings of a command. -/
structure Host where
  premises : Sql.Premises
  /-- There is a database server, and the store is there. -/
  hasDatabase : Bool := false
  /-- The ports that are in use. -/
  portsInUse : List Nat := []

namespace Host

/-- Answers one question. -/
def answer : (q : Command.Ask) → Host → q.Reply × Host
  | .connect _, h => (h.hasDatabase, h)
  | .statement q, h =>
    let (reply, premises) := h.premises.answerQuery q
    (reply, { h with premises := premises })
  | .work q, h =>
    if h.hasDatabase then
      let (reply, premises) := h.premises.answer q
      (reply, { h with premises := premises })
    else
      let (reply, surroundings) := h.premises.surroundings.answer q
      (reply, { h with premises := { h.premises with surroundings := surroundings } })
  | .serve service, h => (!service.port.any h.portsInUse.contains, h)

/-- Runs the plan of a command. -/
def run {α : Type} (h : Host) (c : Command.Course α) : Except (Halt Failure) α × Host :=
  Plan.run answer c h

end Host

end Foreman
