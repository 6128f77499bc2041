import Foreman.Store.Rehearsal
import Foreman.Work

/-!
# A site

A site is everything that work can ask about, as one value: a store, the queue of the bus, the time, a
supply of identifiers, and a collaborator. Work run at a site is a function, so a whole history of
runners and dispatchers is a sequence of sites.
-/

namespace Foreman

open Time Store

/-- The surroundings of work. -/
structure Site where
  store : Rehearsal := {}
  /-- The signals on the bus, the oldest first. -/
  queue : List Signal := []
  /-- Somebody holds the receiving end of the bus. -/
  receiving : Bool := true
  clock : Instant
  ids : IdSupply := {}
  /-- What the collaborator answers to every document; without it none can be sent. -/
  collaborator : Option Webhook.Answer := none
  /-- The documents that were posted, the latest first. -/
  posted : List Webhook.Post := []

namespace Site

/-- Answers one question. -/
def answer : (q : Ask) → Site → q.Reply × Site
  | .store request, s =>
    let (value, store) := s.store.perform s.clock s.ids.next request
    (value, { s with store := store, ids := s.ids.advance })
  | .clock, s => (s.clock, s)
  | .freshId, s => (s.ids.next, { s with ids := s.ids.advance })
  | .busOpen, s => (s.receiving, s)
  | .enqueue signal, s =>
    if s.receiving then (true, { s with queue := s.queue ++ [signal] }) else (false, s)
  | .receive, s => (s.queue.head?, { s with queue := s.queue.drop 1 })
  | .post document, s =>
    (s.collaborator, { s with posted := document :: s.posted })

/-- Runs work at a site. -/
def run {ε α : Type} (s : Site) (w : Work ε α) : Except (Halt ε) α × Site :=
  w.run answer s

/-- The site a span later, `none` beyond the calendar. -/
def later? (s : Site) (span : Span) : Option Site :=
  (s.clock.add? span).map fun t ↦ { s with clock := t }

/-- The receiver is given up, and with it the signals that it has not taken. -/
def hangUp (s : Site) : Site :=
  { s with receiving := false, queue := [] }

end Site

end Foreman
