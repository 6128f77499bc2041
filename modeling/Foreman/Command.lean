import Foreman.Config
import Foreman.ControlPlane.Loop
import Foreman.Metrics
import Foreman.Runner.Loop
import Foreman.Sql.Query
import Foreman.Webhook.Handler
import Foreman.Yaml.Definition

/-!
# Commands

What the program can be told to do with a configuration: serve until it is interrupted, print the metrics
of the queue, create the tables, or print the control plane that it would serve with. A command is a plan
whose result is the text to be printed; it prints nothing unless all goes well.

**The control plane** comes from the file of the configuration if it names one, else from the database if
there are states in it, else it is the built-in one.
-/

namespace Foreman

open Store ControlPlane

/-- What the program can be told to do. -/
inductive Command where
  | run
  /-- Looks back so many minutes. -/
  | metrics (lookback : Nat)
  | migrate
  | states
deriving DecidableEq, Repr

/-- What serves until it is interrupted. -/
structure Service where
  dispatcher : Dispatcher
  runner : Runner
  /-- The port of the admin API, unless it is switched off. -/
  port : Option Nat

namespace Command

/-! ### Questions -/

/-- A question that a command raises. -/
inductive Ask where
  /-- Whether there is a database at the address. -/
  | connect (url : String)
  | statement (q : Sql.Question)
  | work (q : Foreman.Ask)
  /-- Serves; the answer says whether the port was free. -/
  | serve (service : Service)

/-- The answers to a question. -/
abbrev Ask.Reply : Ask → Type
  | connect _ => Bool
  | statement q => q.Reply
  | work q => q.Reply
  | serve _ => Bool

/-- The plan of a command. -/
abbrev Course (α : Type) := Plan Ask.Reply Failure α

/-- Statements as part of a command. -/
def query {α : Type} (q : Sql.Query α) : Course α :=
  (q.translate fun q ↦ Plan.question (Ask.statement q)).mapError Failure.ofStore

/-- Work as part of a command. -/
def work {α : Type} (w : Work StoreError α) : Course α :=
  (w.translate fun q ↦ Plan.question (Ask.work q)).mapError Failure.ofStore

/-! ### Parts -/

/-- The failure to reach the database. -/
def notConnected : Failure :=
  .because "failed to connect to database"

/-- Opens the store and says whether it is a database. -/
def openStore (c : Config) : Course Bool :=
  match c.databaseUrl with
  | none => pure false
  | some url =>
    .ask (.connect url) fun
      | true => pure true
      | false => Plan.fail notConnected

/-- The failure that a fault of a state table is. -/
def ofTableError (e : TableError) : Failure :=
  .because e.message

/-- The control plane to serve with. -/
def definition (files : Files) (c : Config) (database : Bool) : Course Definition :=
  match c.stateTablePath with
  | some path =>
    .ofExcept ((Definition.ofFile? files path).mapError fun e ↦ .error (ofTableError e))
  | none =>
    if database then do
      let d ← query Sql.Query.definition
      pure (if d.states.isEmpty then Builtin.definition else d)
    else pure Builtin.definition

/-- A definition that has been checked. -/
def table (d : Definition) : Course Table :=
  .ofExcept ((Table.ofDefinition? d).mapError fun e ↦ .error (ofTableError e))

/-- **The actions**: slices are handed to the webhook of the configuration, or only acknowledged when it
names none. -/
def registry (c : Config) : Except Failure Registry :=
  match c.actions.webhookUrl with
  | some url => (Webhook.ofUrl? url).map fun w ↦ .ofList [(Builtin.runSlice, w.handler)]
  | none => .ok (.ofList [(Builtin.runSlice, Handler.acknowledge)])

/-- Makes everything ready to serve. -/
def prepare (files : Files) (c : Config) : Course Service := do
  let database ← openStore c
  if database then query Sql.Query.migrate
  let t ← table (← definition files c database)
  let actions ← Plan.ofExcept ((registry c).mapError Halt.error)
  let bus : Bus := ⟨true⟩
  let dispatcher ← Plan.ofExcept ((Dispatcher.start? t actions bus c.dispatcher []).mapError
    fun e ↦ .error (ofTableError e))
  pure
    { dispatcher := dispatcher
      runner := { config := c.runner, bus := bus }
      port := if c.api.enabled then some c.api.port else none }

/-! ### Commands -/

/-- The failure to get the port of the admin API. -/
def portTaken : Failure :=
  .because "Address already in use (os error 98)"

/-- Serves until it is interrupted. -/
def serve (files : Files) (c : Config) : Course String := do
  let service ← prepare files c
  .ask (.serve service) fun
    | true => pure ""
    | false => Plan.fail portTaken

/-- The metrics of the queue. -/
def printMetrics (c : Config) (lookback : Nat) : Course String := do
  let _ ← openStore c
  let m ← work (do Metrics.ofStore (← Work.clock) lookback)
  pure (m.toJson.pretty ++ "\n")

/-- Creates the tables; there must be a database. -/
def createTables (c : Config) : Course String := do
  if ← openStore c then
    query Sql.Query.migrate
    pure "Schema applied\n"
  else Plan.fail (.because "migrate requires DATABASE_URL")

/-- The control plane: a summary, and its definition in YAML. -/
def printStates (files : Files) (c : Config) : Course String := do
  let database ← openStore c
  let d ← definition files c database
  let t ← table d
  pure (s!"{t.states.length} states, {t.transitionCount} transitions, "
    ++ s!"initial state {t.initial.key}\n" ++ d.toYaml)

/-- **What a command does** with a configuration, and what it prints. -/
def output (files : Files) (c : Config) : Command → Course String
  | run => serve files c
  | metrics lookback => printMetrics c lookback
  | migrate => createTables c
  | states => printStates files c

end Command

end Foreman
