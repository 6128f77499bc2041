import Foreman.Metrics
import Foreman.Text.Numeral
import Foreman.Text.Percent

/-!
# The admin interface

A read-only view of the store over HTTP. Five resources exist: the health of the service, the metrics of
the queue, the list of runnable tasks, a task, and the checkpoint of a task. A request is routed by its
path as it was sent; only then is the identifier in it decoded.

Answers are documents. An answer without one has only its status.
-/

namespace Foreman.Api

open Time Store

/-- The version that the service reports. -/
def version : String := "1.0.0"

/-- What is answered: a status code, and a document or nothing. -/
structure Response where
  status : Nat
  document : Option Json := none
deriving DecidableEq

namespace Response

/-- A document. -/
def ok (document : Json) : Response :=
  ⟨200, some document⟩

/-- An error that is explained. -/
def explained (status : Nat) (text : String) : Response :=
  ⟨status, some (.record [("error", .str text)])⟩

/-- The answer to an error of the store. -/
def ofStoreError : StoreError → Response
  | .taskNotFound id => explained 404 (StoreError.taskNotFound id).message
  | e => explained 500 e.message

end Response

/-! ### Resources -/

/-- What a path names. -/
inductive Resource where
  | health
  | metrics
  | runnable
  /-- A task, its identifier as it stands in the path. -/
  | task (segment : String)
  | checkpoint (segment : String)
deriving DecidableEq, Repr

/-- The resource that a path names. The list of runnable tasks takes precedence over a task of that
name, and a task has a name of at least one character. -/
def Resource.ofPath? (path : List Char) : Option Resource :=
  match (Text.Percent.pieces '/' path).map String.ofList with
  | ["", "health"] => some .health
  | ["", "metrics"] => some .metrics
  | ["", "tasks", "runnable"] => some .runnable
  | ["", "tasks", segment] => if segment = "" then none else some (.task segment)
  | ["", "tasks", segment, "checkpoint"] => some (.checkpoint segment)
  | _ => none

/-- Path and query of a request. -/
structure Target where
  path : List Char
  query : List Char

/-- The characters that may stand in a path. -/
def isPathChar (c : Char) : Bool :=
  let n := c.toNat
  n = 0x21 || n = 0x22 || (0x24 ≤ n && n ≤ 0x3B) || n = 0x3D || (0x40 ≤ n && n ≤ 0x5F)
    || (0x61 ≤ n && n ≤ 0x7E) || 0x80 ≤ n

/-- The characters that may stand in a query. -/
def isQueryChar (c : Char) : Bool :=
  let n := c.toNat
  n = 0x21 || (0x24 ≤ n && n ≤ 0x3B) || n = 0x3D || 0x3F ≤ n

/-- Whether a character may stand in the name of a scheme. -/
def isSchemeChar (c : Char) : Bool :=
  c.isAlphanum || c == '+' || c == '-' || c == '.'

/-- Whether a character may stand in front of a path. -/
def isAuthorityChar (c : Char) : Bool :=
  c.isAlphanum || "!$&'()*+,-.:;=@[]_~".toList.contains c

/-- Whether a text can be a host and its port, with a user in front or not. -/
def isAuthority (cs : List Char) : Bool :=
  let host := (cs.reverse.takeWhile fun c ↦ c != '@' && c != ']')
  cs.all isAuthorityChar && cs.getLast? != some '@' && (host.filter (· == ':')).length ≤ 1

/-- Splits path and query; what follows a number sign is not part of them. -/
def Target.ofPath? (cs : List Char) : Option Target :=
  let cs := cs.takeWhile (· != '#')
  let path := cs.takeWhile (· != '?')
  let query := (cs.dropWhile (· != '?')).drop 1
  if path.all isPathChar && query.all isQueryChar then some ⟨path, query⟩ else none

/-- **The target of a request**: a path, the address of a whole page, or the mere name of a host, which
has no path. -/
def Target.ofString? (s : String) : Option Target :=
  let cs := s.toList
  let scheme := cs.takeWhile isSchemeChar
  match cs with
  | [] => none
  | '/' :: _ => ofPath? cs
  | ['*'] => some ⟨cs, []⟩
  | _ =>
    let behind := match cs.drop scheme.length with
      | ':' :: '/' :: '/' :: rest => if scheme.isEmpty then none else some rest
      | _ => none
    let authority := (behind.getD cs).takeWhile fun c ↦ c != '/' && c != '?' && c != '#'
    if !isAuthority authority then none
    else
      match behind with
      | some rest => if authority.isEmpty then none else ofPath? (rest.drop authority.length)
      | none => if authority.length = cs.length then some ⟨[], []⟩ else none

/-! ### Query parameters -/

/-- The number below a limit that a query gives under a name: `some none` when it gives none, `none`
when it gives what is no such number, or gives it twice. -/
def parameter? (limit : Nat) (name : String) (query : List Char) : Option (Option Nat) :=
  match (Text.Percent.query query).filter fun e ↦ e.1 == name with
  | [] => some none
  | [(_, value)] => (Text.natural? limit value).map some
  | _ => none

/-- Minutes that the metrics look back when the query does not say. -/
def defaultLookback : Nat := 15

/-- Tasks listed when the query does not say. -/
def defaultLimit : Nat := 20

/-- Tasks listed at most. -/
def maxLimit : Nat := 500

/-! ### Answers -/

/-- Answers with what work comes to, or with the error of the store. -/
def answerWith {α : Type} (work : Work StoreError α) (respond : α → Response) :
    Work Empty Response := do
  match ← work.attempt with
  | .ok a => pure (respond a)
  | .error e => pure (.ofStoreError e)

/-- Answers with what is stored under an identifier. -/
def answerStored {α : Type} (segment : String) (request : String → Work StoreError (Option α))
    (toJson : α → Json) (missing : String → String) : Work Empty Response :=
  match Text.Percent.decodePath? segment with
  | none => pure ⟨400, none⟩
  | some id => answerWith (request id) fun
    | some a => .ok (toJson a)
    | none => .explained 404 (missing id)

/-- Reads a resource. -/
def read (query : List Char) : Resource → Work Empty Response
  | .health => pure (.ok (.record [("status", .str "healthy"), ("version", .str version)]))
  | .metrics =>
    match parameter? Machine.limit32 "lookback_minutes" query with
    | none => pure ⟨400, none⟩
    | some lookback => do
      let now ← Work.clock
      answerWith (Metrics.ofStore now (lookback.getD defaultLookback)) fun m ↦ .ok m.toJson
  | .runnable =>
    match parameter? Machine.limit64 "limit" query with
    | none => pure ⟨400, none⟩
    | some limit => do
      let now ← Work.clock
      answerWith (Work.store (.listRunnable now (min (limit.getD defaultLimit) maxLimit)))
        fun tasks ↦ .ok (.arr (tasks.map Task.toJson))
  | .task segment =>
    answerStored segment (fun id ↦ Work.store (.getTask id)) Task.toJson
      fun id ↦ (StoreError.taskNotFound id).message
  | .checkpoint segment =>
    answerStored segment (fun id ↦ Work.store (.getCheckpoint id)) Checkpoint.toJson
      fun id ↦ s!"no checkpoint for task: {id}"

/-- **Answers a request.** Any page may ask what is allowed; a resource can only be read, with its
document or without. -/
def handle (method : String) (target : Target) : Work Empty Response :=
  if method = "OPTIONS" then pure ⟨200, none⟩
  else
    match Resource.ofPath? target.path with
    | none => pure ⟨404, none⟩
    | some resource =>
      if method = "GET" then read target.query resource
      else if method = "HEAD" then do
        let response ← read target.query resource
        pure ⟨response.status, none⟩
      else pure ⟨405, none⟩

end Foreman.Api
