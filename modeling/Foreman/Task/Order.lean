import Foreman.Machine
import Foreman.Task.Basic

/-!
# Orders on tasks

Two orders decide what is dispatched. The **runnable order** is the store's: higher priority first, then
the earlier due time with tasks that have none in front, then the least recently updated. The
**candidate order** is the runner's, on what the store listed: higher effective priority first, where a
user's waiting counts as a boost, and the owner served last behind all others.

Both sorts are stable, so what the orders leave open keeps the order it had.
-/

namespace Foreman

open Time

namespace Task

/-! ### The runnable order -/

/-- Due times, with the tasks that have none in front. -/
def compareDue : Option Instant → Option Instant → Ordering
  | none, none => .eq
  | none, some _ => .lt
  | some _, none => .gt
  | some a, some b => compare a b

/-- The store's order. -/
def compareRunnable (a b : Task) : Ordering :=
  (compare b.priority a.priority).then
    ((compareDue a.nextRun b.nextRun).then (compare a.updatedAt b.updatedAt))

/-- The first task need not come behind the second. -/
def runnableLE (a b : Task) : Bool :=
  (compareRunnable a b).isLE

/-- **The best runnable tasks**: those of the list that are runnable at `now`, in the store's order, at
most `limit` of them. -/
def bestRunnable (tasks : List Task) (now : Instant) (limit : Nat) : List Task :=
  ((tasks.filter fun t ↦ t.isRunnable now).mergeSort runnableLE).take limit

/-! ### The candidate order -/

/-- The priority, raised by the boost when a user waits, within the range of priorities. -/
def effectivePriority (t : Task) (boost : Int) : Int :=
  if t.isInteractive then max Machine.least (min Machine.greatest (t.priority + boost)) else t.priority

/-- Higher effective priority first. -/
def byEffectivePriority (tasks : List Task) (boost : Int) : List Task :=
  tasks.mergeSort fun a b ↦ decide (b.effectivePriority boost ≤ a.effectivePriority boost)

/-- The tasks of the owner served last behind those of all others; both groups keep their order, so
that owner is still reached when every other candidate is lost. -/
def fairly (tasks : List Task) (lastOwner : Option String) : List Task :=
  match lastOwner with
  | none => tasks
  | some owner =>
    let (again, others) := tasks.partition fun t ↦ t.owner == owner
    others ++ again

/-- The runner's order. -/
def candidates (tasks : List Task) (boost : Int) (lastOwner : Option String) : List Task :=
  fairly (byEffectivePriority tasks boost) lastOwner

theorem fairly_some (tasks : List Task) (owner : String) :
    fairly tasks (some owner) =
      (tasks.filter fun t ↦ !(t.owner == owner)) ++ tasks.filter fun t ↦ t.owner == owner := by
  rw [fairly, List.partition_eq_filter_filter]
  rfl

theorem fairly_perm (tasks : List Task) (lastOwner : Option String) :
    (fairly tasks lastOwner).Perm tasks := by
  cases lastOwner with
  | none => exact List.Perm.refl _
  | some owner =>
    rw [fairly_some]
    exact (List.perm_append_comm).trans (List.filter_append_perm _ _)

theorem candidates_perm (tasks : List Task) (boost : Int) (lastOwner : Option String) :
    (candidates tasks boost lastOwner).Perm tasks :=
  (fairly_perm _ _).trans (List.mergeSort_perm _ _)

theorem candidates_ne_nil {tasks : List Task} (h : tasks ≠ []) (boost : Int)
    (lastOwner : Option String) : candidates tasks boost lastOwner ≠ [] := by
  intro hnone
  have hperm := candidates_perm tasks boost lastOwner
  rw [hnone] at hperm
  exact h (List.nil_perm.1 hperm)

end Task

end Foreman
