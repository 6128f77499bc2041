import Mathlib
import Foreman.Proofs.StableSort
import Foreman.Task.Order

/-!
# The runnable order

The store compares two tasks field by field: the higher priority first, then the earlier due time with
tasks that have none in front, then the least recently updated. Read as one key in a lexicographic
product, with priorities upside down and a least element for the missing due time
(`Task.runnableKey`), the comparison is that of a linear order (`Task.compares_runnableKey`), and so it
inherits its laws. Each level of the comparison is treated on its own, and `Ordering.Compares.then` puts
the levels on one another.

Sorting by the comparison is a stable sort by the key (`Task.isStableSort_runnableLE`).

The order of keys is not the order of tasks, for tasks with the same key need not be the same. So the
comparison is lawful (`Task.runnable_order_lawful`), but what it leaves open stays open: two ways to put
the same tasks in order can differ, place by place, only by tasks that are tied (`Task.Arranged.tied`).
This is where transitivity is needed. A list is in order when each task can stand in front of the next
one (`Task.Arranged`), which by itself says nothing of tasks that stand further apart.
-/

theorem Ordering.Compares.then {α β : Type} [Preorder α] [LT β] {o o' : Ordering} {a a' : α} {b b' : β}
    (h : o.Compares a a') (h' : o'.Compares b b') :
    (o.then o').Compares (toLex (a, b)) (toLex (a', b')) := by
  cases o with
  | lt => exact Prod.Lex.toLex_lt_toLex.2 (.inl h)
  | gt => exact Prod.Lex.toLex_lt_toLex.2 (.inl h)
  | eq =>
    obtain rfl : a = a' := h
    cases o' with
    | lt => exact Prod.Lex.toLex_lt_toLex.2 (.inr ⟨rfl, h'⟩)
    | gt => exact Prod.Lex.toLex_lt_toLex.2 (.inr ⟨rfl, h'⟩)
    | eq => exact congrArg (fun b ↦ toLex (a, b)) h'

theorem compares_compare {α : Type} [LinearOrder α] (a b : α) : (compare a b).Compares a b :=
  (compare_iff a b).1 rfl

namespace Foreman

open OrderDual

namespace Time.Instant

/-- An instant as a place in the lexicographic order of seconds and fractions. -/
def place (t : Instant) : ℤ ×ₗ ℕ :=
  toLex (t.seconds, t.nanos)

theorem compares_place (a b : Instant) : (compare a b).Compares a.place b.place :=
  (compares_compare a.seconds b.seconds).then (compares_compare a.nanos b.nanos)

theorem place_inj {a b : Instant} : a.place = b.place ↔ a = b := by
  cases a
  cases b
  simp [place]

theorem compare_eq_lt {a b : Instant} : compare a b = .lt ↔ a < b :=
  (compares_place a b).eq_lt.trans Prod.Lex.toLex_lt_toLex

end Time.Instant

namespace Task

open Time

/-- The due time as a place, below all others when there is none. -/
def duePlace (t : Task) : WithBot (ℤ ×ₗ ℕ) :=
  t.nextRun.map Instant.place

/-- What the store sorts by: the higher priority, then the earlier due time with none in front, then the
earlier change. -/
def runnableKey (t : Task) : ℤᵒᵈ ×ₗ (WithBot (ℤ ×ₗ ℕ) ×ₗ (ℤ ×ₗ ℕ)) :=
  toLex (toDual t.priority, toLex (t.duePlace, t.updatedAt.place))

theorem compares_due (a b : Task) :
    (compareDue a.nextRun b.nextRun).Compares a.duePlace b.duePlace := by
  unfold duePlace
  cases a.nextRun with
  | none =>
    cases b.nextRun with
    | none => rfl
    | some y => exact WithBot.bot_lt_coe y.place
  | some x =>
    cases b.nextRun with
    | none => exact WithBot.bot_lt_coe x.place
    | some y => exact (WithBot.coe_strictMono.compares).2 (Instant.compares_place x y)

/-- **The comparison is that of a linear order.** -/
theorem compares_runnableKey (a b : Task) :
    (compareRunnable a b).Compares a.runnableKey b.runnableKey :=
  have hpriority : (compare b.priority a.priority).Compares (toDual a.priority) (toDual b.priority) :=
    toDual_compares_toDual.2 (compares_compare b.priority a.priority)
  hpriority.then ((compares_due a b).then (Instant.compares_place a.updatedAt b.updatedAt))

theorem runnableLE_eq_decide (a b : Task) :
    runnableLE a b = decide (a.runnableKey ≤ b.runnableKey) := by
  rw [runnableLE, Bool.eq_iff_iff, decide_eq_true_iff, ← (compares_runnableKey a b).ne_gt,
    Ordering.isLE_iff_ne_gt]

/-- Sorting by the comparison. -/
theorem isStableSort_runnableLE (tasks : List Task) :
    IsStableSort runnableKey tasks (tasks.mergeSort runnableLE) := by
  have hle : runnableLE = fun a b ↦ decide (a.runnableKey ≤ b.runnableKey) :=
    funext₂ runnableLE_eq_decide
  exact hle ▸ isStableSort_mergeSort runnableKey tasks

/-! ### The order as a rule -/

/-- Due times in their order: to be due at once is earlier than any time. -/
inductive DueBefore : Option Instant → Option Instant → Prop
  | atOnce (y : Instant) : DueBefore none (some y)
  | earlier {x y : Instant} (h : x < y) : DueBefore (some x) (some y)

/-- **The order as a rule**: what it takes for a task to come in front of another. -/
inductive Ahead (a b : Task) : Prop
  | urgent (hpriority : b.priority < a.priority)
  | due (hpriority : a.priority = b.priority) (hdue : DueBefore a.nextRun b.nextRun)
  | stale (hpriority : a.priority = b.priority) (hdue : a.nextRun = b.nextRun)
      (hupdated : a.updatedAt < b.updatedAt)

/-- Nothing that the order looks at tells the two tasks apart. -/
structure Tied (a b : Task) : Prop where
  priority : a.priority = b.priority
  nextRun : a.nextRun = b.nextRun
  updatedAt : a.updatedAt = b.updatedAt

theorem compareDue_eq_lt {x y : Option Instant} : compareDue x y = .lt ↔ DueBefore x y := by
  constructor
  · intro h
    cases x with
    | none =>
      cases y with
      | none => cases h
      | some y => exact .atOnce y
    | some x =>
      cases y with
      | none => cases h
      | some y => exact .earlier (Instant.compare_eq_lt.1 h)
  · rintro (y | h)
    · rfl
    · exact Instant.compare_eq_lt.2 h

theorem duePlace_inj {a b : Task} : a.duePlace = b.duePlace ↔ a.nextRun = b.nextRun :=
  (Option.map_injective fun _ _ ↦ Instant.place_inj.1).eq_iff

theorem runnableKey_inj {a b : Task} : a.runnableKey = b.runnableKey ↔ Tied a b := by
  simp only [runnableKey, EmbeddingLike.apply_eq_iff_eq, Prod.mk.injEq, duePlace_inj,
    Instant.place_inj]
  exact ⟨fun ⟨hp, hn, hu⟩ ↦ ⟨hp, hn, hu⟩, fun ⟨hp, hn, hu⟩ ↦ ⟨hp, hn, hu⟩⟩

theorem compareRunnable_eq_eq {a b : Task} : compareRunnable a b = .eq ↔ Tied a b :=
  (compares_runnableKey a b).eq_eq.trans runnableKey_inj

theorem compareRunnable_eq_lt {a b : Task} : compareRunnable a b = .lt ↔ Ahead a b := by
  simp only [compareRunnable, Ordering.then_eq_lt, compare_lt_iff_lt, compare_eq_iff_eq,
    compareDue_eq_lt, (compares_due a b).eq_eq, duePlace_inj, Instant.compare_eq_lt]
  constructor
  · rintro (hp | ⟨hp, hd | ⟨hd, hu⟩⟩)
    · exact .urgent hp
    · exact .due hp.symm hd
    · exact .stale hp.symm hd hu
  · rintro (hp | ⟨hp, hd⟩ | ⟨hp, hd, hu⟩)
    · exact .inl hp
    · exact .inr ⟨hp.symm, .inl hd⟩
    · exact .inr ⟨hp.symm, .inr ⟨hd, hu⟩⟩

/-! ### The laws of the comparison -/

/-- The comparison has the laws of the linear order of keys. -/
instance : Std.TransCmp compareRunnable where
  eq_swap {a b} :=
    (compares_runnableKey a b).inj (Ordering.compares_swap.2 (compares_runnableKey b a))
  isLE_trans {a b c} hab hbc := by
    simp only [Ordering.isLE_iff_ne_gt, (compares_runnableKey _ _).ne_gt] at hab hbc ⊢
    exact hab.trans hbc

/-- The tasks of a list in the runnable order: all of them, and none greater than the next one. -/
structure Arranged (tasks ordered : List Task) : Prop where
  perm : ordered.Perm tasks
  chain : ordered.IsChain fun a b ↦ compareRunnable a b ≠ .gt

/-- Tasks in order have their keys in order, however far apart they stand. -/
theorem Arranged.sorted {tasks ordered : List Task} (h : Arranged tasks ordered) :
    (ordered.map runnableKey).Pairwise (· ≤ ·) := by
  have hchain : ordered.IsChain fun a b ↦ a.runnableKey ≤ b.runnableKey :=
    h.chain.imp fun a b ↦ (compares_runnableKey a b).ne_gt.1
  have : IsTrans Task fun a b ↦ a.runnableKey ≤ b.runnableKey := ⟨fun _ _ _ ↦ le_trans⟩
  exact List.pairwise_map.2 hchain.pairwise

theorem arranged_mergeSort (tasks : List Task) : Arranged tasks (tasks.mergeSort runnableLE) where
  perm := List.mergeSort_perm ..
  chain := ((isStableSort_runnableLE tasks).sorted.imp
    (compares_runnableKey _ _).ne_gt.2).isChain

/-- **Sorting is well defined up to ties**: tasks that are in order twice are tied place by place. -/
theorem Arranged.tied {tasks xs ys : List Task} (hxs : Arranged tasks xs) (hys : Arranged tasks ys) :
    List.Forall₂ Tied xs ys := by
  have hkeys : xs.map runnableKey = ys.map runnableKey :=
    ((hxs.perm.trans hys.perm.symm).map runnableKey).eq_of_pairwise
      (fun _ _ _ _ ↦ le_antisymm) hxs.sorted hys.sorted
  rw [← List.forall₂_eq_eq_eq, List.forall₂_map_left_iff, List.forall₂_map_right_iff] at hkeys
  exact hkeys.imp fun _ _ ↦ runnableKey_inj.1

/-- **The runnable order is lawful.** To swap two tasks reverses the answer, a task is the equal of
itself, and "not greater" is transitive and total. The answer is "equal" exactly when priority, due time
and last change all agree, and "less" exactly when the rule puts the first task in front. So any tasks
can be put in order, in one way up to tied tasks, and what is listed as runnable is the beginning of the
runnable tasks in this order. -/
theorem runnable_order_lawful (a b c : Task) :
    compareRunnable b a = (compareRunnable a b).swap ∧
    compareRunnable a a = .eq ∧
    (compareRunnable a b ≠ .gt → compareRunnable b c ≠ .gt → compareRunnable a c ≠ .gt) ∧
    (compareRunnable a b ≠ .gt ∨ compareRunnable b a ≠ .gt) ∧
    (compareRunnable a b = .eq ↔ Tied a b) ∧
    (compareRunnable a b = .lt ↔ Ahead a b) ∧
    ∀ tasks : List Task,
      Arranged tasks (tasks.mergeSort runnableLE) ∧
      (∀ xs ys, Arranged tasks xs → Arranged tasks ys → List.Forall₂ Tied xs ys) ∧
      ∀ now limit, ∃ ordered, Arranged (tasks.filter (·.isRunnable now)) ordered ∧
        bestRunnable tasks now limit = ordered.take limit := by
  have htotal : compareRunnable a b ≠ .gt ∨ compareRunnable b a ≠ .gt := by
    rw [(compares_runnableKey a b).ne_gt, (compares_runnableKey b a).ne_gt]
    exact le_total _ _
  have htrans : compareRunnable a b ≠ .gt → compareRunnable b c ≠ .gt → compareRunnable a c ≠ .gt := by
    simp only [← Ordering.isLE_iff_ne_gt]
    exact Std.TransCmp.isLE_trans
  exact ⟨Std.OrientedCmp.eq_swap, Std.ReflCmp.compare_self, htrans, htotal, compareRunnable_eq_eq,
    compareRunnable_eq_lt, fun tasks ↦ ⟨arranged_mergeSort tasks, fun _ _ ↦ Arranged.tied,
      fun now limit ↦ ⟨_, arranged_mergeSort _, rfl⟩⟩⟩

/-- A task without a due time stands in front of one that is due, and two that are due at the same time
may stand either way. -/
theorem runnable_order_over_mixed_due_times :
    let atOnce := Task.new "a" "o" "c" "s" ⟨9, 0⟩
    let due := { Task.new "b" "o" "c" "s" ⟨1, 0⟩ with nextRun := some ⟨5, 0⟩ }
    let dueToo := { Task.new "c" "o" "c" "s" ⟨1, 0⟩ with nextRun := some ⟨5, 0⟩ }
    compareRunnable atOnce due ≠ .gt ∧ compareRunnable due dueToo ≠ .gt ∧
      compareRunnable atOnce dueToo ≠ .gt ∧
      Arranged [due, atOnce, dueToo] [atOnce, due, dueToo] ∧
      Arranged [due, atOnce, dueToo] [atOnce, dueToo, due] ∧
      List.Forall₂ Tied [atOnce, due, dueToo] [atOnce, dueToo, due] := by
  intro atOnce due dueToo
  have hfirst : compareRunnable atOnce due ≠ .gt := by decide
  have hsecond : compareRunnable due dueToo ≠ .gt := by decide
  obtain ⟨-, -, htrans, -, -, -, hsort⟩ := runnable_order_lawful atOnce due dueToo
  have hone : Arranged [due, atOnce, dueToo] [atOnce, due, dueToo] :=
    ⟨.swap .., by simp [hfirst, hsecond]⟩
  have hother : Arranged [due, atOnce, dueToo] [atOnce, dueToo, due] :=
    ⟨(List.Perm.cons _ (.swap ..)).trans (.swap ..), by
      have : compareRunnable atOnce dueToo ≠ .gt ∧ compareRunnable dueToo due ≠ .gt := by decide
      simp [this]⟩
  exact ⟨hfirst, hsecond, htrans hfirst hsecond, hone, hother,
    (hsort [due, atOnce, dueToo]).2.1 _ _ hone hother⟩

end Task

end Foreman
