import Foreman.Proofs.StableSort
import Foreman.Task.Order

/-!
# The candidate order

The runner orders what the store listed in two passes: a stable sort by effective priority, and behind
it a parting that puts the tasks of the owner served last behind all others. Together they are one
stable sort, by the pair of both questions (`Task.candidateKey`): whether the task belongs to the owner
served last, and only then how urgent it is. Everything else said of the order follows from that, and
nothing more can be said, because there is only one stable sort by a key.

When nobody was served last the first question has the same answer for all tasks, and when all tasks
are of one owner it has too; neither is a case of its own.
-/

namespace Foreman.Task

open OrderDual

variable {tasks : List Task} {boost : ℤ} {lastOwner : Option String}

/-! ### Effective priority -/

/-- A user waits for the task: its metadata say so. -/
def IsAwaited (t : Task) : Prop :=
  Keyed.find? "task_class" t.metadata = some (.str "interactive")

theorem isInteractive_iff {t : Task} : t.isInteractive = true ↔ t.IsAwaited := by
  have hname : ∀ s, TaskClass.ofString? s = some .interactive ↔ s = "interactive" := by
    intro s
    unfold TaskClass.ofString?
    split <;> simp_all
  simp [isInteractive, class?, Option.bind_eq_some_iff, Payload.text?_eq_some_iff, hname,
    IsAwaited, classKey]

/-- **The effective priority as a rule.** A task for which nobody waits has its own priority. The boost
is added to that of a task for which a user waits, and a sum beyond either end of the machine range is
that end. -/
inductive Counts (boost : ℤ) (t : Task) : ℤ → Prop
  | background : ¬ t.IsAwaited → Counts boost t t.priority
  | raised : t.IsAwaited → Machine.isSigned (t.priority + boost) = true →
      Counts boost t (t.priority + boost)
  | highest : t.IsAwaited → Machine.greatest < t.priority + boost →
      Counts boost t Machine.greatest
  | lowest : t.IsAwaited → t.priority + boost < Machine.least →
      Counts boost t Machine.least

theorem counts_effectivePriority (boost : ℤ) (t : Task) :
    Counts boost t (t.effectivePriority boost) := by
  have hends : Machine.least ≤ Machine.greatest := by decide
  unfold effectivePriority
  split
  · next hinteractive =>
    have hwaits : t.IsAwaited := isInteractive_iff.1 hinteractive
    rcases lt_or_ge (t.priority + boost) Machine.least with hlow | hlow
    · rw [min_eq_right (by omega), max_eq_left (by omega)]
      exact .lowest hwaits hlow
    · rcases lt_or_ge Machine.greatest (t.priority + boost) with hhigh | hhigh
      · rw [min_eq_left (by omega), max_eq_right hends]
        exact .highest hwaits hhigh
      · rw [min_eq_right hhigh, max_eq_right hlow]
        exact .raised hwaits (Machine.isSigned_iff.2 ⟨hlow, hhigh⟩)
  · next hinteractive => exact .background fun hwaits ↦ hinteractive (isInteractive_iff.2 hwaits)

/-! ### One sort -/

/-- Tasks in the order of urgency, the most urgent first. -/
def urgency (boost : ℤ) (t : Task) : ℤᵒᵈ :=
  toDual (t.effectivePriority boost)

/-- The task belongs to the owner served last. -/
def isRepeat (lastOwner : Option String) (t : Task) : Bool :=
  decide (lastOwner = some t.owner)

/-- What the runner sorts by: other owners first, then the most urgent task. -/
def candidateKey (boost : ℤ) (lastOwner : Option String) (t : Task) : Bool ×ₗ ℤᵒᵈ :=
  toLex (t.isRepeat lastOwner, t.urgency boost)

theorem isStableSort_byEffectivePriority (tasks : List Task) (boost : ℤ) :
    IsStableSort (urgency boost) tasks (byEffectivePriority tasks boost) :=
  isStableSort_mergeSort (urgency boost) tasks

/-- Parting by owner, also where nobody was served last. -/
theorem fairly_eq (tasks : List Task) (lastOwner : Option String) :
    fairly tasks lastOwner =
      tasks.filter (fun t ↦ !t.isRepeat lastOwner) ++ tasks.filter (·.isRepeat lastOwner) := by
  cases lastOwner with
  | none => simp [fairly, isRepeat]
  | some owner =>
    have hsame : ∀ t : Task, (t.owner == owner) = t.isRepeat (some owner) := fun t ↦ by
      simp [isRepeat, eq_comm, Bool.beq_eq_decide_eq]
    simp only [fairly_some, hsame]

theorem isStableSort_candidates (tasks : List Task) (boost : ℤ) (lastOwner : Option String) :
    IsStableSort (candidateKey boost lastOwner) tasks (candidates tasks boost lastOwner) := by
  rw [candidates, fairly_eq]
  exact (isStableSort_byEffectivePriority tasks boost).parted _

/-- **The candidate order is one stable sort.** The two passes amount to a single sort by the pair of
owner and urgency, and no other list is sorted stably by that pair; without a last owner the urgency
alone decides. So no task is lost, the tasks of the owner served last form the tail, and tasks with
equal keys stand as the store listed them. -/
theorem candidates_eq_stable_sort (tasks : List Task) (boost : ℤ) (lastOwner : Option String) :
    (∀ t : Task, Counts boost t (t.effectivePriority boost)) ∧
    candidates tasks boost lastOwner = tasks.mergeSort (fun a b ↦
      decide (a.candidateKey boost lastOwner ≤ b.candidateKey boost lastOwner)) ∧
    (∀ ordered, IsStableSort (candidateKey boost lastOwner) tasks ordered ↔
      ordered = candidates tasks boost lastOwner) ∧
    IsStableSort (urgency boost) tasks (candidates tasks boost none) ∧
    (candidates tasks boost lastOwner).Perm tasks ∧
    (∃ others again, candidates tasks boost lastOwner = others ++ again ∧
      (∀ t ∈ others, lastOwner ≠ some t.owner) ∧ ∀ t ∈ again, lastOwner = some t.owner) ∧
    ∀ a b : Task, a.candidateKey boost lastOwner = b.candidateKey boost lastOwner →
      ([a, b].Sublist (candidates tasks boost lastOwner) ↔ [a, b].Sublist tasks) := by
  have hstable := isStableSort_candidates tasks boost lastOwner
  refine ⟨counts_effectivePriority boost, hstable.unique (isStableSort_mergeSort _ _),
    fun ordered ↦ ⟨fun h ↦ h.unique hstable, fun h ↦ h ▸ hstable⟩,
    isStableSort_byEffectivePriority tasks boost, hstable.perm, ?_, fun a b ↦ hstable.pair_sublist_iff⟩
  refine ⟨_, _, fairly_eq (byEffectivePriority tasks boost) lastOwner, fun t ht ↦ ?_, fun t ht ↦ ?_⟩
  · simpa [isRepeat] using (List.mem_filter.1 ht).2
  · simpa [isRepeat] using (List.mem_filter.1 ht).2

/-- A boost that passes the end of the range makes a waiting task the equal of the most urgent one;
behind a task of the owner served last, these two keep their order. -/
theorem candidates_keep_order_of_saturated_tie :
    let again := Task.new "a" "o" "c" "s" ⟨0, 0⟩
    let urgent := { Task.new "b" "p" "c" "s" ⟨0, 0⟩ with priority := Machine.greatest }
    let waiting := { Task.new "c" "q" "c" "s" ⟨0, 0⟩ with priority := Machine.greatest - 10 }.withClass
      .interactive
    urgent.candidateKey 40 (some "o") = waiting.candidateKey 40 (some "o") ∧
      [urgent, waiting].Sublist (candidates [again, urgent, waiting] 40 (some "o")) := by
  intro again urgent waiting
  have hkey : urgent.candidateKey 40 (some "o") = waiting.candidateKey 40 (some "o") := by decide
  exact ⟨hkey, ((candidates_eq_stable_sort [again, urgent, waiting] 40 (some "o")).2.2.2.2.2.2
    urgent waiting hkey).2 (List.sublist_cons_self _ _)⟩

end Foreman.Task
