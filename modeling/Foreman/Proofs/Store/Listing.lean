import Foreman.Proofs.Store.Runnable
import Foreman.Proofs.Task.RunnableOrder

/-!
# What a list of runnable tasks contains

A list of runnable tasks that is cut to a limit holds the best of them and nothing else
(`Memory.ListsBest`): as many as there are up to the limit, none twice, each stored and runnable, in
the runnable order, and none for which a better one was left out. Longer lists continue shorter ones.

All of this rests on one fact: the list is the beginning of the runnable tasks sorted by one key. It
does not depend on the order in which the table of tasks is gone through, which only decides between
tasks with equal keys, so it is said for every such order (`ListsBest.bestRunnable`).

A poisoned table is not listed at all (`not_listed_when_poisoned`).
-/

namespace Foreman

open Time

/-- A task is runnable up to the instant at which it is leased, that instant excluded, and from the one
at which it is due, that instant included. -/
theorem Task.isRunnable_iff {t : Task} {now : Instant} :
    t.isRunnable now = true ↔ t.status.isSchedulable = true ∧
      (∀ due, t.nextRun = some due → due ≤ now) ∧
      ∀ until_, t.leaseUntil = some until_ → until_ ≤ now := by
  have hdue : t.isDueAt now = true ↔ ∀ due, t.nextRun = some due → due ≤ now := by
    cases hnext : t.nextRun <;> simp [isDueAt, hnext]
  have hfree : t.isLeasedAt now = false ↔ ∀ until_, t.leaseUntil = some until_ → until_ ≤ now := by
    cases hlease : t.leaseUntil <;> simp [isLeasedAt, hlease, Instant.not_lt]
  simp only [isRunnable, Bool.and_eq_true, Bool.not_eq_true', hdue, hfree, and_assoc]

namespace Store.Memory

variable {m : Memory} {now : Instant} {limit : Nat} {batch table : List Task}

/-- The list holds the best tasks that are runnable at an instant, up to a limit. -/
structure ListsBest (m : Memory) (now : Instant) (limit : Nat) (batch : List Task) : Prop where
  length_eq : batch.length = min limit (m.runnable now).length
  nodup : (batch.map (·.id)).Nodup
  stored : ∀ t ∈ batch, m.tasks.find? t.id = some t
  runnable : ∀ t ∈ batch, t.isRunnable now = true
  sorted : batch.Pairwise fun t u ↦ Task.compareRunnable t u ≠ .gt
  best : ∀ t ∈ batch, ∀ u ∉ batch, m.tasks.find? u.id = some u → u.isRunnable now = true →
    Task.compareRunnable u t ≠ .lt

/-- The best runnable tasks of a table, in whatever order the table is gone through. -/
theorem ListsBest.bestRunnable (hm : m.Filed) (htable : table.Perm m.tasks.values) (now : Instant)
    (limit : Nat) : m.ListsBest now limit (Task.bestRunnable table now limit) := by
  let ordered := (table.filter fun t ↦ t.isRunnable now).mergeSort Task.runnableLE
  have hperm : ordered.Perm (m.runnable now) :=
    (List.mergeSort_perm _ _).trans (htable.filter _)
  have hsorted : ordered.Pairwise fun t u ↦ Task.compareRunnable t u ≠ .gt :=
    (Task.isStableSort_runnableLE _).sorted.imp (Task.compares_runnableKey _ _).ne_gt.2
  have hmem : ∀ t, t ∈ ordered ↔ m.tasks.find? t.id = some t ∧ t.isRunnable now = true :=
    fun t ↦ hperm.mem_iff.trans hm.mem_runnable
  have hlisted : ∀ t ∈ ordered.take limit, t ∈ ordered := fun t ↦ List.mem_of_mem_take
  refine
    { length_eq := by rw [Task.bestRunnable, List.length_take, hperm.length_eq]
      nodup := ((hperm.map _).nodup_iff.2 (hm.nodup_ids_runnable now)).sublist
        ((List.take_sublist _ _).map _)
      stored := fun t ht ↦ ((hmem t).1 (hlisted t ht)).1
      runnable := fun t ht ↦ ((hmem t).1 (hlisted t ht)).2
      sorted := hsorted.sublist (List.take_sublist _ _)
      best := fun t ht u hu hstored hrunnable ↦ ?_ }
  -- What was left out stands behind the limit, and so behind everything that was listed.
  have hbehind : u ∈ ordered.drop limit := by
    have hordered := (hmem u).2 ⟨hstored, hrunnable⟩
    rw [← List.take_append_drop limit ordered] at hordered
    exact (List.mem_append.1 hordered).resolve_left hu
  rw [← List.take_append_drop limit ordered] at hsorted
  have hle := (List.pairwise_append.1 hsorted).2.2 t ht u hbehind
  rw [(Task.compares_runnableKey t u).ne_gt] at hle
  exact (Task.compares_runnableKey u t).ne_lt.2 hle

/-- **What is listed are exactly the best runnable tasks.** A table that is not poisoned is listed, and
the store stays as it is. The list is right, and a longer one continues it, in whatever order the table
is gone through; the comparison by which it is sorted is that of the key with the higher priority
first, then the earlier due time with none in front, then the earlier change. -/
theorem listRunnable_lists_best (hm : m.Filed) (hintact : m.poisoned = false) (now : Instant) :
    (∀ clock fresh limit, m.perform clock fresh (.listRunnable now limit) =
      (.ok (Task.bestRunnable m.tasks.values now limit), m)) ∧
    (∀ table, table.Perm m.tasks.values →
      (∀ limit, m.ListsBest now limit (Task.bestRunnable table now limit)) ∧
      ∀ limit more, limit ≤ more →
        Task.bestRunnable table now limit <+: Task.bestRunnable table now more) ∧
    (∀ t u : Task, (Task.compareRunnable t u).Compares t.runnableKey u.runnableKey) ∧
    ∀ t : Task, t.isRunnable now = true ↔ t.status.isSchedulable = true ∧
      (∀ due, t.nextRun = some due → due ≤ now) ∧
      ∀ until_, t.leaseUntil = some until_ → until_ ≤ now := by
  refine ⟨fun clock fresh limit ↦ ?_, fun table htable ↦ ⟨?_, ?_⟩, Task.compares_runnableKey,
    fun t ↦ Task.isRunnable_iff⟩
  · simp only [perform, withTasks, hintact, Bool.false_eq_true, if_false, listRunnable]
  · exact ListsBest.bestRunnable hm htable now
  · exact fun _ _ hmore ↦ List.take_prefix_take_left hmore

/-- A store with three runnable tasks at second 5: one that is due at this very instant, one without a
due time whose lease ends at this very instant, and one of lower priority. -/
def lastInstants : Memory :=
  .afterAll {}
    [⟨⟨0, 0⟩, ⟨0⟩, .upsert { Task.new "a" "o" "c" "s" ⟨0, 0⟩ with priority := 5, nextRun := some ⟨5, 0⟩ }⟩,
      ⟨⟨1, 0⟩, ⟨1⟩, .upsert { Task.new "b" "o" "c" "s" ⟨0, 0⟩ with priority := 5 }⟩,
      ⟨⟨2, 0⟩, ⟨2⟩, .upsert (Task.new "c" "o" "c" "s" ⟨0, 0⟩)⟩,
      ⟨⟨2, 0⟩, ⟨3⟩, .acquireLease "b" "w" 3 ⟨2, 0⟩⟩]

/-- Two of the three are listed, the one without a due time first. -/
theorem lastInstants_lists_best :
    lastInstants.Filed ∧ lastInstants.poisoned = false ∧
      (lastInstants.perform ⟨5, 0⟩ ⟨4⟩ (.listRunnable ⟨5, 0⟩ 2)).1 =
        .ok (Task.bestRunnable lastInstants.tasks.values ⟨5, 0⟩ 2) ∧
      (Task.bestRunnable lastInstants.tasks.values ⟨5, 0⟩ 2).map (·.id) = ["b", "a"] ∧
      lastInstants.ListsBest ⟨5, 0⟩ 2 (Task.bestRunnable lastInstants.tasks.values ⟨5, 0⟩ 2) := by
  have hfiled : lastInstants.Filed := filed_afterAll_empty _
  obtain ⟨hlisted, hbest, -⟩ := listRunnable_lists_best hfiled rfl ⟨5, 0⟩
  exact ⟨hfiled, rfl, by rw [hlisted], by cbv, (hbest _ (List.Perm.refl _)).1 2⟩

/-- **A poisoned table is not listed**, also while there are runnable tasks in it. -/
theorem not_listed_when_poisoned :
    ¬ ∀ (calls : List Call) (clock now : Instant) (fresh : Uuid) (limit : Nat),
      let m := Memory.afterAll {} calls
      ∃ batch, m.perform clock fresh (.listRunnable now limit) = (.ok batch, m) ∧
        m.ListsBest now limit batch := by
  intro h
  obtain ⟨batch, hlisted, -⟩ := h
    [⟨⟨0, 0⟩, ⟨0⟩, .upsert (Task.new "a" "o" "c" "s" ⟨0, 0⟩)⟩,
      ⟨⟨1, 0⟩, ⟨1⟩, .acquireLease "a" "w" Machine.greatest ⟨1, 0⟩⟩] ⟨5, 0⟩ ⟨5, 0⟩ ⟨2⟩ 10
  cases congrArg Prod.fst hlisted

end Store.Memory

end Foreman
