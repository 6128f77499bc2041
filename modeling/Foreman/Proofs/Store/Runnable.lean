import Foreman.Proofs.Store.Readiness

/-!
# The runnable tasks of a store

What a store lists is cut to a limit and sorted. Behind it stand all tasks that are runnable at that
instant (`Memory.runnable`). Each of them occurs once among them, because records are filed under
their own identifiers; so it makes sense to count them, and they are one less when one task has
stopped being runnable and all others are as they were (`Memory.Filed.perm_runnable`).
-/

namespace Foreman.Store.Memory

open Time

variable {m m' : Memory} {now : Instant} {t : Task}

/-- The tasks that are runnable at an instant, in the order of their identifiers. -/
def runnable (m : Memory) (now : Instant) : List Task :=
  m.tasks.values.filter fun t ↦ t.isRunnable now

/-- What is listed are the best of them. -/
theorem listRunnable_eq (m : Memory) (now : Instant) (limit : Nat) :
    m.listRunnable now limit = ((m.runnable now).mergeSort Task.runnableLE).take limit := rfl

/-- No limit hides that there is a runnable task. -/
theorem listRunnable_eq_nil_iff {limit : Nat} (hlimit : 1 ≤ limit) :
    m.listRunnable now limit = [] ↔ m.runnable now = [] := by
  rw [listRunnable_eq, List.take_eq_nil_iff]
  constructor
  · rintro (hzero | hsorted)
    · omega
    · exact List.nil_perm.1 (hsorted ▸ List.mergeSort_perm (m.runnable now) Task.runnableLE)
  · intro hnone
    exact .inr (by rw [hnone, List.mergeSort_nil])

/-- A limit that the runnable tasks do not exceed leaves none of them out. -/
theorem perm_listRunnable {limit : Nat} (h : (m.runnable now).length ≤ limit) :
    (m.listRunnable now limit).Perm (m.runnable now) := by
  rw [listRunnable_eq, List.take_of_length_le (by rwa [List.length_mergeSort])]
  exact List.mergeSort_perm ..

theorem Filed.mem_runnable (hm : m.Filed) :
    t ∈ m.runnable now ↔ m.tasks.find? t.id = some t ∧ t.isRunnable now = true :=
  List.mem_filter.trans (and_congr_left fun _ ↦ hm.mem_values)

theorem Filed.nodup_ids_runnable (hm : m.Filed) (now : Instant) :
    ((m.runnable now).map (·.id)).Nodup :=
  hm.nodup_ids.sublist (List.filter_sublist.map _)

/-- No task is runnable twice. -/
theorem Filed.nodup_runnable (hm : m.Filed) (now : Instant) : (m.runnable now).Nodup :=
  (List.pairwise_map.1 (hm.nodup_ids_runnable now)).imp fun hne heq ↦ hne (congrArg (·.id) heq)

/-- **One task less is runnable** when one has stopped being so and the others are as they were. -/
theorem Filed.perm_runnable (hm : m.Filed) (hm' : m'.Filed) (ht : t ∈ m.runnable now)
    (hgone : ∀ t', m'.tasks.find? t.id = some t' → t'.isRunnable now = false)
    (hothers : ∀ id, id ≠ t.id → m'.tasks.find? id = m.tasks.find? id) :
    (t :: m'.runnable now).Perm (m.runnable now) := by
  have hnew : ∀ u ∈ m'.runnable now, u.id ≠ t.id := by
    intro u hu hid
    obtain ⟨hfind, hrunnable⟩ := hm'.mem_runnable.1 hu
    rw [hgone u (hid ▸ hfind)] at hrunnable
    cases hrunnable
  refine (List.perm_ext_iff_of_nodup ?_ (hm.nodup_runnable now)).2 fun u ↦ ?_
  · exact List.nodup_cons.2 ⟨fun hmem ↦ hnew t hmem rfl, hm'.nodup_runnable now⟩
  rw [List.mem_cons]
  constructor
  · rintro (rfl | hu)
    · exact ht
    · obtain ⟨hfind, hrunnable⟩ := hm'.mem_runnable.1 hu
      exact hm.mem_runnable.2 ⟨hothers u.id (hnew u hu) ▸ hfind, hrunnable⟩
  · intro hu
    obtain ⟨hfind, hrunnable⟩ := hm.mem_runnable.1 hu
    by_cases hid : u.id = t.id
    · obtain ⟨hfind', -⟩ := hm.mem_runnable.1 ht
      exact .inl (Option.some.inj (hfind.symm.trans (hid ▸ hfind')))
    · exact .inr (hm'.mem_runnable.2 ⟨(hothers u.id hid).trans hfind, hrunnable⟩)

end Foreman.Store.Memory
