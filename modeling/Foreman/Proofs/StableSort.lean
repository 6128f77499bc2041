import Mathlib.Data.Prod.Lex
import Mathlib.Data.List.Basic

/-!
# Stable sorts

A list is a stable sort of another by a key when its keys ascend and, for each key, the entries with
that key are the same in both lists and stand in the same order (`IsStableSort`). The second half says
more than that entries with equal keys keep their order: since every entry has some key, it also says
that nothing is lost or added (`IsStableSort.perm`). So there is only one stable sort
(`IsStableSort.unique`), however it was computed.

Two ways to compute one are in use. Merge sort is stable (`isStableSort_mergeSort`). And a stable sort
that is afterwards parted by a condition, with those that meet it behind the others, is the stable sort
by the condition first and the old key second (`IsStableSort.parted`).
-/

namespace Foreman

variable {α κ : Type} [LinearOrder κ] {key : α → κ} {xs ys zs : List α}

/-- `ys` is `xs` in the order of the keys, and entries with equal keys stand as they stood. -/
structure IsStableSort (key : α → κ) (xs ys : List α) : Prop where
  sorted : ys.Pairwise (key · ≤ key ·)
  stable : ∀ k, ys.filter (key · = k) = xs.filter (key · = k)

namespace IsStableSort

/-- Lists in which each key has the same entries have the same entries. -/
theorem mem_iff_of_filter_eq (hfilter : ∀ k, ys.filter (key · = k) = zs.filter (key · = k)) {a : α} :
    a ∈ ys ↔ a ∈ zs := by
  have hin : ∀ xs : List α, a ∈ xs ↔ a ∈ xs.filter (key · = key a) := by simp
  rw [hin ys, hin zs, hfilter]

/-- Nothing is lost or added. -/
theorem perm [DecidableEq α] (h : IsStableSort key xs ys) : ys.Perm xs := by
  refine List.perm_iff_count.2 fun a ↦ ?_
  have hin : ∀ zs : List α, zs.count a = (zs.filter (key · = key a)).count a :=
    fun zs ↦ (List.count_filter (by simp)).symm
  rw [hin ys, hin xs, h.stable]

/-- Two entries with equal keys stand in the same order in both lists. -/
theorem pair_sublist_iff (h : IsStableSort key xs ys) {a b : α} (hkey : key a = key b) :
    [a, b].Sublist ys ↔ [a, b].Sublist xs := by
  have hin : ∀ zs : List α, [a, b].Sublist zs ↔ [a, b].Sublist (zs.filter (key · = key a)) := by
    intro zs
    refine ⟨fun hsub ↦ ?_, fun hsub ↦ hsub.trans List.filter_sublist⟩
    simpa [hkey] using hsub.filter (key · = key a)
  rw [hin ys, hin xs, h.stable]

/-- The head of a sorted list has the least key. -/
private theorem key_le_of_mem_cons {a b : α} (hsorted : (a :: ys).Pairwise (key · ≤ key ·))
    (hmem : b ∈ a :: ys) : key a ≤ key b := by
  rcases List.mem_cons.1 hmem with rfl | htail
  · exact le_refl _
  · exact List.rel_of_pairwise_cons hsorted htail

/-- Sorted lists in which each key has the same entries are equal. -/
theorem eq_of_filter_eq (hys : ys.Pairwise (key · ≤ key ·)) (hzs : zs.Pairwise (key · ≤ key ·))
    (hfilter : ∀ k, ys.filter (key · = k) = zs.filter (key · = k)) : ys = zs := by
  induction ys generalizing zs with
  | nil =>
    cases zs with
    | nil => rfl
    | cons b zs => simpa using hfilter (key b)
  | cons a ys ih =>
    cases zs with
    | nil => simpa using hfilter (key a)
    | cons b zs =>
      -- Each head occurs in the other list, so the heads have the same key, and then they are equal.
      have ha : a ∈ b :: zs := (mem_iff_of_filter_eq hfilter).1 List.mem_cons_self
      have hb : b ∈ a :: ys := (mem_iff_of_filter_eq hfilter).2 List.mem_cons_self
      have hkey : key b = key a :=
        le_antisymm (key_le_of_mem_cons hzs ha) (key_le_of_mem_cons hys hb)
      have hhead := hfilter (key a)
      rw [List.filter_cons_of_pos (by simp), List.filter_cons_of_pos (by simpa using hkey)] at hhead
      obtain ⟨rfl, -⟩ := List.cons.inj hhead
      refine congrArg (a :: ·) (ih hys.tail hzs.tail fun k ↦ ?_)
      have hk := hfilter k
      rw [List.filter_cons, List.filter_cons] at hk
      split at hk
      · exact (List.cons.inj hk).2
      · exact hk

/-- **There is only one stable sort.** -/
theorem unique (h : IsStableSort key xs ys) (h' : IsStableSort key xs zs) : ys = zs :=
  eq_of_filter_eq h.sorted h'.sorted fun k ↦ (h.stable k).trans (h'.stable k).symm

/-- **Parted by a condition**, with those that meet it behind the others, a stable sort is sorted by the
condition first and its key second. -/
theorem parted (h : IsStableSort key xs ys) (p : α → Bool) :
    IsStableSort (fun a ↦ toLex (p a, key a)) xs (ys.filter (fun a ↦ !p a) ++ ys.filter p) where
  sorted := by
    refine List.pairwise_append.2 ⟨?_, ?_, ?_⟩
    · refine (h.sorted.sublist List.filter_sublist).imp_of_mem fun {a b} ha hb hle ↦ ?_
      have hpa : p a = false := by simpa using (List.mem_filter.1 ha).2
      have hpb : p b = false := by simpa using (List.mem_filter.1 hb).2
      exact Prod.Lex.toLex_le_toLex.2 (.inr ⟨hpa.trans hpb.symm, hle⟩)
    · refine (h.sorted.sublist List.filter_sublist).imp_of_mem fun {a b} ha hb hle ↦ ?_
      have hpa : p a = true := (List.mem_filter.1 ha).2
      have hpb : p b = true := (List.mem_filter.1 hb).2
      exact Prod.Lex.toLex_le_toLex.2 (.inr ⟨hpa.trans hpb.symm, hle⟩)
    · intro a ha b hb
      have hpa : p a = false := by simpa using (List.mem_filter.1 ha).2
      have hpb : p b = true := (List.mem_filter.1 hb).2
      exact Prod.Lex.toLex_le_toLex.2 (.inl (by rw [hpa, hpb]; exact Bool.false_lt_true))
  stable k := by
    -- Entries with key `k` agree on the condition, so they all come from one of the two parts.
    obtain ⟨⟨b, k⟩, rfl⟩ := toLex.surjective k
    have hsplit : ∀ zs : List α, zs.filter (fun a ↦ toLex (p a, key a) = toLex (b, k)) =
        (zs.filter (key · = k)).filter (p · == b) := by
      intro zs
      rw [List.filter_filter]
      exact List.filter_congr fun a _ ↦ by simp [Prod.ext_iff, Bool.beq_eq_decide_eq]
    have hparts : ∀ b : Bool, (ys.filter (fun a ↦ !p a) ++ ys.filter p).filter (p · == b) =
        ys.filter (p · == b) := by
      intro b
      rw [List.filter_append, List.filter_filter, List.filter_filter]
      cases b <;> simp
    rw [hsplit, hsplit, ← h.stable, List.filter_comm, hparts, List.filter_comm]

end IsStableSort

/-- **Merge sort is stable.** -/
theorem isStableSort_mergeSort (key : α → κ) (xs : List α) :
    IsStableSort key xs (xs.mergeSort fun a b ↦ decide (key a ≤ key b)) := by
  have htrans : ∀ a b c : α, decide (key a ≤ key b) = true → decide (key b ≤ key c) = true →
      decide (key a ≤ key c) = true := by simpa using fun a b c ↦ le_trans
  have htotal : ∀ a b : α, (decide (key a ≤ key b) || decide (key b ≤ key a)) = true := by
    simpa using fun a b ↦ le_total (key a) (key b)
  refine ⟨by simpa using List.pairwise_mergeSort htrans htotal xs, fun k ↦ ?_⟩
  -- The entries with key `k` are sorted as they stand, so they occur in the result in this order.
  have heq : (xs.filter (key · = k)).Pairwise fun a b ↦ decide (key a ≤ key b) = true := by
    refine List.pairwise_of_forall_mem_list fun a ha b hb ↦ ?_
    have hka : key a = k := by simpa using (List.mem_filter.1 ha).2
    have hkb : key b = k := by simpa using (List.mem_filter.1 hb).2
    simp [hka, hkb]
  have hsub := (List.sublist_mergeSort htrans htotal heq List.filter_sublist).filter (key · = k)
  rw [List.filter_filter] at hsub
  simp only [Bool.and_self] at hsub
  exact (hsub.eq_of_length ((List.mergeSort_perm xs _).filter _).length_eq.symm).symm

end Foreman
