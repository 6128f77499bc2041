/-!
# Name-keyed lists

A finite map from names to values is a list of pairs in strictly increasing key order. The order is
what every printed map shows, so the representation is also the presentation.

This file works on bare lists: the two operations `find?` and `insert` satisfy their equations on
*every* list, sorted or not (`find?_insert_self`, `find?_insert_of_ne`), which is what lets a JSON
object carry its members without a proof. That insertion keeps the order is `sorted_insert`;
`Foreman.Register` packages the order with the list.
-/

namespace Foreman

/-- A list of named values. -/
abbrev Keyed (α : Type) := List (String × α)

namespace Keyed

variable {α β : Type}

/-- The value at the first entry of that name. -/
def find? (key : String) : Keyed α → Option α
  | [] => none
  | (k, v) :: rest => if k = key then some v else find? key rest

/-- Puts a value under a name, replacing the one there or keeping the keys in order. -/
def insert (key : String) (value : α) : Keyed α → Keyed α
  | [] => [(key, value)]
  | (k, v) :: rest =>
    if k = key then (key, value) :: rest
    else if key < k then (key, value) :: (k, v) :: rest
    else (k, v) :: insert key value rest

/-- Whether some entry has that name. -/
def contains (key : String) (m : Keyed α) : Bool :=
  (find? key m).isSome

/-- Inserts the entries of the second map into the first, in order. -/
def merge (m extra : Keyed α) : Keyed α :=
  extra.foldl (fun acc e ↦ insert e.1 e.2 acc) m

/-- Reads a list of pairs as a map; of two entries with one name the later stands. -/
def ofList (entries : List (String × α)) : Keyed α :=
  merge [] entries

/-- The keys are strictly increasing. -/
def Sorted (m : Keyed α) : Prop :=
  m.Pairwise fun a b ↦ a.1 < b.1

/-! ### What a look-up sees -/

@[simp] theorem find?_nil (key : String) : find? key ([] : Keyed α) = none := rfl

@[simp] theorem find?_insert_self (key : String) (value : α) (m : Keyed α) :
    find? key (insert key value m) = some value := by
  induction m with
  | nil => simp [insert, find?]
  | cons e rest ih =>
    obtain ⟨k, v⟩ := e
    simp only [insert]
    split
    · simp [find?]
    · split
      · simp [find?]
      · simp [find?, *]

theorem find?_insert_of_ne {key other : String} (h : other ≠ key) (value : α) (m : Keyed α) :
    find? other (insert key value m) = find? other m := by
  induction m with
  | nil => simp [insert, find?, Ne.symm h]
  | cons e rest ih =>
    obtain ⟨k, v⟩ := e
    simp only [insert]
    split
    · next hk => subst hk; simp [find?, Ne.symm h]
    · split
      · simp [find?, Ne.symm h]
      · simp [find?, ih]

theorem find?_merge_of_not_mem {key : String} {extra : Keyed α} (h : key ∉ extra.map (·.1))
    (m : Keyed α) : find? key (merge m extra) = find? key m := by
  unfold merge
  induction extra generalizing m with
  | nil => rfl
  | cons e rest ih =>
    simp only [List.map_cons, List.mem_cons, not_or] at h
    rw [List.foldl_cons, ih h.2, find?_insert_of_ne h.1]

/-- A list of pairs with different names is read as it stands. -/
theorem find?_merge_of_mem {key : String} {value : α} {extra : Keyed α}
    (hnodup : (extra.map (·.1)).Nodup) (h : (key, value) ∈ extra) (m : Keyed α) :
    find? key (merge m extra) = some value := by
  induction extra generalizing m with
  | nil => cases h
  | cons e rest ih =>
    rw [List.map_cons, List.nodup_cons] at hnodup
    change find? key (merge (insert e.1 e.2 m) rest) = some value
    rcases List.mem_cons.1 h with rfl | h
    · rw [find?_merge_of_not_mem hnodup.1, find?_insert_self]
    · exact ih hnodup.2 h _

/-- A value under a new name is one entry more. -/
theorem length_insert_of_find?_eq_none {key : String} {m : Keyed α} (h : find? key m = none)
    (value : α) : (insert key value m).length = m.length + 1 := by
  induction m with
  | nil => rfl
  | cons e rest ih =>
    obtain ⟨k, v⟩ := e
    simp only [find?] at h
    simp only [insert]
    split at h
    · cases h
    · next hk =>
      rw [if_neg hk]
      split
      · rfl
      · simp [ih h]

/-! ### Entries -/

/-- A value under a new name is one more entry. -/
theorem perm_insert_of_find?_eq_none {key : String} {m : Keyed α} (h : find? key m = none)
    (value : α) : (insert key value m).Perm ((key, value) :: m) := by
  induction m with
  | nil => exact .refl _
  | cons e rest ih =>
    obtain ⟨k, v⟩ := e
    simp only [find?] at h
    simp only [insert]
    split at h
    · cases h
    · next hk =>
      rw [if_neg hk]
      split
      · exact .refl _
      · exact ((ih h).cons _).trans (.swap ..)

/-- Entries with new and different names are added as they are. -/
theorem perm_merge {m extra : Keyed α} (hnodup : (extra.map (·.1)).Nodup)
    (hnew : ∀ e ∈ extra, find? e.1 m = none) : (merge m extra).Perm (extra ++ m) := by
  induction extra generalizing m with
  | nil => exact .refl _
  | cons e rest ih =>
    rw [List.map_cons, List.nodup_cons] at hnodup
    have hrest : ∀ e' ∈ rest, find? e'.1 (insert e.1 e.2 m) = none := fun e' he' ↦ by
      have hne : e'.1 ≠ e.1 := fun heq ↦ hnodup.1 (heq ▸ List.mem_map_of_mem he')
      rw [find?_insert_of_ne hne]
      exact hnew e' (List.mem_cons_of_mem _ he')
    have hinsert := perm_insert_of_find?_eq_none (hnew e List.mem_cons_self) e.2
    exact ((ih hnodup.2 hrest).trans (hinsert.append_left rest)).trans List.perm_middle

/-! ### Order -/

theorem mem_keys_insert {key other : String} {value : α} {m : Keyed α} :
    other ∈ (insert key value m).map (·.1) ↔ other = key ∨ other ∈ m.map (·.1) := by
  induction m with
  | nil => simp [insert]
  | cons e rest ih =>
    obtain ⟨k, v⟩ := e
    simp only [insert]
    split
    · next hk => subst hk; simp
    · split
      · simp
      · simp only [List.map_cons, List.mem_cons, ih]
        constructor <;> (intro h; rcases h with h | h | h <;> simp [h])

theorem mem_keys_merge {key : String} {m extra : Keyed α} :
    key ∈ (merge m extra).map (·.1) ↔ key ∈ m.map (·.1) ∨ key ∈ extra.map (·.1) := by
  induction extra generalizing m with
  | nil => simp [merge]
  | cons e rest ih =>
    change key ∈ (merge (insert e.1 e.2 m) rest).map (·.1) ↔ _
    rw [ih, mem_keys_insert, List.map_cons, List.mem_cons, or_assoc, or_left_comm]

/-- **Insertion keeps the keys in order.** -/
theorem sorted_insert {key : String} {value : α} {m : Keyed α} (h : Sorted m) :
    Sorted (insert key value m) := by
  induction m with
  | nil => simp [insert, Sorted]
  | cons e rest ih =>
    obtain ⟨k, v⟩ := e
    have hrest : Sorted rest := (List.pairwise_cons.1 h).2
    have hhead : ∀ e ∈ rest, k < e.1 := fun e he ↦ (List.pairwise_cons.1 h).1 e he
    simp only [insert]
    split
    · next hk => subst hk; exact List.pairwise_cons.2 ⟨hhead, hrest⟩
    · next hne =>
      split
      · next hlt =>
        refine List.pairwise_cons.2 ⟨fun e he ↦ ?_, h⟩
        rcases List.mem_cons.1 he with rfl | he
        · exact hlt
        · exact String.lt_trans hlt (hhead e he)
      · next hlt =>
        refine List.pairwise_cons.2 ⟨fun e he ↦ ?_, ih hrest⟩
        have hmem : e.1 ∈ (insert key value rest).map (·.1) := List.mem_map_of_mem he
        rcases mem_keys_insert.1 hmem with heq | hmem
        · have hle : k ≤ key := String.not_lt.1 hlt
          exact heq ▸ (Std.lt_of_le_of_ne hle hne)
        · obtain ⟨e', he', heq⟩ := List.mem_map.1 hmem
          exact heq ▸ hhead e' he'

theorem sorted_merge {m extra : Keyed α} (h : Sorted m) : Sorted (merge m extra) := by
  unfold merge
  induction extra generalizing m with
  | nil => exact h
  | cons e rest ih => exact ih (sorted_insert h)

theorem sorted_ofList (entries : List (String × α)) : Sorted (ofList entries) :=
  sorted_merge List.Pairwise.nil

end Keyed

end Foreman
