import Foreman.Keyed

/-!
# Registers

A register is a finite map from names to values that carries the proof that its entries are in strictly
increasing key order. So a name occurs at most once, two registers with the same look-ups are equal
(`Register.ext_find?`), and listing the values needs no order of its own.
-/

namespace Foreman

/-- A finite map from names to values. -/
structure Register (α : Type) where
  entries : Keyed α
  sorted : entries.Sorted
deriving DecidableEq

namespace Register

variable {α β : Type}

/-- The register without entries. -/
def empty : Register α :=
  ⟨[], List.Pairwise.nil⟩

instance : Inhabited (Register α) := ⟨empty⟩

instance : EmptyCollection (Register α) := ⟨empty⟩

/-- The value under a name. -/
def find? (key : String) (r : Register α) : Option α :=
  Keyed.find? key r.entries

/-- Puts a value under a name. -/
def insert (key : String) (value : α) (r : Register α) : Register α :=
  ⟨Keyed.insert key value r.entries, Keyed.sorted_insert r.sorted⟩

/-- Replaces the value under a name by a function of what was there. -/
def alter (key : String) (f : Option α → α) (r : Register α) : Register α :=
  r.insert key (f (r.find? key))

/-- Reads a list of pairs; of two entries with one name the later stands. -/
def ofList (entries : List (String × α)) : Register α :=
  ⟨Keyed.ofList entries, Keyed.sorted_ofList entries⟩

/-- The entries in key order. -/
def toList (r : Register α) : List (String × α) :=
  r.entries

/-- The names in order. -/
def keys (r : Register α) : List String :=
  r.entries.map (·.1)

/-- The values in the order of their names. -/
def values (r : Register α) : List α :=
  r.entries.map (·.2)

/-- The number of entries. -/
def size (r : Register α) : Nat :=
  r.entries.length

/-- The sum of the values. -/
def total (r : Register Nat) : Nat :=
  r.values.foldr (· + ·) 0

/-- Whether there is a value under a name. -/
def contains (key : String) (r : Register α) : Bool :=
  (r.find? key).isSome

/-- Applies a function to every value, which may look at the name. -/
def map (f : String → α → β) (r : Register α) : Register β where
  entries := r.entries.map fun e ↦ (e.1, f e.1 e.2)
  sorted := by
    have := r.sorted
    simpa [Keyed.Sorted, List.pairwise_map] using this

/-! ### Look-ups -/

@[simp] theorem find?_empty (key : String) : find? key (∅ : Register α) = none := rfl

@[simp] theorem find?_insert_self (key : String) (value : α) (r : Register α) :
    (r.insert key value).find? key = some value :=
  Keyed.find?_insert_self key value r.entries

theorem find?_insert_of_ne {key other : String} (h : other ≠ key) (value : α) (r : Register α) :
    (r.insert key value).find? other = r.find? other :=
  Keyed.find?_insert_of_ne h value r.entries

theorem find?_insert (key other : String) (value : α) (r : Register α) :
    (r.insert key value).find? other = if other = key then some value else r.find? other := by
  split
  · next h => subst h; exact find?_insert_self ..
  · next h => exact find?_insert_of_ne h ..

theorem size_insert_of_find?_eq_none {key : String} {r : Register α} (h : r.find? key = none)
    (value : α) : (r.insert key value).size = r.size + 1 :=
  Keyed.length_insert_of_find?_eq_none h value

/-- A list of pairs with different names is read as it stands. -/
theorem find?_ofList_of_mem {entries : List (String × α)} (hnodup : (entries.map (·.1)).Nodup)
    {key : String} {value : α} (h : (key, value) ∈ entries) :
    (ofList entries).find? key = some value :=
  Keyed.find?_merge_of_mem hnodup h []

theorem find?_eq_some_iff_mem {key : String} {value : α} {r : Register α} :
    r.find? key = some value ↔ (key, value) ∈ r.entries := by
  obtain ⟨m, h⟩ := r
  show Keyed.find? key m = some value ↔ (key, value) ∈ m
  induction m with
  | nil => simp
  | cons e rest ih =>
    obtain ⟨k, v⟩ := e
    have hhead := (List.pairwise_cons.1 h).1
    have ih := ih (List.pairwise_cons.1 h).2
    simp only [Keyed.find?, List.mem_cons, Prod.mk.injEq]
    split
    · next hk =>
      subst hk
      constructor
      · intro heq; exact Or.inl ⟨rfl, (Option.some.inj heq).symm⟩
      · rintro (⟨-, rfl⟩ | hmem)
        · rfl
        · exact absurd (hhead _ hmem) (String.lt_irrefl _)
    · next hk =>
      rw [ih]
      constructor
      · exact Or.inr
      · rintro (⟨rfl, -⟩ | hmem)
        · exact absurd rfl hk
        · exact hmem

/-- **A register is determined by its look-ups.** -/
theorem ext_find? {r s : Register α} (h : ∀ key, r.find? key = s.find? key) : r = s := by
  have hmem : ∀ e, e ∈ r.entries ↔ e ∈ s.entries := fun e ↦ by
    rw [← find?_eq_some_iff_mem (r := r), ← find?_eq_some_iff_mem (r := s), h]
  have nodup (t : Register α) : t.entries.Nodup := by
    refine List.Pairwise.imp (R := fun a b : String × α ↦ a.1 < b.1) ?_ t.sorted
    rintro a b hlt rfl
    exact String.lt_irrefl _ hlt
  have hperm : r.entries.Perm s.entries := (List.perm_ext_iff_of_nodup (nodup r) (nodup s)).2 hmem
  have heq : r.entries = s.entries :=
    List.Perm.eq_of_pairwise
      (fun _ _ _ _ hab hba ↦ absurd (String.lt_trans hab hba) (String.lt_irrefl _))
      (show List.Pairwise (fun a b : String × α ↦ a.1 < b.1) r.entries from r.sorted) s.sorted hperm
  cases r; cases s; cases heq; rfl

theorem find?_alter (key other : String) (f : Option α → α) (r : Register α) :
    (r.alter key f).find? other = if other = key then some (f (r.find? key)) else r.find? other :=
  find?_insert ..

/-- **Two changes commute** when they are made under different names, or when what they do commutes. -/
theorem alter_comm {key key' : String} {f g : Option α → α}
    (h : key = key' → ∀ v, g (some (f v)) = f (some (g v))) (r : Register α) :
    (r.alter key f).alter key' g = (r.alter key' g).alter key f := by
  refine ext_find? fun other ↦ ?_
  simp only [find?_alter]
  by_cases hkey : key = key'
  · subst hkey
    simp only [if_true, h rfl]
    split <;> rfl
  · rw [if_neg hkey, if_neg (Ne.symm hkey)]
    by_cases hother : other = key'
    · have hne : other ≠ key := fun heq ↦ hkey (heq.symm.trans hother)
      simp only [if_pos hother, if_neg hne]
    · simp only [if_neg hother]

/-- A list of pairs with different names is kept entry by entry. -/
theorem perm_toList_ofList {entries : List (String × α)} (hnodup : (entries.map (·.1)).Nodup) :
    (ofList entries).toList.Perm entries := by
  have hmerge := Keyed.perm_merge (m := []) hnodup fun _ _ ↦ rfl
  rwa [List.append_nil] at hmerge

/-- So the order of the list does not matter. -/
theorem ofList_perm {entries entries' : List (String × α)} (hnodup : (entries.map (·.1)).Nodup)
    (h : entries.Perm entries') : ofList entries = ofList entries' := by
  have hnodup' := (h.map (·.1)).nodup_iff.1 hnodup
  refine ext_find? fun key ↦ Option.ext fun value ↦ ?_
  rw [find?_eq_some_iff_mem, find?_eq_some_iff_mem]
  exact ((perm_toList_ofList hnodup).trans (h.trans (perm_toList_ofList hnodup').symm)).mem_iff

/-- Of two values put under one name the later stands. -/
@[simp] theorem insert_insert (key : String) (value value' : α) (r : Register α) :
    (r.insert key value).insert key value' = r.insert key value' :=
  ext_find? fun other ↦ by
    simp only [find?_insert]
    split <;> rfl

/-! ### Counting -/

/-- How often each name occurs in a list. -/
def tally (names : List String) : Register Nat :=
  names.foldl (fun r name ↦ r.alter name fun n ↦ n.getD 0 + 1) ∅

theorem find?_foldl_tally (names : List String) (r : Register Nat) (key : String) :
    ((names.foldl (fun r name ↦ r.alter name fun n ↦ n.getD 0 + 1) r).find? key).getD 0
      = (r.find? key).getD 0 + names.count key := by
  induction names generalizing r with
  | nil => simp
  | cons name names ih =>
    rw [List.foldl_cons, ih, alter, find?_insert, List.count_cons]
    by_cases h : key = name
    · subst h; simp; omega
    · simp [h, Ne.symm h]

/-- A tally counts. -/
theorem find?_tally (names : List String) (key : String) :
    ((tally names).find? key).getD 0 = names.count key := by
  simp [tally, find?_foldl_tally]

theorem mem_keys {r : Register α} {key : String} :
    key ∈ r.keys ↔ ∃ value, r.find? key = some value := by
  simp only [keys, List.mem_map, find?_eq_some_iff_mem]
  exact ⟨fun ⟨⟨_, value⟩, h, heq⟩ ↦ ⟨value, heq ▸ h⟩, fun ⟨value, h⟩ ↦ ⟨(key, value), h, rfl⟩⟩

theorem mem_values {r : Register α} {value : α} :
    value ∈ r.values ↔ ∃ key, r.find? key = some value := by
  simp only [values, List.mem_map, find?_eq_some_iff_mem]
  exact ⟨fun ⟨⟨key, _⟩, h, heq⟩ ↦ ⟨key, heq ▸ h⟩, fun ⟨key, h⟩ ↦ ⟨(key, value), h, rfl⟩⟩

@[simp] theorem keys_map (f : String → α → β) (r : Register α) : (r.map f).keys = r.keys := by
  simp [keys, map]

theorem mem_keys_ofList {entries : List (String × α)} {key : String} :
    key ∈ (ofList entries).keys ↔ key ∈ entries.map (·.1) :=
  Keyed.mem_keys_merge.trans (by rw [List.map_nil, or_iff_right List.not_mem_nil])

theorem nodup_keys (r : Register α) : r.keys.Nodup := by
  refine List.pairwise_map.2 (r.sorted.imp ?_)
  intro a b hlt heq
  exact String.lt_irrefl _ (heq ▸ hlt)

/-- A tally has an entry for every name that occurs, and no other. -/
theorem mem_keys_tally {names : List String} {key : String} :
    key ∈ (tally names).keys ↔ key ∈ names := by
  have hfold (r : Register Nat) :
      key ∈ (names.foldl (fun r name ↦ r.alter name fun n ↦ n.getD 0 + 1) r).keys ↔
        key ∈ r.keys ∨ key ∈ names := by
    induction names generalizing r with
    | nil => simp
    | cons name names ih =>
      rw [List.foldl_cons, ih, List.mem_cons, ← or_assoc]
      refine or_congr_left ?_
      rw [mem_keys, mem_keys, alter]
      simp only [find?_insert]
      split
      · next h => simp [h]
      · next h => simp [h]
  rw [tally, hfold]
  simp [keys, show (∅ : Register Nat).entries = [] from rfl]

/-- The order in which names are counted does not matter. -/
theorem tally_perm {names names' : List String} (h : names.Perm names') :
    tally names = tally names' :=
  h.foldl_eq' (fun _ _ _ _ r ↦ alter_comm (fun _ _ ↦ rfl) r) ∅

/-- Putting a value in the place of another changes the sum by the difference. -/
theorem total_insert (key : String) (n : Nat) (r : Register Nat) :
    (r.insert key n).total + (r.find? key).getD 0 = r.total + n := by
  obtain ⟨entries, hsorted⟩ := r
  show ((Keyed.insert key n entries).map (·.2)).foldr (· + ·) 0 + (Keyed.find? key entries).getD 0 =
    (entries.map (·.2)).foldr (· + ·) 0 + n
  induction entries with
  | nil => simp [Keyed.insert, Keyed.find?]
  | cons e rest ih =>
    obtain ⟨k, v⟩ := e
    obtain ⟨hhead, hrest⟩ := List.pairwise_cons.1 hsorted
    simp only [Keyed.insert, Keyed.find?]
    split
    · simp; omega
    · split
      · next hlt =>
        -- All names behind are greater, so nothing is replaced.
        have hnone : Keyed.find? key rest = none := by
          refine Option.eq_none_iff_forall_ne_some.2 fun m hm ↦ ?_
          have hmem := (find?_eq_some_iff_mem (r := ⟨rest, hrest⟩)).1 hm
          exact String.lt_irrefl _ (String.lt_trans hlt (hhead _ hmem))
        simp only [hnone, List.map_cons, List.foldr_cons, Option.getD_none]
        omega
      · have hinsert := ih hrest
        simp only [List.map_cons, List.foldr_cons]
        omega

/-- **The sum of a tally is the number of names.** -/
theorem total_tally (names : List String) : (tally names).total = names.length := by
  have hfold (r : Register Nat) :
      (names.foldl (fun r name ↦ r.alter name fun n ↦ n.getD 0 + 1) r).total =
        r.total + names.length := by
    induction names generalizing r with
    | nil => rfl
    | cons name names ih =>
      have hinsert := total_insert name ((r.find? name).getD 0 + 1) r
      rw [List.foldl_cons, ih, alter, List.length_cons]
      omega
  rw [tally, hfold]
  exact Nat.zero_add _

end Register

end Foreman
