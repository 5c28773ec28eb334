import TraitDocs.OrderedMap

/-!
# Laws of ordered maps

What each operation does to the two views of a map, its keys and the value of a key. Inserting
changes one value and keeps the keys, or adds one at the end; erasing removes one key; sorting
permutes the entries into ascending order.
-/

set_option autoImplicit false

namespace TraitDocs.OrderedMap

variable {κ ν : Type}

/-- The empty map has no keys. -/
@[simp]
theorem keys_empty : (empty : OrderedMap κ ν).keys = [] :=
  rfl

/-- No entry stands twice. -/
theorem entries_nodup (m : OrderedMap κ ν) : m.entries.Nodup :=
  List.Pairwise.of_map Prod.fst (fun _ _ hne heq => hne (congrArg Prod.fst heq)) m.nodup_keys

section Lookup

variable [DecidableEq κ]

/-- Nothing is found in the empty map. -/
@[simp]
theorem get?_empty (k : κ) : (empty : OrderedMap κ ν).get? k = none :=
  rfl

/-- A key has no value exactly if it does not stand in the list. -/
theorem lookup_eq_none_iff {k : κ} {es : List (κ × ν)} :
    lookup k es = none ↔ k ∉ es.map Prod.fst := by
  induction es with
  | nil => simp [lookup]
  | cons e es ih =>
    obtain ⟨k', v⟩ := e
    by_cases h : k' = k
    · simp [lookup, h]
    · have h' : k ≠ k' := fun he => h he.symm
      simp [lookup, h, h', ih]

/-- In a list without a repeated key, a key has the value that stands beside it. -/
theorem lookup_eq_some_iff {k : κ} {v : ν} {es : List (κ × ν)} (h : (es.map Prod.fst).Nodup) :
    lookup k es = some v ↔ (k, v) ∈ es := by
  induction es with
  | nil => simp [lookup]
  | cons e es ih =>
    obtain ⟨k', v'⟩ := e
    rw [List.map_cons, List.nodup_cons] at h
    by_cases hk : k' = k
    · subst hk
      have hv : (k', v) ∉ es := fun hm => h.1 (List.mem_map.mpr ⟨(k', v), hm, rfl⟩)
      simp [lookup, hv, eq_comm]
    · have hk' : k ≠ k' := fun he => hk he.symm
      simp [lookup, hk, hk', ih h.2]

/-- After a value is put under a key, it is found there, and other keys are as before. -/
theorem lookup_put (k k' : κ) (v : ν) (es : List (κ × ν)) :
    lookup k' (put k v es) = if k = k' then some v else lookup k' es := by
  induction es with
  | nil => simp [put, lookup]
  | cons e es ih =>
    obtain ⟨k₀, v₀⟩ := e
    by_cases h₀ : k₀ = k
    · subst h₀
      by_cases h : k₀ = k' <;> simp [put, lookup, h]
    · by_cases h : k₀ = k'
      · subst h
        have hk : k ≠ k₀ := fun he => h₀ he.symm
        simp [put, lookup, h₀, hk]
      · simp [put, lookup, h₀, h, ih]

/-- The value of a key after an insertion. -/
@[simp]
theorem get?_insert (m : OrderedMap κ ν) (k k' : κ) (v : ν) :
    (m.insert k v).get? k' = if k = k' then some v else m.get? k' :=
  lookup_put k k' v m.entries

/-- The keys after an insertion. -/
theorem keys_insert (m : OrderedMap κ ν) (k : κ) (v : ν) :
    (m.insert k v).keys = if k ∈ m.keys then m.keys else m.keys ++ [k] :=
  map_fst_put k v m.entries

/-- Putting the value that a key has changes nothing. -/
theorem put_eq_self {k : κ} {v : ν} {es : List (κ × ν)} (h : lookup k es = some v) :
    put k v es = es := by
  induction es with
  | nil => cases h
  | cons e es ih =>
    obtain ⟨k', v'⟩ := e
    rw [lookup] at h
    by_cases hk : k' = k
    · rw [if_pos hk] at h
      rw [put, if_pos hk, hk, Option.some.inj h]
    · rw [if_neg hk] at h
      rw [put, if_neg hk, ih h]

/-- Giving a key the value that it has changes nothing. -/
theorem insert_eq_self {m : OrderedMap κ ν} {k : κ} {v : ν} (h : m.get? k = some v) :
    m.insert k v = m :=
  ext (put_eq_self h)

/-- The keys after an insertion are those before it and the key that is given. -/
theorem mem_keys_insert {m : OrderedMap κ ν} {k k' : κ} {v : ν} :
    k' ∈ (m.insert k v).keys ↔ k' = k ∨ k' ∈ m.keys := by
  rw [keys_insert]
  split
  · constructor
    · exact Or.inr
    · rintro (rfl | h) <;> assumption
  · simp [or_comm]

/-- Nothing is found under exactly those keys that a map does not have. -/
theorem get?_eq_none_iff {m : OrderedMap κ ν} {k : κ} : m.get? k = none ↔ k ∉ m.keys :=
  lookup_eq_none_iff

/-- What is found under a key is what the entry with that key holds. -/
theorem get?_eq_some_iff {m : OrderedMap κ ν} {k : κ} {v : ν} :
    m.get? k = some v ↔ (k, v) ∈ m.entries :=
  lookup_eq_some_iff m.nodup_keys

/-- A key under which something is found is a key of the map. -/
theorem mem_keys_of_get? {m : OrderedMap κ ν} {k : κ} {v : ν} (h : m.get? k = some v) :
    k ∈ m.keys :=
  List.mem_map.mpr ⟨(k, v), get?_eq_some_iff.mp h, rfl⟩

/-- Something is found under every key of the map. -/
theorem exists_get?_of_mem_keys {m : OrderedMap κ ν} {k : κ} (h : k ∈ m.keys) :
    ∃ v, m.get? k = some v := by
  obtain ⟨⟨k', v⟩, hv, rfl⟩ := List.mem_map.mp h
  exact ⟨v, get?_eq_some_iff.mpr hv⟩

/-- The test for a key tells whether the map has it. -/
theorem contains_iff {m : OrderedMap κ ν} {k : κ} : m.contains k = true ↔ k ∈ m.keys := by
  rw [contains, Option.isSome_iff_ne_none, ne_eq, get?_eq_none_iff, Decidable.not_not]

/-- The keys after a key is taken out. -/
theorem keys_erase (m : OrderedMap κ ν) (k : κ) :
    (m.erase k).keys = m.keys.filter fun k' => decide (k' ≠ k) := by
  simp only [keys, erase, filter, List.filter_map]
  rfl

/-- The value of a key after another, or the same, is taken out. -/
theorem get?_erase (m : OrderedMap κ ν) (k k' : κ) :
    (m.erase k).get? k' = if k = k' then none else m.get? k' := by
  split
  · rename_i h
    rw [get?_eq_none_iff, keys_erase]
    simp [h]
  · rename_i h
    apply Option.ext
    intro v
    rw [get?_eq_some_iff, get?_eq_some_iff]
    have h' : k' ≠ k := fun he => h he.symm
    simp [erase, filter, h']

end Lookup

/-- Sorting keeps the entries. -/
theorem sorted_perm (m : OrderedMap String ν) : m.sorted.entries.Perm m.entries :=
  List.mergeSort_perm _ _

/-- Sorting keeps the keys. -/
theorem mem_keys_sorted {m : OrderedMap String ν} {k : String} : k ∈ m.sorted.keys ↔ k ∈ m.keys :=
  ((sorted_perm m).map Prod.fst).mem_iff

/-- Sorting keeps what is found under each key. -/
theorem get?_sorted (m : OrderedMap String ν) (k : String) : m.sorted.get? k = m.get? k := by
  apply Option.ext
  intro v
  rw [get?_eq_some_iff, get?_eq_some_iff]
  exact (sorted_perm m).mem_iff

/-- The keys of a sorted map ascend. -/
theorem sorted_keys_pairwise (m : OrderedMap String ν) :
    m.sorted.keys.Pairwise fun a b => a < b := by
  have hle : m.sorted.entries.Pairwise fun a b => decide (a.1 ≤ b.1) = true :=
    List.pairwise_mergeSort
      (fun a b c hab hbc => by
        simp only [decide_eq_true_eq] at hab hbc ⊢
        exact String.le_trans hab hbc)
      (fun a b => by simpa using String.le_total a.1 b.1) m.entries
  have hne : m.sorted.entries.Pairwise fun a b => a.1 ≠ b.1 :=
    List.pairwise_map.mp m.sorted.nodup_keys
  rw [keys, List.pairwise_map]
  refine (hle.and hne).imp ?_
  rintro a b ⟨hab, hab'⟩
  have hab : a.1 ≤ b.1 := by simpa using hab
  refine Decidable.byContradiction fun hlt => hab' ?_
  exact String.le_antisymm hab (String.not_lt.mp hlt)

/-- Maps with the same keys in any order have the same keys in ascending order. -/
theorem keys_sorted_congr {ν' : Type} {m : OrderedMap String ν} {n : OrderedMap String ν'}
    (h : ∀ k, k ∈ m.keys ↔ k ∈ n.keys) : m.sorted.keys = n.sorted.keys := by
  have hperm : m.sorted.keys.Perm n.sorted.keys := by
    rw [List.perm_ext_iff_of_nodup m.sorted.keys_nodup n.sorted.keys_nodup]
    intro k
    rw [mem_keys_sorted, mem_keys_sorted, h k]
  refine hperm.eq_of_pairwise ?_ m.sorted_keys_pairwise n.sorted_keys_pairwise
  intro a b _ _ hab hba
  exact absurd hba (String.lt_asymm hab)

/-- A map whose keys ascend is given by the values of its keys. -/
theorem eq_of_ascending {m n : OrderedMap String ν} (hm : m.keys.Pairwise fun a b => a < b)
    (hn : n.keys.Pairwise fun a b => a < b) (h : ∀ k, m.get? k = n.get? k) : m = n := by
  have hperm : m.entries.Perm n.entries := by
    rw [List.perm_ext_iff_of_nodup m.entries_nodup n.entries_nodup]
    rintro ⟨k, v⟩
    rw [← get?_eq_some_iff, ← get?_eq_some_iff, h k]
  rw [keys, List.pairwise_map] at hm hn
  refine ext (hperm.eq_of_pairwise ?_ hm hn)
  intro a b _ _ hab hba
  exact absurd hba (String.lt_asymm hab)

/-- Maps with the same value under each key have the same sorted form. -/
theorem sorted_congr {m n : OrderedMap String ν} (h : ∀ k, m.get? k = n.get? k) :
    m.sorted = n.sorted := by
  refine eq_of_ascending m.sorted_keys_pairwise n.sorted_keys_pairwise fun k => ?_
  rw [get?_sorted, get?_sorted, h k]

/-- A map whose keys ascend is its own sorted form. -/
theorem sorted_eq_self {m : OrderedMap String ν} (h : m.keys.Pairwise fun a b => a < b) :
    m.sorted = m := by
  apply ext
  apply List.mergeSort_of_pairwise
  rw [keys, List.pairwise_map] at h
  refine h.imp ?_
  intro a b hab
  simpa using Std.le_of_lt hab

end TraitDocs.OrderedMap
