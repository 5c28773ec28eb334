import TraitDocs.Proofs.Assertion.Absorption

/-!
# The result of pairing

Pairing leaves the names that are not absorbed, in ascending order, each with the record that it has
in the end. Whatever a visit looks up it finds: `visit?` is a visit that has no result where a name
is missing, and `MergedUpTo.foldlM_visit?` says that all visits have one.

Where no name has its positive name beside it, pairing does no more than sort the names. What
pairing leaves is such a class, in order already, so pairing twice is pairing once.
-/

set_option autoImplicit false

namespace TraitDocs.Assertion

/-! ## No name is missed -/

/-- Files the method under `name` as the opposite of the one under `positive`, if both are there. -/
def fileUnder? (methods : OrderedMap String MethodRecord) (positive name : String) :
    Option (OrderedMap String MethodRecord) := do
  let target ← methods.get? positive
  let inverse ← methods.get? name
  return (methods.erase name).insert positive (target.withInverse inverse)

/-- A visit that makes sure of the positive name alone and has no result if the name is missing. -/
def visit? (methods : OrderedMap String MethodRecord) (name : String) :
    Option (OrderedMap String MethodRecord) :=
  match positiveName? name with
  | none => some methods
  | some positive =>
    if methods.contains positive then fileUnder? methods positive name else some methods

/-- A visit to a name that is there has a result, and files the name as pairing does. -/
theorem visit?_of_mem_keys {methods : OrderedMap String MethodRecord} {name : String}
    (hname : name ∈ methods.keys) : visit? methods name = some (absorb methods name) := by
  obtain ⟨inverse, hinverse⟩ := OrderedMap.exists_get?_of_mem_keys hname
  unfold visit? absorb
  cases positiveName? name with
  | none => rfl
  | some positive =>
    cases htarget : methods.get? positive with
    | none => simp [OrderedMap.contains, htarget]
    | some target => simp [OrderedMap.contains, fileUnder?, htarget, hinverse]

/-- The remaining visits all have a result: each name is still there when its turn comes. -/
theorem MergedUpTo.foldlM_visit? {methods current : OrderedMap String MethodRecord}
    {visited rest : List String} (hasc : methods.keys.Pairwise (· < ·))
    (hkeys : methods.keys = visited ++ rest) (h : MergedUpTo methods visited current) :
    rest.foldlM visit? current = some (rest.foldl absorb current) := by
  -- On the names to come: what was visited before files away none of them.
  induction rest generalizing visited current with
  | nil => rfl
  | cons name rest ih =>
    have hkeys' : methods.keys = (visited ++ [name]) ++ rest := by simpa using hkeys
    have hvisit := visit?_of_mem_keys (self_mem_keys hasc hkeys h)
    rw [List.foldlM_cons, hvisit, List.foldl_cons]
    exact ih hkeys' (step hasc hkeys h)

/-- Pairing leaves the names that are not absorbed, in ascending order, and under each the record
that it has in the end. No visit misses a name that it looks up. -/
theorem mergeNegatives_leaves_filed (methods : OrderedMap String MethodRecord) :
    (mergeNegatives methods).keys.Pairwise (· < ·) ∧
    (∀ k, k ∈ (mergeNegatives methods).keys ↔
      k ∈ methods.keys ∧ absorbed methods.keys k = false) ∧
    (∀ k ∈ (mergeNegatives methods).keys,
      (mergeNegatives methods).get? k = filed methods k) ∧
    methods.sorted.keys.foldlM visit? methods.sorted = some (mergeNegatives methods) := by
  refine ⟨keys_mergeNegatives_pairwise methods, fun k => mem_keys_mergeNegatives_iff,
    fun k hk => get?_mergeNegatives hk, ?_⟩
  exact MergedUpTo.foldlM_visit? (OrderedMap.sorted_keys_pairwise methods)
    (List.nil_append _).symm (MergedUpTo.start methods.sorted)

/-! ## What pairing leaves as it is -/

/-- Tells that no name of the class has its positive name beside it. -/
def Separate (keys : List String) : Prop :=
  ∀ k ∈ keys, ∀ positive, positiveName? k = some positive → positive ∉ keys

/-- Among separate names none is absorbed. -/
theorem absorbed_of_separate {keys : List String} (h : Separate keys) (name : String) :
    absorbed keys name = false := by
  rw [← Bool.not_eq_true, absorbed_iff]
  rintro ⟨hname, positive, hp, hpositive, -⟩
  exact h name hname positive hp hpositive

/-- Among separate names, every name keeps its own record. -/
theorem filed_of_separate {methods : OrderedMap String MethodRecord} (h : Separate methods.keys)
    (name : String) : filed methods name = methods.get? name := by
  have hnone : oppositeAmong? methods.keys methods.keys name = none := by
    simp [oppositeAmong?, absorbed_of_separate h]
  rw [filed_eq_filedAmong, filedAmong, hnone]
  exact Option.bind_fun_some _

/-- A name is left because its positive name is not there or is absorbed, and in neither case is
that name left too. -/
theorem separate_mergeNegatives (methods : OrderedMap String MethodRecord) :
    Separate (mergeNegatives methods).keys := by
  intro k hk positive hp hpositive
  obtain ⟨hk, hleft⟩ := mem_keys_mergeNegatives_iff.mp hk
  obtain ⟨hpositive, hpositiveLeft⟩ := mem_keys_mergeNegatives_iff.mp hpositive
  have habsorbed : absorbed methods.keys k = true := by
    refine absorbed_iff.mpr ⟨hk, positive, hp, hpositive, ?_⟩
    rintro ⟨-, hless⟩
    rw [hpositiveLeft] at hless
    cases hless
  rw [hleft] at habsorbed
  cases habsorbed

/-- Where no name has its positive name beside it, pairing does no more than sort the names. -/
theorem mergeNegatives_of_separate {methods : OrderedMap String MethodRecord}
    (h : Separate methods.keys) : mergeNegatives methods = methods.sorted := by
  have hkeys : (mergeNegatives methods).keys = methods.sorted.keys := by
    rw [keys_mergeNegatives, List.filter_eq_self]
    simp [absorbed_of_separate h]
  have hasc := OrderedMap.sorted_keys_pairwise methods
  refine OrderedMap.eq_of_ascending (hkeys ▸ hasc) hasc fun k => ?_
  by_cases hk : k ∈ methods.sorted.keys
  · rw [get?_mergeNegatives (hkeys ▸ hk), filed_of_separate h, OrderedMap.get?_sorted]
  · rw [OrderedMap.get?_eq_none_iff.mpr hk, OrderedMap.get?_eq_none_iff, hkeys]
    exact hk

/-- Pairing twice is pairing once: of the names that are left, none has its positive name beside it,
and so the second time none is filed away. -/
theorem mergeNegatives_idempotent (methods : OrderedMap String MethodRecord) :
    (∀ k ∈ (mergeNegatives methods).keys, ∀ positive, positiveName? k = some positive →
      positive ∉ (mergeNegatives methods).keys) ∧
    mergeNegatives (mergeNegatives methods) = mergeNegatives methods := by
  have hseparate := separate_mergeNegatives methods
  refine ⟨hseparate, ?_⟩
  rw [mergeNegatives_of_separate hseparate,
    OrderedMap.sorted_eq_self (keys_mergeNegatives_pairwise methods)]

end TraitDocs.Assertion
