import TraitDocs.Assertion
import TraitDocs.Proofs.Text.Search

/-!
# The positive name of an assertion

Whether a name is negative is asked of what follows the stem, but the first `Not` is left out of the
whole name. Both look at the same place: the stem does not have the letter that `Not` starts with,
so no occurrence starts before the rest of the name (`splitFirst_stem_append`).

`FirstNegation` says where that place is without a search, and `positiveName?_eq_some_iff` that the
positive name is what stands around it.
-/

set_option autoImplicit false

namespace TraitDocs.Assertion

/-- Tells that a name is an assertion and that its first `Not` after the stem stands between these
two parts. -/
structure FirstNegation (name before after : String) : Prop where
  name_eq : name = stem ++ before ++ negation ++ after
  first : ¬ negation.toList <:+: before.toList

/-! ## The two searches -/

/-- The negation by its characters, the first of which does not come again. -/
theorem negation_toList : negation.toList = 'N' :: ['o', 't'] := by
  decide

/-- A search of the whole name finds what a search after the stem finds. -/
theorem splitFirst_stem_append (rest : List Char) :
    Text.splitFirst negation.toList (stem.toList ++ rest) =
      (Text.splitFirst negation.toList rest).map fun parts =>
        (stem.toList ++ parts.1, parts.2) := by
  have hstem : 'N' ∉ stem.toList := by decide
  rw [negation_toList]
  exact Text.splitFirst_append_of_not_mem hstem _ rest

/-- A text is split at the negation exactly where the text before it does not have the negation. -/
theorem splitFirst_negation_eq_some_iff {rest before after : List Char} :
    Text.splitFirst negation.toList rest = some (before, after) ↔
      rest = before ++ (negation.toList ++ after) ∧ ¬ negation.toList <:+: before := by
  rw [negation_toList]
  exact Text.splitFirst_eq_some_iff (by decide)

/-- The rest of a name whose first `Not` is given is cut around it. -/
theorem firstNegation_iff {name before after : String} :
    FirstNegation name before after ↔ ∃ rest, name = stem ++ rest ∧
      Text.splitFirst negation.toList rest.toList = some (before.toList, after.toList) := by
  constructor
  · intro h
    refine ⟨before ++ negation ++ after, ?_, ?_⟩
    · rw [h.name_eq, String.append_assoc, String.append_assoc, String.append_assoc]
    · rw [splitFirst_negation_eq_some_iff, String.toList_append, String.toList_append,
        List.append_assoc]
      exact ⟨rfl, h.first⟩
  · rintro ⟨rest, rfl, hrest⟩
    obtain ⟨hcut, hfirst⟩ := splitFirst_negation_eq_some_iff.mp hrest
    refine ⟨?_, hfirst⟩
    apply String.toList_inj.mp
    simp only [String.toList_append, List.append_assoc, hcut]

/-! ## The positive name -/

/-- Where the rest of a name is cut, the positive name is the stem with the two parts. -/
theorem positiveName?_stem_append (rest : String) :
    positiveName? (stem ++ rest) =
      (Text.splitFirst negation.toList rest.toList).map fun parts =>
        stem ++ String.ofList parts.1 ++ String.ofList parts.2 := by
  have hprefix : stem.toList.isPrefixOf (stem.toList ++ rest.toList) = true :=
    List.isPrefixOf_iff_prefix.mpr (List.prefix_append _ _)
  have hdrop : (stem.toList ++ rest.toList).drop stem.length = rest.toList := List.drop_left
  simp only [positiveName?, String.toList_append, hprefix, hdrop, Bool.true_and, Text.occursIn,
    Text.removeFirst, splitFirst_stem_append]
  cases Text.splitFirst negation.toList rest.toList with
  | none => rfl
  | some parts =>
    obtain ⟨before, after⟩ := parts
    simp [String.ofList_append, String.append_assoc]

/-- Only a name that starts with the stem has a positive name. -/
theorem exists_rest_of_positiveName? {name positive : String}
    (h : positiveName? name = some positive) : ∃ rest, name = stem ++ rest := by
  simp only [positiveName?] at h
  split at h
  · rename_i hneg
    rw [Bool.and_eq_true, List.isPrefixOf_iff_prefix] at hneg
    obtain ⟨rest, hrest⟩ := hneg.1
    refine ⟨String.ofList rest, ?_⟩
    apply String.toList_inj.mp
    rw [String.toList_append, String.toList_ofList, hrest]
  · cases h

/-- The positive name of an assertion leaves out its first negation. -/
theorem FirstNegation.positiveName?_eq {name before after : String}
    (h : FirstNegation name before after) :
    positiveName? name = some (stem ++ before ++ after) := by
  obtain ⟨rest, rfl, hrest⟩ := firstNegation_iff.mp h
  rw [positiveName?_stem_append, hrest, Option.map_some, String.ofList_toList,
    String.ofList_toList]

/-- A name with a positive name has a negation, and so a first one. -/
theorem exists_firstNegation {name positive : String} (h : positiveName? name = some positive) :
    ∃ before after, FirstNegation name before after := by
  obtain ⟨rest, rfl⟩ := exists_rest_of_positiveName? h
  rw [positiveName?_stem_append] at h
  obtain ⟨⟨before, after⟩, hrest, -⟩ := Option.map_eq_some_iff.mp h
  refine ⟨String.ofList before, String.ofList after, firstNegation_iff.mpr ⟨rest, rfl, ?_⟩⟩
  rw [hrest, String.toList_ofList, String.toList_ofList]

/-- The positive names are those that leave out the first negation after the stem. -/
theorem positiveName?_eq_some_iff {name positive : String} :
    positiveName? name = some positive ↔
      ∃ before after, FirstNegation name before after ∧ positive = stem ++ before ++ after := by
  constructor
  · intro h
    obtain ⟨before, after, hcut⟩ := exists_firstNegation h
    have hsame := hcut.positiveName?_eq
    rw [h] at hsame
    exact ⟨before, after, hcut, Option.some.inj hsame⟩
  · rintro ⟨before, after, hcut, rfl⟩
    exact hcut.positiveName?_eq

/-- There is one first `Not`. -/
theorem FirstNegation.unique {name before after before' after' : String}
    (h : FirstNegation name before after) (h' : FirstNegation name before' after') :
    before = before' ∧ after = after' := by
  obtain ⟨rest, rfl, hrest⟩ := firstNegation_iff.mp h
  obtain ⟨rest', hname, hrest'⟩ := firstNegation_iff.mp h'
  obtain rfl : rest = rest' := (String.append_right_inj stem).mp hname
  rw [hrest, Option.some.injEq, Prod.mk.injEq, String.toList_inj, String.toList_inj] at hrest'
  exact hrest'

/-- A positive name is shorter by the three characters of the negation. -/
theorem length_of_positiveName? {name positive : String}
    (h : positiveName? name = some positive) : positive.length + 3 = name.length := by
  obtain ⟨before, after, hcut, rfl⟩ := positiveName?_eq_some_iff.mp h
  have hthree : negation.length = 3 := by decide
  rw [hcut.name_eq]
  simp only [String.length_append, hthree]
  omega

/-- The positive name of a name is the name without the first `Not` after its stem, and there is
none exactly if there is no such `Not`. The search after the stem and the one that takes the whole
name find the same place. What is left is three characters shorter and starts with the stem. -/
theorem positiveName?_omits_first_negation (name : String) :
    (∀ positive, positiveName? name = some positive ↔
      ∃ before after, FirstNegation name before after ∧ positive = stem ++ before ++ after) ∧
    (positiveName? name = none ↔ ¬ ∃ before after, FirstNegation name before after) ∧
    (∀ before after before' after', FirstNegation name before after →
      FirstNegation name before' after' → before = before' ∧ after = after') ∧
    (∀ rest, name = stem ++ rest →
      Text.splitFirst negation.toList name.toList =
        (Text.splitFirst negation.toList rest.toList).map fun parts =>
          (stem.toList ++ parts.1, parts.2)) ∧
    ∀ positive, positiveName? name = some positive →
      positive.length + 3 = name.length ∧ ∃ rest, positive = stem ++ rest := by
  refine ⟨fun positive => positiveName?_eq_some_iff, ?_, fun _ _ _ _ h h' => h.unique h', ?_, ?_⟩
  · constructor
    · rintro hnone ⟨before, after, hcut⟩
      rw [hcut.positiveName?_eq] at hnone
      cases hnone
    · intro hnowhere
      rw [Option.eq_none_iff_forall_ne_some]
      intro positive h
      exact hnowhere (exists_firstNegation h)
  · rintro rest rfl
    rw [String.toList_append]
    exact splitFirst_stem_append rest.toList
  · intro positive h
    refine ⟨length_of_positiveName? h, ?_⟩
    obtain ⟨before, after, -, rfl⟩ := positiveName?_eq_some_iff.mp h
    exact ⟨before ++ after, String.append_assoc⟩

-- The `Not` that is left may still make the name negative; one before the rest is none.
example : positiveName? "assertNotNotZ" = some "assertNotZ" ∧ positiveName? "Notassert" = none := by
  decide

end TraitDocs.Assertion
