import Mathlib.Data.String.Basic
import TraitDocs.OrderedMap.Lemmas
import TraitDocs.Proofs.Assertion.PositiveName

/-!
# What pairing does to the methods of a class

Pairing visits the names of a class in ascending order and files a negative assertion under its
positive one if that is still there. Which names are filed away can be said without the order of
the visits: a name is *absorbed* if the class has its positive name and that name is not a lesser
one that is absorbed itself. Under a name that stays stands the record of its *opposite*, the
greatest absorbed name that it is the positive of, with the opposite of that one under it, and so
on.

`MergedUpTo.step` says what one visit does, `MergedUpTo.visitAll` what all visits do, and
`keys_mergeNegatives` and `get?_mergeNegatives` give the result.
-/

set_option autoImplicit false

namespace TraitDocs.Assertion

/-- The positive name of a name is shorter. -/
theorem length_lt_of_positiveName? {name positive : String}
    (h : positiveName? name = some positive) : positive.length < name.length := by
  have hlength := length_of_positiveName? h
  omega

/-- The positive name of a name is another name. -/
theorem ne_of_positiveName? {name positive : String}
    (h : positiveName? name = some positive) : positive ≠ name := by
  intro he
  have hlt := length_lt_of_positiveName? h
  rw [he] at hlt
  exact Nat.lt_irrefl _ hlt

/-- Tells whether pairing files a name away, where `keys` are the names of the class. -/
def absorbed (keys : List String) (name : String) : Bool :=
  match _h : positiveName? name with
  | none => false
  | some positive =>
    keys.contains name && keys.contains positive &&
      !(decide (positive < name) && absorbed keys positive)
termination_by name.length
decreasing_by exact length_lt_of_positiveName? _h

/-- A name is absorbed if the class has it and its positive name, and that one is not a lesser name
that is absorbed itself. -/
theorem absorbed_iff {keys : List String} {name : String} :
    absorbed keys name = true ↔ name ∈ keys ∧ ∃ positive, positiveName? name = some positive ∧
      positive ∈ keys ∧ ¬ (positive < name ∧ absorbed keys positive = true) := by
  rw [absorbed]
  split
  · rename_i h
    simp [h]
  · rename_i positive h
    simp only [h, Option.some.injEq, exists_eq_left', Bool.and_eq_true, List.contains_iff_mem,
      Bool.not_eq_true', Bool.and_eq_false_imp, decide_eq_true_eq, not_and, Bool.not_eq_true,
      and_assoc]

/-- The names that are absorbed depend on the set of names alone. -/
theorem absorbed_congr {keys keys' : List String} (h : ∀ k, k ∈ keys ↔ k ∈ keys') (name : String) :
    absorbed keys name = absorbed keys' name := by
  induction hn : name.length using Nat.strong_induction_on generalizing name with
  | _ n ih =>
    rw [Bool.eq_iff_iff, absorbed_iff, absorbed_iff, h name]
    refine and_congr_right fun _ => exists_congr fun positive => and_congr_right fun hp => ?_
    have hlt : positive.length < n := hn ▸ length_lt_of_positiveName? hp
    rw [h positive, ih positive.length hlt positive rfl]

/-- Of the names visited, the greatest that is absorbed and has this name as its positive one. -/
def oppositeAmong? (keys visited : List String) (name : String) : Option String :=
  (visited.filter fun k => absorbed keys k && decide (positiveName? k = some name)).max?

/-- The greatest absorbed name that has this name as its positive one. -/
def opposite? (keys : List String) (name : String) : Option String :=
  oppositeAmong? keys keys name

/-- The opposite of a name among those visited is absorbed, has the name as its positive one, and is
the greatest that does. -/
theorem oppositeAmong?_eq_some_iff {keys visited : List String} {name k : String} :
    oppositeAmong? keys visited name = some k ↔
      (k ∈ visited ∧ absorbed keys k = true ∧ positiveName? k = some name) ∧
        ∀ l ∈ visited, absorbed keys l = true → positiveName? l = some name → l ≤ k := by
  simp [oppositeAmong?, List.max?_eq_some_iff, List.mem_filter]

/-- Two sets of names agree on the opposite of a name if they agree on who is absorbed and on the
negative names of that name that were visited. -/
theorem oppositeAmong?_congr {keys keys' visited visited' : List String} {name : String}
    (h : ∀ k, k ∈ visited ∧ absorbed keys k = true ∧ positiveName? k = some name ↔
      k ∈ visited' ∧ absorbed keys' k = true ∧ positiveName? k = some name) :
    oppositeAmong? keys visited name = oppositeAmong? keys' visited' name := by
  apply Option.ext
  intro k
  rw [oppositeAmong?_eq_some_iff, oppositeAmong?_eq_some_iff, h k]
  refine and_congr_right fun _ => forall_congr' fun l => ?_
  constructor
  · intro hl hv ha hp
    obtain ⟨hv', ha', -⟩ := (h l).mpr ⟨hv, ha, hp⟩
    exact hl hv' ha' hp
  · intro hl hv ha hp
    obtain ⟨hv', ha', -⟩ := (h l).mp ⟨hv, ha, hp⟩
    exact hl hv' ha' hp

/-- The opposite of a name is an absorbed name of the class that has it as its positive one. -/
theorem of_opposite? {keys : List String} {name k : String} (h : opposite? keys name = some k) :
    k ∈ keys ∧ absorbed keys k = true ∧ positiveName? k = some name :=
  (oppositeAmong?_eq_some_iff.mp h).1

/-- A name that has an opposite is a name of the class. -/
theorem mem_keys_of_opposite? {keys : List String} {name k : String}
    (h : opposite? keys name = some k) : name ∈ keys := by
  obtain ⟨-, ha, hp⟩ := of_opposite? h
  obtain ⟨-, positive, hp', hmem, -⟩ := absorbed_iff.mp ha
  rwa [Option.some.inj (hp.symm.trans hp')]

/-- A name is shorter than its opposite. -/
theorem length_lt_of_opposite? {keys : List String} {name k : String}
    (h : opposite? keys name = some k) : name.length < k.length :=
  length_lt_of_positiveName? (of_opposite? h).2.2

/-- The names that are longer than a name. -/
def longerNames (keys : List String) (name : String) : List String :=
  keys.filter fun k => decide (name.length < k.length)

/-- Fewer names are longer than the opposite of a name than are longer than the name. -/
theorem length_longerNames_lt_of_opposite? {keys : List String} {name k : String}
    (h : opposite? keys name = some k) :
    (longerNames keys k).length < (longerNames keys name).length := by
  have hlt := length_lt_of_opposite? h
  have hfilter : longerNames keys k =
      (longerNames keys name).filter fun l => decide (k.length < l.length) := by
    rw [longerNames, longerNames, List.filter_filter]
    refine List.filter_congr fun l _ => ?_
    rw [← Bool.decide_and, decide_eq_decide]
    omega
  rw [hfilter, List.length_filter_lt_length_iff_exists]
  refine ⟨k, ?_, by simp⟩
  exact List.mem_filter.mpr ⟨(of_opposite? h).1, by simpa using hlt⟩

/-- The record that a name has in the end: its own, with the record that its opposite has in the
end in place of an inverse that it may have. -/
def filed (methods : OrderedMap String MethodRecord) (name : String) : Option MethodRecord :=
  (methods.get? name).bind fun record =>
    match _h : opposite? methods.keys name with
    | none => some record
    | some k => (filed methods k).map record.withInverse
termination_by (longerNames methods.keys name).length
decreasing_by exact length_longerNames_lt_of_opposite? _h

/-- The record that a name has when these names have been visited. -/
def filedAmong (methods : OrderedMap String MethodRecord) (visited : List String) (name : String) :
    Option MethodRecord :=
  (methods.get? name).bind fun record =>
    match oppositeAmong? methods.keys visited name with
    | none => some record
    | some k => (filed methods k).map record.withInverse

/-- When all names have been visited, a name has the record that it has in the end. -/
theorem filed_eq_filedAmong (methods : OrderedMap String MethodRecord) (name : String) :
    filed methods name = filedAmong methods methods.keys name := by
  rw [filed, filedAmong]
  refine congrArg _ (funext fun record => ?_)
  split
  · rename_i h
    rw [opposite?] at h
    rw [h]
  · rename_i k h
    rw [opposite?] at h
    rw [h]

/-- The record of a name depends on the names visited only through the opposite found among them. -/
theorem filedAmong_congr {methods : OrderedMap String MethodRecord} {visited visited' : List String}
    {name : String}
    (h : oppositeAmong? methods.keys visited name = oppositeAmong? methods.keys visited' name) :
    filedAmong methods visited name = filedAmong methods visited' name := by
  rw [filedAmong, filedAmong, h]

/-- The record that a name has so far is its own, but for the inverse. -/
theorem withInverse_of_filedAmong {methods : OrderedMap String MethodRecord}
    {visited : List String} {name : String} {target : MethodRecord}
    (h : filedAmong methods visited name = some target) :
    ∃ record, methods.get? name = some record ∧
      ∀ inverse, target.withInverse inverse = record.withInverse inverse := by
  rw [filedAmong, Option.bind_eq_some_iff] at h
  obtain ⟨record, hrecord, htarget⟩ := h
  refine ⟨record, hrecord, fun inverse => ?_⟩
  split at htarget
  · obtain rfl := Option.some.inj htarget
    rfl
  · obtain ⟨i, -, rfl⟩ := Option.map_eq_some_iff.mp htarget
    rfl

/-- The state of pairing after some names have been visited: the absorbed ones among them are gone,
and every name that is left has the record of the opposite found so far. -/
structure MergedUpTo (methods : OrderedMap String MethodRecord) (visited : List String)
    (current : OrderedMap String MethodRecord) : Prop where
  keys_eq : current.keys =
    methods.keys.filter fun k => !(decide (k ∈ visited) && absorbed methods.keys k)
  get?_eq : ∀ k ∈ current.keys, current.get? k = filedAmong methods visited k

namespace MergedUpTo

variable {methods current : OrderedMap String MethodRecord} {visited rest : List String}
  {name positive : String}

/-- Before the first visit nothing has changed. -/
theorem start (methods : OrderedMap String MethodRecord) : MergedUpTo methods [] methods := by
  constructor
  · simp
  · intro k hk
    have hnone : oppositeAmong? methods.keys [] k = none := by simp [oppositeAmong?]
    rw [filedAmong, hnone]
    simp

/-- What is left after some names have been visited is every name but the absorbed ones among them.
-/
theorem mem_keys_iff (h : MergedUpTo methods visited current) {k : String} :
    k ∈ current.keys ↔
      k ∈ methods.keys ∧ ¬ (k ∈ visited ∧ absorbed methods.keys k = true) := by
  rw [h.keys_eq, List.mem_filter, Bool.not_eq_true', ← Bool.not_eq_true, Bool.and_eq_true,
    decide_eq_true_eq]

/-- In ascending order, the names visited before a name are the lesser ones. -/
theorem mem_visited_iff (hasc : methods.keys.Pairwise (· < ·))
    (hkeys : methods.keys = visited ++ name :: rest) {k : String} (hk : k ∈ methods.keys) :
    k ∈ visited ↔ k < name := by
  rw [hkeys, List.pairwise_append, List.pairwise_cons] at hasc
  obtain ⟨-, ⟨hrest, -⟩, hvisited⟩ := hasc
  constructor
  · intro hv
    exact hvisited k hv name List.mem_cons_self
  · intro hlt
    rw [hkeys, List.mem_append, List.mem_cons] at hk
    obtain hv | rfl | hr := hk
    · exact hv
    · exact absurd hlt (lt_irrefl _)
    · exact absurd hlt (lt_asymm (hrest k hr))

/-- The positive name of the name that is visited is still there exactly if that name is
absorbed. -/
theorem mem_keys_positive_iff (hasc : methods.keys.Pairwise (· < ·))
    (hkeys : methods.keys = visited ++ name :: rest) (h : MergedUpTo methods visited current)
    (hp : positiveName? name = some positive) :
    positive ∈ current.keys ↔ absorbed methods.keys name = true := by
  have hname : name ∈ methods.keys := by simp [hkeys]
  rw [absorbed_iff, h.mem_keys_iff]
  simp only [hname, true_and, hp, Option.some.injEq, exists_eq_left']
  refine and_congr_right fun hpos => ?_
  rw [mem_visited_iff hasc hkeys hpos]

/-- A visit to a name that is not absorbed changes nothing. -/
theorem skip (h : MergedUpTo methods visited current)
    (hname : absorbed methods.keys name = false) :
    MergedUpTo methods (visited ++ [name]) current := by
  constructor
  · rw [h.keys_eq]
    apply List.filter_congr
    intro k _
    by_cases hk : k = name
    · simp [hk, hname]
    · simp [hk]
  · intro k hk
    rw [h.get?_eq k hk]
    apply filedAmong_congr
    apply oppositeAmong?_congr
    intro l
    by_cases hl : l = name
    · simp [hl, hname]
    · simp [hl]

/-- When an absorbed name is visited, every absorbed name that it is the positive of has been. -/
theorem oppositeAmong?_visited (hasc : methods.keys.Pairwise (· < ·))
    (hkeys : methods.keys = visited ++ name :: rest) (hname : absorbed methods.keys name = true) :
    oppositeAmong? methods.keys visited name = opposite? methods.keys name := by
  apply oppositeAmong?_congr
  intro k
  constructor
  · rintro ⟨hv, ha, hp⟩
    exact ⟨(absorbed_iff.mp ha).1, ha, hp⟩
  · rintro ⟨hk, ha, hp⟩
    refine ⟨?_, ha, hp⟩
    obtain ⟨-, p, hp', -, hnot⟩ := absorbed_iff.mp ha
    obtain rfl : name = p := Option.some.inj (hp.symm.trans hp')
    rw [mem_visited_iff hasc hkeys hk]
    exact lt_of_le_of_ne (not_lt.mp fun hlt => hnot ⟨hlt, hname⟩) (ne_of_positiveName? hp).symm

/-- A visit to an absorbed name makes it the opposite of its positive name so far. -/
theorem oppositeAmong?_concat (hasc : methods.keys.Pairwise (· < ·))
    (hkeys : methods.keys = visited ++ name :: rest) (hname : absorbed methods.keys name = true)
    (hp : positiveName? name = some positive) :
    oppositeAmong? methods.keys (visited ++ [name]) positive = some name := by
  rw [oppositeAmong?_eq_some_iff]
  refine ⟨⟨by simp, hname, hp⟩, ?_⟩
  intro k hk ha _
  rw [List.mem_append, List.mem_singleton] at hk
  obtain hk | rfl := hk
  · exact ((mem_visited_iff hasc hkeys (absorbed_iff.mp ha).1).mp hk).le
  · exact le_rfl

/-- A visit to an absorbed name files it, with the record it has in the end, under its positive
one. -/
theorem file (hasc : methods.keys.Pairwise (· < ·))
    (hkeys : methods.keys = visited ++ name :: rest) (h : MergedUpTo methods visited current)
    (hname : absorbed methods.keys name = true) (hp : positiveName? name = some positive)
    {target inverse : MethodRecord} (htarget : current.get? positive = some target)
    (hinverse : current.get? name = some inverse) :
    MergedUpTo methods (visited ++ [name])
      ((current.erase name).insert positive (target.withInverse inverse)) := by
  have hne : positive ≠ name := ne_of_positiveName? hp
  have hpositive : positive ∈ (current.erase name).keys := by
    rw [OrderedMap.keys_erase, List.mem_filter]
    exact ⟨(mem_keys_positive_iff hasc hkeys h hp).mpr hname, by simpa using hne⟩
  have hnew : ((current.erase name).insert positive (target.withInverse inverse)).keys =
      current.keys.filter fun k => decide (k ≠ name) := by
    rw [OrderedMap.keys_insert, if_pos hpositive, OrderedMap.keys_erase]
  constructor
  · rw [hnew, h.keys_eq, List.filter_filter]
    apply List.filter_congr
    intro k _
    by_cases hk : k = name
    · simp [hk, hname]
    · simp [hk]
  · intro k hk
    rw [hnew, List.mem_filter, decide_eq_true_eq] at hk
    rw [OrderedMap.get?_insert, OrderedMap.get?_erase, if_neg hk.2.symm]
    by_cases hkp : positive = k
    · subst hkp
      have hfiled : filed methods name = some inverse := by
        rw [filed_eq_filedAmong, ← hinverse, h.get?_eq name (OrderedMap.mem_keys_of_get? hinverse)]
        exact filedAmong_congr (oppositeAmong?_visited hasc hkeys hname).symm
      rw [h.get?_eq positive hk.1] at htarget
      obtain ⟨record, hrecord, hwith⟩ := withInverse_of_filedAmong htarget
      rw [if_pos rfl, filedAmong, oppositeAmong?_concat hasc hkeys hname hp, hrecord, hwith]
      simp [hfiled]
    · rw [if_neg hkp, h.get?_eq k hk.1]
      apply filedAmong_congr
      apply oppositeAmong?_congr
      intro l
      by_cases hl : l = name
      · simp [hl, hp, hkp]
      · simp [hl]

/-- A name is still there when it is visited. -/
theorem self_mem_keys (hasc : methods.keys.Pairwise (· < ·))
    (hkeys : methods.keys = visited ++ name :: rest) (h : MergedUpTo methods visited current) :
    name ∈ current.keys := by
  have hmem : name ∈ methods.keys := by simp [hkeys]
  rw [h.mem_keys_iff, mem_visited_iff hasc hkeys hmem]
  exact ⟨hmem, fun hlt => lt_irrefl _ hlt.1⟩

/-- One visit: a name is filed under its positive one exactly if it is absorbed. -/
theorem step (hasc : methods.keys.Pairwise (· < ·))
    (hkeys : methods.keys = visited ++ name :: rest) (h : MergedUpTo methods visited current) :
    MergedUpTo methods (visited ++ [name]) (absorb current name) := by
  obtain ⟨inverse, hinverse⟩ := OrderedMap.exists_get?_of_mem_keys (self_mem_keys hasc hkeys h)
  cases hp : positiveName? name with
  | none =>
    have habsorbed : absorbed methods.keys name = false := by
      rw [← Bool.not_eq_true, absorbed_iff]
      simp [hp]
    rw [absorb, hp]
    exact h.skip habsorbed
  | some positive =>
    have hiff := mem_keys_positive_iff hasc hkeys h hp
    rw [absorb, hp]
    cases htarget : current.get? positive with
    | none =>
      have habsorbed : absorbed methods.keys name = false := by
        rw [← Bool.not_eq_true, ← hiff]
        exact OrderedMap.get?_eq_none_iff.mp htarget
      simp only [htarget]
      exact h.skip habsorbed
    | some target =>
      have habsorbed := hiff.mp (OrderedMap.mem_keys_of_get? htarget)
      simp only [htarget, hinverse]
      exact file hasc hkeys h habsorbed hp htarget hinverse

/-- Any number of visits. -/
theorem visitAll (hasc : methods.keys.Pairwise (· < ·))
    (hkeys : methods.keys = visited ++ rest) (h : MergedUpTo methods visited current) :
    MergedUpTo methods (visited ++ rest) (rest.foldl absorb current) := by
  induction rest generalizing visited current with
  | nil => simpa using h
  | cons name rest ih =>
    have hkeys' : methods.keys = (visited ++ [name]) ++ rest := by simpa using hkeys
    simpa using ih hkeys' (step hasc hkeys h)

end MergedUpTo

/-- Maps with the same record under each name have the same names. -/
theorem mem_keys_congr {methods methods' : OrderedMap String MethodRecord}
    (h : ∀ k, methods.get? k = methods'.get? k) (k : String) :
    k ∈ methods.keys ↔ k ∈ methods'.keys := by
  rw [← not_iff_not, ← OrderedMap.get?_eq_none_iff, ← OrderedMap.get?_eq_none_iff, h k]

/-- The opposite of a name depends on which names the class has, and not on their order. -/
theorem opposite?_congr {keys keys' : List String} (h : ∀ k, k ∈ keys ↔ k ∈ keys')
    (name : String) : opposite? keys name = opposite? keys' name := by
  apply oppositeAmong?_congr
  intro k
  rw [h k, absorbed_congr h k]

/-- The record that a name has in the end does not depend on the order of the names. -/
theorem filed_congr {methods methods' : OrderedMap String MethodRecord}
    (h : ∀ k, methods.get? k = methods'.get? k) (name : String) :
    filed methods name = filed methods' name := by
  induction hn : (longerNames methods.keys name).length
    using Nat.strong_induction_on generalizing name with
  | _ n ih =>
    have hopposite :
        oppositeAmong? methods'.keys methods'.keys name = opposite? methods.keys name :=
      (opposite?_congr (mem_keys_congr h) name).symm
    rw [filed_eq_filedAmong, filed_eq_filedAmong, filedAmong, filedAmong, hopposite, ← h name,
      ← opposite?]
    cases ho : opposite? methods.keys name with
    | none => rfl
    | some k => simp only [ih _ (hn ▸ length_longerNames_lt_of_opposite? ho) k rfl]

/-- Pairing visits all names in ascending order and ends in the state that this leads to. -/
theorem mergedUpTo_mergeNegatives (methods : OrderedMap String MethodRecord) :
    MergedUpTo methods.sorted methods.sorted.keys (mergeNegatives methods) :=
  MergedUpTo.visitAll (OrderedMap.sorted_keys_pairwise methods) (List.nil_append _).symm
    (MergedUpTo.start methods.sorted)

/-- The names that are left are those that are not absorbed, in ascending order. -/
theorem keys_mergeNegatives (methods : OrderedMap String MethodRecord) :
    (mergeNegatives methods).keys =
      methods.sorted.keys.filter fun k => !absorbed methods.keys k := by
  rw [(mergedUpTo_mergeNegatives methods).keys_eq]
  apply List.filter_congr
  intro k hk
  rw [absorbed_congr (fun _ => OrderedMap.mem_keys_sorted) k]
  simp [hk]

/-- Pairing leaves exactly the names that are not absorbed. -/
theorem mem_keys_mergeNegatives_iff {methods : OrderedMap String MethodRecord} {k : String} :
    k ∈ (mergeNegatives methods).keys ↔ k ∈ methods.keys ∧ absorbed methods.keys k = false := by
  rw [keys_mergeNegatives, List.mem_filter, OrderedMap.mem_keys_sorted, Bool.not_eq_true']

/-- The names that pairing leaves stand in ascending order. -/
theorem keys_mergeNegatives_pairwise (methods : OrderedMap String MethodRecord) :
    (mergeNegatives methods).keys.Pairwise (· < ·) := by
  rw [keys_mergeNegatives]
  exact (OrderedMap.sorted_keys_pairwise methods).filter _

/-- The record under a name that is left is the one that the name has in the end. -/
theorem get?_mergeNegatives {methods : OrderedMap String MethodRecord} {k : String}
    (hk : k ∈ (mergeNegatives methods).keys) :
    (mergeNegatives methods).get? k = filed methods k := by
  rw [(mergedUpTo_mergeNegatives methods).get?_eq k hk, ← filed_eq_filedAmong]
  exact filed_congr (OrderedMap.get?_sorted methods) k

end TraitDocs.Assertion
