import Mathlib.Data.List.Nodup
import TraitDocs.Proofs.Assertion.Absorption

/-!
# Which assertions pairing retains

A name that pairing files away can be found again by following inverses from a name that is left.
Each name that is left starts a *lineage*: the name, its opposite, the opposite of that one, and so
on. No name stands twice in the lineages, but a name can be missing from all of them: of several
absorbed names with one positive name only the greatest becomes the opposite, and the others are
lost, with all that was filed under them.

`count_name_reachable` says for every name whether it is retained, and when all names are.
-/

set_option autoImplicit false

namespace TraitDocs

/-- A record and, one after the other, the records found by following inverses. -/
def MethodRecord.chain : MethodRecord → List MethodRecord
  | .single name doc => [.single name doc]
  | .paired name doc inverse => .paired name doc inverse :: inverse.chain

namespace Assertion

/-- The records of a class, and those found from them by following inverses. -/
def reachable (methods : OrderedMap String MethodRecord) : List MethodRecord :=
  methods.values.flatMap MethodRecord.chain

/-- Every record stands under its own name and has no inverse. -/
def Unpaired (methods : OrderedMap String MethodRecord) : Prop :=
  ∀ e ∈ methods.entries, e.2.name = e.1 ∧ e.2.inverse? = none

instance (methods : OrderedMap String MethodRecord) : Decidable (Unpaired methods) :=
  inferInstanceAs (Decidable (∀ e ∈ methods.entries, e.2.name = e.1 ∧ e.2.inverse? = none))

/-- Before pairing, a record consists of its name and its documentation. -/
theorem Unpaired.get?_eq_single {methods : OrderedMap String MethodRecord} (h : Unpaired methods)
    {name : String} {record : MethodRecord} (hget : methods.get? name = some record) :
    record = .single name record.doc := by
  obtain ⟨hname, hinverse⟩ := h _ (OrderedMap.get?_eq_some_iff.mp hget)
  cases record with
  | single own doc =>
    have hown : own = name := hname
    rw [hown]
    rfl
  | paired _ doc inverse => exact absurd hinverse (by simp [MethodRecord.inverse?])

/-- A name, its opposite, the opposite of that one, and so on. -/
def lineage (keys : List String) (name : String) : List String :=
  name :: match _h : opposite? keys name with
    | none => []
    | some k => lineage keys k
termination_by (longerNames keys name).length
decreasing_by exact length_longerNames_lt_of_opposite? _h

/-- The lineage of a name without an opposite is that name. -/
theorem lineage_of_none {keys : List String} {name : String} (h : opposite? keys name = none) :
    lineage keys name = [name] := by
  rw [lineage]
  split
  · rfl
  · rename_i k hk
    exact absurd (h.symm.trans hk) (by simp)

/-- The lineage of a name goes on with the lineage of its opposite. -/
theorem lineage_of_some {keys : List String} {name k : String} (h : opposite? keys name = some k) :
    lineage keys name = name :: lineage keys k := by
  rw [lineage]
  split
  · rename_i hk
    exact absurd (h.symm.trans hk) (by simp)
  · rename_i l hl
    rw [Option.some.inj (h.symm.trans hl)]

/-- Lineages are met one name at a time, each the opposite of the one before. -/
theorem lineage_induction (keys : List String) {motive : String → Prop}
    (last : ∀ name, opposite? keys name = none → motive name)
    (next : ∀ name k, opposite? keys name = some k → motive k → motive name) (name : String) :
    motive name := by
  induction hn : (longerNames keys name).length
    using Nat.strong_induction_on generalizing name with
  | _ n ih =>
    cases h : opposite? keys name with
    | none => exact last name h
    | some k => exact next name k h (ih _ (hn ▸ length_longerNames_lt_of_opposite? h) k rfl)

/-- A name stands in a lineage if it starts it or is the opposite of a name in it. -/
theorem mem_lineage_iff {keys : List String} {name n : String} :
    n ∈ lineage keys name ↔ n = name ∨ ∃ p ∈ lineage keys name, opposite? keys p = some n := by
  induction name using lineage_induction keys with
  | last name h => simp [lineage_of_none h, h]
  | next name k h ih =>
    rw [lineage_of_some h, List.mem_cons, ih]
    have hk : k = n ↔ n = k := eq_comm
    simp only [List.mem_cons, exists_eq_or_imp, h, Option.some.injEq, hk]

/-- A name stands in its own lineage. -/
theorem self_mem_lineage (keys : List String) (name : String) : name ∈ lineage keys name :=
  mem_lineage_iff.mpr (Or.inl rfl)

/-- The names of a lineage get longer. -/
theorem lineage_pairwise_length (keys : List String) (name : String) :
    (∀ n ∈ lineage keys name, name.length ≤ n.length) ∧
      (lineage keys name).Pairwise fun a b => a.length < b.length := by
  induction name using lineage_induction keys with
  | last name h => simp [lineage_of_none h]
  | next name k h ih =>
    obtain ⟨hlong, hpairwise⟩ := ih
    have hlt := length_lt_of_opposite? h
    rw [lineage_of_some h]
    constructor
    · intro n hn
      rw [List.mem_cons] at hn
      obtain rfl | hn := hn
      · exact Nat.le_refl _
      · have hkn := hlong n hn
        omega
    · rw [List.pairwise_cons]
      refine ⟨fun n hn => ?_, hpairwise⟩
      have hkn := hlong n hn
      omega

/-- No name stands twice in a lineage: each is longer than the one before. -/
theorem lineage_nodup (keys : List String) (name : String) : (lineage keys name).Nodup := by
  refine (lineage_pairwise_length keys name).2.imp ?_
  rintro a b hlt rfl
  exact Nat.lt_irrefl _ hlt

/-- Names that are left have no name in common in their lineages. -/
theorem lineage_start_unique {keys : List String} {a b n : String}
    (ha : absorbed keys a = false) (hb : absorbed keys b = false)
    (hna : n ∈ lineage keys a) (hnb : n ∈ lineage keys b) : a = b := by
  induction hn : n.length using Nat.strong_induction_on generalizing n with
  | _ m ih =>
    rw [mem_lineage_iff] at hna hnb
    obtain rfl | ⟨p, hp, hpn⟩ := hna
    · obtain rfl | ⟨q, -, hqn⟩ := hnb
      · rfl
      · exact absurd (of_opposite? hqn).2.1 (by simp [ha])
    · obtain rfl | ⟨q, hq, hqn⟩ := hnb
      · exact absurd (of_opposite? hpn).2.1 (by simp [hb])
      · obtain rfl : p = q :=
          Option.some.inj ((of_opposite? hpn).2.2.symm.trans (of_opposite? hqn).2.2)
        exact ih p.length (hn ▸ length_lt_of_opposite? hpn) hp hq rfl

/-- Tells whether a name stands in the lineage of a name that is left: it is left itself, or it is
the opposite of a name that is retained. -/
def retained (keys : List String) (name : String) : Bool :=
  !absorbed keys name ||
    match _h : positiveName? name with
    | none => false
    | some positive => decide (opposite? keys positive = some name) && retained keys positive
termination_by name.length
decreasing_by exact length_lt_of_positiveName? _h

/-- A name is retained if it is not absorbed, or if it is the opposite of a name that is retained.
-/
theorem retained_iff {keys : List String} {name : String} :
    retained keys name = true ↔ absorbed keys name = false ∨ ∃ positive,
      opposite? keys positive = some name ∧ retained keys positive = true := by
  rw [retained, Bool.or_eq_true, Bool.not_eq_true']
  refine or_congr_right ?_
  split
  · rename_i h
    constructor
    · simp
    · rintro ⟨positive, ho, -⟩
      exact absurd ((of_opposite? ho).2.2.symm.trans h) (by simp)
  · rename_i positive h
    rw [Bool.and_eq_true, decide_eq_true_eq]
    constructor
    · rintro ⟨ho, hr⟩
      exact ⟨positive, ho, hr⟩
    · rintro ⟨p, ho, hr⟩
      obtain rfl : p = positive := Option.some.inj ((of_opposite? ho).2.2.symm.trans h)
      exact ⟨ho, hr⟩

/-- The names that are retained are those in the lineages of the names that are left. -/
theorem retained_iff_mem_lineage {keys : List String} {n : String} (hn : n ∈ keys) :
    retained keys n = true ↔
      ∃ k ∈ keys, absorbed keys k = false ∧ n ∈ lineage keys k := by
  induction hm : n.length using Nat.strong_induction_on generalizing n with
  | _ m ih =>
    rw [retained_iff]
    constructor
    · rintro (ha | ⟨positive, ho, hr⟩)
      · exact ⟨n, hn, ha, self_mem_lineage keys n⟩
      · obtain ⟨k, hk, hka, hkl⟩ := (ih positive.length (hm ▸ length_lt_of_opposite? ho)
          (mem_keys_of_opposite? ho) rfl).mp hr
        exact ⟨k, hk, hka, mem_lineage_iff.mpr (Or.inr ⟨positive, hkl, ho⟩)⟩
    · rintro ⟨k, hk, hka, hkl⟩
      rw [mem_lineage_iff] at hkl
      obtain rfl | ⟨p, hp, ho⟩ := hkl
      · exact Or.inl hka
      · exact Or.inr ⟨p, ho, (ih p.length (hm ▸ length_lt_of_opposite? ho)
          (mem_keys_of_opposite? ho) rfl).mpr ⟨k, hk, hka, hp⟩⟩

/-- All names are retained exactly if no two absorbed names have the same positive name. -/
theorem forall_retained_iff {keys : List String} :
    (∀ n ∈ keys, retained keys n = true) ↔ ∀ a b, absorbed keys a = true →
      absorbed keys b = true → positiveName? a = positiveName? b → a = b := by
  constructor
  · intro hall a b ha hb hab
    have hopposite : ∀ c, absorbed keys c = true → ∃ p, opposite? keys p = some c := by
      intro c hc
      obtain hnot | ⟨p, hp, -⟩ := retained_iff.mp (hall c (absorbed_iff.mp hc).1)
      · exact absurd hc (by simp [hnot])
      · exact ⟨p, hp⟩
    obtain ⟨p, hp⟩ := hopposite a ha
    obtain ⟨q, hq⟩ := hopposite b hb
    obtain rfl : p = q := Option.some.inj
      ((of_opposite? hp).2.2.symm.trans (hab.trans (of_opposite? hq).2.2))
    exact Option.some.inj (hp.symm.trans hq)
  · intro hinj n hn
    induction hm : n.length using Nat.strong_induction_on generalizing n with
    | _ m ih =>
      rw [retained_iff]
      by_cases ha : absorbed keys n = true
      · obtain ⟨-, p, hp, hpk, -⟩ := absorbed_iff.mp ha
        refine Or.inr ⟨p, ?_, ih p.length (hm ▸ length_lt_of_positiveName? hp) p hpk rfl⟩
        rw [opposite?, oppositeAmong?_eq_some_iff]
        refine ⟨⟨hn, ha, hp⟩, fun l _ hl hlp => ?_⟩
        exact (hinj l n hl ha (hlp.trans hp.symm)).le
      · exact Or.inl (by simpa using ha)

/-- The record that a name has in the end is its own, alone or with the record of its opposite. -/
theorem filed_cases {methods : OrderedMap String MethodRecord} (h : Unpaired methods)
    {name : String} {record : MethodRecord} (hfiled : filed methods name = some record) :
    ∃ doc, methods.get? name = some (.single name doc) ∧
      (opposite? methods.keys name = none ∧ record = .single name doc ∨
        ∃ k inverse, opposite? methods.keys name = some k ∧ filed methods k = some inverse ∧
          record = .paired name doc inverse) := by
  rw [filed_eq_filedAmong, filedAmong, ← opposite?, Option.bind_eq_some_iff] at hfiled
  obtain ⟨own, hown, hrecord⟩ := hfiled
  have hsingle := h.get?_eq_single hown
  refine ⟨own.doc, hsingle ▸ hown, ?_⟩
  cases ho : opposite? methods.keys name with
  | none =>
    simp only [ho, Option.some.injEq] at hrecord
    exact Or.inl ⟨rfl, hrecord ▸ hsingle⟩
  | some k =>
    simp only [ho, Option.map_eq_some_iff] at hrecord
    obtain ⟨inverse, hk, rfl⟩ := hrecord
    refine Or.inr ⟨k, inverse, rfl, hk, ?_⟩
    rw [hsingle]
    rfl

/-- The record of a name has that name. -/
theorem name_of_filed {methods : OrderedMap String MethodRecord} (h : Unpaired methods)
    {name : String} {record : MethodRecord} (hfiled : filed methods name = some record) :
    record.name = name := by
  obtain ⟨doc, -, ⟨-, rfl⟩ | ⟨k, inverse, -, -, rfl⟩⟩ := filed_cases h hfiled
  · rfl
  · rfl

/-- The names in the record that a name has in the end are its lineage. -/
theorem map_name_chain_of_filed {methods : OrderedMap String MethodRecord} (h : Unpaired methods)
    {name : String} {record : MethodRecord} (hfiled : filed methods name = some record) :
    record.chain.map MethodRecord.name = lineage methods.keys name := by
  induction record generalizing name with
  | single own doc =>
    obtain ⟨doc', -, ⟨ho, hrecord⟩ | ⟨k, inverse, -, -, hrecord⟩⟩ := filed_cases h hfiled
    · cases hrecord
      rw [lineage_of_none ho]
      rfl
    · cases hrecord
  | paired own doc inverse ih =>
    obtain ⟨doc', -, ⟨-, hrecord⟩ | ⟨k, inverse', ho, hk, hrecord⟩⟩ := filed_cases h hfiled
    · cases hrecord
    · cases hrecord
      rw [lineage_of_some ho, ← ih hk]
      rfl

/-- Every record in the record that a name has in the end has the documentation that its own name
had at first. -/
theorem get?_of_mem_chain_of_filed {methods : OrderedMap String MethodRecord} (h : Unpaired methods)
    {name : String} {record r : MethodRecord} (hfiled : filed methods name = some record)
    (hr : r ∈ record.chain) : methods.get? r.name = some (.single r.name r.doc) := by
  induction record generalizing name with
  | single own doc =>
    obtain ⟨doc', hget, ⟨-, hrecord⟩ | ⟨k, inverse, -, -, hrecord⟩⟩ := filed_cases h hfiled
    · cases hrecord
      rw [MethodRecord.chain, List.mem_singleton] at hr
      rw [hr]
      exact hget
    · cases hrecord
  | paired own doc inverse ih =>
    obtain ⟨doc', hget, ⟨-, hrecord⟩ | ⟨k, inverse', -, hk, hrecord⟩⟩ := filed_cases h hfiled
    · cases hrecord
    · cases hrecord
      rw [MethodRecord.chain, List.mem_cons] at hr
      obtain rfl | hr := hr
      · exact hget
      · exact ih hk hr

/-- The record under a name that is left is the one that the name has in the end. -/
theorem filed_of_mem_entries {methods : OrderedMap String MethodRecord}
    {e : String × MethodRecord} (he : e ∈ (mergeNegatives methods).entries) :
    filed methods e.1 = some e.2 := by
  have hget : (mergeNegatives methods).get? e.1 = some e.2 := OrderedMap.get?_eq_some_iff.mpr he
  rw [← get?_mergeNegatives (OrderedMap.mem_keys_of_get? hget), hget]

/-- Every record that can be reached has the documentation that its own name had at first. -/
theorem get?_of_mem_reachable {methods : OrderedMap String MethodRecord} (h : Unpaired methods)
    {r : MethodRecord} (hr : r ∈ reachable (mergeNegatives methods)) :
    methods.get? r.name = some (.single r.name r.doc) := by
  obtain ⟨record, hrecord, hr⟩ := List.mem_flatMap.mp hr
  obtain ⟨e, he, rfl⟩ := List.mem_map.mp hrecord
  exact get?_of_mem_chain_of_filed h (filed_of_mem_entries he) hr

/-- The names that can be reached are the lineages of the names that are left. -/
theorem map_name_reachable {methods : OrderedMap String MethodRecord} (h : Unpaired methods) :
    (reachable (mergeNegatives methods)).map MethodRecord.name =
      (mergeNegatives methods).keys.flatMap (lineage methods.keys) := by
  have hkeys : (mergeNegatives methods).keys = (mergeNegatives methods).entries.map Prod.fst := rfl
  rw [reachable, OrderedMap.values, hkeys, List.map_flatMap, List.flatMap_map, List.flatMap_map]
  apply List.flatMap_congr
  intro e he
  exact map_name_chain_of_filed h (filed_of_mem_entries he)

/-- No name can be reached twice. -/
theorem nodup_map_name_reachable {methods : OrderedMap String MethodRecord} (h : Unpaired methods) :
    ((reachable (mergeNegatives methods)).map MethodRecord.name).Nodup := by
  rw [map_name_reachable h, List.nodup_flatMap]
  refine ⟨fun k _ => lineage_nodup methods.keys k, ?_⟩
  refine (mergeNegatives methods).keys_nodup.imp_of_mem ?_
  intro a b ha hb hne n hna hnb
  rw [mem_keys_mergeNegatives_iff] at ha hb
  exact hne (lineage_start_unique ha.2 hb.2 hna hnb)

/-- A name of the class can be reached exactly if it is retained. -/
theorem mem_map_name_reachable_iff {methods : OrderedMap String MethodRecord}
    (h : Unpaired methods) {n : String} (hn : n ∈ methods.keys) :
    n ∈ (reachable (mergeNegatives methods)).map MethodRecord.name ↔
      retained methods.keys n = true := by
  rw [map_name_reachable h, List.mem_flatMap, retained_iff_mem_lineage hn]
  refine exists_congr fun k => ?_
  rw [mem_keys_mergeNegatives_iff, and_assoc]

/-- A name of the class is the name of one record that can be reached if it is retained, and of none
otherwise. Each name is that of exactly one record if and only if no two absorbed names have the
same positive name. -/
theorem count_name_reachable (methods : OrderedMap String MethodRecord) (h : Unpaired methods) :
    (∀ n ∈ methods.keys, ((reachable (mergeNegatives methods)).map MethodRecord.name).count n =
      if retained methods.keys n then 1 else 0) ∧
    ((∀ n ∈ methods.keys,
        ((reachable (mergeNegatives methods)).map MethodRecord.name).count n = 1) ↔
      ∀ a b, absorbed methods.keys a = true → absorbed methods.keys b = true →
        positiveName? a = positiveName? b → a = b) := by
  have hcount : ∀ n ∈ methods.keys,
      ((reachable (mergeNegatives methods)).map MethodRecord.name).count n =
        if retained methods.keys n then 1 else 0 := by
    intro n hn
    have hiff := mem_map_name_reachable_iff h hn
    split
    · rename_i hr
      exact List.count_eq_one_of_mem (nodup_map_name_reachable h) (hiff.mpr hr)
    · rename_i hr
      exact List.count_eq_zero_of_not_mem fun hmem => hr (hiff.mp hmem)
  refine ⟨hcount, ?_⟩
  rw [← forall_retained_iff]
  refine forall₂_congr fun n hn => ?_
  rw [hcount n hn]
  split
  · rename_i hr
    simp [hr]
  · rename_i hr
    simp [hr]

/-- Three assertions, of which the third is the second denied and the second the first denied. -/
def nestedNegatives : OrderedMap String MethodRecord :=
  OrderedMap.ofList [("assertNotNotZ", .single "assertNotNotZ" ⟨"Checks not not Z.", "", .empty⟩),
    ("assertNotZ", .single "assertNotZ" ⟨"Checks not Z.", "", .empty⟩),
    ("assertZ", .single "assertZ" ⟨"Checks Z.", "", .empty⟩)]

/-- Where no two names have the same positive name, each is retained. -/
theorem nestedNegatives_retained :
    Unpaired nestedNegatives ∧ ∀ n ∈ nestedNegatives.keys,
      ((reachable (mergeNegatives nestedNegatives)).map MethodRecord.name).count n = 1 := by
  have hdistinct : ∀ a ∈ nestedNegatives.keys, ∀ b ∈ nestedNegatives.keys,
      positiveName? a = positiveName? b → a = b := by decide
  refine ⟨by decide, (count_name_reachable nestedNegatives (by decide)).2.mpr ?_⟩
  intro a b ha hb
  exact hdistinct a (absorbed_iff.mp ha).1 b (absorbed_iff.mp hb).1

/-- Three assertions, of which two deny the third in different words. -/
def rivalNegatives : OrderedMap String MethodRecord :=
  OrderedMap.ofList [("assertFoo", .single "assertFoo" ⟨"Checks foo.", "", .empty⟩),
    ("assertFooNot", .single "assertFooNot" ⟨"Checks foo is not there.", "", .empty⟩),
    ("assertNotFoo", .single "assertNotFoo" ⟨"Checks it is not foo.", "", .empty⟩)]

/-- Of two negative assertions of one positive assertion, the lesser is lost. -/
theorem lesser_rival_lost :
    Unpaired rivalNegatives ∧ "assertFooNot" ∈ rivalNegatives.keys ∧
      ((reachable (mergeNegatives rivalNegatives)).map MethodRecord.name).count
        "assertFooNot" = 0 := by
  have hsorted : rivalNegatives.sorted = rivalNegatives := OrderedMap.sorted_eq_self (by decide)
  refine ⟨by decide, by decide, ?_⟩
  rw [mergeNegatives, hsorted]
  decide

end Assertion

end TraitDocs
