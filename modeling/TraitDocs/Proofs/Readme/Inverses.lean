import Mathlib.Data.List.Infix
import TraitDocs.OrderedMap.Lemmas
import TraitDocs.Proofs.Assertion.Retention
import TraitDocs.Readme.Section

/-!
# Which assertions the document shows

The section of a method shows the method and the one that asserts the opposite, but not what is
filed under that one. A record that pairing puts deeper is not shown anywhere: the sections of the
class do not depend on what it says. So the document shows every assertion that can be reached,
whatever the assertions say, exactly if no lineage of the class has more than two names.

`methodBlock_infix_body` and `classSection_redocumented_congr` are the two halves, and
`every_reachable_shown_iff` puts them together.
-/

set_option autoImplicit false

namespace TraitDocs.Readme

open Assertion

/-- A text is an infix of a list of texts put together that has it. -/
theorem infix_join_of_mem {s : String} {texts : List String} (h : s ∈ texts) :
    s.toList <:+: (String.join texts).toList := by
  rw [String.toList_join, List.flatMap]
  exact List.infix_of_mem_flatten (List.mem_map_of_mem h)

/-- The section of a class that is not internal is part of the body. -/
theorem classSection_infix_body {records : OrderedMap String ClassRecord} {className : String}
    {record : ClassRecord} (h : (className, record) ∈ records.entries)
    (hinternal : record.classDoc.hasTag "internal" = false) :
    (classSection className record).toList <:+: (sections records).body.toList := by
  apply infix_join_of_mem
  refine List.mem_map.mpr ⟨(className, record), ?_, rfl⟩
  rw [shown, List.mem_filter, (OrderedMap.sorted_perm records).mem_iff]
  exact ⟨h, by simp [hinternal]⟩

/-- The section of a method is part of the section of its class. -/
theorem methodSection_infix_classSection (className : String) {record : ClassRecord}
    {e : String × MethodRecord} (h : e ∈ record.methods.entries) :
    (methodSection e.1 e.2).toList <:+: (classSection className record).toList := by
  have hjoin : (methodSection e.1 e.2).toList <:+:
      (String.join (record.methods.entries.map fun e => methodSection e.1 e.2)).toList :=
    infix_join_of_mem (List.mem_map_of_mem h)
  rw [classSection, String.toList_append]
  exact hjoin.trans (List.suffix_append _ _).isInfix

/-- The section of a method shows the method and the one that asserts the opposite. -/
theorem methodBlock_infix_methodSection {record r : MethodRecord} (h : r ∈ record.chain.take 2) :
    (methodBlock r.name r.doc).toList <:+: (methodSection record.name record).toList := by
  rw [methodSection, String.toList_append]
  cases record with
  | single name doc =>
    obtain rfl : r = .single name doc := by simpa [MethodRecord.chain] using h
    exact (List.prefix_append _ _).isInfix
  | paired name doc inverse =>
    have hr : r = .paired name doc inverse ∨ r = inverse := by
      cases inverse <;> simpa [MethodRecord.chain] using h
    obtain rfl | rfl := hr
    · exact (List.prefix_append _ _).isInfix
    · simp only [MethodRecord.inverse?, String.toList_append, List.append_assoc]
      refine List.IsInfix.trans ?_ (List.suffix_append _ _).isInfix
      exact ⟨_, _, by rw [List.append_assoc]⟩

/-- The first two records of each chain are shown. -/
theorem methodBlock_infix_body {records : OrderedMap String ClassRecord} {className : String}
    {classDoc : ClassDoc} {methods : OrderedMap String MethodRecord} (hmethods : Unpaired methods)
    (hinternal : classDoc.hasTag "internal" = false)
    (hrecords : (className, ⟨classDoc, mergeNegatives methods⟩) ∈ records.entries)
    {e : String × MethodRecord} (he : e ∈ (mergeNegatives methods).entries) {r : MethodRecord}
    (hr : r ∈ e.2.chain.take 2) :
    (methodBlock r.name r.doc).toList <:+: (sections records).body.toList := by
  have hname : e.2.name = e.1 := name_of_filed hmethods (filed_of_mem_entries he)
  have hsection : (methodBlock r.name r.doc).toList <:+: (methodSection e.1 e.2).toList :=
    hname ▸ methodBlock_infix_methodSection hr
  exact (hsection.trans (methodSection_infix_classSection className he)).trans
    (classSection_infix_body hrecords hinternal)

/-- The methods of a class with other documentations. -/
def redocumented (methods : OrderedMap String MethodRecord) (docs : String → MethodDoc) :
    OrderedMap String MethodRecord :=
  methods.map fun name _ => .single name (docs name)

/-- Other documentations leave the names as they are. -/
@[simp]
theorem keys_redocumented (methods : OrderedMap String MethodRecord) (docs : String → MethodDoc) :
    (redocumented methods docs).keys = methods.keys := by
  simp [redocumented, OrderedMap.map, OrderedMap.keys, Function.comp_def]

/-- With other documentations, the methods are as before pairing. -/
theorem unpaired_redocumented (methods : OrderedMap String MethodRecord)
    (docs : String → MethodDoc) : Unpaired (redocumented methods docs) := by
  intro e he
  obtain ⟨e', -, rfl⟩ := List.mem_map.mp he
  exact ⟨rfl, rfl⟩

/-- The section of a method with these documentations, where `names` are the names of the class. -/
def lineageSection (names : List String) (docs : String → MethodDoc) (name : String) : String :=
  methodBlock name (docs name) ++
    match opposite? names name with
    | none => ""
    | some k => "\nThe inverse assertion" ++ methodBlock k (docs k) ++ "\n"

/-- The record of a name has the documentation that is given for it. -/
theorem doc_of_get?_redocumented {methods : OrderedMap String MethodRecord}
    {docs : String → MethodDoc} {name own : String} {doc : MethodDoc}
    (h : (redocumented methods docs).get? name = some (.single own doc)) : doc = docs name := by
  obtain ⟨e, -, he⟩ := List.mem_map.mp (OrderedMap.get?_eq_some_iff.mp h)
  cases he
  rfl

/-- The record that a name has in the end has the documentation that is given for it. -/
theorem doc_of_filed_redocumented {methods : OrderedMap String MethodRecord}
    {docs : String → MethodDoc} {name : String} {record : MethodRecord}
    (h : filed (redocumented methods docs) name = some record) : record.doc = docs name := by
  obtain ⟨doc, hget, ⟨-, rfl⟩ | ⟨k, inverse, -, -, rfl⟩⟩ :=
    filed_cases (unpaired_redocumented methods docs) h
  · exact doc_of_get?_redocumented hget
  · exact doc_of_get?_redocumented hget

/-- The section of a method shows the documentations of its name and of the opposite, and no others.
-/
theorem methodSection_eq_lineageSection {methods : OrderedMap String MethodRecord}
    {docs : String → MethodDoc} {name : String} {record : MethodRecord}
    (h : filed (redocumented methods docs) name = some record) :
    methodSection name record = lineageSection methods.keys docs name := by
  have hplain := unpaired_redocumented methods docs
  rw [methodSection, lineageSection, doc_of_filed_redocumented h]
  obtain ⟨doc, -, ⟨ho, rfl⟩ | ⟨k, inverse, ho, hk, rfl⟩⟩ := filed_cases hplain h
  · rw [keys_redocumented] at ho
    rw [ho]
    rfl
  · rw [keys_redocumented] at ho
    simp only [ho, MethodRecord.inverse?, name_of_filed hplain hk, doc_of_filed_redocumented hk]

/-- The section of a class shows each name that is left with its opposite, and nothing else of what
its methods say. -/
theorem classSection_redocumented (className : String) (classDoc : ClassDoc)
    (methods : OrderedMap String MethodRecord) (docs : String → MethodDoc) :
    classSection className ⟨classDoc, mergeNegatives (redocumented methods docs)⟩ =
      classHead className classDoc ++
        String.join ((methods.sorted.keys.filter fun k => !absorbed methods.keys k).map
          (lineageSection methods.keys docs)) := by
  have hkeys : methods.sorted.keys.filter (fun k => !absorbed methods.keys k) =
      (mergeNegatives (redocumented methods docs)).entries.map Prod.fst := by
    rw [← OrderedMap.keys, keys_mergeNegatives, keys_redocumented]
    congr 1
    apply OrderedMap.keys_sorted_congr
    simp
  rw [classSection, hkeys, List.map_map]
  refine congrArg (fun texts => classHead className classDoc ++ String.join texts) ?_
  apply List.map_congr_left
  intro e he
  exact methodSection_eq_lineageSection (filed_of_mem_entries he)

/-- What is filed under an absorbed name does not show in the section of the class. -/
theorem classSection_redocumented_congr (className : String) (classDoc : ClassDoc)
    (methods : OrderedMap String MethodRecord) {docs docs' : String → MethodDoc} {a b : String}
    (ha : absorbed methods.keys a = true) (hb : opposite? methods.keys a = some b)
    (hdocs : ∀ n, n ≠ b → docs n = docs' n) :
    classSection className ⟨classDoc, mergeNegatives (redocumented methods docs)⟩ =
      classSection className ⟨classDoc, mergeNegatives (redocumented methods docs')⟩ := by
  rw [classSection_redocumented, classSection_redocumented]
  refine congrArg (fun texts => classHead className classDoc ++ String.join texts) ?_
  apply List.map_congr_left
  intro n hn
  rw [List.mem_filter, Bool.not_eq_true'] at hn
  have hnb : n ≠ b := by
    rintro rfl
    exact absurd (of_opposite? hb).2.1 (by simp [hn.2])
  rw [lineageSection, lineageSection, hdocs n hnb]
  cases ho : opposite? methods.keys n with
  | none => rfl
  | some m =>
    have hmb : m ≠ b := by
      rintro rfl
      obtain rfl : n = a :=
        Option.some.inj ((of_opposite? ho).2.2.symm.trans (of_opposite? hb).2.2)
      exact absurd ha (by simp [hn.2])
    simp only [hdocs m hmb]

/-- The records with one class. -/
def oneClass (className : String) (record : ClassRecord) : OrderedMap String ClassRecord :=
  ⟨[(className, record)], List.nodup_singleton _⟩

/-- The body of one class is its section. -/
theorem body_oneClass (className : String) {record : ClassRecord}
    (h : record.classDoc.hasTag "internal" = false) :
    (sections (oneClass className record)).body = classSection className record := by
  have hsorted : (oneClass className record).sorted = oneClass className record :=
    OrderedMap.sorted_eq_self (List.pairwise_singleton _ _)
  simp only [sections, shown, hsorted]
  simp [oneClass, h]

/-- The body shows a method. -/
def Shows (records : OrderedMap String ClassRecord) (r : MethodRecord) : Prop :=
  (methodBlock r.name r.doc).toList <:+: (sections records).body.toList

/-- The records have a class with these methods, paired, that is not internal. -/
def HasClass (records : OrderedMap String ClassRecord)
    (methods : OrderedMap String MethodRecord) : Prop :=
  ∃ className classDoc, classDoc.hasTag "internal" = false ∧
    (className, ⟨classDoc, mergeNegatives methods⟩) ∈ records.entries

/-- The text of a method is longer than what is said of it. -/
theorem length_doc_lt_length_methodBlock (name : String) (doc : MethodDoc) :
    doc.doc.length < (methodBlock name doc).length := by
  have happend : ∀ a b c : String, 0 < c.length → b.length < (a ++ b ++ c).length := by
    intro a b c hc
    rw [String.length_append, String.length_append]
    omega
  exact happend _ _ _ Nat.zero_lt_one

/-- A lineage of more than two names has an opposite of an opposite. -/
theorem exists_opposite?_of_two_lt {keys : List String} {k : String}
    (h : 2 < (lineage keys k).length) :
    ∃ a b, opposite? keys k = some a ∧ opposite? keys a = some b := by
  cases ha : opposite? keys k with
  | none => simp [lineage_of_none ha] at h
  | some a =>
    rw [lineage_of_some ha] at h
    cases hb : opposite? keys a with
    | none => simp [lineage_of_none hb] at h
    | some b => exact ⟨a, b, rfl, hb⟩

/-- A third name in a lineage can say something that the body does not show. -/
theorem exists_not_shows {methods : OrderedMap String MethodRecord} {k : String}
    (hk : k ∈ methods.keys) (hleft : absorbed methods.keys k = false)
    (hlong : 2 < (lineage methods.keys k).length) :
    ∃ records methods', methods'.keys = methods.keys ∧ Unpaired methods' ∧
      HasClass records methods' ∧ ∃ r ∈ reachable (mergeNegatives methods'), ¬ Shows records r := by
  obtain ⟨a, b, ha, hb⟩ := exists_opposite?_of_two_lt hlong
  -- The third name says more than the whole section has characters, so the section does not show it.
  let classDoc : ClassDoc := ⟨"", "", .empty⟩
  let brief : String → MethodDoc := fun _ => ⟨"", "", .empty⟩
  let short := classSection "" ⟨classDoc, mergeNegatives (redocumented methods brief)⟩
  let docs : String → MethodDoc := fun n =>
    if n = b then ⟨String.ofList (List.replicate short.length ' '), "", .empty⟩ else brief n
  have hplain := unpaired_redocumented methods docs
  have hsame : classSection "" ⟨classDoc, mergeNegatives (redocumented methods docs)⟩ = short :=
    classSection_redocumented_congr "" classDoc methods (of_opposite? ha).2.1 hb
      fun n hn => by simp [docs, hn]
  have hretained : retained methods.keys b = true := by
    rw [retained_iff_mem_lineage (of_opposite? hb).1]
    refine ⟨k, hk, hleft, ?_⟩
    rw [lineage_of_some ha, lineage_of_some hb]
    exact List.mem_cons_of_mem _ (List.mem_cons_of_mem _ (self_mem_lineage _ b))
  have hmem : b ∈ (reachable (mergeNegatives (redocumented methods docs))).map
      MethodRecord.name := by
    rw [mem_map_name_reachable_iff hplain (by simpa using (of_opposite? hb).1), keys_redocumented]
    exact hretained
  obtain ⟨r, hr, hrb⟩ := List.mem_map.mp hmem
  have hdoc : r.doc = docs b := hrb ▸ doc_of_get?_redocumented (get?_of_mem_reachable hplain hr)
  refine ⟨oneClass "" ⟨classDoc, mergeNegatives (redocumented methods docs)⟩,
    redocumented methods docs, keys_redocumented methods docs, hplain,
    ⟨"", classDoc, rfl, List.mem_singleton.mpr rfl⟩, r, hr, ?_⟩
  intro hshows
  rw [Shows, body_oneClass _ rfl, hsame] at hshows
  have hle := hshows.length_le
  have hlt := length_doc_lt_length_methodBlock r.name r.doc
  have hlength : r.doc.doc.length = short.length := by simp [hdoc, docs]
  simp only [String.length_toList] at hle
  omega

/-- The body shows the first two records of every chain. It shows every record that can be reached,
whatever the methods say, if and only if no lineage of a name that is left has more than two
names. -/
theorem every_reachable_shown_iff (methods : OrderedMap String MethodRecord) :
    (∀ records methods', methods'.keys = methods.keys → Unpaired methods' →
      HasClass records methods' → ∀ e ∈ (mergeNegatives methods').entries,
        ∀ r ∈ e.2.chain.take 2, Shows records r) ∧
    ((∀ records methods', methods'.keys = methods.keys → Unpaired methods' →
        HasClass records methods' → ∀ r ∈ reachable (mergeNegatives methods'), Shows records r) ↔
      ∀ k ∈ methods.keys, absorbed methods.keys k = false →
        (lineage methods.keys k).length ≤ 2) := by
  have hfirst : ∀ records methods', methods'.keys = methods.keys → Unpaired methods' →
      HasClass records methods' → ∀ e ∈ (mergeNegatives methods').entries,
        ∀ r ∈ e.2.chain.take 2, Shows records r := by
    rintro records methods' - hplain ⟨className, classDoc, hinternal, hrecords⟩ e he r hr
    exact methodBlock_infix_body hplain hinternal hrecords he hr
  refine ⟨hfirst, ?_, ?_⟩
  · intro hall k hk hleft
    by_contra hlong
    obtain ⟨records, methods', hkeys, hplain, hclass, r, hr, hnot⟩ :=
      exists_not_shows hk hleft (not_le.mp hlong)
    exact hnot (hall records methods' hkeys hplain hclass r hr)
  · intro hshort records methods' hkeys hplain hclass r hr
    obtain ⟨record, hrecord, hr⟩ := List.mem_flatMap.mp hr
    obtain ⟨e, he, rfl⟩ := List.mem_map.mp hrecord
    refine hfirst records methods' hkeys hplain hclass e he r ?_
    have hlength : e.2.chain.length = (lineage methods.keys e.1).length := by
      rw [← hkeys, ← map_name_chain_of_filed hplain (filed_of_mem_entries he), List.length_map]
    have hleft : e.1 ∈ (mergeNegatives methods').keys := List.mem_map_of_mem he
    rw [keys_mergeNegatives, List.mem_filter, OrderedMap.mem_keys_sorted, hkeys,
      Bool.not_eq_true'] at hleft
    rwa [List.take_of_length_le (hlength ▸ hshort e.1 hleft.1 hleft.2)]

/-- A class with an assertion, its denial and the denial of that. -/
def nestedClass : ClassRecord :=
  ⟨⟨"Does A.", "", .empty⟩, mergeNegatives nestedNegatives⟩

/-- The denial of a denial can be reached and is not shown. -/
theorem doubly_denied_not_shown :
    Unpaired nestedNegatives ∧ HasClass (oneClass "A" nestedClass) nestedNegatives ∧
      ∃ r ∈ reachable (mergeNegatives nestedNegatives), r.name = "assertNotNotZ" ∧
        ¬ Shows (oneClass "A" nestedClass) r := by
  have hsorted : nestedNegatives.sorted = nestedNegatives := OrderedMap.sorted_eq_self (by decide)
  have hmem : "assertNotNotZ" ∈
      (reachable (mergeNegatives nestedNegatives)).map MethodRecord.name := by
    rw [mergeNegatives, hsorted]
    decide
  obtain ⟨r, hr, hname⟩ := List.mem_map.mp hmem
  have hdoc : r.doc = ⟨"Checks not not Z.", "", .empty⟩ := by
    have hget := get?_of_mem_reachable (by decide) hr
    rw [hname] at hget
    have hown : nestedNegatives.get? "assertNotNotZ" =
        some (.single "assertNotNotZ" ⟨"Checks not not Z.", "", .empty⟩) := rfl
    simpa using hget.symm.trans hown
  refine ⟨by decide, ⟨"A", _, rfl, List.mem_singleton.mpr rfl⟩, r, hr, hname, ?_⟩
  rw [Shows, hname, hdoc, ← Text.occursIn_iff_infix (by decide), body_oneClass _ rfl, nestedClass,
    mergeNegatives, hsorted]
  decide +kernel

end TraitDocs.Readme
