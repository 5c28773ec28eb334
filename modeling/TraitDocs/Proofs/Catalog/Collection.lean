import TraitDocs.Proofs.Assertion.Retention
import TraitDocs.Proofs.Catalog.Validation

/-!
# What the collected records hold

Where collecting succeeds, the records are those of the requested names whose classes are not
internal, in ascending order. Each method record that can be reached from a class record, through
any number of inverses, shows the last public method of its name, and no name can be reached twice.

`methods_of_publicDocs` says where the records of a class come from before they are paired,
`Collected` what the walk over the names has gathered so far.
-/

set_option autoImplicit false

namespace TraitDocs.Catalog

open Assertion Docblock

/-! ## The records of a class -/

/-- A public method that passes is shown under its name. -/
theorem namedDoc_eq_ok {className : String} {m : ReflectedMethod} {d : Json × MethodDoc}
    (h : namedDoc className m = .ok d) : m.name = d.1 ∧ validate className m = .ok d.2 := by
  unfold namedDoc at h
  split at h
  · cases h
  · rename_i doc hdoc
    split at h
    · cases h
    · obtain rfl := Except.ok.inj h
      exact ⟨rfl, hdoc⟩

/-- The name of a method is a text exactly if the value is one. -/
theorem nameText?_eq_some_iff {value : Json} {name : String} :
    nameText? value = some name ↔ value = .str name := by
  cases value <;> simp [nameText?]

/-- Where every name is text, each documentation gives a record. -/
theorem methodRecords_eq_ok {docs : List (Json × MethodDoc)}
    {methods : OrderedMap String MethodRecord} (h : methodRecords docs = .ok methods) :
    ∃ texts, methods = OrderedMap.ofList texts ∧
      List.Forall₂ (fun d e => d.1 = .str e.1 ∧ e.2 = .single e.1 d.2) docs texts := by
  simp only [methodRecords] at h
  split at h
  · rename_i hlength
    refine ⟨_, (Except.ok.inj h).symm, ?_⟩
    refine (forall₂_filterMap (List.filterMap_length_eq_length.mp hlength)).imp fun d e he => ?_
    obtain ⟨name, hname, rfl⟩ := Option.map_eq_some_iff.mp he
    exact ⟨nameText?_eq_some_iff.mp hname, rfl⟩
  · split at h <;> cases h

/-- Before they are paired, the records of a class show the last public method of each name. -/
theorem methods_of_publicDocs {c : ReflectedClass} {docs : List (Json × MethodDoc)}
    {methods : OrderedMap String MethodRecord} (hdocs : publicDocs c = .ok docs)
    (hmethods : methodRecords docs = .ok methods) {name : String} {record : MethodRecord}
    (hget : methods.get? name = some record) :
    ∃ m doc, LastWith (fun m => m.isPublic = true ∧ m.name = .str name) c.methods m ∧
      validate c.name m = .ok doc ∧ record = .single name doc := by
  obtain ⟨texts, rfl, htexts⟩ := methodRecords_eq_ok hmethods
  have hpublic := forall₂_trans (forall₂_of_mapM hdocs) htexts
  rw [OrderedMap.get?_ofList_eq_some_iff] at hget
  have hcorresponds : ∀ (m : ReflectedMethod) (e : String × MethodRecord),
      (∃ d, namedDoc c.name m = .ok d ∧ d.1 = .str e.1 ∧ e.2 = .single e.1 d.2) →
        (m.name = .str name ↔ e.1 = name) := by
    rintro m e ⟨d, hd, hname, -⟩
    rw [(namedDoc_eq_ok hd).1, hname, Json.str.injEq]
  obtain ⟨m, hm, d, hd, -, hrecord⟩ := hget.of_forall₂ hpublic hcorresponds
  exact ⟨m, d.2, hm.of_filter, (namedDoc_eq_ok hd).2, hrecord⟩

/-- Before they are paired, the records of a class stand under their own names, without inverses. -/
theorem unpaired_of_publicDocs {c : ReflectedClass} {docs : List (Json × MethodDoc)}
    {methods : OrderedMap String MethodRecord} (hdocs : publicDocs c = .ok docs)
    (hmethods : methodRecords docs = .ok methods) : Unpaired methods := by
  intro e he
  have hget : methods.get? e.1 = some e.2 := OrderedMap.get?_eq_some_iff.mpr he
  obtain ⟨m, doc, -, -, hrecord⟩ := methods_of_publicDocs hdocs hmethods hget
  rw [hrecord]
  exact ⟨rfl, rfl⟩

/-- What a class gives that can be read: nothing if it is internal, and else the record of its
comment and its paired methods. -/
theorem classRecord_eq_ok {c : ReflectedClass} {outcome : Option ClassRecord}
    (h : (classRecord c).2 = .ok outcome) :
    ∃ comment classDoc, commentText c.comment = .ok comment ∧ readClass comment = some classDoc ∧
      (classDoc.hasTag "internal" = true ∧ outcome = none ∨
        classDoc.hasTag "internal" = false ∧ ∃ docs methods, publicDocs c = .ok docs ∧
          methodRecords docs = .ok methods ∧ outcome = some ⟨classDoc, mergeNegatives methods⟩) := by
  unfold classRecord at h
  split at h
  · cases h
  · rename_i comment hcomment
    split at h
    · cases h
    · rename_i classDoc hclassDoc
      refine ⟨comment, classDoc, hcomment, hclassDoc, ?_⟩
      split at h
      · rename_i hinternal
        exact Or.inl ⟨hinternal, (Except.ok.inj h).symm⟩
      · rename_i hinternal
        refine Or.inr ⟨by simpa using hinternal, ?_⟩
        split at h
        · cases h
        · rename_i docs hdocs
          cases hmethods : methodRecords docs with
          | error stop => simp [hmethods, Except.map] at h
          | ok methods =>
            simp only [hmethods, Except.map, Except.ok.injEq] at h
            exact ⟨docs, methods, hdocs, hmethods, h.symm⟩

/-- Tells that a class has a comment, and that without the tag that makes it internal. -/
def IsPublished (c : ReflectedClass) : Prop :=
  ∃ comment classDoc, commentText c.comment = .ok comment ∧ readClass comment = some classDoc ∧
    classDoc.hasTag "internal" = false

/-- A class that can be read gives a record exactly if it is not internal. -/
theorem isPublished_iff {c : ReflectedClass} {outcome : Option ClassRecord}
    (h : (classRecord c).2 = .ok outcome) : IsPublished c ↔ outcome.isSome = true := by
  obtain ⟨comment, classDoc, hcomment, hclassDoc, hcases⟩ := classRecord_eq_ok h
  have hpublished : IsPublished c ↔ classDoc.hasTag "internal" = false := by
    simp [IsPublished, hcomment, hclassDoc]
  rw [hpublished]
  obtain ⟨hinternal, rfl⟩ | ⟨hinternal, docs, methods, -, -, rfl⟩ := hcases <;> simp [hinternal]

/-- Tells that a record shows a class: every method record that can be reached shows the last public
method of its name. -/
structure ShowsClass (c : ReflectedClass) (record : ClassRecord) : Prop where
  keys_ascend : record.methods.keys.Pairwise fun a b => a < b
  name_eq : ∀ name r, record.methods.get? name = some r → r.name = name
  names_nodup : ((reachable record.methods).map MethodRecord.name).Nodup
  /-- What can be reached shows the last public method of its name. -/
  documents : ∀ r ∈ reachable record.methods,
    ∃ m, LastWith (fun m => m.isPublic = true ∧ m.name = .str r.name) c.methods m ∧
      Documents m r.doc

/-- The record that a class gives shows it. -/
theorem showsClass_of_classRecord {c : ReflectedClass} {record : ClassRecord}
    (h : (classRecord c).2 = .ok (some record)) : ShowsClass c record := by
  obtain ⟨comment, classDoc, -, -, ⟨-, hnone⟩ | ⟨-, docs, methods, hdocs, hmethods, hrecord⟩⟩ :=
    classRecord_eq_ok h
  · cases hnone
  · obtain rfl := Option.some.inj hrecord
    have hunpaired := unpaired_of_publicDocs hdocs hmethods
    refine ⟨keys_mergeNegatives_pairwise methods, fun name r hr => ?_,
      nodup_map_name_reachable hunpaired, fun r hr => ?_⟩
    · exact name_of_filed hunpaired (filed_of_mem_entries (OrderedMap.get?_eq_some_iff.mp hr))
    · have hget := get?_of_mem_reachable hunpaired hr
      obtain ⟨m, doc, hm, hvalidate, hsingle⟩ := methods_of_publicDocs hdocs hmethods hget
      obtain ⟨-, rfl⟩ := MethodRecord.single.inj hsingle
      exact ⟨m, hm, documents_of_validate hvalidate⟩

/-! ## The walk over the names -/

/-- Tells that a class of this name gives this record. -/
def Gives (reflect : Reflector) (name : String) (record : ClassRecord) : Prop :=
  ∃ c, reflect name = some c ∧ (classRecord c).2 = .ok (some record)

/-- What the walk over names has gathered: the records that the names seen so far give. -/
structure Collected (reflect : Reflector) (seen : List String)
    (records : OrderedMap String ClassRecord) : Prop where
  readable : ∀ name ∈ seen, ∃ c outcome, reflect name = some c ∧ (classRecord c).2 = .ok outcome
  /-- The records are those that the names seen give. -/
  get?_eq_some_iff : ∀ name record, records.get? name = some record ↔
    name ∈ seen ∧ Gives reflect name record

namespace Collected

variable {reflect : Reflector} {seen : List String} {records : OrderedMap String ClassRecord}

/-- Before any name is looked up, nothing is collected. -/
theorem start (reflect : Reflector) : Collected reflect [] .empty :=
  ⟨by simp, by simp⟩

/-- A class that can be read adds its name to those seen, and its record, if it gives one, to the
records. -/
theorem step (h : Collected reflect seen records) {name : String} {c : ReflectedClass}
    {outcome : Option ClassRecord} (hc : reflect name = some c)
    (houtcome : (classRecord c).2 = .ok outcome) :
    Collected reflect (name :: seen) (outcome.elim records (records.insert name)) := by
  have hgives : ∀ record, Gives reflect name record ↔ outcome = some record := by
    intro record
    simp [Gives, hc, houtcome]
  refine ⟨?_, fun name' record => ?_⟩
  · rw [List.forall_mem_cons]
    exact ⟨⟨c, outcome, hc, houtcome⟩, h.readable⟩
  · by_cases hname : name' = name
    · subst hname
      cases outcome with
      | none => simp [h.get?_eq_some_iff, hgives]
      | some given => simp [hgives]
    · have hname' : name ≠ name' := fun heq => hname heq.symm
      cases outcome with
      | none => simp [h.get?_eq_some_iff, hname]
      | some given => simp [h.get?_eq_some_iff, hname, hname']

/-- A walk that succeeds sees every name, and ends with what it has gathered in ascending order. -/
theorem collectFrom (h : Collected reflect seen records) {journal : Journal} {names : List String}
    {result : OrderedMap String ClassRecord}
    (hrun : (collectFrom reflect journal records names).2 = .ok result) :
    ∃ gathered, Collected reflect (names.reverse ++ seen) gathered ∧ result = gathered.sorted := by
  induction names generalizing seen records journal with
  | nil => exact ⟨records, h, (Except.ok.inj hrun).symm⟩
  | cons name names ih =>
    rw [List.reverse_cons, List.append_assoc, List.singleton_append]
    simp only [Catalog.collectFrom] at hrun
    split at hrun
    · cases hrun
    · rename_i c hc
      split at hrun
      · cases hrun
      · rename_i houtcome
        exact ih (h.step hc houtcome) hrun
      · rename_i record houtcome
        exact ih (h.step hc houtcome) hrun

end Collected

/-- What collecting gathers where it succeeds: the records that the requested names give. -/
theorem collected_of_collect {reflect : Reflector} {names : List String}
    {records : OrderedMap String ClassRecord} (h : (collect reflect names).2 = .ok records) :
    ∃ gathered, Collected reflect names gathered ∧ records = gathered.sorted := by
  obtain ⟨gathered, hgathered, rfl⟩ := (Collected.start reflect).collectFrom h
  refine ⟨gathered, ⟨fun name hname => ?_, fun name record => ?_⟩, rfl⟩
  · exact hgathered.readable name (by simpa using hname)
  · simpa using hgathered.get?_eq_some_iff name record

/-- Where collecting succeeds, a name has a record exactly if it is requested and its class is not
internal. -/
theorem mem_keys_iff_of_collect {reflect : Reflector} {names : List String}
    {records : OrderedMap String ClassRecord} (h : (collect reflect names).2 = .ok records)
    (name : String) :
    name ∈ records.keys ↔ name ∈ names ∧ ∃ c, reflect name = some c ∧ IsPublished c := by
  obtain ⟨gathered, hgathered, rfl⟩ := collected_of_collect h
  rw [OrderedMap.mem_keys_sorted]
  constructor
  · intro hname
    obtain ⟨record, hrecord⟩ := OrderedMap.exists_get?_of_mem_keys hname
    obtain ⟨hseen, c, hc, houtcome⟩ := (hgathered.get?_eq_some_iff name record).mp hrecord
    exact ⟨hseen, c, hc, (isPublished_iff houtcome).mpr rfl⟩
  · rintro ⟨hseen, c, hc, hpublished⟩
    obtain ⟨c', outcome, hc', houtcome⟩ := hgathered.readable name hseen
    obtain rfl := Option.some.inj (hc.symm.trans hc')
    obtain ⟨record, rfl⟩ := Option.isSome_iff_exists.mp ((isPublished_iff houtcome).mp hpublished)
    exact OrderedMap.mem_keys_of_get?
      ((hgathered.get?_eq_some_iff name record).mpr ⟨hseen, c, hc, houtcome⟩)

/-- Where collecting succeeds, the names ascend, they are the requested ones whose classes are not
internal, and every record shows the class of its name. -/
theorem collect_shows_published {reflect : Reflector} {names : List String}
    {records : OrderedMap String ClassRecord} (h : (collect reflect names).2 = .ok records) :
    (records.keys.Pairwise fun a b => a < b) ∧
    (∀ name, name ∈ records.keys ↔ name ∈ names ∧ ∃ c, reflect name = some c ∧ IsPublished c) ∧
    ∀ name record, records.get? name = some record →
      ∃ c, reflect name = some c ∧ ShowsClass c record := by
  refine ⟨?_, mem_keys_iff_of_collect h, fun name record hrecord => ?_⟩
  · obtain ⟨gathered, -, rfl⟩ := collected_of_collect h
    exact gathered.sorted_keys_pairwise
  · obtain ⟨gathered, hgathered, rfl⟩ := collected_of_collect h
    rw [OrderedMap.get?_sorted, hgathered.get?_eq_some_iff] at hrecord
    obtain ⟨-, c, hc, houtcome⟩ := hrecord
    exact ⟨c, hc, showsClass_of_classRecord houtcome⟩

/-- Two classes: an internal one, and one with a method declared twice, its opposite, and a method
that is neither public nor documented. -/
def lengthClasses : Reflector
  | "Inner" => some { name := "Inner", comment := .str "/**\n * @internal\n */" }
  | "Length" => some {
      name := "Length"
      comment := .str "/**\n * Checks lengths.\n */"
      methods := [
        { name := .str "assertLength", comment := .str "/**\n * Checks some length.\n */" },
        { name := .str "assertNotLength"
          comment := .str "/**\n * Checks that a length is another.\n */" },
        { name := .str "secret", isPublic := false },
        { name := .str "assertLength"
          comment := .str "/**\n * Checks a length.\n *\n * @param int $expected\n */"
          params := [
            { name := "expected", hasDefault := true, default := .int 1 },
            { name := "expected" }] }] }
  | _ => none

/-- Both classes can be collected, and what is collected shows the one that is not internal. -/
theorem collect_lengthClasses :
    ∃ records, (collect lengthClasses ["Length", "Inner", "Length"]).2 = .ok records ∧
      (records.keys.Pairwise fun a b => a < b) ∧
      (∀ name, name ∈ records.keys ↔ name ∈ ["Length", "Inner", "Length"] ∧
        ∃ c, lengthClasses name = some c ∧ IsPublished c) ∧
      ∀ name record, records.get? name = some record →
        ∃ c, lengthClasses name = some c ∧ ShowsClass c record := by
  have hok : (collect lengthClasses ["Length", "Inner", "Length"]).2.isOk = true := by
    decide +kernel
  cases h : (collect lengthClasses ["Length", "Inner", "Length"]).2 with
  | error stop =>
    rw [h] at hok
    cases hok
  | ok records => exact ⟨records, rfl, collect_shows_published h⟩

end TraitDocs.Catalog
