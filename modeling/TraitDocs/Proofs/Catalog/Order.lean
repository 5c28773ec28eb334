import Mathlib.Data.List.Perm.Basic
import TraitDocs.Proofs.Catalog.Collection

/-!
# Orders that the document does not depend on

The records stand in ascending order, so they depend on the set of the requested names, not on
their order or on how often one is requested. In the same way the record of a class does not depend
on the order in which the class lists its methods, as long as no two public ones have one name: of
two with one name the last is shown. What can depend on an order is which failure is met first.

`collect_eq_ok_iff` says what collecting gives without the order of the walk, and
`pairedMethods?_eq_some_iff` does the same for the methods of a class.
-/

set_option autoImplicit false

namespace TraitDocs.Catalog

open Assertion Docblock

/-! ## The order of the requested names -/

/-- What a name gives: nothing if it is unknown or its class cannot be read, and else the record of
its class, which an internal class does not have. -/
def outcome? (reflect : Reflector) (name : String) : Option (Option ClassRecord) :=
  (reflect name).bind fun c => (classRecord c).2.toOption

/-- What is left of a result when its error is forgotten. -/
theorem toOption_eq_some_iff {ε α : Type} {x : Except ε α} {a : α} :
    x.toOption = some a ↔ x = .ok a := by
  cases x <;> simp [Except.toOption]

/-- A name has an outcome exactly if it is known and its class can be recorded or passed over. -/
theorem outcome?_eq_some_iff {reflect : Reflector} {name : String} {outcome : Option ClassRecord} :
    outcome? reflect name = some outcome ↔
      ∃ c, reflect name = some c ∧ (classRecord c).2 = .ok outcome := by
  unfold outcome?
  simp only [Option.bind_eq_some_iff, toOption_eq_some_iff]

/-- Where every name has an outcome, collecting succeeds. -/
theorem exists_collectFrom {reflect : Reflector} {names : List String}
    (h : ∀ name ∈ names, ∃ outcome, outcome? reflect name = some outcome) (journal : Journal)
    (records : OrderedMap String ClassRecord) :
    ∃ result, (collectFrom reflect journal records names).2 = .ok result := by
  induction names generalizing journal records with
  | nil => exact ⟨records.sorted, rfl⟩
  | cons name names ih =>
    rw [List.forall_mem_cons] at h
    obtain ⟨⟨outcome, houtcome⟩, hrest⟩ := h
    obtain ⟨c, hc, hrecord⟩ := outcome?_eq_some_iff.mp houtcome
    simp only [collectFrom, hc, hrecord]
    cases outcome with
    | none => exact ih hrest _ _
    | some record => exact ih hrest _ _

/-- Collecting gives the records that the requested names give, in ascending order, and gives them
whenever every name can be read. -/
theorem collect_eq_ok_iff {reflect : Reflector} {names : List String}
    {records : OrderedMap String ClassRecord} :
    (collect reflect names).2 = .ok records ↔
      Collected reflect names records ∧ records.keys.Pairwise fun a b => a < b := by
  have hforward : ∀ result, (collect reflect names).2 = .ok result →
      Collected reflect names result ∧ result.keys.Pairwise fun a b => a < b := by
    intro result hresult
    obtain ⟨gathered, hgathered, rfl⟩ := collected_of_collect hresult
    refine ⟨⟨hgathered.readable, fun name record => ?_⟩, gathered.sorted_keys_pairwise⟩
    rw [OrderedMap.get?_sorted, hgathered.get?_eq_some_iff]
  constructor
  · exact hforward records
  · rintro ⟨hcollected, hascend⟩
    have hreadable : ∀ name ∈ names, ∃ outcome, outcome? reflect name = some outcome := by
      intro name hname
      obtain ⟨c, outcome, hc, hrecord⟩ := hcollected.readable name hname
      exact ⟨outcome, outcome?_eq_some_iff.mpr ⟨c, hc, hrecord⟩⟩
    obtain ⟨result, hresult⟩ := exists_collectFrom hreadable {} .empty
    -- What is collected is also gathered from the names, and two such maps that ascend are one.
    obtain ⟨hcollected', hascend'⟩ := hforward result hresult
    have hsame : result = records := by
      refine OrderedMap.eq_of_ascending hascend' hascend fun name => Option.ext fun record => ?_
      rw [hcollected'.get?_eq_some_iff, hcollected.get?_eq_some_iff]
    exact hsame ▸ hresult

/-- What is gathered depends on the set of names and on what each of them gives. -/
theorem Collected.congr {reflect reflect' : Reflector} {names names' : List String}
    {records : OrderedMap String ClassRecord} (hnames : ∀ name, name ∈ names ↔ name ∈ names')
    (houtcome : ∀ name ∈ names, outcome? reflect name = outcome? reflect' name)
    (h : Collected reflect names records) : Collected reflect' names' records := by
  constructor
  · intro name hname'
    have hname := (hnames name).mpr hname'
    obtain ⟨c, outcome, hc, hrecord⟩ := h.readable name hname
    have hgiven := outcome?_eq_some_iff.mpr ⟨c, hc, hrecord⟩
    rw [houtcome name hname] at hgiven
    obtain ⟨c', hc', hrecord'⟩ := outcome?_eq_some_iff.mp hgiven
    exact ⟨c', outcome, hc', hrecord'⟩
  · intro name record
    rw [h.get?_eq_some_iff, ← hnames name]
    refine and_congr_right fun hname => ?_
    unfold Gives
    rw [← outcome?_eq_some_iff, ← outcome?_eq_some_iff, houtcome name hname]

/-- Tells that two requests both succeed, with the same records and the same documents, or both
fail. -/
def SameResult (reflect : Reflector) (names : List String) (reflect' : Reflector)
    (names' : List String) : Prop :=
  (collect reflect names).2.toOption = (collect reflect' names').2.toOption ∧
    ∀ template, (generate reflect template names).2.toOption =
      (generate reflect' template names').2.toOption

/-- The document, if there is one, is rendered from the records, if there are any. -/
theorem toOption_generate (reflect : Reflector) (template : String) (names : List String) :
    (generate reflect template names).2.toOption =
      (collect reflect names).2.toOption.map fun records => Readme.render records template := by
  simp only [generate]
  cases (collect reflect names).2 <;> rfl

/-- Lists of the same names with the same outcomes have the same result. -/
theorem sameResult_of_outcome? {reflect reflect' : Reflector} {names names' : List String}
    (hnames : ∀ name, name ∈ names ↔ name ∈ names')
    (houtcome : ∀ name ∈ names, outcome? reflect name = outcome? reflect' name) :
    SameResult reflect names reflect' names' := by
  have houtcome' : ∀ name ∈ names', outcome? reflect' name = outcome? reflect name :=
    fun name hname' => (houtcome name ((hnames name).mpr hname')).symm
  have hcollect : (collect reflect names).2.toOption = (collect reflect' names').2.toOption := by
    apply Option.ext
    intro records
    rw [toOption_eq_some_iff, toOption_eq_some_iff, collect_eq_ok_iff, collect_eq_ok_iff]
    refine and_congr_left fun _ => ⟨Collected.congr hnames houtcome, ?_⟩
    exact Collected.congr (fun name => (hnames name).symm) houtcome'
  refine ⟨hcollect, fun template => ?_⟩
  rw [toOption_generate, toOption_generate, hcollect]

/-! ## The order of the methods of a class -/

/-- The paired methods of a class, if every public one of them can be read. -/
def pairedMethods? (c : ReflectedClass) : Option (OrderedMap String MethodRecord) :=
  ((publicDocs c).toOption.bind fun docs => (methodRecords docs).toOption).map mergeNegatives

/-- A class is read by its comment and, unless that makes it internal, by its paired methods. -/
theorem toOption_classRecord (c : ReflectedClass) :
    (classRecord c).2.toOption =
      ((commentText c.comment).toOption.bind readClass).bind fun classDoc =>
        if classDoc.hasTag "internal" then some none
        else (pairedMethods? c).map fun methods => some ⟨classDoc, methods⟩ := by
  unfold classRecord pairedMethods?
  cases commentText c.comment with
  | error fault => rfl
  | ok comment =>
    have hcomment : (Except.ok comment : Except Fault (Option String)).toOption = some comment :=
      rfl
    rw [hcomment, Option.bind_some]
    cases hread : readClass comment with
    | none =>
      simp only [hread]
      rfl
    | some classDoc =>
      rw [Option.bind_some]
      by_cases hinternal : classDoc.hasTag "internal" = true
      · simp only [hread, hinternal, if_true]
        rfl
      · simp only [hread, hinternal]
        cases publicDocs c with
        | error stop => rfl
        | ok docs =>
          cases hrecords : methodRecords docs <;>
            simp [hrecords, Except.toOption, Except.map]

/-- Tells that a method of a class can be read, has a text as its name, and is recorded by this
entry. -/
def Recorded (className : String) (m : ReflectedMethod) (e : String × MethodRecord) : Prop :=
  ∃ doc, validate className m = .ok doc ∧ m.name = .str e.1 ∧ e.2 = .single e.1 doc

/-- Methods that can be recorded have documentations under their names. -/
theorem mapM_namedDoc_of_recorded {className : String} {methods : List ReflectedMethod}
    {es : List (String × MethodRecord)} (h : List.Forall₂ (Recorded className) methods es) :
    methods.mapM (namedDoc className) = .ok (es.map fun e => (.str e.1, e.2.doc)) := by
  induction h with
  | nil => rfl
  | @cons m e methods es hm _ ih =>
    obtain ⟨doc, hvalidate, hname, hrecord⟩ := hm
    have hnamed : namedDoc className m = .ok (.str e.1, e.2.doc) := by
      simp only [namedDoc, hvalidate, hname, hrecord]
      rfl
    rw [List.mapM_cons, hnamed, ih]
    rfl

/-- The documentations of methods that can be recorded give their records. -/
theorem methodRecords_of_recorded {className : String} {methods : List ReflectedMethod}
    {es : List (String × MethodRecord)} (h : List.Forall₂ (Recorded className) methods es) :
    methodRecords (es.map fun e => (.str e.1, e.2.doc)) = .ok (.ofList es) := by
  have htexts : ((es.map fun e => (Json.str e.1, e.2.doc)).filterMap fun d =>
      (nameText? d.1).map fun name => (name, MethodRecord.single name d.2)) = es := by
    induction h with
    | nil => rfl
    | @cons m e methods es hm _ ih =>
      obtain ⟨doc, -, -, hrecord⟩ := hm
      rw [List.map_cons, List.filterMap_cons, ih]
      simp [nameText?, hrecord, MethodRecord.doc, Prod.ext_iff]
  simp only [methodRecords, htexts, List.length_map, if_true]

/-- The paired methods of a class are those that its public methods are recorded by. -/
theorem pairedMethods?_eq_some_iff {c : ReflectedClass} {paired : OrderedMap String MethodRecord} :
    pairedMethods? c = some paired ↔
      ∃ es, List.Forall₂ (Recorded c.name) (c.methods.filter (·.isPublic)) es ∧
        paired = mergeNegatives (.ofList es) := by
  unfold pairedMethods?
  simp only [Option.map_eq_some_iff, Option.bind_eq_some_iff, toOption_eq_some_iff]
  constructor
  · rintro ⟨methods, ⟨docs, hdocs, hmethods⟩, rfl⟩
    obtain ⟨es, rfl, hes⟩ := methodRecords_eq_ok hmethods
    refine ⟨es, (forall₂_trans (forall₂_of_mapM hdocs) hes).imp ?_, rfl⟩
    rintro m e ⟨d, hd, hname, hrecord⟩
    obtain ⟨hdname, hvalidate⟩ := namedDoc_eq_ok hd
    exact ⟨d.2, hvalidate, hdname.trans hname, hrecord⟩
  · rintro ⟨es, hes, rfl⟩
    exact ⟨.ofList es, ⟨_, mapM_namedDoc_of_recorded hes, methodRecords_of_recorded hes⟩, rfl⟩

/-- Tells that two classes differ at most in the order in which they list their methods. -/
structure Reordered (c c' : ReflectedClass) : Prop where
  name_eq : c.name = c'.name
  comment_eq : c.comment = c'.comment
  methods_perm : c.methods.Perm c'.methods

/-- Tells that no two public methods of a class have one name. -/
def DistinctNames (c : ReflectedClass) : Prop :=
  (c.methods.filter (·.isPublic)).Pairwise fun m m' => sameName m.name m'.name = false

/-- A class is reordered from each of its reorderings. -/
theorem Reordered.symm {c c' : ReflectedClass} (h : Reordered c c') : Reordered c' c :=
  ⟨h.name_eq.symm, h.comment_eq.symm, h.methods_perm.symm⟩

/-- Reordering the methods reorders the public ones. -/
theorem Reordered.public_perm {c c' : ReflectedClass} (h : Reordered c c') :
    (c.methods.filter (·.isPublic)).Perm (c'.methods.filter (·.isPublic)) :=
  h.methods_perm.filter _

/-- Having the same name is mutual. -/
theorem sameName_comm (a b : Json) : sameName a b = sameName b a := by
  unfold sameName
  cases asNumber a <;> cases asNumber b <;> simp [Binary64.sameValue, eq_comm, Bool.and_comm]

/-- Names stay distinct when methods are reordered. -/
theorem DistinctNames.of_reordered {c c' : ReflectedClass} (h : DistinctNames c)
    (hreordered : Reordered c c') : DistinctNames c' := by
  refine (List.Perm.pairwise_iff ?_ hreordered.public_perm).mp h
  intro m m' hm
  rwa [sameName_comm]

/-- The records of methods with distinct names have distinct keys. -/
theorem DistinctNames.nodup_keys {c : ReflectedClass} (h : DistinctNames c) {className : String}
    {es : List (String × MethodRecord)}
    (hes : List.Forall₂ (Recorded className) (c.methods.filter (·.isPublic)) es) :
    (es.map Prod.fst).Nodup := by
  have hnames : (c.methods.filter (·.isPublic)).map (·.name) = es.map fun e => Json.str e.1 := by
    rw [← List.forall₂_eq_eq_eq, List.forall₂_map_left_iff, List.forall₂_map_right_iff]
    exact hes.imp fun m e ⟨_, _, hname, _⟩ => hname
  have hpairwise : ((c.methods.filter (·.isPublic)).map (·.name)).Pairwise
      fun a b => sameName a b = false := List.pairwise_map.mpr h
  rw [hnames, List.pairwise_map] at hpairwise
  refine List.pairwise_map.mpr (hpairwise.imp fun {e e'} hdistinct heq => ?_)
  simp [sameName, asNumber, heq] at hdistinct

/-- Methods with distinct names are paired in the same way in any order. -/
theorem pairedMethods?_of_reordered {c c' : ReflectedClass} (hdistinct : DistinctNames c)
    (hreordered : Reordered c c') {paired : OrderedMap String MethodRecord}
    (h : pairedMethods? c = some paired) : pairedMethods? c' = some paired := by
  obtain ⟨es, hes, rfl⟩ := pairedMethods?_eq_some_iff.mp h
  obtain ⟨es', hes', hperm⟩ := List.perm_comp_forall₂ hreordered.public_perm.symm hes
  rw [hreordered.name_eq] at hes'
  refine pairedMethods?_eq_some_iff.mpr ⟨es', hes', ?_⟩
  -- As no name is given twice, both lists file the same record under each name, and pairing starts
  -- by sorting the names.
  have hget := OrderedMap.get?_ofList_of_perm hperm.symm (hdistinct.nodup_keys hes)
  unfold mergeNegatives
  rw [OrderedMap.sorted_congr hget]

/-- The record of a class, if there is one, does not depend on the order of its methods. -/
theorem toOption_classRecord_of_reordered {c c' : ReflectedClass} (hdistinct : DistinctNames c)
    (hreordered : Reordered c c') :
    (classRecord c).2.toOption = (classRecord c').2.toOption := by
  have hpaired : pairedMethods? c = pairedMethods? c' := by
    apply Option.ext
    intro paired
    constructor
    · exact pairedMethods?_of_reordered hdistinct hreordered
    · exact pairedMethods?_of_reordered (hdistinct.of_reordered hreordered) hreordered.symm
  rw [toOption_classRecord, toOption_classRecord, hreordered.comment_eq, hpaired]

/-- The outcome of a name does not depend on the order of the methods of its class. -/
theorem outcome?_of_reordered {reflect reflect' : Reflector} {name : String}
    (hreordered : Option.Rel Reordered (reflect name) (reflect' name))
    (hdistinct : ∀ c, reflect name = some c → DistinctNames c) :
    outcome? reflect name = outcome? reflect' name := by
  unfold outcome?
  generalize reflect name = c at hreordered hdistinct
  generalize reflect' name = c' at hreordered
  cases hreordered with
  | none => rfl
  | some hreordered =>
    exact toOption_classRecord_of_reordered (hdistinct _ rfl) hreordered

/-- Two lists of names with the same members both give the same records and documents, or both fail;
and so do two sources whose classes differ only in the order of their methods, where no two public
methods of a requested class have one name. -/
theorem collect_orderless :
    (∀ (reflect : Reflector) (names names' : List String),
      (∀ name, name ∈ names ↔ name ∈ names') → SameResult reflect names reflect names') ∧
    ∀ (reflect reflect' : Reflector) (names : List String),
      (∀ name ∈ names, Option.Rel Reordered (reflect name) (reflect' name)) →
      (∀ name ∈ names, ∀ c, reflect name = some c → DistinctNames c) →
      SameResult reflect names reflect' names := by
  constructor
  · intro reflect names names' hnames
    exact sameResult_of_outcome? hnames fun name _ => rfl
  · intro reflect reflect' names hreordered hdistinct
    refine sameResult_of_outcome? (fun name => Iff.rfl) fun name hname => ?_
    exact outcome?_of_reordered (hreordered name hname) (hdistinct name hname)

/-- A class with an assertion, its denial, and a method that is not public, listed as given, and an
internal class. -/
def listedClasses (list : List ReflectedMethod → List ReflectedMethod) : Reflector
  | "Inner" => some { name := "Inner", comment := .str "/**\n * @internal\n */" }
  | "Length" => some {
      name := "Length"
      comment := .str "/**\n * Checks lengths.\n */"
      methods := list [
        { name := .str "assertLength", comment := .str "/**\n * Checks a length.\n */" },
        { name := .str "assertLength", isPublic := false },
        { name := .str "assertNotLength"
          comment := .str "/**\n * Checks that a length is another.\n */" }] }
  | _ => none

/-- The methods of those classes have distinct names. -/
theorem distinctNames_listedClasses (name : String) (c : ReflectedClass)
    (h : listedClasses id name = some c) : DistinctNames c := by
  unfold listedClasses at h
  split at h
  · obtain rfl := Option.some.inj h
    exact List.Pairwise.nil
  · obtain rfl := Option.some.inj h
    simp [DistinctNames, sameName, asNumber]
  · cases h

/-- The names can be requested in another order and twice, and the methods listed in another order;
the records and the document stay the same. -/
theorem sameResult_listedClasses :
    (collect (listedClasses id) ["Inner", "Length"]).2.isOk = true ∧
    SameResult (listedClasses id) ["Inner", "Length"] (listedClasses id)
        ["Length", "Inner", "Length"] ∧
      SameResult (listedClasses id) ["Inner", "Length"] (listedClasses List.reverse)
        ["Inner", "Length"] := by
  refine ⟨by decide +kernel, ?_, ?_⟩
  · refine collect_orderless.1 _ _ _ fun name => ?_
    simp only [List.mem_cons, List.not_mem_nil, or_false]
    grind
  · refine collect_orderless.2 _ _ _ ?_ fun name _ => distinctNames_listedClasses name
    rw [List.forall_mem_cons, List.forall_mem_singleton]
    constructor
    · exact .some ⟨rfl, rfl, List.Perm.refl _⟩
    · exact .some ⟨rfl, rfl, (List.reverse_perm _).symm⟩

end TraitDocs.Catalog
