import Mathlib.Data.List.Sort
import TraitDocs.Proofs.Catalog.Order
import TraitDocs.Proofs.Readme.Inverses

/-!
# One section for each class

The listing and the sections of the requested classes are those of each class requested by itself,
one after the other in ascending order of the names: no class shows in the text of another. So a
class that is requested in addition puts its own text in at its place, and leaves the rest.

The records are sorted and rid of internal classes when they are collected, and once more when they
are rendered; `shown_of_collect` says that the second time changes nothing.
-/

set_option autoImplicit false

namespace TraitDocs.Catalog

open Docblock Readme

/-! ## Names in ascending order -/

/-- The names of a list that stand before a name. -/
def namesBelow (name : String) (names : List String) : List String :=
  names.filter fun n => decide (n < name)

/-- The names of a list that stand after a name. -/
def namesAbove (name : String) (names : List String) : List String :=
  names.filter fun n => decide (name < n)

section Ascending

variable {name : String} {names : List String}

/-- An ascending list stays so if a name is put in between the names below and those above it. -/
theorem ascending_put (h : names.Pairwise fun a b => a < b) :
    (namesBelow name names ++ name :: namesAbove name names).Pairwise fun a b => a < b := by
  rw [List.pairwise_append, List.pairwise_cons]
  refine ⟨h.filter _, ⟨fun a ha => ?_, h.filter _⟩, fun a ha b hb => ?_⟩
  · exact of_decide_eq_true (List.mem_filter.mp ha).2
  · have ha' : a < name := of_decide_eq_true (List.mem_filter.mp ha).2
    obtain rfl | hb := List.mem_cons.mp hb
    · exact ha'
    · exact String.lt_trans ha' (of_decide_eq_true (List.mem_filter.mp hb).2)

/-- Ascending names without one of them are ascending. -/
theorem ascending_omit (h : names.Pairwise fun a b => a < b) :
    (namesBelow name names ++ namesAbove name names).Pairwise fun a b => a < b :=
  (ascending_put h).sublist ((List.sublist_cons_self _ _).append_left _)

/-- Without a name there are the other names. -/
theorem mem_omit_iff {n : String} :
    n ∈ namesBelow name names ++ namesAbove name names ↔ n ∈ names ∧ n ≠ name := by
  rw [← lt_or_lt_iff_ne]
  simp only [namesBelow, namesAbove, List.mem_append, List.mem_filter, decide_eq_true_eq]
  exact and_or_left.symm

/-- With a name put in its place there are that name and the others. -/
theorem mem_put_iff {n : String} :
    n ∈ namesBelow name names ++ name :: namesAbove name names ↔
      n = name ∨ n ∈ names ∧ n ≠ name := by
  rw [← mem_omit_iff]
  simp only [List.mem_append, List.mem_cons, or_left_comm]

end Ascending

/-! ## The sections of one class -/

/-- The records that are collected are shown as they are: they stand in ascending order, and none is
internal. -/
theorem shown_of_collect {reflect : Reflector} {names : List String}
    {records : OrderedMap String ClassRecord} (h : (collect reflect names).2 = .ok records) :
    shown records = records.entries := by
  obtain ⟨hcollected, hascend⟩ := collect_eq_ok_iff.mp h
  unfold shown
  rw [OrderedMap.sorted_eq_self hascend, List.filter_eq_self]
  intro e he
  obtain ⟨-, c, -, houtcome⟩ :=
    (hcollected.get?_eq_some_iff e.1 e.2).mp (OrderedMap.get?_eq_some_iff.mpr he)
  obtain ⟨comment, classDoc, -, -, ⟨-, hnone⟩ | ⟨hpublic, docs, methods, -, -, hrecord⟩⟩ :=
    classRecord_eq_ok houtcome
  · cases hnone
  · rw [Option.some.inj hrecord, hpublic]
    rfl

/-- The sections of a class that is requested by itself, if it can be read. -/
def soleSections (reflect : Reflector) (name : String) : Sections :=
  match (collect reflect [name]).2 with
  | .ok records => sections records
  | .error _ => ⟨"", ""⟩

section Sole

variable {reflect : Reflector} {name : String} {c : ReflectedClass}

/-- A class that is requested by itself gives its record, if it has one. -/
theorem collect_singleton (hc : reflect name = some c) {outcome : Option ClassRecord}
    (houtcome : (classRecord c).2 = .ok outcome) :
    (collect reflect [name]).2 = .ok (outcome.elim .empty (oneClass name)) := by
  have hempty : (OrderedMap.empty : OrderedMap String ClassRecord).sorted = .empty :=
    OrderedMap.sorted_eq_self List.Pairwise.nil
  have hone : ∀ record, (OrderedMap.empty.insert name record).sorted = oneClass name record :=
    fun record => OrderedMap.sorted_eq_self (List.pairwise_singleton _ _)
  cases outcome with
  | none => simp only [collect, collectFrom, hc, houtcome, hempty, Option.elim_none]
  | some record => simp only [collect, collectFrom, hc, houtcome, hone, Option.elim_some]

/-- A class that gives a record has its entry and its section. -/
theorem soleSections_of_gives {record : ClassRecord} (h : Gives reflect name record) :
    soleSections reflect name = ⟨listingEntry name record, classSection name record⟩ := by
  obtain ⟨c, hc, houtcome⟩ := h
  have hcollect := collect_singleton hc houtcome
  have hshown : shown (oneClass name record) = [(name, record)] := shown_of_collect hcollect
  simp only [soleSections, hcollect, Option.elim_some, sections, hshown, List.map_singleton,
    String.join_cons, String.join_nil, String.append_empty]

/-- A class that is internal has no text. -/
theorem soleSections_of_internal (hc : reflect name = some c)
    (houtcome : (classRecord c).2 = .ok none) : soleSections reflect name = ⟨"", ""⟩ := by
  have hcollect := collect_singleton hc houtcome
  have hshown : shown (OrderedMap.empty : OrderedMap String ClassRecord) = [] :=
    shown_of_collect hcollect
  simp only [soleSections, hcollect, Option.elim_none, sections, hshown, List.map_nil,
    String.join_nil]

end Sole

/-! ## The sections of the requested classes -/

/-- Sections one after the other. -/
def joined (parts : List Sections) : Sections where
  listing := String.join (parts.map Sections.listing)
  body := String.join (parts.map Sections.body)

instance : Append Sections :=
  ⟨fun a b => ⟨a.listing ++ b.listing, a.body ++ b.body⟩⟩

/-- Sections of two lists put together are those of the first and then those of the second. -/
theorem joined_append (parts parts' : List Sections) :
    joined (parts ++ parts') = joined parts ++ joined parts' := by
  unfold joined
  rw [List.map_append, List.map_append, String.join_append, String.join_append]
  rfl

/-- Sections are put together from the front. -/
theorem joined_cons (part : Sections) (parts : List Sections) :
    joined (part :: parts) = part ++ joined parts := by
  unfold joined
  rw [List.map_cons, List.map_cons, String.join_cons, String.join_cons]
  rfl

/-- Empty sections add nothing in front of others. -/
theorem empty_append (part : Sections) : (⟨"", ""⟩ : Sections) ++ part = part := by
  cases part
  exact congrArg₂ Sections.mk String.empty_append String.empty_append

/-- Tells that these are the names that a document shows: those of the requested names whose classes
are not internal, in ascending order. -/
structure ShownNames (reflect : Reflector) (names shownNames : List String) : Prop where
  ascend : shownNames.Pairwise fun a b => a < b
  mem_iff : ∀ name, name ∈ shownNames ↔ name ∈ names ∧ ∃ c, reflect name = some c ∧ IsPublished c

/-- The sections of the requested classes are those of each class that is shown, one after the
other. -/
theorem sections_eq_joined {reflect : Reflector} {names : List String}
    {records : OrderedMap String ClassRecord} (h : (collect reflect names).2 = .ok records) :
    ShownNames reflect names records.keys ∧
      sections records = joined (records.keys.map (soleSections reflect)) := by
  obtain ⟨hcollected, hascend⟩ := collect_eq_ok_iff.mp h
  have hsole : records.keys.map (soleSections reflect) =
      records.entries.map fun e => ⟨listingEntry e.1 e.2, classSection e.1 e.2⟩ := by
    unfold OrderedMap.keys
    rw [List.map_map]
    apply List.map_congr_left
    intro e he
    have hget : records.get? e.1 = some e.2 := OrderedMap.get?_eq_some_iff.mpr he
    exact soleSections_of_gives ((hcollected.get?_eq_some_iff e.1 e.2).mp hget).2
  refine ⟨⟨hascend, mem_keys_iff_of_collect h⟩, ?_⟩
  rw [hsole, sections, shown_of_collect h, joined, List.map_map, List.map_map]
  rfl

/-- Tells that one text is another with the sections of a class put in: what belongs to the names
before it comes before, what belongs to those after it comes after. -/
def PutIn (reflect : Reflector) (shownNames : List String) (name : String)
    (smaller larger : Sections) : Prop :=
  let before := joined ((namesBelow name shownNames).map (soleSections reflect))
  let after := joined ((namesAbove name shownNames).map (soleSections reflect))
  smaller = before ++ after ∧ larger = before ++ (soleSections reflect name ++ after)

/-- Collecting succeeds if every requested name can be read, which each then can by itself. -/
theorem exists_collect_iff {reflect : Reflector} {names : List String} :
    (∃ records, (collect reflect names).2 = .ok records) ↔
      ∀ name ∈ names, ∃ records, (collect reflect [name]).2 = .ok records := by
  have hreadable : ∀ names, (∃ records, (collect reflect names).2 = .ok records) ↔
      ∀ name ∈ names, ∃ outcome, outcome? reflect name = some outcome := by
    intro names
    constructor
    · rintro ⟨records, h⟩ name hname
      obtain ⟨c, outcome, hc, houtcome⟩ := (collect_eq_ok_iff.mp h).1.readable name hname
      exact ⟨outcome, outcome?_eq_some_iff.mpr ⟨c, hc, houtcome⟩⟩
    · intro h
      exact exists_collectFrom h {} .empty
  rw [hreadable]
  refine forall₂_congr fun name _ => ?_
  rw [hreadable, List.forall_mem_singleton]

/-- A class that can be read and is not shown has no text. -/
theorem soleSections_of_not_published {reflect : Reflector} {name : String}
    (hreadable : ∃ records, (collect reflect [name]).2 = .ok records)
    (h : ¬ ∃ c, reflect name = some c ∧ IsPublished c) : soleSections reflect name = ⟨"", ""⟩ := by
  obtain ⟨records, hrecords⟩ := hreadable
  obtain ⟨c, outcome, hc, houtcome⟩ :=
    (collect_eq_ok_iff.mp hrecords).1.readable name (List.mem_singleton.mpr rfl)
  cases outcome with
  | none => exact soleSections_of_internal hc houtcome
  | some record => exact absurd ⟨c, hc, (isPublished_iff houtcome).mpr rfl⟩ h

/-- A name that is requested in addition puts the sections of its class in. -/
theorem putIn_of_collect {reflect : Reflector} {names names' : List String}
    {records records' : OrderedMap String ClassRecord} {name : String}
    (h : (collect reflect names).2 = .ok records) (h' : (collect reflect names').2 = .ok records')
    (hname : name ∉ names) (hnames : ∀ n, n ∈ names' ↔ n = name ∨ n ∈ names) :
    PutIn reflect records.keys name (sections records) (sections records') := by
  obtain ⟨hshown, hsections⟩ := sections_eq_joined h
  obtain ⟨hshown', hsections'⟩ := sections_eq_joined h'
  have hname' : name ∉ records.keys := fun hn => hname ((hshown.mem_iff name).mp hn).1
  have hmem' : ∀ n, n ∈ records'.keys ↔
      n = name ∧ (∃ c, reflect name = some c ∧ IsPublished c) ∨ n ∈ records.keys := by
    intro n
    rw [hshown'.mem_iff, hshown.mem_iff, hnames]
    grind
  have hkeys : records.keys = namesBelow name records.keys ++ namesAbove name records.keys := by
    refine hshown.ascend.eq_of_mem_iff (ascending_omit hshown.ascend) fun n => ?_
    rw [mem_omit_iff]
    grind
  constructor
  · rw [hsections, ← joined_append, ← List.map_append, ← hkeys]
  · by_cases hpublished : ∃ c, reflect name = some c ∧ IsPublished c
    · have hkeys' : records'.keys =
          namesBelow name records.keys ++ name :: namesAbove name records.keys := by
        refine hshown'.ascend.eq_of_mem_iff (ascending_put hshown.ascend) fun n => ?_
        rw [hmem', mem_put_iff]
        grind
      rw [hsections', ← joined_cons, ← joined_append, ← List.map_cons, ← List.map_append, ← hkeys']
    · -- An internal class has no text, and the names shown stay the same.
      have hkeys' : records'.keys = records.keys := by
        refine hshown'.ascend.eq_of_mem_iff hshown.ascend fun n => ?_
        rw [hmem', or_iff_right fun hn => hpublished hn.2]
      have hreadable := exists_collect_iff.mp ⟨records', h'⟩ name ((hnames name).mpr (Or.inl rfl))
      rw [hsections', soleSections_of_not_published hreadable hpublished, empty_append,
        ← joined_append, ← List.map_append, ← hkeys, hkeys']

/-- Where collecting succeeds, it does so for each name by itself, and the sections are those of
each class that is shown, one after the other; sorting the records again and leaving out internal
classes changes nothing. A name that is added puts the sections of its class in at its place, a name
that is left out takes them away, and all the rest stays as it is. -/
theorem sections_of_collect {reflect : Reflector} {names : List String}
    {records : OrderedMap String ClassRecord} (h : (collect reflect names).2 = .ok records) :
    shown records = records.entries ∧
    ShownNames reflect names records.keys ∧
    (∀ name ∈ names, ∃ sole, (collect reflect [name]).2 = .ok sole) ∧
    sections records = joined (records.keys.map (soleSections reflect)) ∧
    (∀ name names', name ∉ names → (∃ sole, (collect reflect [name]).2 = .ok sole) →
      (∀ n, n ∈ names' ↔ n = name ∨ n ∈ names) →
        ∃ records', (collect reflect names').2 = .ok records' ∧
          PutIn reflect records.keys name (sections records) (sections records')) ∧
    ∀ name ∈ names, ∀ names', (∀ n, n ∈ names' ↔ n ∈ names ∧ n ≠ name) →
      ∃ records', (collect reflect names').2 = .ok records' ∧
        PutIn reflect records'.keys name (sections records') (sections records) := by
  have hsole := exists_collect_iff.mp ⟨records, h⟩
  obtain ⟨hshown, hsections⟩ := sections_eq_joined h
  refine ⟨shown_of_collect h, hshown, hsole, hsections, ?_, ?_⟩
  · intro name names' hname hreadable hnames
    have hsole' : ∀ n ∈ names', ∃ sole, (collect reflect [n]).2 = .ok sole := by
      intro n hn
      obtain rfl | hn := (hnames n).mp hn
      · exact hreadable
      · exact hsole n hn
    obtain ⟨records', h'⟩ := exists_collect_iff.mpr hsole'
    exact ⟨records', h', putIn_of_collect h h' hname hnames⟩
  · intro name hname names' hnames
    have hsole' : ∀ n ∈ names', ∃ sole, (collect reflect [n]).2 = .ok sole :=
      fun n hn => hsole n ((hnames n).mp hn).1
    obtain ⟨records', h'⟩ := exists_collect_iff.mpr hsole'
    refine ⟨records', h', putIn_of_collect h' h (fun hn => ((hnames name).mp hn).2 rfl) fun n => ?_⟩
    rw [hnames]
    grind

/-- Three classes of which each checks something else, and an internal one. -/
def checkingClasses : Reflector
  | "A\\Files" => some { name := "A\\Files", comment := .str "/**\n * Checks files.\n */" }
  | "B\\Links" => some {
      name := "B\\Links"
      comment := .str "/**\n * Checks links.\n *\n * @requires ext-posix\n */"
      methods := [{ name := .str "assertLink", comment := .str "/**\n * Checks a link.\n */" }] }
  | "C\\Times" => some { name := "C\\Times", comment := .str "/**\n * Checks times.\n */" }
  | "Inner" => some { name := "Inner", comment := .str "/**\n * @internal\n */" }
  | _ => none

/-- A collection that succeeds gives records. -/
theorem exists_collect_of_isOk {reflect : Reflector} {names : List String}
    (h : (collect reflect names).2.isOk = true) :
    ∃ records, (collect reflect names).2 = .ok records := by
  cases hcollect : (collect reflect names).2 with
  | error stop =>
    rw [hcollect] at h
    cases h
  | ok records => exact ⟨records, rfl⟩

/-- The first and the last class show one after the other, and the middle one is put in between. -/
theorem sections_checkingClasses :
    ∃ records, (collect checkingClasses ["C\\Times", "Inner", "A\\Files", "C\\Times"]).2 =
        .ok records ∧
      sections records = joined (records.keys.map (soleSections checkingClasses)) ∧
      ∃ records', (collect checkingClasses ["B\\Links", "A\\Files", "C\\Times", "Inner"]).2 =
          .ok records' ∧
        PutIn checkingClasses records.keys "B\\Links" (sections records) (sections records') := by
  obtain ⟨records, h⟩ := exists_collect_of_isOk
    (by decide +kernel :
      (collect checkingClasses ["C\\Times", "Inner", "A\\Files", "C\\Times"]).2.isOk = true)
  obtain ⟨-, -, -, hsections, hadded, -⟩ := sections_of_collect h
  have hlinks := exists_collect_of_isOk
    (by decide +kernel : (collect checkingClasses ["B\\Links"]).2.isOk = true)
  refine ⟨records, h, hsections, hadded "B\\Links" _ (by decide) hlinks fun n => ?_⟩
  simp only [List.mem_cons, List.not_mem_nil, or_false]
  grind

end TraitDocs.Catalog
