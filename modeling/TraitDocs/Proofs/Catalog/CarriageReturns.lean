import TraitDocs.Proofs.Catalog.Sections
import TraitDocs.Proofs.Readme.CarriageReturns

/-!
# Carriage returns never come from comments

Comments may use any line ends; what they say has no carriage return. So a document has one only if
a class that it shows has one in its name, or has a public method with one in its name or in the
default value of a parameter.

Two facts meet here: which values each text of the document shows, and which of these values were
read from comments. A carriage return is followed from the document to the class, from the class to
a method, and from the method to its name or a parameter.
-/

set_option autoImplicit false

namespace TraitDocs.Catalog

open Assertion Docblock Readme

/-- What the comment of a class says has no carriage return. -/
theorem returnFree_of_classRecord {c : ReflectedClass} {record : ClassRecord}
    (h : (classRecord c).2 = .ok (some record)) : record.classDoc.ReturnFree := by
  obtain ⟨comment, classDoc, -, hread, ⟨-, hnone⟩ | ⟨-, docs, methods, -, -, hrecord⟩⟩ :=
    classRecord_eq_ok h
  · cases hnone
  · obtain rfl := Option.some.inj hrecord
    exact returnFree_of_readClass hread

/-! ## From a method to its parameters -/

/-- Of what a signature shows of a parameter, only the default value was declared. -/
theorem exists_default_of_signature {m : ReflectedMethod} {doc : MethodDoc} (h : Documents m doc)
    (hmem : '\r' ∈ (signature doc.params).toList) :
    ∃ p ∈ m.params, p.hasDefault = true ∧ '\r' ∈ (literal p.default).toList := by
  obtain ⟨e, he, hmem⟩ := carriageReturn_mem_signature_iff.mp hmem
  obtain ⟨hform, p, ⟨before, after, hparams, -, -⟩, hhas, hdefault⟩ :=
    h.params e.1 e.2 (OrderedMap.get?_eq_some_iff.mpr he)
  obtain ⟨hname, htype⟩ := hform.carriageReturn_not_mem
  obtain hmem | hmem | ⟨hshown, hmem⟩ := hmem
  · exact absurd hmem htype
  · exact absurd hmem hname
  · have hp : p.hasDefault = true := hhas ▸ hshown
    rw [hdefault, if_pos hp] at hmem
    exact ⟨p, hparams ▸ List.mem_append_cons_self, hp, hmem⟩

/-- A carriage return in the block of a method comes from its name or from a default value. -/
theorem exists_source_of_methodBlock {m : ReflectedMethod} {name : String} {doc : MethodDoc}
    (h : Documents m doc) (hmem : '\r' ∈ (methodBlock name doc).toList) :
    '\r' ∈ name.toList ∨
      ∃ p ∈ m.params, p.hasDefault = true ∧ '\r' ∈ (literal p.default).toList := by
  obtain hname | hsignature | hdoc := carriageReturn_mem_methodBlock_iff.mp hmem
  · exact Or.inl hname
  · exact Or.inr (exists_default_of_signature h hsignature)
  · obtain ⟨comment, parsed, -, hread, hparsed, -⟩ := h.comment
    rw [hparsed] at hdoc
    exact absurd hdoc (carriageReturn_not_mem_of_readMethod hread).1

/-! ## From a class to its methods -/

/-- A carriage return in the section of a method comes from the name or a default value of a public
method. -/
theorem exists_source_of_methodSection {c : ReflectedClass} {record : ClassRecord}
    (h : ShowsClass c record) {e : String × MethodRecord} (he : e ∈ record.methods.entries)
    (hmem : '\r' ∈ (methodSection e.1 e.2).toList) :
    ∃ m ∈ c.methods, m.isPublic = true ∧
      ((∃ text, m.name = .str text ∧ '\r' ∈ text.toList) ∨
        ∃ p ∈ m.params, p.hasDefault = true ∧ '\r' ∈ (literal p.default).toList) := by
  rw [← h.name_eq e.1 e.2 (OrderedMap.get?_eq_some_iff.mpr he)] at hmem
  obtain ⟨r, hr, hmem⟩ := carriageReturn_mem_methodSection_iff.mp hmem
  have hreachable : r ∈ reachable record.methods :=
    List.mem_flatMap.mpr ⟨e.2, List.mem_map_of_mem he, List.mem_of_mem_take hr⟩
  obtain ⟨m, ⟨before, after, hmethods, ⟨hpublic, hname⟩, -⟩, hdocuments⟩ :=
    h.documents r hreachable
  refine ⟨m, hmethods ▸ List.mem_append_cons_self, hpublic, ?_⟩
  obtain hmem | hdefault := exists_source_of_methodBlock hdocuments hmem
  · exact Or.inl ⟨r.name, hname, hmem⟩
  · exact Or.inr hdefault

/-! ## From the document to its classes -/

/-- A document that is generated is rendered from the records that are collected. -/
theorem exists_records_of_generate {reflect : Reflector} {template : String} {names : List String}
    {document : String} (h : (generate reflect template names).2 = .ok document) :
    ∃ records, (collect reflect names).2 = .ok records ∧ render records template = document := by
  have hoption := toOption_generate reflect template names
  rw [h] at hoption
  obtain ⟨records, hrecords, hrender⟩ := Option.map_eq_some_iff.mp hoption.symm
  exact ⟨records, toOption_eq_some_iff.mp hrecords, hrender⟩

/-- The document has the carriage returns of the names of the classes and of the sections of their
methods, whatever the comments are. -/
theorem carriageReturn_mem_document_iff {reflect : Reflector} {names : List String}
    {records : OrderedMap String ClassRecord} (h : (collect reflect names).2 = .ok records) :
    '\r' ∈ (render records builtInTemplate).toList ↔ ∃ name record,
      records.get? name = some record ∧ ('\r' ∈ name.toList ∨
        ∃ e ∈ record.methods.entries, '\r' ∈ (methodSection e.1 e.2).toList) := by
  have hshown := shown_of_collect h
  have hfree : ∀ e ∈ shown records, e.2.classDoc.ReturnFree := by
    intro e he
    rw [hshown] at he
    obtain ⟨-, c, -, houtcome⟩ := ((collect_eq_ok_iff.mp h).1.get?_eq_some_iff e.1 e.2).mp
      (OrderedMap.get?_eq_some_iff.mpr he)
    exact returnFree_of_classRecord houtcome
  rw [carriageReturn_mem_render_iff hfree, hshown]
  simp only [OrderedMap.get?_eq_some_iff, Prod.exists]

/-- A document with a carriage return shows a class with one in its name, in the name of a public
method or in a default value that such a method declares; the comments have no part in it. A
carriage return in the name of a class that is not internal does get into the document. -/
theorem carriageReturn_of_generate {reflect : Reflector} {names : List String} {document : String}
    (h : (generate reflect builtInTemplate names).2 = .ok document) :
    ('\r' ∈ document.toList → ∃ name ∈ names, ∃ c, reflect name = some c ∧ IsPublished c ∧
      ('\r' ∈ name.toList ∨ ∃ m ∈ c.methods, m.isPublic = true ∧
        ((∃ text, m.name = .str text ∧ '\r' ∈ text.toList) ∨
          ∃ p ∈ m.params, p.hasDefault = true ∧ '\r' ∈ (literal p.default).toList))) ∧
    ∀ name ∈ names, ∀ c, reflect name = some c → IsPublished c → '\r' ∈ name.toList →
      '\r' ∈ document.toList := by
  obtain ⟨records, hcollect, rfl⟩ := exists_records_of_generate h
  have hcollected := (collect_eq_ok_iff.mp hcollect).1
  rw [carriageReturn_mem_document_iff hcollect]
  constructor
  · rintro ⟨name, record, hget, hsource⟩
    obtain ⟨hname, c, hc, houtcome⟩ := (hcollected.get?_eq_some_iff name record).mp hget
    refine ⟨name, hname, c, hc, (isPublished_iff houtcome).mpr rfl, hsource.imp_right ?_⟩
    rintro ⟨e, he, hmem⟩
    exact exists_source_of_methodSection (showsClass_of_classRecord houtcome) he hmem
  · intro name hname c hc hpublished hmem
    have hkey := (mem_keys_iff_of_collect hcollect name).mpr ⟨hname, c, hc, hpublished⟩
    obtain ⟨record, hget⟩ := OrderedMap.exists_get?_of_mem_keys hkey
    exact ⟨name, record, hget, Or.inl hmem⟩

/-- A class whose comments have line ends of all kinds, with a method whose parameter is a line end
unless another one is given. -/
def lineEndClass : Reflector
  | "Ends" => some {
      name := "Ends"
      comment := .str "/**\r\n * Checks ends.\r *\n * Of lines.\r\n * @requires lines\r */"
      methods := [{
        name := .str "assertEnd"
        comment := .str "/**\r * Checks an end.\r\n *\n\r * @param string $end The end.\r\n */"
        params := [{ name := "end", hasDefault := true, default := .str "\r\n" }] }] }
  | _ => none

/-- The document of that class is generated and has a carriage return. -/
theorem exists_generate_lineEndClass :
    ∃ document, (generate lineEndClass builtInTemplate ["Ends"]).2 = .ok document ∧
      '\r' ∈ document.toList := by
  have hbody : ((collect lineEndClass ["Ends"]).2.toOption.map fun records =>
      decide ('\r' ∈ (sections records).body.toList)) = some true := by
    decide +kernel
  obtain ⟨records, hrecords, hmem⟩ := Option.map_eq_some_iff.mp hbody
  have hgenerate := toOption_generate lineEndClass builtInTemplate ["Ends"]
  rw [hrecords] at hgenerate
  refine ⟨render records builtInTemplate, toOption_eq_some_iff.mp hgenerate, ?_⟩
  exact carriageReturn_mem_fill_iff.mpr (Or.inr (of_decide_eq_true hmem))

/-- The document of this class has a carriage return, and one is found in the class outside its
comments. -/
theorem carriageReturn_lineEndClass :
    ∃ document, (generate lineEndClass builtInTemplate ["Ends"]).2 = .ok document ∧
      '\r' ∈ document.toList ∧
      ∃ name ∈ ["Ends"], ∃ c, lineEndClass name = some c ∧ IsPublished c ∧
        ('\r' ∈ name.toList ∨ ∃ m ∈ c.methods, m.isPublic = true ∧
          ((∃ text, m.name = .str text ∧ '\r' ∈ text.toList) ∨
            ∃ p ∈ m.params, p.hasDefault = true ∧ '\r' ∈ (literal p.default).toList)) := by
  obtain ⟨document, hgenerate, hmem⟩ := exists_generate_lineEndClass
  exact ⟨document, hgenerate, hmem, (carriageReturn_of_generate hgenerate).1 hmem⟩

end TraitDocs.Catalog
