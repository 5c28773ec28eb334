import TraitDocs.Catalog
import TraitDocs.Proofs.Docblock.Parameters
import TraitDocs.Proofs.OrderedMap.OfList

/-!
# What the validation of a method guarantees

A method that passes validation has a comment with a short text, and documents exactly the parameters
that it declares. Its documentation then lists them in the order of declaration, each with the type
that the comment gives and the default value of its last declaration.
-/

set_option autoImplicit false

namespace TraitDocs.Catalog

open Docblock

/-- A comment and a declaration agree exactly if they have the same parameters. -/
theorem mismatch?_eq_none_iff {doc : MethodDoc} {params : List ReflectedParam} :
    mismatch? doc params = none ↔
      (∀ p ∈ params, p.name ∈ doc.params.keys) ∧
        ∀ name ∈ doc.params.keys, ∃ p ∈ params, p.name = name := by
  simp [mismatch?, Option.or_eq_none_iff, List.find?_eq_none, OrderedMap.contains_iff]

/-- The methods that pass validation, and the documentations that they get. -/
theorem validate_eq_ok_iff {className : String} {m : ReflectedMethod} {doc : MethodDoc} :
    validate className m = .ok doc ↔
      ∃ comment parsed, commentText m.comment = .ok comment ∧
        readMethod comment = .ok (some parsed) ∧ parsed.doc ≠ "" ∧
          mismatch? parsed m.params = none ∧ attachParams parsed m.params = doc := by
  unfold validate
  cases commentText m.comment with
  | error fault => simp
  | ok comment =>
    cases hread : readMethod comment with
    | error failure => simp [hread]
    | ok read =>
      cases read with
      | none => simp [hread]
      | some parsed =>
        by_cases hdoc : parsed.doc = ""
        · simp [hread, hdoc]
        · cases hmismatch : mismatch? parsed m.params <;> simp [hread, hdoc, hmismatch]

section AttachedParams

variable {parsed : MethodDoc} {params : List ReflectedParam}

/-- Where every declared parameter is documented, each gives an entry. -/
theorem forall₂_declaredParam (h : ∀ p ∈ params, p.name ∈ parsed.params.keys) :
    List.Forall₂ (fun p e => declaredParam parsed p = some e) params
      (params.filterMap (declaredParam parsed)) := by
  refine forall₂_filterMap fun p hp => ?_
  obtain ⟨documented, hget⟩ := OrderedMap.exists_get?_of_mem_keys (h p hp)
  simp [declaredParam, hget]

/-- The parameters stand in the order of declaration, each at its first place. -/
theorem keys_attachParams (h : ∀ p ∈ params, p.name ∈ parsed.params.keys) :
    (attachParams parsed params).params.keys = (params.map (·.name)).eraseDups := by
  have hnames : List.Forall₂ (fun p e => p.name = e.1) params
      (params.filterMap (declaredParam parsed)) := by
    refine (forall₂_declaredParam h).imp fun p e he => ?_
    obtain ⟨documented, -, rfl⟩ := Option.map_eq_some_iff.mp he
    rfl
  rw [attachParams, OrderedMap.keys_ofList]
  rw [← List.forall₂_map_right_iff, ← List.forall₂_map_left_iff, List.forall₂_eq_eq_eq] at hnames
  rw [hnames]

/-- Each parameter is documented, and has the default value of its last declaration. -/
theorem get?_attachParams (h : ∀ p ∈ params, p.name ∈ parsed.params.keys) {name : String}
    {p : ParamDoc} (hp : (attachParams parsed params).params.get? name = some p) :
    ∃ d documented, LastWith (fun d => d.name = name) params d ∧
      parsed.params.get? name = some documented ∧
        p = if d.hasDefault then ⟨documented.type, true, d.default⟩ else documented := by
  rw [attachParams, OrderedMap.get?_ofList_eq_some_iff] at hp
  have hcorresponds : ∀ (d : ReflectedParam) (e : String × ParamDoc),
      declaredParam parsed d = some e → (d.name = name ↔ e.1 = name) := by
    intro d e he
    obtain ⟨documented, -, rfl⟩ := Option.map_eq_some_iff.mp he
    rfl
  obtain ⟨d, hd, he⟩ := hp.of_forall₂ (forall₂_declaredParam h) hcorresponds
  obtain ⟨documented, hget, heq⟩ := Option.map_eq_some_iff.mp he
  obtain ⟨rfl, rfl⟩ := Prod.mk.inj heq
  exact ⟨d, documented, hd, hget, rfl⟩

end AttachedParams

/-- Tells that a documented parameter is what its declarations say: its default value is that of the
last declaration, and void where that has none. -/
structure DocumentsParam (params : List ReflectedParam) (name : String) (p : ParamDoc) : Prop where
  form : HasParamForm name p.type
  /-- The last declaration of the name says whether there is a default value, and which. -/
  declared : ∃ d, LastWith (fun d => d.name = name) params d ∧ p.hasDefault = d.hasDefault ∧
    p.default = if d.hasDefault then d.default else .null

/-- Tells that a documentation is what the comment and the declarations of a method say. -/
structure Documents (m : ReflectedMethod) (doc : MethodDoc) : Prop where
  /-- The texts are those of the comment. -/
  comment : ∃ comment parsed, commentText m.comment = .ok comment ∧
    readMethod comment = .ok (some parsed) ∧ doc.doc = parsed.doc ∧ doc.long = parsed.long ∧
      ∀ name p, doc.params.get? name = some p → ∃ q, parsed.params.get? name = some q ∧
        p.type = q.type
  doc_ne : doc.doc ≠ ""
  doc_trimmed : Text.IsTrimmed doc.doc.toList
  keys_eq : doc.params.keys = (m.params.map (·.name)).eraseDups
  params : ∀ name p, doc.params.get? name = some p → DocumentsParam m.params name p

/-- A method that passes validation gets a documentation of its comment and its declarations. -/
theorem documents_of_validate {className : String} {m : ReflectedMethod} {doc : MethodDoc}
    (h : validate className m = .ok doc) : Documents m doc := by
  obtain ⟨comment, parsed, hcomment, hread, hdoc, hmismatch, rfl⟩ := validate_eq_ok_iff.mp h
  have hdeclared := (mismatch?_eq_none_iff.mp hmismatch).1
  have htrimmed : Text.IsTrimmed parsed.doc.toList := isTrimmed_of_readMethod hread
  refine ⟨⟨comment, parsed, hcomment, hread, rfl, rfl, fun name p hp => ?_⟩, hdoc, htrimmed,
    keys_attachParams hdeclared, fun name p hp => ?_⟩
  · obtain ⟨d, documented, -, hget, rfl⟩ := get?_attachParams hdeclared hp
    refine ⟨documented, hget, ?_⟩
    split <;> rfl
  · obtain ⟨d, documented, hlast, hget, rfl⟩ := get?_attachParams hdeclared hp
    obtain ⟨hform, hhas, hdefault⟩ := isRead_of_readMethod hread hget
    cases hd : d.hasDefault with
    | true => exact ⟨hform, d, hlast, hd.symm, by rw [if_pos hd]; rfl⟩
    | false => exact ⟨hform, d, hlast, hhas.trans hd.symm, by simp [hd, hdefault]⟩

end TraitDocs.Catalog
