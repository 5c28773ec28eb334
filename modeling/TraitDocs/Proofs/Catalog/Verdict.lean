import TraitDocs.Proofs.Catalog.Validation
import TraitDocs.Proofs.List.First
import TraitDocs.Proofs.OrderedMap.Grouped

/-!
# What comes of validating a method

A method whose comment is a text, or that has none, is validated in steps, and the first that is not
passed decides: its comment can be read, says something, has a short text, documents every declared
parameter, and no other. Of several parameters that are not documented the first declared one is
named, of several that are not declared the first documented one. A method that passes is shown with
its parameters as declared.

`Validated` has a case for each of these endings. `mismatch?_eq_some_iff` says which parameter is
named, `attachParams_eq_iff` what a method that passes is shown with, and `attachParams?_eq_some`
that no declared parameter is looked up in vain.
-/

set_option autoImplicit false

namespace TraitDocs.Catalog

open Docblock

/-! ## The parameter that is named -/

section Parameters

variable {doc parsed : MethodDoc} {params : List ReflectedParam}

/-- A comment and a declaration disagree on the first declared parameter that is not documented, or,
where all are documented, on the first documented one that is not declared. -/
theorem mismatch?_eq_some_iff {parameter : String} :
    mismatch? doc params = some parameter ↔
      FirstWith (fun name => name ∉ doc.params.keys) (params.map (·.name)) parameter ∨
        (∀ p ∈ params, p.name ∈ doc.params.keys) ∧
          FirstWith (fun name => ∀ p ∈ params, p.name ≠ name) doc.params.keys parameter := by
  have hundocumented : ∀ name, (!doc.params.contains name) = true ↔ name ∉ doc.params.keys := by
    intro name
    rw [Bool.not_eq_true', ← Bool.not_eq_true, OrderedMap.contains_iff]
  have hundeclared : ∀ name, (!(params.map (·.name)).contains name) = true ↔
      ∀ p ∈ params, p.name ≠ name := by
    intro name
    rw [Bool.not_eq_true', ← Bool.not_eq_true, List.contains_iff_mem, List.mem_map]
    push Not
    rfl
  simp only [mismatch?, Option.or_eq_some_iff, find?_eq_some_iff_firstWith, List.find?_eq_none,
    FirstWith.congr fun name _ => hundeclared name, hundocumented, Decidable.not_not,
    List.forall_mem_map]

/-! ## Parameters as declared -/

/-- The documentation of a method with its parameters as declared, where a declared parameter that
is not documented is not passed over: then there is none. -/
def attachParams? (doc : MethodDoc) (params : List ReflectedParam) : Option MethodDoc :=
  (params.mapM (declaredParam doc)).map fun es => { doc with params := .ofList es }

/-- Where nothing is missing, mapping all members gives what mapping those that can be mapped gives.
-/
theorem mapM_eq_some_filterMap {α β : Type} {f : α → Option β} {xs : List α}
    (h : ∀ x ∈ xs, (f x).isSome = true) : xs.mapM f = some (xs.filterMap f) := by
  induction xs with
  | nil => rfl
  | cons x xs ih =>
    rw [List.forall_mem_cons] at h
    obtain ⟨y, hy⟩ := Option.isSome_iff_exists.mp h.1
    rw [List.mapM_cons, List.filterMap_cons_some hy, hy, ih h.2]
    rfl

/-- Where every declared parameter is documented, none is looked up in vain. -/
theorem attachParams?_eq_some (h : ∀ p ∈ params, p.name ∈ doc.params.keys) :
    attachParams? doc params = some (attachParams doc params) := by
  have hfound : ∀ p ∈ params, (declaredParam doc p).isSome = true := by
    intro p hp
    obtain ⟨documented, hget⟩ := OrderedMap.exists_get?_of_mem_keys (h p hp)
    simp [declaredParam, hget]
  rw [attachParams?, mapM_eq_some_filterMap hfound]
  rfl

/-- Tells that a documentation has the texts of another and the parameters as declared: in the order
of declaration, each with its documented type and with the default value of its last declaration, if
that has one. -/
structure Attached (parsed : MethodDoc) (params : List ReflectedParam) (doc : MethodDoc) :
    Prop where
  doc_eq : doc.doc = parsed.doc
  long_eq : doc.long = parsed.long
  keys_eq : doc.params.keys = (params.map (·.name)).eraseDups
  last : ∀ name d, LastWith (fun d => d.name = name) params d →
    ∃ documented, parsed.params.get? name = some documented ∧
      doc.params.get? name =
        some ⟨documented.type, d.hasDefault, if d.hasDefault then d.default else .null⟩

/-- Attaching gives the documentation with the parameters as declared. -/
theorem attached_attachParams {comment : Option String}
    (hread : readMethod comment = .ok (some parsed))
    (hdeclared : ∀ p ∈ params, p.name ∈ parsed.params.keys) :
    Attached parsed params (attachParams parsed params) := by
  refine ⟨rfl, rfl, keys_attachParams hdeclared, fun name d hd => ?_⟩
  have hname : name ∈ (attachParams parsed params).params.keys := by
    rw [keys_attachParams hdeclared, List.mem_eraseDups]
    exact List.mem_map.mpr ⟨d, hd.mem, hd.holds⟩
  obtain ⟨p, hp⟩ := OrderedMap.exists_get?_of_mem_keys hname
  obtain ⟨d', documented, hd', hget, hpeq⟩ := get?_attachParams hdeclared hp
  obtain rfl := hd.unique hd'
  obtain ⟨-, hhas, hdefault⟩ := isRead_of_readMethod hread hget
  refine ⟨documented, hget, hp.trans ?_⟩
  rw [hpeq]
  cases hd : d.hasDefault with
  | true => rfl
  | false =>
    obtain ⟨type, hasDefault, default⟩ := documented
    cases hhas
    cases hdefault
    rfl

/-- What the parameters are as declared leaves no choice in the documentation. -/
theorem Attached.unique {doc' : MethodDoc} (h : Attached parsed params doc)
    (h' : Attached parsed params doc') : doc = doc' := by
  have hparams : doc.params = doc'.params := by
    apply OrderedMap.eq_of_keys_eq (h.keys_eq.trans h'.keys_eq.symm)
    intro name hname
    rw [h.keys_eq, List.mem_eraseDups] at hname
    obtain ⟨p, hp, rfl⟩ := List.mem_map.mp hname
    obtain ⟨d, hd⟩ := exists_lastWith (p := fun d => d.name = p.name) hp rfl
    obtain ⟨documented, hget, hdoc⟩ := h.last p.name d hd
    obtain ⟨documented', hget', hdoc'⟩ := h'.last p.name d hd
    obtain rfl := Option.some.inj (hget.symm.trans hget')
    rw [hdoc, hdoc']
  obtain ⟨text, long, entries⟩ := doc
  obtain ⟨text', long', entries'⟩ := doc'
  obtain rfl : text = text' := h.doc_eq.trans h'.doc_eq.symm
  obtain rfl : long = long' := h.long_eq.trans h'.long_eq.symm
  obtain rfl : entries = entries' := hparams
  rfl

/-- There is one documentation with the parameters as declared, and attaching gives it. -/
theorem attachParams_eq_iff {comment : Option String}
    (hread : readMethod comment = .ok (some parsed))
    (hdeclared : ∀ p ∈ params, p.name ∈ parsed.params.keys) :
    attachParams parsed params = doc ↔ Attached parsed params doc := by
  have hattached := attached_attachParams hread hdeclared
  constructor
  · rintro rfl
    exact hattached
  · exact hattached.unique

end Parameters

/-! ## Comments -/

/-- The value of a comment that is a text, or is not there. -/
def commentValue : Option String → Json
  | none => .null
  | some text => .str text

/-- A comment with characters is kept. -/
theorem filter_of_ne_empty {text : String} (h : text ≠ "") :
    (some text).filter (· ≠ "") = some text :=
  Option.filter_some_pos (by simpa using h)

/-- An empty comment counts as none. -/
theorem commentText_commentValue (comment : Option String) :
    commentText (commentValue comment) = .ok (comment.filter (· ≠ "")) := by
  cases comment with
  | none => rfl
  | some text =>
    by_cases htext : text = ""
    · subst htext
      rfl
    · rw [filter_of_ne_empty htext]
      simp [commentText, commentValue, Json.isVoid, htext]

/-- What reads an empty comment as none reads a comment as it is. -/
theorem apply_filter_ne_empty {β : Type} {read : Option String → β} (h : read none = read (some ""))
    (comment : Option String) : read (comment.filter (· ≠ "")) = read comment := by
  cases comment with
  | none => rfl
  | some text =>
    by_cases htext : text = ""
    · subst htext
      exact h
    · rw [filter_of_ne_empty htext]

/-- A method comment without characters is read like one that is not there. -/
theorem readMethod_filter (comment : Option String) :
    readMethod (comment.filter (· ≠ "")) = readMethod comment :=
  apply_filter_ne_empty rfl comment

/-- A comment that cannot be read is there, and the failure shows it. -/
theorem eq_some_of_readMethod_eq_error {comment : Option String} {failure : Failure}
    (h : readMethod comment = .error failure) :
    ∃ text, comment = some text ∧ text ≠ "" ∧ failure = .malformedParamTag text := by
  cases comment with
  | none => cases h
  | some text =>
    refine ⟨text, rfl, ?_, ?_⟩
    · rintro rfl
      cases h
    · unfold readMethod at h
      split at h
      · cases h
      · split at h
        · cases h
        · exact (Except.error.inj h).symm

/-! ## The endings -/

/-- Tells what comes of validating a method of a class, if it has this name, comment and
parameters. -/
inductive Validated (className : String) (name : Json) (comment : Option String)
    (params : List ReflectedParam) : Except Stop MethodDoc → Prop
  /-- The comment cannot be read; the failure has the one of the comment as its cause. -/
  | unreadable {why failure : Failure} {text : String} (hcomment : comment = some text)
      (hread : readMethod comment = .error failure) (hfailure : failure = .malformedParamTag text)
      (hwhy : why = .unreadableMethod className name.display comment)
      (hcause : why.cause? = some failure) :
      Validated className name comment params (.error (.failure why))
  | undocumented (hread : readMethod comment = .ok none) :
      Validated className name comment params
        (.error (.failure (.missingMethodDoc className name.display)))
  | undescribed {parsed : MethodDoc} (hread : readMethod comment = .ok (some parsed))
      (hdoc : parsed.doc = "") :
      Validated className name comment params
        (.error (.failure (.emptyDescription className name.display)))
  /-- A declared parameter is not documented. -/
  | unmentioned {parsed : MethodDoc} {parameter : String}
      (hread : readMethod comment = .ok (some parsed)) (hdoc : parsed.doc ≠ "")
      (hfirst : FirstWith (fun name => name ∉ parsed.params.keys) (params.map (·.name)) parameter) :
      Validated className name comment params
        (.error (.failure (.parameterMismatch className name.display parameter)))
  /-- A documented parameter is not declared. -/
  | undeclared {parsed : MethodDoc} {parameter : String}
      (hread : readMethod comment = .ok (some parsed)) (hdoc : parsed.doc ≠ "")
      (hdeclared : ∀ p ∈ params, p.name ∈ parsed.params.keys)
      (hfirst : FirstWith (fun name => ∀ p ∈ params, p.name ≠ name) parsed.params.keys parameter) :
      Validated className name comment params
        (.error (.failure (.parameterMismatch className name.display parameter)))
  | passed {parsed doc : MethodDoc} (hread : readMethod comment = .ok (some parsed))
      (hdoc : parsed.doc ≠ "") (hdeclared : ∀ p ∈ params, p.name ∈ parsed.params.keys)
      (hdocumented : ∀ name ∈ parsed.params.keys, ∃ p ∈ params, p.name = name)
      (hattached : Attached parsed params doc) :
      Validated className name comment params (.ok doc)

section Endings

variable {className : String} {name : Json} {comment : Option String}
  {params : List ReflectedParam} {isPublic : Bool}

/-- A method whose comment cannot be read is reported with its comment. -/
theorem validate_of_unreadable {failure : Failure} (hread : readMethod comment = .error failure) :
    validate className ⟨name, commentValue comment, params, isPublic⟩ =
      .error (.failure (.unreadableMethod className name.display comment)) := by
  obtain ⟨text, rfl, htext, -⟩ := eq_some_of_readMethod_eq_error hread
  simp only [validate, commentText_commentValue, filter_of_ne_empty htext, hread]

/-- A method whose comment says nothing is reported. -/
theorem validate_of_undocumented (hread : readMethod comment = .ok none) :
    validate className ⟨name, commentValue comment, params, isPublic⟩ =
      .error (.failure (.missingMethodDoc className name.display)) := by
  simp only [validate, commentText_commentValue, readMethod_filter, hread]

/-- A method without a short text is reported. -/
theorem validate_of_undescribed {parsed : MethodDoc}
    (hread : readMethod comment = .ok (some parsed)) (hdoc : parsed.doc = "") :
    validate className ⟨name, commentValue comment, params, isPublic⟩ =
      .error (.failure (.emptyDescription className name.display)) := by
  simp only [validate, commentText_commentValue, readMethod_filter, hread, if_pos hdoc]

/-- A method whose comment and declaration disagree on a parameter is reported with it. -/
theorem validate_of_mismatch {parsed : MethodDoc} {parameter : String}
    (hread : readMethod comment = .ok (some parsed)) (hdoc : parsed.doc ≠ "")
    (hmismatch : mismatch? parsed params = some parameter) :
    validate className ⟨name, commentValue comment, params, isPublic⟩ =
      .error (.failure (.parameterMismatch className name.display parameter)) := by
  simp only [validate, commentText_commentValue, readMethod_filter, hread, if_neg hdoc, hmismatch]

/-- A method that passes every step is shown with its parameters as declared. -/
theorem validate_of_agreement {parsed : MethodDoc}
    (hread : readMethod comment = .ok (some parsed)) (hdoc : parsed.doc ≠ "")
    (hmismatch : mismatch? parsed params = none) :
    validate className ⟨name, commentValue comment, params, isPublic⟩ =
      .ok (attachParams parsed params) := by
  simp only [validate, commentText_commentValue, readMethod_filter, hread, if_neg hdoc, hmismatch]

/-- Validation ends in one of the ways that `Validated` lists. -/
theorem validated_validate (className : String) (name : Json) (comment : Option String)
    (params : List ReflectedParam) (isPublic : Bool) :
    Validated className name comment params
      (validate className ⟨name, commentValue comment, params, isPublic⟩) := by
  cases hread : readMethod comment with
  | error failure =>
    rw [validate_of_unreadable hread]
    obtain ⟨text, rfl, -, rfl⟩ := eq_some_of_readMethod_eq_error hread
    exact .unreadable rfl hread rfl rfl rfl
  | ok read =>
    cases read with
    | none =>
      rw [validate_of_undocumented hread]
      exact .undocumented hread
    | some parsed =>
      by_cases hdoc : parsed.doc = ""
      · rw [validate_of_undescribed hread hdoc]
        exact .undescribed hread hdoc
      · cases hmismatch : mismatch? parsed params with
        | some parameter =>
          rw [validate_of_mismatch hread hdoc hmismatch]
          obtain hfirst | ⟨hdeclared, hfirst⟩ := mismatch?_eq_some_iff.mp hmismatch
          · exact .unmentioned hread hdoc hfirst
          · exact .undeclared hread hdoc hdeclared hfirst
        | none =>
          rw [validate_of_agreement hread hdoc hmismatch]
          obtain ⟨hdeclared, hdocumented⟩ := mismatch?_eq_none_iff.mp hmismatch
          exact .passed hread hdoc hdeclared hdocumented (attached_attachParams hread hdeclared)

/-- The ways to end exclude each other, so that each says what validation gives. -/
theorem Validated.validate_eq {result : Except Stop MethodDoc}
    (h : Validated className name comment params result) :
    validate className ⟨name, commentValue comment, params, isPublic⟩ = result := by
  cases h with
  | unreadable _ hread _ hwhy _ => rw [hwhy, validate_of_unreadable hread]
  | undocumented hread => rw [validate_of_undocumented hread]
  | undescribed hread hdoc => rw [validate_of_undescribed hread hdoc]
  | unmentioned hread hdoc hfirst =>
    rw [validate_of_mismatch hread hdoc (mismatch?_eq_some_iff.mpr (Or.inl hfirst))]
  | undeclared hread hdoc hdeclared hfirst =>
    rw [validate_of_mismatch hread hdoc (mismatch?_eq_some_iff.mpr (Or.inr ⟨hdeclared, hfirst⟩))]
  | passed hread hdoc hdeclared hdocumented hattached =>
    rw [validate_of_agreement hread hdoc (mismatch?_eq_none_iff.mpr ⟨hdeclared, hdocumented⟩),
      (attachParams_eq_iff hread hdeclared).mpr hattached]

end Endings

/-- Validating a method whose comment is a text, or is not there, ends as `Validated` says and in no
other way; and where comment and declaration agree, every declared parameter is found when it is
looked up. -/
theorem validate_eq_iff_validated (className : String) (name : Json) (comment : Option String)
    (params : List ReflectedParam) (isPublic : Bool) :
    (∀ result, validate className ⟨name, commentValue comment, params, isPublic⟩ = result ↔
      Validated className name comment params result) ∧
    ∀ parsed, mismatch? parsed params = none →
      attachParams? parsed params = some (attachParams parsed params) := by
  refine ⟨fun result => ⟨?_, Validated.validate_eq⟩, fun parsed hmismatch => ?_⟩
  · rintro rfl
    exact validated_validate className name comment params isPublic
  · exact attachParams?_eq_some (mismatch?_eq_none_iff.mp hmismatch).1

/-- A comment that documents its parameters in another order than they are declared in. -/
def lengthComment : String :=
  "/**\n * Checks a length.\n *\n * @param string $message\n * @param int $expected\n */"

/-- Parameters of which the first is declared again, with a default value. -/
def lengthParams : List ReflectedParam :=
  [{ name := "expected" }, { name := "message" },
   { name := "expected", hasDefault := true, default := .int 1 }]

/-- The method with this comment and these parameters passes. -/
theorem validate_lengthParams :
    ∃ parsed, mismatch? parsed lengthParams = none ∧
      attachParams? parsed lengthParams = some (attachParams parsed lengthParams) ∧
      ∃ doc, validate "Length" ⟨.str "assertLength", commentValue (some lengthComment),
        lengthParams, true⟩ = .ok doc ∧ Attached parsed lengthParams doc := by
  obtain ⟨hvalidated, hfound⟩ := validate_eq_iff_validated "Length" (.str "assertLength")
    (some lengthComment) lengthParams true
  have hok : (validate "Length" ⟨.str "assertLength", commentValue (some lengthComment),
      lengthParams, true⟩).isOk = true := by
    decide +kernel
  cases hresult : validate "Length" ⟨.str "assertLength", commentValue (some lengthComment),
      lengthParams, true⟩ with
  | error stop =>
    rw [hresult] at hok
    cases hok
  | ok doc =>
    cases (hvalidated (.ok doc)).mp hresult with
    | @passed parsed _ hread hdoc hdeclared hdocumented hattached =>
      have hmismatch := mismatch?_eq_none_iff.mpr ⟨hdeclared, hdocumented⟩
      exact ⟨parsed, hmismatch, hfound parsed hmismatch, doc, rfl, hattached⟩

end TraitDocs.Catalog
