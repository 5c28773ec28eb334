import TraitDocs.Docblock.MethodDoc
import TraitDocs.OrderedMap.Lemmas
import TraitDocs.Proofs.Text.Trim

/-!
# What the comment of a method can say

Every parameter that a method comment documents has a name of word characters and a type without
blanks, neither of them empty, and no default value; its short text is trimmed. The first is kept by
every line that the machine takes.
-/

set_option autoImplicit false

namespace TraitDocs.Docblock

/-- Tells that a name and a type are ones that a parameter line can give. -/
structure HasParamForm (name type : String) : Prop where
  name_ne : name ≠ ""
  name_word : ∀ c ∈ name.toList, Text.isWord c = true
  type_ne : type ≠ ""
  type_solid : ∀ c ∈ type.toList, Text.isBlank c = false

/-- The characters that a text starts with as long as they pass a test pass it. -/
theorem forall_mem_ofList_takeWhile (p : Char → Bool) (cs : List Char) :
    ∀ c ∈ (String.ofList (cs.takeWhile p)).toList, p c = true := by
  intro c hc
  rw [String.toList_ofList] at hc
  exact List.all_eq_true.mp List.all_takeWhile c hc

/-- A text whose blanks in front are removed has something in front, unless it is empty. -/
theorem takeWhile_trimStart_ne_nil {text : List Char} (htext : Text.trimStart text ≠ []) :
    (Text.trimStart text).takeWhile (fun c => !Text.isBlank c) ≠ [] := by
  obtain ⟨c, cs, hcs⟩ := List.exists_cons_of_ne_nil htext
  have hc : Text.isBlank c = false := Text.isBlank_of_mem_head?_trimStart (by rw [hcs]; rfl)
  rw [hcs, List.takeWhile_cons_of_pos (by simp [hc])]
  exact List.cons_ne_nil c _

/-- A parameter line gives a name and a type of this form. -/
theorem hasParamForm_of_paramTag? {text : List Char} {tag : ParamTag}
    (h : paramTag? text = some tag) : HasParamForm tag.name tag.type := by
  simp only [paramTag?] at h
  split at h
  · rename_i atName hdollar
    split at h
    · cases h
    · rename_i hname
      rw [Bool.or_eq_true, not_or, List.isEmpty_iff] at hname
      obtain rfl := Option.some.inj h
      -- Without a type there would be nothing that a dollar sign could be found in.
      have htext : Text.trimStart text ≠ [] := by
        intro hnil
        rw [hnil] at hdollar
        exact List.cons_ne_nil _ _ hdollar.symm
      refine ⟨?_, forall_mem_ofList_takeWhile _ _, ?_, ?_⟩
      · rw [ne_eq, String.ofList_eq_empty_iff]
        exact hname.1
      · rw [ne_eq, String.ofList_eq_empty_iff]
        exact takeWhile_trimStart_ne_nil htext
      · intro c hc
        simpa using forall_mem_ofList_takeWhile _ _ c hc
  · cases h

/-- Tells that a documented parameter is one that a method comment can give: it has no default
value. -/
structure IsRead (name : String) (p : ParamDoc) : Prop where
  form : HasParamForm name p.type
  hasDefault_eq : p.hasDefault = false
  default_eq : p.default = .null

namespace MethodReading

/-- All parameters so far are ones that a method comment can give. -/
def ParamsRead (r : MethodReading) : Prop :=
  ∀ name p, r.params.get? name = some p → IsRead name p

/-- At the start there are no parameters. -/
theorem paramsRead_start : ParamsRead {} := by
  intro name p h
  cases h

/-- A line of text adds no parameter. -/
theorem ParamsRead.addText {r : MethodReading} (h : r.ParamsRead) (line : String) :
    (r.addText line).ParamsRead := by
  unfold MethodReading.addText
  split <;> exact h

/-- A parameter that has the form of one may be added. -/
theorem ParamsRead.addParam {r : MethodReading} (h : r.ParamsRead) {tag : ParamTag}
    (htag : HasParamForm tag.name tag.type) : (r.addParam tag).ParamsRead := by
  intro name p hp
  simp only [MethodReading.addParam, OrderedMap.get?_insert] at hp
  split at hp
  · rename_i hname
    obtain rfl := Option.some.inj hp
    exact ⟨hname ▸ htag, rfl, rfl⟩
  · exact h name p hp

/-- Taking a line adds at most a parameter that a method comment can give. -/
theorem ParamsRead.feed {r r' : MethodReading} (h : r.ParamsRead) {line : String}
    (hfeed : r.feed line = some r') : r'.ParamsRead := by
  obtain rfl | rfl | ⟨tag, htag, rfl⟩ | rfl := feed_cases hfeed
  · exact h
  · exact h
  · exact h.addParam (hasParamForm_of_paramTag? htag)
  · exact h.addText _

/-- What lines add are parameters that have been read from them. -/
theorem ParamsRead.feedAll {r r' : MethodReading} (h : r.ParamsRead) {lines : List String}
    (hfeed : r.feedAll lines = some r') : r'.ParamsRead := by
  induction lines generalizing r with
  | nil =>
    obtain rfl := Option.some.inj hfeed
    exact h
  | cons line lines ih =>
    rw [MethodReading.feedAll] at hfeed
    split at hfeed
    · rename_i r₁ hr₁
      exact ih (h.feed hr₁) hfeed
    · cases hfeed

end MethodReading

/-- A comment that says something was taken line by line. -/
theorem exists_reading_of_readMethod {comment : Option String} {doc : MethodDoc}
    (h : readMethod comment = .ok (some doc)) :
    ∃ r, MethodReading.feedAll {} (contentLines comment) = some r ∧ doc = r.result := by
  unfold readMethod at h
  split at h
  · cases h
  · split at h
    · rename_i r hr
      exact ⟨r, hr, (Option.some.inj (Except.ok.inj h)).symm⟩
    · cases h

/-- Every parameter that a method comment documents is one that a method comment can give. -/
theorem isRead_of_readMethod {comment : Option String} {doc : MethodDoc}
    (h : readMethod comment = .ok (some doc)) {name : String} {p : ParamDoc}
    (hp : doc.params.get? name = some p) : IsRead name p := by
  obtain ⟨r, hr, rfl⟩ := exists_reading_of_readMethod h
  exact MethodReading.paramsRead_start.feedAll hr name p hp

/-- The short text of a method comment is trimmed. -/
theorem isTrimmed_of_readMethod {comment : Option String} {doc : MethodDoc}
    (h : readMethod comment = .ok (some doc)) : Text.IsTrimmed doc.doc.toList := by
  obtain ⟨r, -, rfl⟩ := exists_reading_of_readMethod h
  exact Text.isTrimmed_trimmed _

end TraitDocs.Docblock
