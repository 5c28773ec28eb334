import TraitDocs.Docblock.ClassDoc
import TraitDocs.OrderedMap.Lemmas
import TraitDocs.Proofs.Docblock.Layout
import TraitDocs.Proofs.Docblock.Parameters
import TraitDocs.Proofs.Text.Word

/-!
# Comments say nothing with carriage returns

A comment is cut at its carriage returns and line feeds, so that none of its lines has one, and
what the machines put together from the lines is joined with line feeds. Whatever line ends a
comment has, no carriage return is left in what it says: not in the texts, not in the values of
tags, and not in the names and types of parameters.
-/

set_option autoImplicit false

namespace TraitDocs

/-- Tells that the comment of a class says nothing with a carriage return, the names of its tags
apart. -/
structure ClassDoc.ReturnFree (d : ClassDoc) : Prop where
  summary : '\r' ∉ d.summary.toList
  doc : '\r' ∉ d.doc.toList
  tags : ∀ name values, d.tags.get? name = some values → ∀ value ∈ values, '\r' ∉ value.toList

namespace Docblock

open Text

/-! ## Texts made of lines -/

/-- A text without blanks has no carriage return, which is one. -/
theorem carriageReturn_not_mem_of_isBlank {cs : List Char} (h : ∀ c ∈ cs, isBlank c = false) :
    '\r' ∉ cs :=
  fun hmem => absurd (h '\r' hmem) (by decide)

/-- No content line of a comment has a carriage return. -/
theorem carriageReturn_not_mem_contentLines {comment : Option String} {line : String}
    (h : line ∈ contentLines comment) : '\r' ∉ line.toList := by
  rw [contentLines_of_ne_nil (List.ne_nil_of_mem h)] at h
  intro hmem
  exact absurd (isLineBreak_of_mem_nonblankLines h '\r' hmem) (by decide)

/-- A text put together from lines has a carriage return only if a line has one. -/
theorem carriageReturn_not_mem_trimmed_join {lines : List String}
    (h : ∀ line ∈ lines, '\r' ∉ line.toList) : '\r' ∉ (trimmed (String.join lines)).toList := by
  rw [trimmed, String.toList_ofList]
  intro hmem
  have hjoin := (trim_isInfix _).subset hmem
  rw [String.toList_join] at hjoin
  obtain ⟨line, hline, hmem⟩ := List.mem_flatMap.mp hjoin
  exact h line hline hmem

/-- The end of a line, closed by a line feed, has a carriage return only if the line has one. -/
theorem carriageReturn_not_mem_closed {cs rest : List Char} (h : '\r' ∉ cs) (hrest : rest ⊆ cs) :
    '\r' ∉ (String.ofList rest ++ "\n").toList := by
  rw [String.toList_append, String.toList_ofList, List.mem_append, not_or]
  exact ⟨fun hmem => h (hrest hmem), by decide⟩

/-! ## Class comments -/

/-- The value of a tag is part of what follows its marker. -/
theorem tagOf_value_subset (text : List Char) : (tagOf text).2.toList ⊆ text := by
  rw [tagOf, String.toList_ofList]
  exact List.Subset.trans (List.dropWhile_suffix _).subset (List.dropWhile_suffix _).subset

namespace ClassReading

/-- Nothing that was read so far has a carriage return. -/
structure ReturnFree (r : ClassReading) : Prop where
  summary : ∀ line ∈ r.summary, '\r' ∉ line.toList
  doc : ∀ line ∈ r.doc, '\r' ∉ line.toList
  tags : ∀ name values, r.tags.get? name = some values → ∀ value ∈ values, '\r' ∉ value.toList

/-- At the start nothing has been read. -/
theorem returnFree_start : ReturnFree {} :=
  ⟨List.forall_mem_nil _, List.forall_mem_nil _, fun name values h => by cases h⟩

namespace ReturnFree

variable {r : ClassReading} {line : String} {lines : List String}

/-- A line without carriage returns adds none to a text. -/
theorem addText (h : r.ReturnFree) (hline : '\r' ∉ line.toList) : (r.addText line).ReturnFree := by
  unfold ClassReading.addText
  split
  · refine { h with summary := List.forall_mem_append.mpr ⟨h.summary, ?_⟩ }
    exact List.forall_mem_singleton.mpr hline
  · refine { h with doc := List.forall_mem_append.mpr ⟨h.doc, ?_⟩ }
    exact List.forall_mem_singleton.mpr hline

/-- A value without carriage returns adds none to the tags. -/
theorem addTag (h : r.ReturnFree) (name : String) {value : String} (hvalue : '\r' ∉ value.toList) :
    (r.addTag name value).ReturnFree := by
  have hformer : ∀ former ∈ (r.tags.get? name).getD [], '\r' ∉ former.toList := by
    cases hget : r.tags.get? name with
    | none => exact List.forall_mem_nil _
    | some values => exact h.tags name values hget
  refine { h with tags := fun name' values hget => ?_ }
  rw [ClassReading.addTag, OrderedMap.get?_insert] at hget
  split at hget
  · obtain rfl := Option.some.inj hget
    exact List.forall_mem_append.mpr ⟨hformer, List.forall_mem_singleton.mpr hvalue⟩
  · exact h.tags name' values hget

/-- What a line adds is a part of the line, as the value of a tag or closed by a line feed. -/
theorem feed (h : r.ReturnFree) (hline : '\r' ∉ line.toList) : (r.feed line).1.ReturnFree := by
  have hdrop : line.toList.drop 2 ⊆ line.toList := List.drop_subset 2 _
  obtain hfeed | hfeed | hfeed | hfeed := r.feed_cases line
  · rw [hfeed]
    exact h
  · rw [hfeed]
    exact ⟨h.summary, h.doc, h.tags⟩
  · rw [hfeed]
    refine h.addTag _ fun hmem => hline ?_
    exact hdrop ((trim_isInfix _).subset (tagOf_value_subset _ hmem))
  · rw [hfeed]
    refine h.addText (carriageReturn_not_mem_closed hline ?_)
    exact List.Subset.trans (List.dropWhile_suffix isBlank).subset hdrop

/-- Lines without carriage returns add none. -/
theorem feedAll (h : r.ReturnFree) (hlines : ∀ line ∈ lines, '\r' ∉ line.toList) :
    (r.feedAll lines).ReturnFree := by
  induction lines generalizing r with
  | nil => exact h
  | cons line lines ih =>
    obtain ⟨hline, hlines⟩ := List.forall_mem_cons.mp hlines
    have hfeed := h.feed hline
    rw [ClassReading.feedAll]
    split
    · rename_i r' hr
      rw [hr] at hfeed
      exact ih hfeed hlines
    · rename_i r' hr
      rwa [hr] at hfeed

/-- What has been read without carriage returns says nothing with one. -/
theorem result (h : r.ReturnFree) : r.result.ReturnFree :=
  ⟨carriageReturn_not_mem_trimmed_join h.summary, carriageReturn_not_mem_trimmed_join h.doc, h.tags⟩

end ReturnFree

end ClassReading

/-- Whatever line ends a class comment has, it says nothing with a carriage return. -/
theorem returnFree_of_readClass {comment : Option String} {d : ClassDoc}
    (h : readClass comment = some d) : d.ReturnFree := by
  unfold readClass at h
  split at h
  · cases h
  · obtain rfl := Option.some.inj h
    refine (ClassReading.returnFree_start.feedAll fun line hline => ?_).result
    exact carriageReturn_not_mem_contentLines hline

/-! ## Method comments -/

namespace MethodReading

/-- No line of text that was read so far has a carriage return. -/
structure ReturnFree (r : MethodReading) : Prop where
  doc : ∀ line ∈ r.doc, '\r' ∉ line.toList
  long : ∀ line ∈ r.long, '\r' ∉ line.toList

/-- At the start nothing has been read. -/
theorem returnFree_start : ReturnFree {} :=
  ⟨List.forall_mem_nil _, List.forall_mem_nil _⟩

namespace ReturnFree

variable {r r' : MethodReading} {line : String} {lines : List String}

/-- A line without carriage returns adds none to a text. -/
theorem addText (h : r.ReturnFree) (hline : '\r' ∉ line.toList) : (r.addText line).ReturnFree := by
  unfold MethodReading.addText
  split
  · refine { h with doc := List.forall_mem_append.mpr ⟨h.doc, ?_⟩ }
    exact List.forall_mem_singleton.mpr hline
  · refine { h with long := List.forall_mem_append.mpr ⟨h.long, ?_⟩ }
    exact List.forall_mem_singleton.mpr hline

/-- A line without carriage returns that is taken adds none. -/
theorem feed (h : r.ReturnFree) (hline : '\r' ∉ line.toList) (hfeed : r.feed line = some r') :
    r'.ReturnFree := by
  obtain rfl | rfl | ⟨tag, -, rfl⟩ | rfl := feed_cases hfeed
  · exact h
  · exact ⟨h.doc, h.long⟩
  · exact ⟨h.doc, h.long⟩
  · exact h.addText (carriageReturn_not_mem_closed hline (List.drop_subset 2 _))

/-- Lines without carriage returns that are all taken add none. -/
theorem feedAll (h : r.ReturnFree) (hlines : ∀ line ∈ lines, '\r' ∉ line.toList)
    (hfeed : r.feedAll lines = some r') : r'.ReturnFree := by
  induction lines generalizing r with
  | nil =>
    obtain rfl := Option.some.inj hfeed
    exact h
  | cons line lines ih =>
    obtain ⟨hline, hlines⟩ := List.forall_mem_cons.mp hlines
    rw [MethodReading.feedAll] at hfeed
    split at hfeed
    · rename_i r₁ hr₁
      exact ih (h.feed hline hr₁) hlines hfeed
    · cases hfeed

end ReturnFree

end MethodReading

/-- Whatever line ends a method comment has, its texts have no carriage return. -/
theorem carriageReturn_not_mem_of_readMethod {comment : Option String} {d : MethodDoc}
    (h : readMethod comment = .ok (some d)) : '\r' ∉ d.doc.toList ∧ '\r' ∉ d.long.toList := by
  obtain ⟨r, hr, rfl⟩ := exists_reading_of_readMethod h
  have hfree := MethodReading.returnFree_start.feedAll
    (fun line hline => carriageReturn_not_mem_contentLines hline) hr
  exact ⟨carriageReturn_not_mem_trimmed_join hfree.doc,
    carriageReturn_not_mem_trimmed_join hfree.long⟩

/-- A parameter that a comment documents has no carriage return in its name or its type. -/
theorem HasParamForm.carriageReturn_not_mem {name type : String} (h : HasParamForm name type) :
    '\r' ∉ name.toList ∧ '\r' ∉ type.toList := by
  constructor
  · exact carriageReturn_not_mem_of_isBlank fun c hc => isBlank_of_isWord (h.name_word c hc)
  · exact carriageReturn_not_mem_of_isBlank h.type_solid

end Docblock

end TraitDocs
