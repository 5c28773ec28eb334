import TraitDocs.Proofs.Docblock.CarriageReturns
import TraitDocs.Proofs.Readme.Substitution
import TraitDocs.Proofs.Readme.Template

/-!
# Where the carriage returns of a document come from

The texts that the document is put together with have no carriage return, and neither has the
template. So every text of the document has a carriage return exactly if one of the values that it
shows has one; followed from the template down to the signatures, these are the names of classes and
methods, the texts of the comments, and the parameters.
-/

set_option autoImplicit false

namespace TraitDocs.Readme

/-! ## Methods -/

/-- A parameter shows the carriage returns of its type, its name and its default value. -/
theorem carriageReturn_mem_signaturePart_iff {first : Bool} {name : String} {p : ParamDoc} :
    '\r' ∈ (signaturePart first name p).toList ↔
      '\r' ∈ p.type.toList ∨ '\r' ∈ name.toList ∨
        p.hasDefault = true ∧ '\r' ∈ (literal p.default).toList := by
  unfold signaturePart
  cases first <;> cases p.hasDefault <;> simp

/-- A signature has the carriage returns of its parameters and of their default values. -/
theorem carriageReturn_mem_signature_iff {params : OrderedMap String ParamDoc} :
    '\r' ∈ (signature params).toList ↔ ∃ e ∈ params.entries,
      '\r' ∈ e.2.type.toList ∨ '\r' ∈ e.1.toList ∨
        e.2.hasDefault = true ∧ '\r' ∈ (literal e.2.default).toList := by
  unfold signature
  rw [String.toList_join, List.mem_flatMap]
  cases params.entries with
  | nil => simp [signatureParts]
  | cons e rest => simp [signatureParts, carriageReturn_mem_signaturePart_iff]

/-- The block of a method shows the carriage returns of its name, its parameters and its short text.
-/
theorem carriageReturn_mem_methodBlock_iff {name : String} {doc : MethodDoc} :
    '\r' ∈ (methodBlock name doc).toList ↔
      '\r' ∈ name.toList ∨ '\r' ∈ (signature doc.params).toList ∨ '\r' ∈ doc.doc.toList := by
  unfold methodBlock
  simp

/-- The section of a method has the carriage returns of the method and of the one that asserts the
opposite. -/
theorem carriageReturn_mem_methodSection_iff {record : MethodRecord} :
    '\r' ∈ (methodSection record.name record).toList ↔
      ∃ r ∈ record.chain.take 2, '\r' ∈ (methodBlock r.name r.doc).toList := by
  constructor
  · intro hmem
    cases record with
    | single name doc => simpa [methodSection, MethodRecord.chain, MethodRecord.inverse?] using hmem
    | paired name doc inverse =>
      cases inverse <;>
        simpa [methodSection, MethodRecord.chain, MethodRecord.inverse?] using hmem
  · rintro ⟨r, hr, hmem⟩
    exact (methodBlock_infix_methodSection hr).subset hmem

/-! ## Classes -/

/-- The short name of a class has no other characters than its name. -/
theorem shortName_subset (className : String) :
    (shortName className).toList ⊆ className.toList := by
  intro c hc
  rw [shortName, String.toList_ofList, List.mem_reverse] at hc
  exact List.mem_reverse.mp ((List.takeWhile_subset _) hc)

/-- What a class requires shows the carriage returns of the values. -/
theorem carriageReturn_mem_requirements {values : List String}
    (hmem : '\r' ∈ (requirements values).toList) : ∃ value ∈ values, '\r' ∈ value.toList := by
  unfold requirements at hmem
  split at hmem
  · simpa using hmem
  · rw [String.toList_append, List.mem_append, String.toList_join, List.mem_flatMap] at hmem
    obtain hmem | ⟨item, hitem, hmem⟩ := hmem
    · exact absurd hmem (by decide)
    · obtain ⟨value, hvalue, rfl⟩ := List.mem_map.mp hitem
      exact ⟨value, (List.mem_filter.mp hvalue).1, by simpa using hmem⟩

/-- The head of a section has the carriage returns of the name of the class, if the comment of the
class has none. -/
theorem carriageReturn_mem_classHead_iff {className : String} {classDoc : ClassDoc}
    (hfree : classDoc.ReturnFree) :
    '\r' ∈ (classHead className classDoc).toList ↔ '\r' ∈ className.toList := by
  have hshort : '\r' ∈ (shortName className).toList → '\r' ∈ className.toList :=
    fun hmem => shortName_subset className hmem
  have hrequires : '\r' ∉ (((classDoc.tags.get? "requires").map requirements).getD "").toList := by
    cases hget : classDoc.tags.get? "requires" with
    | none => decide
    | some values =>
      intro hmem
      obtain ⟨value, hvalue, hmem⟩ := carriageReturn_mem_requirements hmem
      exact hfree.tags "requires" values hget value hvalue hmem
  have hseparator : '\r' ∉ (if classDoc.doc = "" then "" else "\n").toList := by
    split <;> decide
  unfold classHead
  simpa [hfree.doc, hrequires, hseparator] using hshort

/-- The section of a class shows the carriage returns of its name and of the sections of its
methods. -/
theorem carriageReturn_mem_classSection_iff {className : String} {record : ClassRecord}
    (hfree : record.classDoc.ReturnFree) :
    '\r' ∈ (classSection className record).toList ↔ '\r' ∈ className.toList ∨
      ∃ e ∈ record.methods.entries, '\r' ∈ (methodSection e.1 e.2).toList := by
  rw [classSection, String.toList_append, List.mem_append,
    carriageReturn_mem_classHead_iff hfree, String.toList_join, List.mem_flatMap]
  simp only [List.mem_map, exists_exists_and_eq_and]

/-- The entry of a class in the listing shows no carriage returns but those of its name. -/
theorem carriageReturn_mem_listingEntry {className : String} {record : ClassRecord}
    (hfree : record.classDoc.ReturnFree) (hmem : '\r' ∈ (listingEntry className record).toList) :
    '\r' ∈ className.toList := by
  unfold listingEntry at hmem
  have hshort : '\r' ∈ (shortName className).toList := by simpa [hfree.summary] using hmem
  exact shortName_subset className hshort

/-! ## The document -/

/-- The document has the carriage returns of the listing and of the sections. -/
theorem carriageReturn_mem_fill_iff {listing body : String} :
    '\r' ∈ (fill listing body builtInTemplate).toList ↔
      '\r' ∈ listing.toList ∨ '\r' ∈ body.toList := by
  have habsent : ∀ {cs : List Char}, Plain cs → '\r' ∉ cs := fun h hmem => (h '\r' hmem).2 rfl
  constructor
  · intro hmem
    rw [toList_fill_builtInTemplate] at hmem
    obtain ⟨hhead, hmiddle, hfoot⟩ := plain_template
    simp only [List.mem_append, habsent hhead, habsent hmiddle, habsent hfoot, false_or,
      or_false] at hmem
    obtain hmem | hbody := hmem
    · obtain hdone | hbody | hlisting := Text.of_mem_replaceAllFrom hmem
      · exact absurd hdone List.not_mem_nil
      · exact Or.inr hbody
      · exact Or.inl hlisting
    · exact Or.inr hbody
  · rintro (hlisting | hbody)
    · exact mem_fill_of_mem_listing hlisting (by decide) body
    · rw [toList_fill_builtInTemplate]
      simp [hbody]

/-- Where the comments of the classes have no carriage return, the document has those of the names
of the classes and of the sections of their methods. -/
theorem carriageReturn_mem_render_iff {records : OrderedMap String ClassRecord}
    (hfree : ∀ e ∈ shown records, e.2.classDoc.ReturnFree) :
    '\r' ∈ (render records builtInTemplate).toList ↔ ∃ e ∈ shown records,
      '\r' ∈ e.1.toList ∨ ∃ m ∈ e.2.methods.entries, '\r' ∈ (methodSection m.1 m.2).toList := by
  have hbody : '\r' ∈ (sections records).body.toList ↔ ∃ e ∈ shown records,
      '\r' ∈ e.1.toList ∨ ∃ m ∈ e.2.methods.entries, '\r' ∈ (methodSection m.1 m.2).toList := by
    simp only [sections, String.toList_join, List.mem_flatMap, List.mem_map,
      exists_exists_and_eq_and]
    refine exists_congr fun e => and_congr_right fun he => ?_
    exact carriageReturn_mem_classSection_iff (hfree e he)
  -- The listing shows nothing with a carriage return that the sections do not show.
  have hlisting : '\r' ∈ (sections records).listing.toList → ∃ e ∈ shown records,
      '\r' ∈ e.1.toList ∨ ∃ m ∈ e.2.methods.entries, '\r' ∈ (methodSection m.1 m.2).toList := by
    simp only [sections, String.toList_join, List.mem_flatMap, List.mem_map,
      exists_exists_and_eq_and]
    rintro ⟨e, he, hmem⟩
    exact ⟨e, he, Or.inl (carriageReturn_mem_listingEntry (hfree e he) hmem)⟩
  simp only [render]
  rw [carriageReturn_mem_fill_iff, hbody, or_iff_right_of_imp hlisting]

end TraitDocs.Readme
