import TraitDocs.Proofs.Readme.Inverses
import TraitDocs.Proofs.Text.Search

/-!
# What the filled template holds

The listing goes into the template as it is, and putting in the sections afterwards takes nothing
out but the second marker. So every character of the listing that is not one of that marker is in
the document.
-/

set_option autoImplicit false

namespace TraitDocs.Readme

/-- The first marker occurs in the template. -/
theorem listingMarker_infix_builtInTemplate :
    listingMarker.toList <:+: builtInTemplate.toList := by
  rw [builtInTemplate, String.toList_append, String.toList_append, String.toList_append,
    String.toList_append, List.append_assoc, List.append_assoc]
  exact List.infix_append _ _ _

/-- A character of the listing is in the document, unless the second marker has it. -/
theorem mem_fill_of_mem_listing {listing : String} {c : Char} (hc : c ∈ listing.toList)
    (hmarker : c ∉ bodyMarker.toList) (body : String) :
    c ∈ (fill listing body builtInTemplate).toList := by
  have hlisted : c ∈ Text.replaceAll listingMarker.toList listing.toList builtInTemplate.toList :=
    Text.mem_replaceAllFrom_of_infix (by decide) listingMarker_infix_builtInTemplate hc
  rw [fill, String.toList_ofList]
  exact Text.mem_replaceAllFrom_of_not_mem (by decide) hmarker (by simp) hlisted

/-- A character of the short name of a class that is shown is in the document, unless the second
marker has it. -/
theorem mem_render_of_mem_shortName {records : OrderedMap String ClassRecord}
    {e : String × ClassRecord} (he : e ∈ shown records) {c : Char}
    (hc : c ∈ (shortName e.1).toList) (hmarker : c ∉ bodyMarker.toList) :
    c ∈ (render records builtInTemplate).toList := by
  have hentry : c ∈ (listingEntry e.1 e.2).toList := by
    rw [listingEntry]
    simp only [String.toList_append, List.mem_append]
    exact Or.inl (Or.inl (Or.inr hc))
  have hlisting : listingEntry e.1 e.2 ∈ (shown records).map fun e => listingEntry e.1 e.2 :=
    List.mem_map_of_mem he
  exact mem_fill_of_mem_listing ((infix_join_of_mem hlisting).subset hentry) hmarker _

end TraitDocs.Readme
