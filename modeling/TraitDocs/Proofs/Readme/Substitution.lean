import TraitDocs.Catalog
import TraitDocs.Proofs.Readme.Inverses
import TraitDocs.Proofs.Text.Replacement

/-!
# What is put into the template

The template has each of its two markers once, and line breaks stand around the place of the
listing, so that neither marker can arise from the listing and the text around it. The sections go
in last and are copied as they are. The listing goes in first, and is searched for the second marker
like the rest of the text: a class whose summary has that marker gets the sections of all classes in
its place.

`toList_fill_builtInTemplate` says what the document is for any listing and any sections.
-/

set_option autoImplicit false

namespace TraitDocs.Readme

open Text

/-! ## The template around its markers -/

/-- Tells that a text has no carriage return, and not the letter that both markers have. -/
def Plain (cs : List Char) : Prop :=
  ∀ c ∈ cs, c ≠ 'D' ∧ c ≠ '\r'

instance (cs : List Char) : Decidable (Plain cs) :=
  List.decidableBAll _ cs

/-- The text of plain characters is plain. -/
theorem plain_toList_ofList {cs : List Char} (h : Plain cs) : Plain (String.ofList cs).toList := by
  rwa [String.toList_ofList]

/-- Plain texts put together are plain. -/
theorem plain_toList_join {texts : List String} (h : ∀ s ∈ texts, Plain s.toList) :
    Plain (String.join texts).toList := by
  intro c hc
  rw [String.toList_join] at hc
  obtain ⟨s, hs, hc⟩ := List.mem_flatMap.mp hc
  exact h s hs c hc

/-- Texts put together begin as the first of them. -/
theorem head?_toList_join {texts : List String} {cs : List Char} {c : Char}
    (hfirst : texts.head? = some (String.ofList cs)) (hhead : cs.head? = some c) :
    (String.join texts).toList.head? = some c := by
  obtain ⟨rest, rfl⟩ := List.head?_eq_some_iff.mp hfirst
  rw [String.toList_join, List.flatMap_cons, String.toList_ofList, List.head?_append, hhead]
  rfl

/-- Texts put together end as the last of them. -/
theorem getLast?_toList_join {texts : List String} {cs : List Char} {c : Char}
    (hfinal : texts.getLast? = some (String.ofList cs)) (hlast : cs.getLast? = some c) :
    (String.join texts).toList.getLast? = some c := by
  obtain ⟨above, rfl⟩ := List.getLast?_eq_some_iff.mp hfinal
  rw [String.toList_join, List.flatMap_append, List.flatMap_singleton, String.toList_ofList,
    List.getLast?_append, hlast]
  rfl

/-- Apart from its markers, the template is plain. -/
theorem plain_template :
    Plain templateHead.toList ∧ Plain templateMiddle.toList ∧ Plain templateFoot.toList := by
  -- Each line is looked at by itself, as a list of characters: the whole template is too long to
  -- compute with.
  refine ⟨plain_toList_join ?_, plain_toList_join ?_, plain_toList_join ?_⟩
  all_goals
    repeat refine List.forall_mem_cons.mpr ⟨plain_toList_ofList (by decide), ?_⟩
    exact List.forall_mem_nil _

/-- Tells that a text is plain and ends with a line feed, so that no marker reaches beyond it. -/
structure PlainLines (cs : List Char) : Prop where
  plain : Plain cs
  getLast?_eq : cs.getLast? = some '\n'

/-- Before the listing there are plain lines. -/
theorem plainLines_templateHead : PlainLines templateHead.toList :=
  ⟨plain_template.1, getLast?_toList_join rfl rfl⟩

/-- Between the listing and the sections there are plain lines. -/
theorem plainLines_templateMiddle : PlainLines templateMiddle.toList :=
  ⟨plain_template.2.1, getLast?_toList_join rfl rfl⟩

/-- A line feed stands after the listing. -/
theorem head?_templateMiddle : templateMiddle.toList.head? = some '\n' :=
  head?_toList_join rfl rfl

/-- A line feed stands after the sections. -/
theorem head?_templateFoot : templateFoot.toList.head? = some '\n' :=
  head?_toList_join rfl rfl

/-- Tells that a pattern is like the two markers: it has a letter that the rest of the template does
not have, and no line break. -/
structure IsMarker (pattern : List Char) : Prop where
  letter_mem : 'D' ∈ pattern
  newline_not_mem : '\n' ∉ pattern

/-- The marker of the listing is one. -/
theorem isMarker_listingMarker : IsMarker listingMarker.toList :=
  ⟨by decide, by decide⟩

/-- The marker of the sections is one. -/
theorem isMarker_bodyMarker : IsMarker bodyMarker.toList :=
  ⟨by decide, by decide⟩

namespace IsMarker

variable {pattern new : List Char}

/-- A marker is not empty. -/
theorem ne_nil (h : IsMarker pattern) : pattern ≠ [] :=
  List.ne_nil_of_mem h.letter_mem

/-- A plain text has no marker. -/
theorem absent (h : IsMarker pattern) {cs : List Char} (hcs : Plain cs) : ¬ pattern <:+: cs :=
  fun hoccurs => (hcs 'D' (hoccurs.subset h.letter_mem)).1 rfl

/-- Plain lines stay as they are, whatever comes after them. -/
theorem replaceAll_lines_append (h : IsMarker pattern) {lines : List Char}
    (hlines : PlainLines lines) (rest : List Char) :
    replaceAll pattern new (lines ++ rest) = lines ++ replaceAll pattern new rest :=
  replaceAll_append_of_getLast? h.ne_nil h.newline_not_mem hlines.getLast?_eq
    (h.absent hlines.plain) rest

/-- The lines between the listing and the sections stay as they are and keep the texts on both sides
apart. -/
theorem replaceAll_append_templateMiddle_append (h : IsMarker pattern) (cs rest : List Char) :
    replaceAll pattern new (cs ++ (templateMiddle.toList ++ rest)) =
      replaceAll pattern new cs ++ (templateMiddle.toList ++ replaceAll pattern new rest) := by
  have hhead : (templateMiddle.toList ++ rest).head? = some '\n' := by
    rw [List.head?_append, head?_templateMiddle]
    rfl
  rw [replaceAll_append_of_head? h.ne_nil h.newline_not_mem hhead,
    h.replaceAll_lines_append plainLines_templateMiddle]

/-- The end of the template stays as it is, whatever comes before it. -/
theorem replaceAll_append_templateFoot (h : IsMarker pattern) (cs : List Char) :
    replaceAll pattern new (cs ++ templateFoot.toList) =
      replaceAll pattern new cs ++ templateFoot.toList := by
  have hfoot : replaceAll pattern new templateFoot.toList = templateFoot.toList :=
    replaceAll_of_absent h.ne_nil (h.absent plain_template.2.2)
  rw [replaceAll_append_of_head? h.ne_nil h.newline_not_mem head?_templateFoot, hfoot]

end IsMarker

/-! ## The document -/

/-- The template is plain but for its two markers. -/
theorem toList_builtInTemplate :
    builtInTemplate.toList = templateHead.toList ++ (listingMarker.toList ++
      (templateMiddle.toList ++ (bodyMarker.toList ++ templateFoot.toList))) := by
  unfold builtInTemplate
  simp only [String.toList_append, List.append_assoc]

/-- The first marker is replaced by the listing, and nothing else is changed. -/
theorem replaceAll_listingMarker_builtInTemplate (listing : List Char) :
    replaceAll listingMarker.toList listing builtInTemplate.toList =
      templateHead.toList ++ (listing ++
        (templateMiddle.toList ++ (bodyMarker.toList ++ templateFoot.toList))) := by
  have h := isMarker_listingMarker
  have habsent : ¬ listingMarker.toList <:+: bodyMarker.toList := by
    intro hoccurs
    have hletter : 'L' ∈ listingMarker.toList := by decide
    exact absurd (hoccurs.subset hletter) (by decide)
  have hmarker : replaceAll listingMarker.toList listing bodyMarker.toList = bodyMarker.toList :=
    replaceAll_of_absent h.ne_nil habsent
  rw [toList_builtInTemplate, h.replaceAll_lines_append plainLines_templateHead,
    replaceAll_pattern_append h.ne_nil, h.replaceAll_lines_append plainLines_templateMiddle,
    h.replaceAll_append_templateFoot, hmarker]

/-- The sections go to the place of the second marker, and to every place where the listing has
it. -/
theorem toList_fill_builtInTemplate (listing body : String) :
    (fill listing body builtInTemplate).toList =
      templateHead.toList ++ (replaceAll bodyMarker.toList body.toList listing.toList ++
        (templateMiddle.toList ++ (body.toList ++ templateFoot.toList))) := by
  have h := isMarker_bodyMarker
  simp only [fill, String.toList_ofList]
  rw [replaceAll_listingMarker_builtInTemplate,
    h.replaceAll_lines_append plainLines_templateHead, h.replaceAll_append_templateMiddle_append,
    h.replaceAll_append_templateFoot, replaceAll_pattern h.ne_nil]

/-- Both texts are copied as they are exactly if replacing the second marker leaves the listing as
it is. -/
theorem fill_eq_iff_replaceAll_eq (listing body : String) :
    fill listing body builtInTemplate =
        templateHead ++ listing ++ templateMiddle ++ body ++ templateFoot ↔
      replaceAll bodyMarker.toList body.toList listing.toList = listing.toList := by
  rw [← String.toList_inj, toList_fill_builtInTemplate]
  simp only [String.toList_append, List.append_assoc, List.append_cancel_left_eq]
  rw [List.append_cancel_right_eq]

/-- The sections are copied to their place, and also into the listing, wherever that has the second
marker. Both texts are copied as they are if and only if the listing does not have that marker, or
the sections consist of it. -/
theorem fill_copies_iff (listing body : String) :
    fill listing body builtInTemplate =
      templateHead ++ String.ofList (replaceAll bodyMarker.toList body.toList listing.toList) ++
        templateMiddle ++ body ++ templateFoot ∧
    (fill listing body builtInTemplate =
        templateHead ++ listing ++ templateMiddle ++ body ++ templateFoot ↔
      ¬ bodyMarker.toList <:+: listing.toList ∨ body = bodyMarker) := by
  constructor
  · rw [← String.toList_inj, toList_fill_builtInTemplate]
    simp only [String.toList_append, String.toList_ofList, List.append_assoc]
  · rw [fill_eq_iff_replaceAll_eq, replaceAll_eq_self_iff isMarker_bodyMarker.ne_nil,
      String.toList_inj]

/-- The summary of a class that is shown stands in the listing. -/
theorem summary_infix_listing {records : OrderedMap String ClassRecord} {e : String × ClassRecord}
    (he : e ∈ shown records) :
    e.2.classDoc.summary.toList <:+: (sections records).listing.toList := by
  have hentry : e.2.classDoc.summary.toList <:+: (listingEntry e.1 e.2).toList := by
    rw [listingEntry, String.toList_append]
    exact (List.suffix_append _ _).isInfix
  exact hentry.trans (infix_join_of_mem (List.mem_map_of_mem he))

/-- The section of a class that is shown has line breaks. -/
theorem newline_mem_body {records : OrderedMap String ClassRecord} {e : String × ClassRecord}
    (he : e ∈ shown records) : '\n' ∈ (sections records).body.toList := by
  have hsection : '\n' ∈ (classSection e.1 e.2).toList := by
    rw [classSection, String.toList_append, List.mem_append]
    left
    unfold classHead
    rw [String.toList_append, List.mem_append]
    exact Or.inr (by decide)
  have hoccurs : (classSection e.1 e.2).toList <:+: (sections records).body.toList :=
    infix_join_of_mem (List.mem_map.mpr ⟨e, he, rfl⟩)
  exact hoccurs.subset hsection

/-- A class whose summary is the second marker. -/
def markedClass : Reflector
  | "A" => some { name := "A", comment := .str "/**\n * #GENERATED_BODY#\n */" }
  | _ => none

/-- That class is collected and shown. -/
theorem exists_shown_markedClass :
    ∃ records, (Catalog.collect markedClass ["A"]).2 = .ok records ∧
      ∃ e ∈ shown records, e.2.classDoc.summary = bodyMarker := by
  have hshown : ((Catalog.collect markedClass ["A"]).2.toOption.map fun records =>
      (shown records).any fun e => decide (e.2.classDoc.summary = bodyMarker)) = some true := by
    decide +kernel
  cases hcollect : (Catalog.collect markedClass ["A"]).2 with
  | error stop =>
    rw [hcollect] at hshown
    cases hshown
  | ok records =>
    rw [hcollect] at hshown
    obtain ⟨e, he, hsummary⟩ := List.any_eq_true.mp (Option.some.inj hshown)
    exact ⟨records, rfl, e, he, of_decide_eq_true hsummary⟩

/-- The summary of a documented class can be taken for the second marker. -/
theorem summary_taken_for_marker :
    ∃ records, (Catalog.collect markedClass ["A"]).2 = .ok records ∧
      render records builtInTemplate ≠
        templateHead ++ (sections records).listing ++ templateMiddle ++ (sections records).body ++
          templateFoot := by
  obtain ⟨records, hcollect, e, he, hsummary⟩ := exists_shown_markedClass
  refine ⟨records, hcollect, fun hcopied => ?_⟩
  rw [render, fill_eq_iff_replaceAll_eq,
    replaceAll_eq_self_iff isMarker_bodyMarker.ne_nil] at hcopied
  obtain habsent | hbody := hcopied
  · exact habsent (hsummary ▸ summary_infix_listing he)
  · -- The sections have line breaks, which no marker has.
    have hnewline := newline_mem_body he
    rw [hbody] at hnewline
    exact isMarker_bodyMarker.newline_not_mem hnewline

end TraitDocs.Readme
