import TraitDocs.Docblock.ClassDoc
import TraitDocs.Proofs.Docblock.Layout
import TraitDocs.Proofs.OrderedMap.Grouped

/-!
# Reading back the comment of a class

A class comment is written as the lines of a summary, a line without text and the lines of a
description, with lines of tags set in between wherever one likes. Reading it gives back the
summary, the description and the values of each tag.

Each kind of line does one thing to the machine: `take_textLine`, `take_bare` and `take_tagLine`.
The lines of tags touch nothing that the other lines touch, so they can be taken first, and then the
rest in order.
-/

set_option autoImplicit false

namespace TraitDocs.Docblock

open Text

/-- A tag: its name has no blanks; its value is trimmed, has no line breaks and may be empty. -/
structure ClassTag where
  name : String
  value : String
  name_solid : ∀ c ∈ name.toList, isBlank c = false
  value_trimmed : IsTrimmed value.toList
  value_unbroken : ∀ c ∈ value.toList, isLineBreak c = false

namespace ClassTag

/-- What follows the name on the line of a tag. -/
def tail (t : ClassTag) : String :=
  if t.value = "" then "" else " " ++ t.value

/-- The line of a tag. -/
def line (t : ClassTag) : String :=
  "@" ++ t.name ++ t.tail

/-- The line of a tag by its characters. -/
theorem toList_line (t : ClassTag) : t.line.toList = '@' :: t.name.toList ++ t.tail.toList := by
  unfold line
  rw [String.toList_append, String.toList_append]
  rfl

/-- The line of a tag is not empty. -/
theorem line_ne_empty (t : ClassTag) : t.line ≠ "" := by
  intro hempty
  have htoList := t.toList_line
  rw [hempty] at htoList
  cases htoList

/-- After the name of a tag there is nothing, or a space and the value. -/
theorem tail_cases (t : ClassTag) :
    t.tail.toList = [] ∧ t.value = "" ∨
      t.tail.toList = ' ' :: t.value.toList ∧ t.value.toList ≠ [] := by
  unfold tail
  split
  · rename_i hvalue
    exact Or.inl ⟨rfl, hvalue⟩
  · rename_i hvalue
    rw [String.toList_append]
    exact Or.inr ⟨rfl, mt String.toList_eq_nil_iff.mp hvalue⟩

/-- Up to the end of the name, the line of a tag has no blank. -/
theorem solid (t : ClassTag) : ∀ c ∈ '@' :: t.name.toList, isBlank c = false :=
  List.forall_mem_cons.mpr ⟨by decide, t.name_solid⟩

/-- The line of a tag has no line break. -/
theorem unbroken (t : ClassTag) : ∀ c ∈ t.line.toList, isLineBreak c = false := by
  rw [toList_line, List.forall_mem_append]
  refine ⟨fun c hc => isLineBreak_of_isBlank (t.solid c hc), ?_⟩
  obtain ⟨htail, -⟩ | ⟨htail, -⟩ := t.tail_cases
  · rw [htail]
    exact List.forall_mem_nil _
  · rw [htail]
    exact List.forall_mem_cons.mpr ⟨by decide, t.value_unbroken⟩

/-- The line of a tag is trimmed. -/
theorem isTrimmed_line (t : ClassTag) : IsTrimmed t.line.toList := by
  have hname : IsTrimmed ('@' :: t.name.toList) :=
    ⟨fun c hc => t.solid c (List.mem_of_mem_head? hc),
      fun c hc => t.solid c (List.mem_of_mem_getLast? hc)⟩
  rw [toList_line]
  obtain ⟨htail, -⟩ | ⟨htail, hvalue⟩ := t.tail_cases
  · rwa [htail, List.append_nil]
  · have hline := hname.append t.value_trimmed (List.cons_ne_nil _ _) hvalue [' ']
    rwa [List.append_assoc, List.singleton_append, ← htail] at hline

/-- The line of a tag gives back its name and its value. -/
theorem tagOf_line (t : ClassTag) : tagOf t.line.toList = (t.name, t.value) := by
  have hsolid : ∀ c ∈ '@' :: t.name.toList, (!isBlank c) = true := by
    intro c hc
    rw [t.solid c hc]
    rfl
  unfold tagOf
  rw [toList_line, List.takeWhile_append_of_pos hsolid, List.dropWhile_append_of_pos hsolid]
  obtain ⟨htail, hvalue⟩ | ⟨htail, hvalue⟩ := t.tail_cases
  · simp [htail, hvalue, trimStart]
  · have hstart : trimStart (' ' :: t.value.toList) = t.value.toList := by
      rw [← List.singleton_append, trimStart_blank_append (by decide),
        trimStart_eq_self t.value_trimmed.head]
    have hblank : isBlank ' ' = true := by decide
    simp [htail, hblank, hstart]

end ClassTag

namespace ClassReading

/-- A bare marker turns the machine. -/
theorem take_bare (r : ClassReading) : r.take bare = { r with part := .doc } :=
  rfl

/-- After its marker, a line is the line of a tag or a line of text. -/
theorem take_marked (r : ClassReading) {line : String} (h : line ≠ "") :
    r.take (marked line) =
      if ['@'].isPrefixOf line.toList then
        r.addTag (tagOf (trim line.toList)).1 (tagOf (trim line.toList)).2
      else r.addText (String.ofList (trimStart line.toList) ++ "\n") := by
  have hlength : 2 < ('*' :: ' ' :: line.toList).length := by
    have hpos := List.length_pos_iff.mpr (mt String.toList_eq_nil_iff.mp h)
    simp only [List.length_cons]
    omega
  have hbare : marked line ≠ bare := by
    intro hbare
    have htoList := toList_marked h
    rw [hbare] at htoList
    cases htoList
  simp only [take, toList_marked h, if_neg hbare, if_pos hlength]
  rfl

/-- A line of text goes to the part that is being read. -/
theorem take_textLine (r : ClassReading) (line : TextLine "@") :
    r.take (marked line.text) = r.addText (line.text ++ "\n") := by
  have htag : ¬ ['@'].isPrefixOf line.text.toList = true := by
    rw [List.isPrefixOf_iff_prefix]
    exact line.not_barred
  rw [take_marked r line.ne_empty, if_neg htag, trimStart_eq_self line.isTrimmed.head,
    String.ofList_toList]

/-- The line of a tag adds its value. -/
theorem take_tagLine (r : ClassReading) (t : ClassTag) :
    r.take (marked t.line) = r.addTag t.name t.value := by
  have htag : ['@'].isPrefixOf t.line.toList = true := by
    rw [t.toList_line]
    rfl
  rw [take_marked r t.line_ne_empty, if_pos htag, trim_eq_self t.isTrimmed_line, t.tagOf_line]

/-! ## Runs of the machine -/

/-- An opening delimiter is passed over. -/
theorem feedAll_opening_cons (r : ClassReading) (lines : List String) :
    r.feedAll (opening :: lines) = r.feedAll lines :=
  rfl

/-- Up to the closing delimiter, every line is taken. -/
theorem feedAll_append_closing (r : ClassReading) {lines : List String}
    (h : ∀ line ∈ lines, isDelimiter line = false) :
    r.feedAll (lines ++ [closing]) = lines.foldl take r := by
  induction lines generalizing r with
  | nil => rfl
  | cons line lines ih =>
    rw [List.forall_mem_cons, isDelimiter, Bool.or_eq_false_iff, beq_eq_false_iff_ne,
      beq_eq_false_iff_ne] at h
    obtain ⟨⟨hopening, hclosing⟩, hlines⟩ := h
    rw [List.cons_append, feedAll, feed, if_neg hopening, if_neg hclosing, List.foldl_cons]
    exact ih (r.take line) hlines

/-- Lines of text go one after the other to the part that is being read. -/
theorem foldl_addText (r : ClassReading) (lines : List String) :
    lines.foldl addText r =
      match r.part with
      | .summary => { r with summary := r.summary ++ lines }
      | .doc => { r with doc := r.doc ++ lines } := by
  obtain ⟨part, summary, doc, tags⟩ := r
  induction lines generalizing summary doc with
  | nil => cases part <;> simp
  | cons line lines ih =>
    rw [List.foldl_cons]
    cases part with
    | summary => exact (ih (summary ++ [line]) doc).trans (by simp)
    | doc => exact (ih summary (doc ++ [line])).trans (by simp)

/-- Tags are added to the tags alone. -/
theorem foldl_addTag (r : ClassReading) (tags : List (String × String)) :
    tags.foldl (fun r t => r.addTag t.1 t.2) r =
      { r with tags := tags.foldl OrderedMap.addValue r.tags } := by
  induction tags generalizing r with
  | nil => rfl
  | cons t tags ih => exact ih (r.addTag t.1 t.2)

/-- A line of text and a value of a tag can be added in either order. -/
theorem addText_addTag (r : ClassReading) (name value line : String) :
    (r.addTag name value).addText line = (r.addText line).addTag name value := by
  unfold addText addTag
  cases r.part <;> rfl

/-- Takes a line after its marker, trimmed as it is read. -/
def takeMarked (r : ClassReading) (line : String) : ClassReading :=
  r.take (trimmed (marked line))

/-- A line without text turns the machine. -/
theorem takeMarked_empty (r : ClassReading) : r.takeMarked "" = { r with part := .doc } := by
  have hbare : trimmed (marked "") = bare := by decide
  rw [takeMarked, hbare, take_bare]

/-- A line of text is added to the part that is being read. -/
theorem takeMarked_textLine (r : ClassReading) (line : TextLine "@") :
    r.takeMarked line.text = r.addText (line.text ++ "\n") := by
  rw [takeMarked, trimmed_marked line.isTrimmed.last, take_textLine]

/-- The line of a tag adds its value. -/
theorem takeMarked_tagLine (r : ClassReading) (t : ClassTag) :
    r.takeMarked t.line = r.addTag t.name t.value := by
  rw [takeMarked, trimmed_marked t.isTrimmed_line.last, take_tagLine]

/-- Lines of text are added one after the other. -/
theorem foldl_takeMarked_textLines (r : ClassReading) (lines : List (TextLine "@")) :
    (lines.map TextLine.text).foldl takeMarked r =
      (lines.map fun line => line.text ++ "\n").foldl addText r := by
  rw [List.foldl_map, List.foldl_map]
  simp only [takeMarked_textLine]

/-- What the machine has read after the lines of a summary, a line without text and the lines of a
description, with the lines of tags among them. -/
theorem foldl_takeMarked {summary doc : List (TextLine "@")} {tags : List ClassTag}
    {lines : List String}
    (h : Interleaving (tags.map ClassTag.line)
      (summary.map TextLine.text ++ "" :: doc.map TextLine.text) lines) :
    lines.foldl takeMarked {} =
      { part := .doc
        summary := summary.map fun line => line.text ++ "\n"
        doc := doc.map fun line => line.text ++ "\n"
        tags := (tags.map fun t => (t.name, t.value)).foldl OrderedMap.addValue .empty } := by
  -- The lines of tags touch nothing that the other lines touch, so they can be taken first.
  have hcommute : ∀ x ∈ tags.map ClassTag.line,
      ∀ y ∈ summary.map TextLine.text ++ "" :: doc.map TextLine.text, ∀ r : ClassReading,
        (r.takeMarked x).takeMarked y = (r.takeMarked y).takeMarked x := by
    simp only [List.forall_mem_map, List.forall_mem_append, List.forall_mem_cons,
      takeMarked_tagLine, takeMarked_textLine, takeMarked_empty, addText_addTag]
    exact fun _ _ => ⟨fun _ _ _ => trivial, fun _ => rfl, fun _ _ _ => trivial⟩
  have htags : (tags.map ClassTag.line).foldl takeMarked {} =
      { tags := (tags.map fun t => (t.name, t.value)).foldl OrderedMap.addValue .empty } := by
    have hadd := foldl_addTag {} (tags.map fun t => (t.name, t.value))
    rw [List.foldl_map] at hadd ⊢
    simp only [takeMarked_tagLine]
    exact hadd
  rw [h.foldl_eq hcommute, htags, List.foldl_append, List.foldl_cons, takeMarked_empty,
    foldl_takeMarked_textLines, foldl_takeMarked_textLines, foldl_addText, foldl_addText]
  rfl

end ClassReading

/-- Between its delimiters, every line of a class comment is taken after its marker. -/
theorem readClass_of_contentLines {comment : Option String} {lines : List String}
    (h : contentLines comment =
      opening :: (lines.map (fun line => trimmed (marked line)) ++ [closing])) :
    readClass comment = some (lines.foldl ClassReading.takeMarked {}).result := by
  have hdelimiter : ∀ line ∈ lines.map fun line => trimmed (marked line),
      isDelimiter line = false := by
    rw [List.forall_mem_map]
    exact fun line _ => isDelimiter_trimmed_marked line
  simp only [readClass, h]
  rw [ClassReading.feedAll_opening_cons, ClassReading.feedAll_append_closing _ hdelimiter,
    List.foldl_map]
  rfl

/-- The comment of a class gives back what was written: the lines of the summary and those of the
description, with line feeds between them, and the values of each tag in order, the tags standing in
the order of their first values. -/
theorem readClass_of_written {summary doc : List (TextLine "@")} {tags : List ClassTag}
    {lines : List String} {text : List Char}
    (hlines : Interleaving (tags.map ClassTag.line)
      (summary.map TextLine.text ++ "" :: doc.map TextLine.text) lines)
    (htext : LaidOut (docblock lines) text) :
    ∃ read, readClass (some (String.ofList text)) = some read ∧
      read.summary = "\n".intercalate (summary.map TextLine.text) ∧
      read.doc = "\n".intercalate (doc.map TextLine.text) ∧
      read.tags.entries = (tags.map ClassTag.name).eraseDups.map fun name =>
        (name, (tags.filter fun t => decide (t.name = name)).map ClassTag.value) := by
  have htags : ∀ line ∈ tags.map ClassTag.line, ∀ c ∈ line.toList, isLineBreak c = false := by
    rw [List.forall_mem_map]
    exact fun t _ => t.unbroken
  have hread := readClass_of_contentLines (contentLines_of_written htags hlines htext)
  rw [ClassReading.foldl_takeMarked hlines] at hread
  refine ⟨_, hread, trimmed_join_textLines summary, trimmed_join_textLines doc, ?_⟩
  simp only [ClassReading.result]
  rw [OrderedMap.entries_foldl_addValue, List.map_map]
  simp only [List.filter_map, List.map_map]
  rfl

/-- The first line of a summary. -/
def aboutFiles : TextLine "@" :=
  ⟨"Asserts for  files.", by decide, ⟨by decide, by decide⟩, by decide, by decide⟩

/-- A line of a description that names a tag. -/
def aboutLinks : TextLine "@" :=
  ⟨"/ Links @internal", by decide, ⟨by decide, by decide⟩, by decide, by decide⟩

/-- A tag with a value. -/
def requiresIntl : ClassTag :=
  ⟨"requires", "ext-intl", by decide, ⟨by decide, by decide⟩, by decide⟩

/-- A tag without a value. -/
def internalTag : ClassTag :=
  ⟨"internal", "", by decide, ⟨by decide, by decide⟩, unbroken_empty⟩

/-- A tag that comes up again, with a blank in its value. -/
def requiresVersion : ClassTag :=
  ⟨"requires", "PHP 7.1", by decide, ⟨by decide, by decide⟩, by decide⟩

/-- The lines of text and of tags above, set into each other. -/
def aboutLines : List String :=
  [aboutFiles.text, requiresIntl.line, "", internalTag.line, aboutLinks.text, requiresVersion.line]

/-- The comment of these lines, each after a tab, is read back. -/
theorem readClass_aboutLines :
    Interleaving ([requiresIntl, internalTag, requiresVersion].map ClassTag.line)
        ([aboutFiles].map TextLine.text ++ "" :: [aboutLinks].map TextLine.text) aboutLines ∧
    LaidOut (docblock aboutLines) (setLines ['\t'] (docblock aboutLines)) ∧
    ∃ read, readClass (some (String.ofList (setLines ['\t'] (docblock aboutLines)))) = some read ∧
      read.summary = "Asserts for  files." ∧ read.doc = "/ Links @internal" ∧
      read.tags.entries = [("requires", ["ext-intl", "PHP 7.1"]), ("internal", [""])] := by
  have hlines : Interleaving ([requiresIntl, internalTag, requiresVersion].map ClassTag.line)
      ([aboutFiles].map TextLine.text ++ "" :: [aboutLinks].map TextLine.text) aboutLines :=
    .right _ (.left _ (.right _ (.left _ (.right _ (.left _ .nil)))))
  have htext := laidOut_setLines (by decide : ∀ c ∈ ['\t'], isBlank c = true) (docblock aboutLines)
  obtain ⟨read, hread, hsummary, hdoc, htags⟩ := readClass_of_written hlines htext
  exact ⟨hlines, htext, read, hread, hsummary, hdoc, htags.trans (by decide)⟩

end TraitDocs.Docblock
