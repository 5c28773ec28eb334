import TraitDocs.Docblock.MethodDoc
import TraitDocs.Proofs.Docblock.ClassContent

/-!
# What does not count in a comment

A comment is read by its lines, so that it does not count how they are set: blanks of any kind
around a line, line breaks among them, and the number and kind of the breaks between two lines make
no difference. A text that sets given lines in any way is `LaidOut`, and so is the same lines with
single line feeds between them; both are read as the same lines.

In the comment of a class, what stands after the closing delimiter goes into nothing that the
comment says. It only counts towards the question whether there is a comment at all: lines before
the delimiter and lines after it are content alike.
-/

set_option autoImplicit false

namespace TraitDocs.Docblock

open Text

/-! ## Lines set in different ways -/

/-- A line as it stands in a text: between blanks of any kind, and with one or more line breaks
after it. -/
structure PlacedLine where
  before : List Char
  line : String
  after : List Char
  breaks : List Char
  before_blank : ∀ c ∈ before, isBlank c = true
  unbroken : ∀ c ∈ line.toList, isLineBreak c = false
  after_blank : ∀ c ∈ after, isBlank c = true
  breaks_ne : breaks ≠ []
  breaks_break : ∀ c ∈ breaks, isLineBreak c = true

/-- The text of lines as they stand, one after the other. -/
def placedText (placed : List PlacedLine) : List Char :=
  placed.flatMap fun p => p.before ++ (p.line.toList ++ (p.after ++ p.breaks))

/-- Blanks in front of a text do not change how lines are set in it. -/
theorem LaidOut.blank_append {lines : List String} {text blanks : List Char}
    (h : LaidOut lines text) (hblanks : ∀ c ∈ blanks, isBlank c = true) :
    LaidOut lines (blanks ++ text) := by
  have hjoined : ∀ {before : List Char}, (∀ c ∈ before, isBlank c = true) →
      ∀ c ∈ blanks ++ before, isBlank c = true := by
    intro before hbefore
    rw [List.forall_mem_append]
    exact ⟨hblanks, hbefore⟩
  cases h with
  | blank hrest => exact .blank (hjoined hrest)
  | last line hbefore hafter =>
    rw [← List.append_assoc]
    exact .last line (hjoined hbefore) hafter
  | cons line hbefore hafter hc hrest =>
    rw [← List.append_assoc, ← List.append_assoc]
    exact .cons line (hjoined hbefore) hafter hc hrest

/-- Lines as they stand are set in their text. -/
theorem laidOut_placedText (placed : List PlacedLine) :
    LaidOut (placed.map PlacedLine.line) (placedText placed) := by
  induction placed with
  | nil => exact .blank (List.forall_mem_nil _)
  | cons p placed ih =>
    obtain ⟨c, more, hbreaks⟩ := List.exists_cons_of_ne_nil p.breaks_ne
    have hbreak := p.breaks_break
    rw [hbreaks, List.forall_mem_cons] at hbreak
    -- The first break ends the line, and the others stand before the next one.
    have htext : placedText (p :: placed) =
        p.before ++ (p.line.toList ++ p.after) ++ c :: (more ++ placedText placed) := by
      simp [placedText, hbreaks]
    rw [htext]
    apply LaidOut.cons p.line p.before_blank p.after_blank hbreak.1
    apply ih.blank_append
    intro x hx
    exact isBlank_of_isLineBreak (hbreak.2 x hx)

/-- Lines with single line feeds between them are set in the text that this gives. -/
theorem laidOut_intercalate (lines : List String) :
    LaidOut lines (['\n'].intercalate (lines.map String.toList)) := by
  have hnone : ∀ c ∈ ([] : List Char), isBlank c = true := List.forall_mem_nil _
  induction lines with
  | nil => exact .blank hnone
  | cons line lines ih =>
    cases lines with
    | nil => simpa using LaidOut.last line hnone hnone
    | cons next lines =>
      have hcons := LaidOut.cons line hnone hnone (rfl : isLineBreak '\n' = true) ih
      simpa [List.intercalate_cons_cons] using hcons

/-- A text of lines with line feeds between them is read as these lines, trimmed and without the
blank ones. -/
theorem nonblankLines_intercalate {lines : List String}
    (hlines : ∀ line ∈ lines, ∀ c ∈ line.toList, isLineBreak c = false) :
    nonblankLines ("\n".intercalate lines) =
      (lines.map trimmed).filter fun line => decide (line ≠ "") := by
  have hjoined : "\n".intercalate lines =
      String.ofList (['\n'].intercalate (lines.map String.toList)) := by
    rw [← String.toList_inj, String.toList_intercalate]
    exact String.toList_ofList.symm
  rw [hjoined, nonblankLines_of_laidOut (laidOut_intercalate lines) hlines]

/-! ## Readings depend on the lines -/

/-- Comments with the same lines have the same content lines. -/
theorem contentLines_congr {u v : String} (h : nonblankLines u = nonblankLines v) :
    contentLines (some u) = contentLines (some v) := by
  simp only [contentLines, Option.getD_some, h]

/-- Class comments with the same content lines say the same. -/
theorem readClass_congr {u v : Option String} (h : contentLines u = contentLines v) :
    readClass u = readClass v := by
  simp only [readClass, h]

/-- Of two method comments with the same lines, both say the same or both are refused. Each refusal
shows its own comment. -/
theorem readMethod_congr {u v : Option String} (h : contentLines u = contentLines v) :
    (∃ said, readMethod u = .ok said ∧ readMethod v = .ok said) ∨
    (readMethod u = .error (.malformedParamTag (u.getD "")) ∧
      readMethod v = .error (.malformedParamTag (v.getD ""))) := by
  simp only [readMethod, h]
  split
  · exact Or.inl ⟨none, rfl, rfl⟩
  · split
    · rename_i r _
      exact Or.inl ⟨some r.result, rfl, rfl⟩
    · exact Or.inr ⟨rfl, rfl⟩

/-! ## The lines of a comment, set again -/

/-- The lines of a comment, with line feeds between them, are read as themselves. -/
theorem nonblankLines_intercalate_nonblankLines (comment : String) :
    nonblankLines ("\n".intercalate (nonblankLines comment)) = nonblankLines comment := by
  rw [nonblankLines_intercalate fun line hline => isLineBreak_of_mem_nonblankLines hline,
    nonblankLines_eq_linesOf]
  have htrimmed : (linesOf comment).map trimmed = linesOf comment := by
    rw [List.map_congr_left (g := id), List.map_id]
    intro line hline
    rw [trimmed, trim_eq_self (isTrimmed_of_mem_linesOf hline), String.ofList_toList, id]
  rw [htrimmed, List.filter_eq_self]
  intro line hline
  exact (List.mem_filter.mp hline).2

/-- The content lines of a comment, with single line feeds between them, have themselves as content
lines. -/
theorem contentLines_intercalate_contentLines (comment : Option String) :
    contentLines (some ("\n".intercalate (contentLines comment))) = contentLines comment := by
  by_cases hnil : contentLines comment = []
  · rw [hnil]
    rfl
  · have hlines := contentLines_of_ne_nil hnil
    have hagain : nonblankLines ("\n".intercalate (contentLines comment)) =
        contentLines comment := by
      rw [hlines, nonblankLines_intercalate_nonblankLines]
    have hne : contentLines (some ("\n".intercalate (contentLines comment))) ≠ [] := by
      rw [ne_eq, contentLines_eq_nil_iff, Option.getD_some, hagain, hlines,
        ← contentLines_eq_nil_iff]
      exact hnil
    rw [contentLines_of_ne_nil hne, Option.getD_some, hagain]

/-- How the lines of a comment are set makes no difference: not to its content lines, not to what
the comment of a class says, and not to what the comment of a method says or to whether it is
refused. -/
theorem reading_of_placedText (placed : List PlacedLine) :
    contentLines (some (String.ofList (placedText placed))) =
      contentLines (some ("\n".intercalate (placed.map PlacedLine.line))) ∧
    readClass (some (String.ofList (placedText placed))) =
      readClass (some ("\n".intercalate (placed.map PlacedLine.line))) ∧
    ((∃ said, readMethod (some (String.ofList (placedText placed))) = .ok said ∧
        readMethod (some ("\n".intercalate (placed.map PlacedLine.line))) = .ok said) ∨
      (readMethod (some (String.ofList (placedText placed))) =
          .error (.malformedParamTag (String.ofList (placedText placed))) ∧
        readMethod (some ("\n".intercalate (placed.map PlacedLine.line))) =
          .error (.malformedParamTag ("\n".intercalate (placed.map PlacedLine.line))))) ∧
    ∀ comment : Option String,
      contentLines (some ("\n".intercalate (contentLines comment))) = contentLines comment := by
  have hunbroken : ∀ line ∈ placed.map PlacedLine.line, ∀ c ∈ line.toList,
      isLineBreak c = false := by
    rw [List.forall_mem_map]
    intro p _
    exact p.unbroken
  have hlines : contentLines (some (String.ofList (placedText placed))) =
      contentLines (some ("\n".intercalate (placed.map PlacedLine.line))) := by
    apply contentLines_congr
    rw [nonblankLines_of_laidOut (laidOut_placedText placed) hunbroken,
      nonblankLines_intercalate hunbroken]
  exact ⟨hlines, readClass_congr hlines, readMethod_congr hlines,
    contentLines_intercalate_contentLines⟩

/-- A class comment with blanks and line breaks of several kinds: spaces, tabs, no-break spaces and
line breaks around its lines, and carriage returns, line feeds and both of them after them. -/
def strayLayout : List PlacedLine :=
  [⟨[' ', '\t'], "/**", [], ['\r', '\n'], by decide, by decide, by decide, by decide, by decide⟩,
   ⟨[], "* Asserts about files.", ['\u00A0', '\n', ' '], ['\n', '\n'], by decide, by decide,
    by decide, by decide, by decide⟩,
   ⟨['\r', ' '], "* @requires PHP 7", ['\x0b'], ['\r'], by decide, by decide, by decide, by decide,
    by decide⟩,
   ⟨[' '], "*/", [], ['\n'], by decide, by decide, by decide, by decide, by decide⟩]

/-- That comment is read as its four lines with line feeds between them, which say something. -/
theorem reading_of_strayLayout :
    placedText strayLayout = ("\x20\t/**\r\n* Asserts about files.\u00A0\n\x20\n\n\r\x20"
      ++ "* @requires PHP 7\x0b\r\x20*/\n").toList ∧
    readClass (some (String.ofList (placedText strayLayout))) =
      readClass (some "/**\n* Asserts about files.\n* @requires PHP 7\n*/") ∧
    (readClass (some "/**\n* Asserts about files.\n* @requires PHP 7\n*/")).map (·.summary) =
      some "Asserts about files." :=
  ⟨by decide, (reading_of_placedText strayLayout).2.1, by decide +kernel⟩

/-! ## After the closing delimiter -/

/-- There is no class comment exactly if there are no content lines. -/
theorem readClass_eq_none_iff (comment : String) :
    readClass (some comment) = none ↔ contentLines (some comment) = [] := by
  unfold readClass
  split
  · rename_i hnil
    exact ⟨fun _ => hnil, fun _ => rfl⟩
  · rename_i hne
    constructor
    · intro h
      cases h
    · intro hnil
      exact absurd hnil hne

/-- A comment with content is read from its lines up to the closing delimiter. -/
theorem readClass_of_content {comment : String} (h : contentLines (some comment) ≠ []) :
    readClass (some comment) =
      some ((enclosed (nonblankLines comment)).foldl ClassReading.take {}).result := by
  unfold readClass
  split
  · rename_i hnil
    exact absurd hnil h
  · rw [contentLines_of_ne_nil h, Option.getD_some, ClassReading.feedAll_eq_foldl_take]

/-- What follows the closing delimiter is not among the lines that count. -/
theorem enclosed_append_closing (before after : List String) :
    enclosed (before ++ closing :: after) = enclosed before := by
  unfold enclosed
  congr 1
  induction before with
  | nil => simp
  | cons line before ih =>
    rw [List.cons_append, List.takeWhile_cons, List.takeWhile_cons, ih]

/-- Of delimiters alone, no line counts. -/
theorem enclosed_of_delimiters {lines : List String} (h : ∀ line ∈ lines, isDelimiter line = true) :
    enclosed lines = [] := by
  unfold enclosed
  rw [List.filter_eq_nil_iff]
  intro line hline
  have hclosing : line ≠ closing := by simpa using List.mem_takeWhile_imp hline
  have hdelimiter := h line ((List.takeWhile_sublist _).subset hline)
  rw [isDelimiter, Bool.or_eq_true, beq_iff_eq, beq_iff_eq] at hdelimiter
  simpa using hdelimiter.resolve_right hclosing

/-- The lines of two texts with a line feed between them are those of the first and then those of
the second. -/
theorem nonblankLines_append_newline (u v : String) :
    nonblankLines (u ++ "\n" ++ v) = nonblankLines u ++ nonblankLines v := by
  have happend : u ++ "\n" ++ v = String.ofList (u.toList ++ '\n' :: v.toList) := by
    simp [← String.toList_inj]
  rw [happend, nonblankLines_append_cons rfl, String.ofList_toList, String.ofList_toList]

section Closing

variable (before after : String)

/-- The closing delimiter is the last line of a text that it ends. -/
theorem nonblankLines_closed :
    nonblankLines (before ++ "\n" ++ closing) = nonblankLines before ++ [closing] := by
  rw [nonblankLines_append_newline]
  rfl

/-- The closing delimiter stands between the lines before it and the lines after it. -/
theorem nonblankLines_closed_append :
    nonblankLines (before ++ "\n" ++ closing ++ "\n" ++ after) =
      nonblankLines before ++ closing :: nonblankLines after := by
  rw [nonblankLines_append_newline, nonblankLines_closed, List.append_assoc, List.singleton_append]

/-- The closing delimiter is no content. -/
theorem contentLines_closed_eq_nil_iff :
    contentLines (some (before ++ "\n" ++ closing)) = [] ↔ contentLines (some before) = [] := by
  simp only [contentLines_eq_nil_iff, Option.getD_some]
  rw [nonblankLines_closed, List.forall_mem_append]
  exact and_iff_left (by decide)

/-- Around a closing delimiter there is no content if there is none on either side of it. -/
theorem contentLines_closed_append_eq_nil_iff :
    contentLines (some (before ++ "\n" ++ closing ++ "\n" ++ after)) = [] ↔
      contentLines (some before) = [] ∧ contentLines (some after) = [] := by
  simp only [contentLines_eq_nil_iff, Option.getD_some]
  rw [nonblankLines_closed_append, List.forall_mem_append, List.forall_mem_cons]
  exact and_congr_right fun _ => and_iff_right (by decide)

/-- Where there is content before the closing delimiter, what follows it does not count. -/
theorem readClass_closed_append_of_content (h : contentLines (some before) ≠ []) :
    readClass (some (before ++ "\n" ++ closing ++ "\n" ++ after)) =
      readClass (some (before ++ "\n" ++ closing)) := by
  have hclosed := mt (contentLines_closed_eq_nil_iff before).mp h
  have hwhole := mt (contentLines_closed_append_eq_nil_iff before after).mp fun hnil => h hnil.1
  rw [readClass_of_content hclosed, readClass_of_content hwhole, nonblankLines_closed,
    nonblankLines_closed_append, enclosed_append_closing, enclosed_append_closing]

/-- Where all content follows the closing delimiter, there is a comment, and it says nothing. -/
theorem readClass_closed_append_of_no_content (hbefore : contentLines (some before) = [])
    (hafter : contentLines (some after) ≠ []) :
    readClass (some (before ++ "\n" ++ closing ++ "\n" ++ after)) =
      some { summary := "", doc := "" } := by
  have hwhole :=
    mt (contentLines_closed_append_eq_nil_iff before after).mp fun hnil => hafter hnil.2
  rw [contentLines_eq_nil_iff, Option.getD_some] at hbefore
  rw [readClass_of_content hwhole, nonblankLines_closed_append, enclosed_append_closing,
    enclosed_of_delimiters hbefore]
  rfl

end Closing

/-- What follows the closing delimiter makes no difference to the comment of a class, unless nothing
before it is content and something after it is. Then there is no comment up to the delimiter, and
the whole is one that says nothing. -/
theorem readClass_after_closing (before after : String) :
    (readClass (some (before ++ "\n" ++ closing ++ "\n" ++ after)) =
        readClass (some (before ++ "\n" ++ closing)) ↔
      contentLines (some before) ≠ [] ∨ contentLines (some after) = []) ∧
    (readClass (some (before ++ "\n" ++ closing)) = none ↔ contentLines (some before) = []) ∧
    (readClass (some (before ++ "\n" ++ closing ++ "\n" ++ after)) =
        readClass (some (before ++ "\n" ++ closing)) ∨
      readClass (some (before ++ "\n" ++ closing ++ "\n" ++ after)) =
        some { summary := "", doc := "" }) := by
  have hnone : readClass (some (before ++ "\n" ++ closing)) = none ↔
      contentLines (some before) = [] := by
    rw [readClass_eq_none_iff, contentLines_closed_eq_nil_iff]
  by_cases hbefore : contentLines (some before) = []
  · by_cases hafter : contentLines (some after) = []
    · have hsame : readClass (some (before ++ "\n" ++ closing ++ "\n" ++ after)) =
          readClass (some (before ++ "\n" ++ closing)) := by
        rw [hnone.mpr hbefore, readClass_eq_none_iff, contentLines_closed_append_eq_nil_iff]
        exact ⟨hbefore, hafter⟩
      exact ⟨iff_of_true hsame (Or.inr hafter), hnone, Or.inl hsame⟩
    · have hempty := readClass_closed_append_of_no_content before after hbefore hafter
      have hdiffer : readClass (some (before ++ "\n" ++ closing ++ "\n" ++ after)) ≠
          readClass (some (before ++ "\n" ++ closing)) := by
        rw [hempty, hnone.mpr hbefore]
        exact Option.some_ne_none _
      exact ⟨iff_of_false hdiffer (not_or.mpr ⟨not_not.mpr hbefore, hafter⟩), hnone, Or.inr hempty⟩
  · have hsame := readClass_closed_append_of_content before after hbefore
    exact ⟨iff_of_true hsame (Or.inl hbefore), hnone, Or.inl hsame⟩

/-- A line after the closing delimiter turns a comment of delimiters alone into one that is
there. -/
theorem line_after_closing_counts :
    readClass (some ("/**" ++ "\n" ++ closing ++ "\n" ++ " * Not part of it.")) ≠
      readClass (some ("/**" ++ "\n" ++ closing)) := by
  intro h
  exact absurd (congrArg Option.isSome h) (by decide)

end TraitDocs.Docblock
