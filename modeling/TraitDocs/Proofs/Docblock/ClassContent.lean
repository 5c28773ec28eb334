import Mathlib.Data.List.TakeWhile
import TraitDocs.Proofs.Docblock.ClassRoundTrip

/-!
# What a class comment says

What a class comment says can be told without the machine that reads it. Of its lines, those before
the closing delimiter count, opening delimiters apart. Such a line is a tag if it starts as one, and
text if it is any other line of more than two characters. The text before the first bare marker is
the summary, the text after it the description, and the tags are grouped by their names.

`feedAll_eq_foldl_take` finds the lines that count, `take_of_isTag`, `take_of_isText` and
`take_of_neither` say what each of them does to the machine, and `foldl_take` what a run of them
does in which no bare marker turns the machine. The lines up to the first bare marker are one such
run, and all that follow it are another.
-/

set_option autoImplicit false

namespace TraitDocs.Docblock

open Text

/-! ## The content, without the machine -/

/-- The lines of a comment: what stands between its line breaks, trimmed, unless it is blank. -/
def linesOf (comment : String) : List String :=
  ((comment.toList.splitOnP isLineBreak).map fun piece => trimmed (String.ofList piece)).filter
    (· ≠ "")

/-- The lines before the closing delimiter, without opening ones. -/
def enclosed (lines : List String) : List String :=
  (lines.takeWhile (· ≠ closing)).filter (· ≠ opening)

namespace ClassLine

/-- Tells whether a line is the line of a tag. -/
def isTag (line : String) : Bool :=
  tagStart.toList.isPrefixOf line.toList

/-- The name of a tag, which ends at the first blank, and its value, which is what follows the first
blank run. -/
def tag (line : String) : String × String :=
  let written := line.toList.drop tagStart.length
  (String.ofList (written.takeWhile fun c => !isBlank c),
    String.ofList ((written.dropWhile fun c => !isBlank c).dropWhile isBlank))

/-- Tells whether a line is a line of text: it is longer than its marker and no tag. -/
def isText (line : String) : Bool :=
  !isTag line && decide (2 < line.length)

/-- The text of a line: what follows its first two characters, without blanks in front. -/
def text (line : String) : String :=
  String.ofList ((line.toList.drop 2).dropWhile isBlank)

end ClassLine

/-- The texts of the lines that are text, in order. -/
def textsOf (lines : List String) : List String :=
  (lines.filter ClassLine.isText).map ClassLine.text

/-- The names and values of the lines that are tags, in order. -/
def tagsOf (lines : List String) : List (String × String) :=
  (lines.filter ClassLine.isTag).map ClassLine.tag

/-- What a class comment says, told by its lines. -/
def classContent (comment : Option String) : Option ClassDoc :=
  let lines := linesOf (comment.getD "")
  if lines.all isDelimiter then none
  else
    let body := enclosed lines
    some {
      summary := "\n".intercalate (textsOf (body.takeWhile (· ≠ bare)))
      doc := "\n".intercalate (textsOf (body.dropWhile (· ≠ bare)).tail)
      tags := .grouped (tagsOf body) }

/-! ## The lines of a comment -/

/-- The lines of a comment that are not blank, in two ways. -/
theorem nonblankLines_eq_linesOf (comment : String) : nonblankLines comment = linesOf comment := by
  unfold nonblankLines linesOf
  rw [pieces_eq_splitOnP]
  induction comment.toList.splitOnP isLineBreak with
  | nil => rfl
  | cons piece rest ih =>
    simp only [trimmed, String.toList_ofList] at ih ⊢
    rw [List.map_cons, List.map_cons, List.filterMap_cons, List.filter_cons, ih]
    by_cases hblank : trim piece = []
    · simp [hblank]
    · simp [hblank]

/-- The lines of a comment are trimmed. -/
theorem isTrimmed_of_mem_linesOf {comment line : String} (h : line ∈ linesOf comment) :
    IsTrimmed line.toList := by
  obtain ⟨piece, -, rfl⟩ := List.mem_map.mp (List.mem_filter.mp h).1
  exact isTrimmed_trimmed _

/-- A line up to the closing delimiter is a line of the comment. -/
theorem mem_of_mem_enclosed {lines : List String} {line : String} (h : line ∈ enclosed lines) :
    line ∈ lines :=
  (List.takeWhile_sublist _).subset (List.mem_filter.mp h).1

/-- The first bare marker, if there is one, parts the lines before it from those after it. -/
theorem split_at_bare (lines : List String) :
    (∃ before after, lines = before ++ bare :: after ∧ bare ∉ before ∧
      lines.takeWhile (· ≠ bare) = before ∧ lines.dropWhile (· ≠ bare) = bare :: after) ∨
    (bare ∉ lines ∧ lines.takeWhile (· ≠ bare) = lines ∧ lines.dropWhile (· ≠ bare) = []) := by
  have hpass : ∀ before : List String, bare ∉ before →
      ∀ line ∈ before, decide (line ≠ bare) = true :=
    fun before hbefore line hline => decide_eq_true fun heq => hbefore (heq ▸ hline)
  by_cases hbare : bare ∈ lines
  · obtain ⟨before, after, rfl, hbefore⟩ := List.eq_append_cons_of_mem hbare
    refine Or.inl ⟨before, after, rfl, hbefore, ?_, ?_⟩
    · rw [List.takeWhile_append_of_pos (hpass before hbefore)]
      exact List.append_nil before
    · rw [List.dropWhile_append_of_pos (hpass before hbefore)]
      rfl
  · exact Or.inr ⟨hbare, List.takeWhile_eq_self_iff.mpr (hpass lines hbare),
      List.dropWhile_eq_nil_iff.mpr (hpass lines hbare)⟩

/-- The rest of a trimmed line is not empty, and trimming its front leaves nothing blank at its
ends. -/
theorem isTrimmed_trimStart_drop {cs : List Char} (h : IsTrimmed cs) {n : Nat}
    (hn : n < cs.length) : trimStart (cs.drop n) ≠ [] ∧ IsTrimmed (trimStart (cs.drop n)) := by
  have hlast : (cs.drop n).getLast? = cs.getLast? := by
    rw [List.getLast?_drop, if_neg (Nat.not_le.mpr hn)]
  have hne : trimStart (cs.drop n) ≠ [] := by
    intro hnil
    obtain ⟨c, hc⟩ := Option.isSome_iff_exists.mp (List.getLast?_isSome.mpr
      (List.ne_nil_of_length_pos (Nat.lt_of_le_of_lt (Nat.zero_le n) hn)))
    have hblank : isBlank c = true :=
      List.dropWhile_eq_nil_iff.mp hnil c (List.mem_of_mem_getLast? (hlast.trans hc))
    rw [h.last c hc] at hblank
    cases hblank
  refine ⟨hne, fun c hc => isBlank_of_mem_head?_trimStart hc, fun c hc => h.last c ?_⟩
  obtain ⟨front, hfront⟩ := List.dropWhile_suffix (l := cs.drop n) isBlank
  rw [Option.mem_def, ← hlast, ← hfront, List.getLast?_append, ← trimStart, hc]
  rfl

/-- The texts of trimmed lines, each closed by a line feed, need no more trimming than at the last
one. -/
theorem trimmed_join_textsOf {lines : List String} (h : ∀ line ∈ lines, IsTrimmed line.toList) :
    trimmed (String.join ((textsOf lines).map fun text => text ++ "\n")) =
      "\n".intercalate (textsOf lines) := by
  apply trimmed_join_closed
  rw [textsOf, List.forall_mem_map]
  intro line hline
  obtain ⟨hmem, htext⟩ := List.mem_filter.mp hline
  rw [ClassLine.isText, Bool.and_eq_true, decide_eq_true_eq, ← String.length_toList] at htext
  obtain ⟨hne, htrimmed⟩ := isTrimmed_trimStart_drop (h line hmem) htext.2
  refine ⟨fun hempty => hne (String.ofList_eq_empty_iff.mp hempty), ?_⟩
  rwa [ClassLine.text, String.toList_ofList]

/-! ## What a line does to the machine -/

namespace ClassReading

variable {r : ClassReading} {line : String} {lines : List String}

/-- A line of text does not turn the machine. -/
theorem part_addText (r : ClassReading) (line : String) : (r.addText line).part = r.part := by
  unfold addText
  split <;> rfl

/-- Lines of text can be added before or after a value of a tag. -/
theorem foldl_addText_addTag (r : ClassReading) (name value : String) (lines : List String) :
    lines.foldl addText (r.addTag name value) = (lines.foldl addText r).addTag name value := by
  induction lines generalizing r with
  | nil => rfl
  | cons line lines ih => rw [List.foldl_cons, List.foldl_cons, addText_addTag, ih]

/-- A tag adds its value. The line is trimmed, so that nothing is left to trim after its marker. -/
theorem take_of_isTag (hline : IsTrimmed line.toList) (h : ClassLine.isTag line = true) :
    r.take line = r.addTag (ClassLine.tag line).1 (ClassLine.tag line).2 := by
  obtain ⟨rest, hrest⟩ := List.isPrefixOf_iff_prefix.mp h
  have hcs : line.toList = '*' :: ' ' :: '@' :: rest := hrest.symm
  have hbare : line ≠ bare := by
    intro hbare
    rw [hbare] at hcs
    cases hcs
  have htrim : trim ('@' :: rest) = '@' :: rest := by
    refine trim_eq_self ⟨fun c hc => ?_, fun c hc => hline.last c ?_⟩
    · obtain rfl := Option.some.inj hc
      decide
    · rwa [hcs, List.getLast?_cons_cons, List.getLast?_cons_cons]
  have hat : isBlank '@' = false := by decide
  have htag : tagOf ('@' :: rest) = ClassLine.tag line := by
    simp only [tagOf, ClassLine.tag, hcs, List.takeWhile_cons, List.dropWhile_cons, hat]
    rfl
  rw [ClassLine.isTag, hcs] at h
  simp only [take, if_neg hbare, hcs, if_pos h, List.drop_succ_cons, List.drop_zero, htrim, htag]

/-- Text is added to the part that is being read. -/
theorem take_of_isText (h : ClassLine.isText line = true) :
    r.take line = r.addText (ClassLine.text line ++ "\n") := by
  rw [ClassLine.isText, Bool.and_eq_true, Bool.not_eq_true', decide_eq_true_eq,
    ← String.length_toList, ClassLine.isTag, ← Bool.not_eq_true] at h
  have hbare : line ≠ bare := by
    intro hbare
    rw [hbare] at h
    exact absurd h.2 (by decide)
  simp only [take, if_neg hbare, if_neg h.1, if_pos h.2]
  rfl

/-- A line that is neither a tag nor text does nothing but, if it is a bare marker, turn the
machine. -/
theorem take_of_neither (htag : ClassLine.isTag line = false)
    (htext : ClassLine.isText line = false) (hpart : r.part = .doc ∨ line ≠ bare) :
    r.take line = r := by
  have hshort : ¬ 2 < line.toList.length := by
    rw [String.length_toList]
    simpa [ClassLine.isText, htag] using htext
  have hturned : (if line = bare then { r with part := .doc } else r) = r := by
    split
    · rename_i hbare
      rw [← hpart.resolve_right fun hne => hne hbare]
    · rfl
  rw [ClassLine.isTag, ← Bool.not_eq_true] at htag
  simp only [take, hturned, if_neg htag, if_neg hshort]

/-! ## Runs of the machine -/

/-- The machine takes the lines before the closing delimiter, and passes opening ones over. -/
theorem feedAll_eq_foldl_take (r : ClassReading) (lines : List String) :
    r.feedAll lines = (enclosed lines).foldl take r := by
  induction lines generalizing r with
  | nil => rfl
  | cons line lines ih =>
    by_cases hclosing : line = closing
    · subst hclosing
      rfl
    · by_cases hopening : line = opening
      · subst hopening
        exact ih r
      · have hcons : enclosed (line :: lines) = line :: enclosed lines := by
          simp [enclosed, hclosing, hopening]
        rw [feedAll, feed, if_neg hopening, if_neg hclosing, hcons]
        exact ih (r.take line)

/-- What lines do that leave the machine in its part: their texts go there, and their tags are
added. -/
theorem foldl_take (hlines : ∀ line ∈ lines, IsTrimmed line.toList)
    (hpart : r.part = .doc ∨ bare ∉ lines) :
    lines.foldl take r = (tagsOf lines).foldl (fun r t => r.addTag t.1 t.2)
      (((textsOf lines).map fun text => text ++ "\n").foldl addText r) := by
  induction lines generalizing r with
  | nil => rfl
  | cons line lines ih =>
    rw [List.forall_mem_cons] at hlines
    have hbare : r.part = .doc ∨ line ≠ bare :=
      hpart.imp_right fun h heq => h (heq ▸ List.mem_cons_self)
    have hrest : r.part = .doc ∨ bare ∉ lines :=
      hpart.imp_right fun h hmem => h (List.mem_cons_of_mem line hmem)
    rw [List.foldl_cons]
    unfold tagsOf textsOf at ih ⊢
    by_cases htag : ClassLine.isTag line = true
    · -- The tag is added before the texts that follow it, which do not touch the tags.
      have htext : ¬ ClassLine.isText line = true := by simp [ClassLine.isText, htag]
      have hrun := ih (r := r.addTag (ClassLine.tag line).1 (ClassLine.tag line).2) hlines.2 hrest
      rw [take_of_isTag hlines.1 htag, hrun, foldl_addText_addTag, List.filter_cons_of_pos htag,
        List.filter_cons_of_neg htext, List.map_cons, List.foldl_cons]
    · rw [List.filter_cons_of_neg htag]
      by_cases htext : ClassLine.isText line = true
      · rw [take_of_isText htext, List.filter_cons_of_pos htext, List.map_cons, List.map_cons,
          List.foldl_cons]
        exact ih hlines.2 (by rwa [part_addText])
      · rw [take_of_neither (by simpa using htag) (by simpa using htext) hbare,
          List.filter_cons_of_neg htext]
        exact ih hlines.2 hrest

/-- Up to the first bare marker, text goes to the summary. -/
theorem foldl_take_summary (hlines : ∀ line ∈ lines, IsTrimmed line.toList) (hbare : bare ∉ lines) :
    lines.foldl take {} =
      { summary := (textsOf lines).map fun text => text ++ "\n"
        tags := (tagsOf lines).foldl OrderedMap.addValue .empty } := by
  rw [foldl_take hlines (Or.inr hbare), foldl_addTag, foldl_addText]
  rfl

/-- Once the machine is turned, text goes to the description. -/
theorem foldl_take_doc (hlines : ∀ line ∈ lines, IsTrimmed line.toList) (summary : List String)
    (tags : OrderedMap String (List String)) :
    lines.foldl take { part := .doc, summary := summary, tags := tags } =
      { part := .doc
        summary := summary
        doc := (textsOf lines).map fun text => text ++ "\n"
        tags := (tagsOf lines).foldl OrderedMap.addValue tags } := by
  rw [foldl_take hlines (Or.inl rfl), foldl_addTag, foldl_addText]
  rfl

/-- What the machine has read in the end: the first bare marker parts the summary from the
description. -/
theorem result_foldl_take (h : ∀ line ∈ lines, IsTrimmed line.toList) :
    (lines.foldl take {}).result =
      { summary := "\n".intercalate (textsOf (lines.takeWhile (· ≠ bare)))
        doc := "\n".intercalate (textsOf (lines.dropWhile (· ≠ bare)).tail)
        tags := .grouped (tagsOf lines) } := by
  obtain ⟨before, after, rfl, hbefore, hsummary, hdoc⟩ | ⟨hbare, hsummary, hdoc⟩ :=
    split_at_bare lines
  · -- The marker itself is neither a tag nor text, and later ones find the machine turned.
    rw [List.forall_mem_append, List.forall_mem_cons] at h
    have htags : tagsOf (before ++ bare :: after) = tagsOf before ++ tagsOf after := by
      unfold tagsOf
      rw [List.filter_append, List.map_append]
      rfl
    rw [hsummary, hdoc, List.tail_cons, htags, ← trimmed_join_textsOf h.1,
      ← trimmed_join_textsOf h.2.2, ← OrderedMap.foldl_addValue_eq_grouped, List.foldl_append,
      List.foldl_append, List.foldl_cons, foldl_take_summary h.1 hbefore, take_bare,
      foldl_take_doc h.2.2]
    rfl
  · rw [hsummary, hdoc, ← trimmed_join_textsOf h, ← OrderedMap.foldl_addValue_eq_grouped,
      foldl_take_summary h hbare]
    rfl

end ClassReading

/-- The reading of a class comment gives what its lines say: there is none exactly if the comment
has no line but delimiters, and else the texts need no trimming. -/
theorem readClass_eq_classContent (comment : Option String) :
    readClass comment = classContent comment := by
  have hlines : nonblankLines (comment.getD "") = linesOf (comment.getD "") :=
    nonblankLines_eq_linesOf _
  simp only [readClass, contentLines, classContent, hlines]
  by_cases hall : (linesOf (comment.getD "")).all isDelimiter = true
  · rw [if_pos hall, if_pos hall]
  · rw [if_neg hall, if_neg hall]
    split
    · rename_i hnil
      rw [hnil] at hall
      exact absurd rfl hall
    · rw [ClassReading.feedAll_eq_foldl_take, ClassReading.result_foldl_take]
      intro line hline
      exact isTrimmed_of_mem_linesOf (mem_of_mem_enclosed hline)

-- A comment on one line is one line of text, and its delimiters are part of it.
example : (readClass (some "/** Does A. */")).map ClassDoc.summary = some "* Does A. */" := by
  decide

end TraitDocs.Docblock
