import TraitDocs.Docblock.ContentLine
import TraitDocs.Proofs.Text.Lines
import TraitDocs.Proofs.Text.Trim

/-!
# How a comment is set

A comment is set as lines one below the other, with any blanks around them. What is read of it are
its lines without those blanks: `nonblankLines_of_laidOut` says so of any lines, and
`contentLines_of_docblock` of lines between the two delimiters, each after its marker.

A list of lines can be set into another one in many ways. Where the lines of the two lists act on
different parts of a state, `Interleaving.foldl_eq` says that it does not matter in which.
-/

set_option autoImplicit false

namespace TraitDocs.Docblock

open Text

/-! ## The lines of a text -/

/-- A line break ends a line: the lines before it and those after it are read apart. -/
theorem nonblankLines_append_cons {c : Char} (hc : isLineBreak c = true) (u v : List Char) :
    nonblankLines (String.ofList (u ++ c :: v)) =
      nonblankLines (String.ofList u) ++ nonblankLines (String.ofList v) := by
  simp only [nonblankLines, String.toList_ofList]
  rw [pieces_append_cons hc, List.map_append, List.filterMap_append]

/-- A text without line breaks is one line, or none if it is blank. -/
theorem nonblankLines_of_unbroken {cs : List Char} (h : ∀ c ∈ cs, isLineBreak c = false) :
    nonblankLines (String.ofList cs) =
      [trimmed (String.ofList cs)].filter fun line => decide (line ≠ "") := by
  simp only [nonblankLines, trimmed, String.toList_ofList]
  rw [pieces_eq_singleton h]
  by_cases hblank : trim cs = []
  · simp [hblank]
  · simp [hblank]

/-- The lines of a comment have no line breaks. -/
theorem isLineBreak_of_mem_nonblankLines {comment line : String}
    (h : line ∈ nonblankLines comment) :
    ∀ c ∈ line.toList, isLineBreak c = false := by
  obtain ⟨cut, hcut, hsome⟩ := List.mem_filterMap.mp h
  obtain ⟨piece, hpiece, rfl⟩ := List.mem_map.mp hcut
  split at hsome
  · cases hsome
  · obtain rfl := Option.some.inj hsome
    intro c hc
    rw [String.toList_ofList] at hc
    exact isLineBreak_of_mem_pieces hpiece c ((trim_isInfix piece).subset hc)

/-- A comment has no content lines exactly if all its lines are delimiters. -/
theorem contentLines_eq_nil_iff {comment : Option String} :
    contentLines comment = [] ↔
      ∀ line ∈ nonblankLines (comment.getD ""), isDelimiter line = true := by
  simp only [contentLines]
  rw [← List.all_eq_true]
  split
  · rename_i hall
    exact ⟨fun _ => hall, fun _ => rfl⟩
  · rename_i hall
    constructor
    · intro hnil
      rw [hnil] at hall
      exact absurd rfl hall
    · intro h
      exact absurd h hall

/-- Where there is content, the content lines are all lines that are not blank. -/
theorem contentLines_of_ne_nil {comment : Option String} (h : contentLines comment ≠ []) :
    contentLines comment = nonblankLines (comment.getD "") := by
  simp only [contentLines] at h ⊢
  split at h
  · exact absurd rfl h
  · rename_i hall
    rw [if_neg hall]

/-- Blanks in front of a text do not count, line breaks among them included. -/
theorem nonblankLines_blank_append {blanks : List Char} (h : ∀ c ∈ blanks, isBlank c = true)
    (cs : List Char) :
    nonblankLines (String.ofList (blanks ++ cs)) = nonblankLines (String.ofList cs) := by
  induction blanks with
  | nil => rfl
  | cons c blanks ih =>
    rw [List.forall_mem_cons] at h
    rw [← ih h.2, List.cons_append]
    generalize blanks ++ cs = rest
    by_cases hc : isLineBreak c = true
    · exact nonblankLines_append_cons hc [] rest
    · -- The blank goes to the first piece, where trimming removes it.
      obtain ⟨p, ps, hps⟩ := List.exists_cons_of_ne_nil (List.splitOnP_ne_nil isLineBreak rest)
      have hblank : ∀ x ∈ [c], isBlank x = true := by simpa using h.1
      have htrim : trim (c :: p) = trim p := trim_blank_append hblank p
      simp only [nonblankLines, String.toList_ofList, pieces_eq_splitOnP]
      rw [List.splitOnP_cons_eq_if_modifyHead, if_neg hc, hps, List.modifyHead_cons, List.map_cons,
        List.map_cons, htrim]

/-- Blanks after a line make no difference, line breaks among them. -/
theorem nonblankLines_append_blank {cs blanks : List Char} (hcs : ∀ c ∈ cs, isLineBreak c = false)
    (h : ∀ c ∈ blanks, isBlank c = true) :
    nonblankLines (String.ofList (cs ++ blanks)) = nonblankLines (String.ofList cs) := by
  induction blanks generalizing cs with
  | nil => rw [List.append_nil]
  | cons c blanks ih =>
    rw [List.forall_mem_cons] at h
    by_cases hc : isLineBreak c = true
    · have hblanks := nonblankLines_blank_append h.2 []
      rw [List.append_nil] at hblanks
      rw [nonblankLines_append_cons hc, hblanks]
      exact List.append_nil _
    · have hcs' : ∀ x ∈ cs ++ [c], isLineBreak x = false := by
        intro x hx
        obtain hx | hx := List.mem_append.mp hx
        · exact hcs x hx
        · rw [List.mem_singleton.mp hx]
          simpa using hc
      have htrim : trim (cs ++ [c]) = trim cs := trim_append_blank (by simpa using h.1) cs
      rw [← List.singleton_append, ← List.append_assoc, ih hcs' h.2,
        nonblankLines_of_unbroken hcs', nonblankLines_of_unbroken hcs]
      simp only [trimmed, String.toList_ofList, htrim]

/-- Tells that a text sets lines one below the other: around each line stand blanks of any kind, and
between two lines a line break. -/
inductive LaidOut : List String → List Char → Prop
  | blank {blanks : List Char} (h : ∀ c ∈ blanks, isBlank c = true) : LaidOut [] blanks
  | last {before after : List Char} (line : String) (hbefore : ∀ c ∈ before, isBlank c = true)
      (hafter : ∀ c ∈ after, isBlank c = true) : LaidOut [line] (before ++ (line.toList ++ after))
  | cons {before after rest : List Char} {lines : List String} {c : Char} (line : String)
      (hbefore : ∀ c ∈ before, isBlank c = true) (hafter : ∀ c ∈ after, isBlank c = true)
      (hc : isLineBreak c = true) (hrest : LaidOut lines rest) :
      LaidOut (line :: lines) (before ++ (line.toList ++ after) ++ c :: rest)

/-- The lines of a text, each after the same blanks and before a line feed. -/
def setLines (indent : List Char) : List String → List Char
  | [] => []
  | line :: lines => indent ++ (line.toList ++ []) ++ '\n' :: setLines indent lines

/-- Lines that are set with an indent are laid out. -/
theorem laidOut_setLines {indent : List Char} (h : ∀ c ∈ indent, isBlank c = true)
    (lines : List String) : LaidOut lines (setLines indent lines) := by
  induction lines with
  | nil => exact .blank (List.forall_mem_nil _)
  | cons line lines ih => exact .cons line h (List.forall_mem_nil _) rfl ih

/-- A line between blanks is read as that line, trimmed, unless it is blank. -/
theorem nonblankLines_between_blanks {before after : List Char} {line : String}
    (hbefore : ∀ c ∈ before, isBlank c = true) (hafter : ∀ c ∈ after, isBlank c = true)
    (hline : ∀ c ∈ line.toList, isLineBreak c = false) :
    nonblankLines (String.ofList (before ++ (line.toList ++ after))) =
      [trimmed line].filter fun line => decide (line ≠ "") := by
  rw [nonblankLines_blank_append hbefore, nonblankLines_append_blank hline hafter,
    nonblankLines_of_unbroken hline, String.ofList_toList]

/-- What is read of a text are the lines that it sets, trimmed, without the empty ones. -/
theorem nonblankLines_of_laidOut {lines : List String} {text : List Char}
    (h : LaidOut lines text) (hlines : ∀ line ∈ lines, ∀ c ∈ line.toList, isLineBreak c = false) :
    nonblankLines (String.ofList text) =
      (lines.map trimmed).filter fun line => decide (line ≠ "") := by
  induction h with
  | @blank blanks hblanks =>
    have hnone := nonblankLines_blank_append hblanks []
    rw [List.append_nil] at hnone
    rw [hnone]
    rfl
  | last line hbefore hafter =>
    exact nonblankLines_between_blanks hbefore hafter (hlines line (by simp))
  | cons line hbefore hafter hc _ ih =>
    rw [List.forall_mem_cons] at hlines
    rw [nonblankLines_append_cons hc, nonblankLines_between_blanks hbefore hafter hlines.1,
      ih hlines.2, List.map_cons, ← List.filter_append, List.singleton_append]

/-! ## Lines between the delimiters -/

/-- A line after its marker; a line without text is a bare marker. -/
def marked (line : String) : String :=
  if line = "" then bare else "* " ++ line

/-- The lines of a comment with these lines between its delimiters. -/
def docblock (lines : List String) : List String :=
  opening :: (lines.map marked ++ [closing])

/-- A marked line by its characters. -/
theorem toList_marked {line : String} (h : line ≠ "") :
    (marked line).toList = '*' :: ' ' :: line.toList := by
  rw [marked, if_neg h, String.toList_append]
  rfl

/-- The empty line has no line break. -/
theorem unbroken_empty : ∀ c ∈ "".toList, isLineBreak c = false := by
  decide

/-- A marker adds no line break. -/
theorem isLineBreak_of_mem_marked {line : String} (h : ∀ c ∈ line.toList, isLineBreak c = false) :
    ∀ c ∈ (marked line).toList, isLineBreak c = false := by
  by_cases hline : line = ""
  · rw [hline]
    decide
  · rw [toList_marked hline, List.forall_mem_cons, List.forall_mem_cons]
    exact ⟨by decide, by decide, h⟩

/-- Trimming leaves the marker of a line, and takes blanks away only at the back. -/
theorem exists_toList_trimmed_marked (line : String) :
    ∃ rest, (trimmed (marked line)).toList = '*' :: rest ∧ rest <+: ' ' :: line.toList := by
  by_cases hline : line = ""
  · rw [hline]
    exact ⟨[], by decide, List.nil_prefix⟩
  · refine ⟨trimEnd (' ' :: line.toList), ?_, trimEnd_isPrefix _⟩
    rw [trimmed, String.toList_ofList, toList_marked hline, trim,
      trimStart_eq_self (by simp; decide), ← List.singleton_append, trimEnd_append (by decide),
      List.singleton_append]

/-- A marked line that does not end in a blank is left as it is. -/
theorem trimmed_marked {line : String} (h : ∀ c ∈ line.toList.getLast?, isBlank c = false) :
    trimmed (marked line) = marked line := by
  by_cases hline : line = ""
  · rw [hline]
    decide
  · have hlast : ∀ c ∈ (' ' :: line.toList).getLast?, isBlank c = false := by
      intro c hc
      obtain ⟨x, cs, hcs⟩ := List.exists_cons_of_ne_nil (mt String.toList_eq_nil_iff.mp hline)
      rw [hcs] at h hc
      exact h c (by rwa [List.getLast?_cons_cons] at hc)
    have htrim := trim_eq_self (isTrimmed_cons (by decide : isBlank '*' = false) hlast)
    rw [trimmed, toList_marked hline, htrim, ← toList_marked hline, String.ofList_toList]

/-- A marked line is no delimiter. -/
theorem isDelimiter_trimmed_marked (line : String) :
    isDelimiter (trimmed (marked line)) = false := by
  obtain ⟨rest, hrest, hprefix⟩ := exists_toList_trimmed_marked line
  rw [isDelimiter, Bool.or_eq_false_iff, beq_eq_false_iff_ne, beq_eq_false_iff_ne]
  constructor
  · intro heq
    rw [heq] at hrest
    cases hrest
  · intro heq
    rw [heq] at hrest
    obtain rfl : rest = ['/'] := (List.cons.inj hrest).2.symm
    exact absurd (List.cons_prefix_cons.mp hprefix).1 (by decide)

/-- A marked line is not blank. -/
theorem trimmed_marked_ne_empty (line : String) : trimmed (marked line) ≠ "" := by
  obtain ⟨rest, hrest, -⟩ := exists_toList_trimmed_marked line
  intro hempty
  rw [hempty] at hrest
  cases hrest

/-- What is read of a comment that has a line without text between its delimiters. -/
theorem contentLines_of_docblock {lines : List String} {text : List Char}
    (h : LaidOut (docblock lines) text) (hbare : "" ∈ lines)
    (hlines : ∀ line ∈ lines, ∀ c ∈ line.toList, isLineBreak c = false) :
    contentLines (some (String.ofList text)) =
      opening :: (lines.map (fun line => trimmed (marked line)) ++ [closing]) := by
  have hunbroken : ∀ line ∈ docblock lines, ∀ c ∈ line.toList, isLineBreak c = false := by
    unfold docblock
    simp only [List.forall_mem_cons, List.forall_mem_append, List.forall_mem_map]
    refine ⟨by decide, fun line hline => ?_, by decide, List.forall_mem_nil _⟩
    exact isLineBreak_of_mem_marked (hlines line hline)
  have hread : nonblankLines (String.ofList text) =
      opening :: (lines.map (fun line => trimmed (marked line)) ++ [closing]) := by
    rw [nonblankLines_of_laidOut h hunbroken, List.filter_eq_self.mpr]
    · simp only [docblock, List.map_cons, List.map_append, List.map_map]
      rfl
    · simp only [docblock, List.forall_mem_map, List.forall_mem_cons, List.forall_mem_append]
      refine ⟨by decide, fun line _ => by simpa using trimmed_marked_ne_empty line, by decide, ?_⟩
      exact List.forall_mem_nil _
  -- A line between the delimiters is no delimiter, so the comment has content.
  have hcontent : ¬ (nonblankLines (String.ofList text)).all isDelimiter = true := by
    intro hall
    rw [hread, List.all_eq_true, List.forall_mem_cons, List.forall_mem_append] at hall
    have hmarked := hall.2.1 _ (List.mem_map_of_mem hbare)
    rw [isDelimiter_trimmed_marked] at hmarked
    cases hmarked
  simp only [contentLines, Option.getD_some]
  rw [if_neg hcontent, hread]

/-! ## Lines of text -/

/-- A line of text: it is neither empty nor blank at an end, has no line break, and does not start
as the lines do that are no text. -/
structure TextLine (barred : String) where
  text : String
  ne_empty : text ≠ ""
  isTrimmed : IsTrimmed text.toList
  unbroken : ∀ c ∈ text.toList, isLineBreak c = false
  not_barred : ¬ barred.toList <+: text.toList

/-- Trimmed lines with line feeds between them are trimmed, and not empty if there are any. -/
theorem isTrimmed_intercalate {lines : List (List Char)}
    (h : ∀ line ∈ lines, line ≠ [] ∧ IsTrimmed line) :
    IsTrimmed (['\n'].intercalate lines) ∧ (lines ≠ [] → ['\n'].intercalate lines ≠ []) := by
  induction lines with
  | nil => exact ⟨⟨by simp, by simp⟩, fun hne => absurd rfl hne⟩
  | cons line rest ih =>
    rw [List.forall_mem_cons] at h
    obtain ⟨⟨hne, htrimmed⟩, hrest⟩ := h
    cases rest with
    | nil =>
      rw [List.intercalate_singleton]
      exact ⟨htrimmed, fun _ => hne⟩
    | cons next rest =>
      obtain ⟨ihtrimmed, ihne⟩ := ih hrest
      rw [List.intercalate_cons_cons]
      exact ⟨htrimmed.append ihtrimmed hne (ihne (List.cons_ne_nil _ _)) _, fun _ => by simp⟩

/-- To close every line by a line feed is to put line feeds between the lines and one at the end. -/
theorem flatMap_append_newline {lines : List (List Char)} (h : lines ≠ []) :
    (lines.flatMap fun line => line ++ ['\n']) = ['\n'].intercalate lines ++ ['\n'] := by
  induction lines with
  | nil => exact absurd rfl h
  | cons line rest ih =>
    rw [List.flatMap_cons]
    cases rest with
    | nil => rw [List.intercalate_singleton, List.flatMap_nil, List.append_nil]
    | cons next rest =>
      rw [ih (List.cons_ne_nil _ _), List.intercalate_cons_cons, List.append_assoc,
        List.append_assoc, List.append_assoc]

/-- Lines that are each closed by a line feed are, trimmed, those lines with line feeds between
them, where no line is empty or blank at an end. -/
theorem trimmed_join_closed {lines : List String}
    (h : ∀ line ∈ lines, line ≠ "" ∧ IsTrimmed line.toList) :
    trimmed (String.join (lines.map fun line => line ++ "\n")) = "\n".intercalate lines := by
  have htexts : ∀ line ∈ lines.map String.toList, line ≠ [] ∧ IsTrimmed line := by
    rw [List.forall_mem_map]
    intro line hline
    exact ⟨mt String.toList_eq_nil_iff.mp (h line hline).1, (h line hline).2⟩
  rw [← String.toList_inj, trimmed, String.toList_ofList, String.toList_join,
    String.toList_intercalate]
  by_cases hlines : lines = []
  · rw [hlines]
    rfl
  · have hjoin : ((lines.map fun line => line ++ "\n").flatMap String.toList) =
        ['\n'].intercalate (lines.map String.toList) ++ ['\n'] := by
      rw [← flatMap_append_newline (by simpa using hlines), List.flatMap_map, List.flatMap_map]
      simp only [String.toList_append]
      rfl
    rw [hjoin, trim_append_blank (by decide), trim_eq_self (isTrimmed_intercalate htexts).1]
    rfl

/-- Lines of text, each closed by a line feed, are trimmed to the lines with line feeds between
them. -/
theorem trimmed_join_textLines {barred : String} (lines : List (TextLine barred)) :
    trimmed (String.join (lines.map fun line => line.text ++ "\n")) =
      "\n".intercalate (lines.map TextLine.text) := by
  rw [← trimmed_join_closed, List.map_map]
  · rfl
  · rw [List.forall_mem_map]
    exact fun line _ => ⟨line.ne_empty, line.isTrimmed⟩

/-! ## Lines set into each other -/

/-- Tells that a list is two lists set into each other, each in its order. -/
inductive Interleaving {α : Type} : List α → List α → List α → Prop
  | nil : Interleaving [] [] []
  | left {xs ys zs : List α} (x : α) (h : Interleaving xs ys zs) :
      Interleaving (x :: xs) ys (x :: zs)
  | right {xs ys zs : List α} (y : α) (h : Interleaving xs ys zs) :
      Interleaving xs (y :: ys) (y :: zs)

namespace Interleaving

variable {α β : Type} {xs ys zs : List α}

/-- The members of an interleaving are those of both lists. -/
theorem mem_iff (h : Interleaving xs ys zs) {z : α} : z ∈ zs ↔ z ∈ xs ∨ z ∈ ys := by
  induction h with
  | nil => simp
  | left x _ ih => simp only [List.mem_cons, ih, or_assoc]
  | right y _ ih => simp only [List.mem_cons, ih, or_left_comm]

/-- A member that commutes with those before it can be taken first. -/
theorem foldl_of_commute {f : β → α → β} {y : α}
    (hf : ∀ x ∈ xs, ∀ b, f (f b x) y = f (f b y) x) (b : β) :
    xs.foldl f (f b y) = f (xs.foldl f b) y := by
  induction xs generalizing b with
  | nil => rfl
  | cons x xs ih =>
    rw [List.forall_mem_cons] at hf
    rw [List.foldl_cons, List.foldl_cons, ← hf.1, ih hf.2]

/-- Where the members of two lists act on a state independently of each other, those of the first
can act before those of the second. -/
theorem foldl_eq (h : Interleaving xs ys zs) {f : β → α → β}
    (hf : ∀ x ∈ xs, ∀ y ∈ ys, ∀ b, f (f b x) y = f (f b y) x) (b : β) :
    zs.foldl f b = ys.foldl f (xs.foldl f b) := by
  induction h generalizing b with
  | nil => rfl
  | left x _ ih =>
    rw [List.foldl_cons, List.foldl_cons]
    exact ih (fun x' hx' => hf x' (List.mem_cons_of_mem x hx')) (f b x)
  | right y _ ih =>
    have hfirst := foldl_of_commute (fun x hx => hf x hx y List.mem_cons_self) b
    rw [List.foldl_cons, List.foldl_cons, ← hfirst]
    exact ih (fun x hx y' hy' => hf x hx y' (List.mem_cons_of_mem y hy')) (f b y)

end Interleaving

/-- What is read of a comment with two blocks of text, a line without text between them, and other
lines among them. -/
theorem contentLines_of_written {barred : String} {first second : List (TextLine barred)}
    {others lines : List String} {text : List Char}
    (hothers : ∀ line ∈ others, ∀ c ∈ line.toList, isLineBreak c = false)
    (hlines : Interleaving others (first.map TextLine.text ++ "" :: second.map TextLine.text) lines)
    (htext : LaidOut (docblock lines) text) :
    contentLines (some (String.ofList text)) =
      opening :: (lines.map (fun line => trimmed (marked line)) ++ [closing]) := by
  have htexts : ∀ line ∈ first.map TextLine.text ++ "" :: second.map TextLine.text,
      ∀ c ∈ line.toList, isLineBreak c = false := by
    rw [List.forall_mem_append, List.forall_mem_cons, List.forall_mem_map, List.forall_mem_map]
    exact ⟨fun line _ => line.unbroken, unbroken_empty, fun line _ => line.unbroken⟩
  refine contentLines_of_docblock htext (hlines.mem_iff.mpr (by simp)) fun line hline => ?_
  obtain hline | hline := hlines.mem_iff.mp hline
  · exact hothers line hline
  · exact htexts line hline

end TraitDocs.Docblock
