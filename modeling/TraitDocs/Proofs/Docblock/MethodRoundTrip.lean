import TraitDocs.Proofs.Docblock.Layout
import TraitDocs.Proofs.Docblock.Parameters
import TraitDocs.Proofs.OrderedMap.Grouped
import TraitDocs.Proofs.Text.Run
import TraitDocs.Proofs.Text.Word

/-!
# Reading back the comment of a method

A method comment is written as the lines of a short text, a line without text and the lines of a
long text, with parameter lines set in between wherever one likes. Reading it refuses no line and
gives back both texts and the parameters.

What follows `@param` is read back by `ParamParts.paramTag?_eq`, whatever description follows the
name: the line is trimmed before, which can shorten the description but leaves it apart from the
name. As in the comment of a class, the parameter lines can be taken before the others.
-/

set_option autoImplicit false

namespace TraitDocs.Docblock

open Text

/-! ## Parameter lines -/

/-- Tells that a text consists of these parts, as what follows `@param` does: blanks, a type,
blanks, a dollar sign with a name, and a description that the name does not run into. -/
structure ParamParts (before type between name description : List Char) : Prop where
  before_blank : ∀ c ∈ before, isBlank c = true
  type_ne : type ≠ []
  type_solid : ∀ c ∈ type, isBlank c = false
  between_ne : between ≠ []
  between_blank : ∀ c ∈ between, isBlank c = true
  name_ne : name ≠ []
  name_word : ∀ c ∈ name, isWord c = true
  apart : ∀ c ∈ description.head?, isWord c = false
  oneLine : isOneLine description = true

/-- What consists of such parts is read as the type and the name. -/
theorem ParamParts.paramTag?_eq {before type between name description : List Char}
    (h : ParamParts before type between name description) :
    paramTag? (before ++ (type ++ (between ++ '$' :: (name ++ description)))) =
      some ⟨String.ofList type, String.ofList name⟩ := by
  obtain ⟨t, ts, hts⟩ := List.exists_cons_of_ne_nil h.type_ne
  obtain ⟨b, bs, hbs⟩ := List.exists_cons_of_ne_nil h.between_ne
  have hsolid : ∀ c ∈ type, (!isBlank c) = true := by
    intro c hc
    rw [h.type_solid c hc]
    rfl
  have hstop : ∀ c ∈ (between ++ '$' :: (name ++ description)).head?, (!isBlank c) = false := by
    intro c hc
    rw [hbs] at hc
    obtain rfl := Option.some.inj hc
    rw [h.between_blank b (hbs ▸ List.mem_cons_self)]
    rfl
  have hstart : trimStart (before ++ (type ++ (between ++ '$' :: (name ++ description)))) =
      type ++ (between ++ '$' :: (name ++ description)) := by
    rw [trimStart_blank_append h.before_blank]
    apply trimStart_eq_self
    intro c hc
    rw [hts] at hc
    obtain rfl := Option.some.inj hc
    exact h.type_solid t (hts ▸ List.mem_cons_self)
  have hdollar : trimStart (between ++ '$' :: (name ++ description)) =
      '$' :: (name ++ description) := by
    rw [trimStart_blank_append h.between_blank]
    exact trimStart_eq_self (by simp; decide)
  obtain ⟨htype, hafter⟩ := takeWhile_dropWhile_append hsolid hstop
  obtain ⟨hname, hdescription⟩ := takeWhile_dropWhile_append h.name_word h.apart
  simp only [paramTag?, hstart, htype, hafter, hdollar, hname, hdescription]
  simp [h.name_ne, h.oneLine]

/-- A parameter as it is written: its description has no line breaks, and starts with a character
that cannot be part of the name. -/
structure WrittenParam where
  type : String
  name : String
  description : String
  form : HasParamForm name type
  unbroken : ∀ c ∈ description.toList, isLineBreak c = false
  apart : ∀ c ∈ description.toList.head?, isWord c = false

namespace WrittenParam

/-- The line of a parameter. -/
def line (p : WrittenParam) : String :=
  "@param " ++ p.type ++ " $" ++ p.name ++ p.description

/-- The line of a parameter between its first word and its description. -/
def core (p : WrittenParam) : List Char :=
  [' '] ++ (p.type.toList ++ ([' '] ++ '$' :: p.name.toList))

/-- The line of a parameter by its characters. -/
theorem toList_line (p : WrittenParam) :
    p.line.toList = "@param".toList ++ (p.core ++ p.description.toList) := by
  simp [line, core]

/-- The line of a parameter is not empty. -/
theorem line_ne_empty (p : WrittenParam) : p.line ≠ "" := by
  intro hempty
  have htoList := p.toList_line
  rw [hempty] at htoList
  cases htoList

/-- The line of a parameter has no line break. -/
theorem isLineBreak_of_mem_line (p : WrittenParam) :
    ∀ c ∈ p.line.toList, isLineBreak c = false := by
  have htype : ∀ c ∈ p.type.toList, isLineBreak c = false :=
    fun c hc => isLineBreak_of_isBlank (p.form.type_solid c hc)
  have hname : ∀ c ∈ p.name.toList, isLineBreak c = false :=
    fun c hc => isLineBreak_of_isBlank (isBlank_of_isWord (p.form.name_word c hc))
  rw [toList_line]
  simp only [core, List.forall_mem_append, List.forall_mem_cons]
  exact ⟨by decide, ⟨by decide, htype, by decide, by decide, hname⟩, p.unbroken⟩

/-- Trimming the line of a parameter after its marker can only shorten the description. -/
theorem toList_trimmed_marked_line (p : WrittenParam) :
    (trimmed (marked p.line)).toList =
      paramStart.toList ++ (p.core ++ trimEnd p.description.toList) := by
  have hname : p.name.toList ≠ [] := mt String.toList_eq_nil_iff.mp p.form.name_ne
  have hlast : ∀ c ∈ (paramStart.toList ++ p.core).getLast?, isBlank c = false := by
    intro c hc
    have hcore : paramStart.toList ++ p.core =
        (paramStart.toList ++ ([' '] ++ (p.type.toList ++ [' ', '$']))) ++ p.name.toList := by
      simp [core]
    rw [hcore, List.getLast?_append, Option.or_of_isSome (by simpa using hname)] at hc
    exact isBlank_of_isWord (p.form.name_word c (List.mem_of_mem_getLast? hc))
  have hline : (marked p.line).toList = paramStart.toList ++ p.core ++ p.description.toList := by
    rw [toList_marked p.line_ne_empty, toList_line]
    rfl
  have hhead : ∀ c ∈ (paramStart.toList ++ p.core ++ p.description.toList).head?,
      isBlank c = false := by
    intro c hc
    obtain rfl : '*' = c := Option.some.inj hc
    decide
  rw [trimmed, String.toList_ofList, hline, trim, trimStart_eq_self hhead, trimEnd_append hlast,
    List.append_assoc]

/-- The line of a parameter gives back its type and its name. -/
theorem paramTag?_core (p : WrittenParam) :
    paramTag? (p.core ++ trimEnd p.description.toList) = some ⟨p.type, p.name⟩ := by
  obtain ⟨cut, hcut⟩ := trimEnd_isPrefix p.description.toList
  have hapart : ∀ c ∈ (trimEnd p.description.toList).head?, isWord c = false := by
    intro c hc
    apply p.apart c
    rw [← hcut, List.head?_append, hc]
    rfl
  have honeLine : isOneLine (trimEnd p.description.toList) = true := by
    have hnewline : '\n' ∉ (trimEnd p.description.toList).dropLast := by
      intro hmem
      have hdescription := (trimEnd_isPrefix _).subset (List.dropLast_subset _ hmem)
      exact absurd (p.unbroken _ hdescription) (by decide)
    simp [isOneLine, hnewline]
  have hparts : ParamParts [' '] p.type.toList [' '] p.name.toList
      (trimEnd p.description.toList) :=
    { before_blank := by decide
      type_ne := mt String.toList_eq_nil_iff.mp p.form.type_ne
      type_solid := p.form.type_solid
      between_ne := by decide
      between_blank := by decide
      name_ne := mt String.toList_eq_nil_iff.mp p.form.name_ne
      name_word := p.form.name_word
      apart := hapart
      oneLine := honeLine }
  have hread := hparts.paramTag?_eq
  rw [String.ofList_toList, String.ofList_toList] at hread
  simpa [core] using hread

end WrittenParam

/-! ## Runs of the machine -/

namespace MethodReading

/-- Takes a line after its marker, trimmed as it is read; a line that is refused changes nothing. -/
def takeMarked (r : MethodReading) (line : String) : MethodReading :=
  (r.feed (trimmed (marked line))).getD r

/-- A line without text turns the machine. -/
theorem feed_empty (r : MethodReading) :
    r.feed (trimmed (marked "")) = some { r with part := .long } := by
  have hbare : trimmed (marked "") = bare := by decide
  rw [hbare]
  rfl

/-- A line of text goes to the part that is being read. -/
theorem feed_textLine (r : MethodReading) (line : TextLine "@param") :
    r.feed (trimmed (marked line.text)) = some (r.addText (line.text ++ "\n")) := by
  have hdelimiter := isDelimiter_trimmed_marked line.text
  have htoList := toList_marked line.ne_empty
  rw [trimmed_marked line.isTrimmed.last] at hdelimiter ⊢
  have hbare : marked line.text ≠ bare := by
    intro hbare
    rw [hbare] at htoList
    cases htoList
  have hparam : ¬ paramStart.toList.isPrefixOf ('*' :: ' ' :: line.text.toList) = true := by
    rw [List.isPrefixOf_iff_prefix]
    intro hprefix
    exact line.not_barred (List.cons_prefix_cons.mp (List.cons_prefix_cons.mp hprefix).2).2
  simp only [feed_eq, hdelimiter, hbare, htoList, hparam]
  simp

/-- The line of a parameter adds it. -/
theorem feed_paramLine (r : MethodReading) (p : WrittenParam) :
    r.feed (trimmed (marked p.line)) = some (r.addParam ⟨p.type, p.name⟩) := by
  have hdelimiter := isDelimiter_trimmed_marked p.line
  have htoList := p.toList_trimmed_marked_line
  have hbare : trimmed (marked p.line) ≠ bare := by
    intro hbare
    rw [hbare] at htoList
    cases htoList
  have hparam : paramStart.toList.isPrefixOf
      (paramStart.toList ++ (p.core ++ trimEnd p.description.toList)) = true :=
    List.isPrefixOf_iff_prefix.mpr (List.prefix_append _ _)
  have hdrop : (paramStart.toList ++ (p.core ++ trimEnd p.description.toList)).drop
      paramStart.length = p.core ++ trimEnd p.description.toList :=
    List.drop_left
  simp only [feed_eq, hdelimiter, hbare, htoList, hparam, hdrop, p.paramTag?_core]
  simp

/-- Lines of which none is refused are taken one after the other. -/
theorem feedAll_append {lines : List String}
    (h : ∀ line ∈ lines, ∀ r : MethodReading, (r.feed line).isSome = true) (r : MethodReading)
    (rest : List String) :
    r.feedAll (lines ++ rest) =
      (lines.foldl (fun r line => (r.feed line).getD r) r).feedAll rest := by
  induction lines generalizing r with
  | nil => rfl
  | cons line lines ih =>
    rw [List.forall_mem_cons] at h
    obtain ⟨r', hr'⟩ := Option.isSome_iff_exists.mp (h.1 r)
    simp only [List.cons_append, feedAll, List.foldl_cons, hr']
    exact ih h.2 r'

/-- Lines of text go one after the other to the part that is being read. -/
theorem foldl_addText (r : MethodReading) (lines : List String) :
    lines.foldl addText r =
      match r.part with
      | .doc => { r with doc := r.doc ++ lines }
      | .long => { r with long := r.long ++ lines } := by
  obtain ⟨part, doc, long, params⟩ := r
  induction lines generalizing doc long with
  | nil => cases part <;> simp
  | cons line lines ih =>
    rw [List.foldl_cons]
    cases part with
    | doc => exact (ih (doc ++ [line]) long).trans (by simp)
    | long => exact (ih doc (long ++ [line])).trans (by simp)

/-- Parameters are added to the parameters alone. -/
theorem foldl_addParam (r : MethodReading) (tags : List ParamTag) :
    tags.foldl addParam r =
      { r with
        params := (tags.map fun t => (t.name, (⟨t.type, false, .null⟩ : ParamDoc))).foldl
          (fun m e => m.insert e.1 e.2) r.params } := by
  induction tags generalizing r with
  | nil => rfl
  | cons tag tags ih => exact ih (r.addParam tag)

/-- A line of text and a parameter can be added in either order. -/
theorem addText_addParam (r : MethodReading) (tag : ParamTag) (line : String) :
    (r.addParam tag).addText line = (r.addText line).addParam tag := by
  unfold addText addParam
  cases r.part <;> rfl

/-- A line without text turns the machine. -/
theorem takeMarked_empty (r : MethodReading) : r.takeMarked "" = { r with part := .long } := by
  rw [takeMarked, feed_empty, Option.getD_some]

/-- A line of text is added to the part that is being read. -/
theorem takeMarked_textLine (r : MethodReading) (line : TextLine "@param") :
    r.takeMarked line.text = r.addText (line.text ++ "\n") := by
  rw [takeMarked, feed_textLine, Option.getD_some]

/-- The line of a parameter adds it. -/
theorem takeMarked_paramLine (r : MethodReading) (p : WrittenParam) :
    r.takeMarked p.line = r.addParam ⟨p.type, p.name⟩ := by
  rw [takeMarked, feed_paramLine, Option.getD_some]

/-- Lines of text are added one after the other. -/
theorem foldl_takeMarked_textLines (r : MethodReading) (lines : List (TextLine "@param")) :
    (lines.map TextLine.text).foldl takeMarked r =
      (lines.map fun line => line.text ++ "\n").foldl addText r := by
  rw [List.foldl_map, List.foldl_map]
  simp only [takeMarked_textLine]

section Written

variable {doc long : List (TextLine "@param")} {params : List WrittenParam} {lines : List String}

/-- No line of a written comment is refused. -/
theorem isSome_feed_of_written
    (h : Interleaving (params.map WrittenParam.line)
      (doc.map TextLine.text ++ "" :: long.map TextLine.text) lines) :
    ∀ line ∈ lines, ∀ r : MethodReading, (r.feed (trimmed (marked line))).isSome = true := by
  have hparams : ∀ line ∈ params.map WrittenParam.line, ∀ r : MethodReading,
      (r.feed (trimmed (marked line))).isSome = true := by
    simp only [List.forall_mem_map, feed_paramLine, Option.isSome_some, implies_true]
  have htexts : ∀ line ∈ doc.map TextLine.text ++ "" :: long.map TextLine.text,
      ∀ r : MethodReading, (r.feed (trimmed (marked line))).isSome = true := by
    simp only [List.forall_mem_append, List.forall_mem_cons, List.forall_mem_map, feed_textLine,
      feed_empty, Option.isSome_some, implies_true, and_self]
  intro line hline
  obtain hline | hline := h.mem_iff.mp hline
  · exact hparams line hline
  · exact htexts line hline

/-- What the machine has read after the lines of a short text, a line without text and the lines of
a long text, with parameter lines among them. -/
theorem foldl_takeMarked
    (h : Interleaving (params.map WrittenParam.line)
      (doc.map TextLine.text ++ "" :: long.map TextLine.text) lines) :
    lines.foldl takeMarked {} =
      { part := .long
        doc := doc.map fun line => line.text ++ "\n"
        long := long.map fun line => line.text ++ "\n"
        params :=
          .ofList (params.map fun p => (p.name, (⟨p.type, false, .null⟩ : ParamDoc))) } := by
  -- The lines of parameters touch nothing that the other lines touch, so they can be taken first.
  have hcommute : ∀ x ∈ params.map WrittenParam.line,
      ∀ y ∈ doc.map TextLine.text ++ "" :: long.map TextLine.text, ∀ r : MethodReading,
        (r.takeMarked x).takeMarked y = (r.takeMarked y).takeMarked x := by
    simp only [List.forall_mem_map, List.forall_mem_append, List.forall_mem_cons,
      takeMarked_paramLine, takeMarked_textLine, takeMarked_empty, addText_addParam]
    exact fun _ _ => ⟨fun _ _ _ => trivial, fun _ => rfl, fun _ _ _ => trivial⟩
  have hparams : (params.map WrittenParam.line).foldl takeMarked {} =
      { params :=
          .ofList (params.map fun p => (p.name, (⟨p.type, false, .null⟩ : ParamDoc))) } := by
    have htags := foldl_addParam {} (params.map fun p => ⟨p.type, p.name⟩)
    rw [List.foldl_map, List.map_map] at htags
    rw [List.foldl_map]
    simp only [takeMarked_paramLine]
    exact htags
  rw [h.foldl_eq hcommute, hparams, List.foldl_append, List.foldl_cons, takeMarked_empty,
    foldl_takeMarked_textLines, foldl_takeMarked_textLines, foldl_addText, foldl_addText]
  rfl

end Written

end MethodReading

/-- Between its delimiters, every line of a method comment is taken after its marker, where none is
refused. -/
theorem readMethod_of_contentLines {comment : Option String} {lines : List String}
    (h : contentLines comment =
      opening :: (lines.map (fun line => trimmed (marked line)) ++ [closing]))
    (haccepted : ∀ line ∈ lines, ∀ r : MethodReading,
      (r.feed (trimmed (marked line))).isSome = true) :
    readMethod comment = .ok (some (lines.foldl MethodReading.takeMarked {}).result) := by
  have haccepted' : ∀ line ∈ lines.map fun line => trimmed (marked line), ∀ r : MethodReading,
      (r.feed line).isSome = true := by
    rwa [List.forall_mem_map]
  have hopening : MethodReading.feedAll {} (contentLines comment) =
      MethodReading.feedAll {} (lines.map (fun line => trimmed (marked line)) ++ [closing]) := by
    rw [h]
    rfl
  have hclosing : ∀ r : MethodReading, r.feedAll [closing] = some r := fun r => rfl
  rw [MethodReading.feedAll_append haccepted', List.foldl_map, hclosing, h] at hopening
  simp only [readMethod, h, hopening]
  rfl

/-- The comment of a method gives back what was written: no line of it is refused, the lines of the
short text and those of the long one come with line feeds between them, and the parameters are the
ones that were written, in order and without default values. -/
theorem readMethod_of_written {doc long : List (TextLine "@param")} {params : List WrittenParam}
    {lines : List String} {text : List Char} (hnames : (params.map WrittenParam.name).Nodup)
    (hlines : Interleaving (params.map WrittenParam.line)
      (doc.map TextLine.text ++ "" :: long.map TextLine.text) lines)
    (htext : LaidOut (docblock lines) text) :
    ∃ read, readMethod (some (String.ofList text)) = .ok (some read) ∧
      read.doc = "\n".intercalate (doc.map TextLine.text) ∧
      read.long = "\n".intercalate (long.map TextLine.text) ∧
      read.params.entries = params.map fun p => (p.name, ⟨p.type, false, .null⟩) := by
  have hunbroken : ∀ line ∈ params.map WrittenParam.line,
      ∀ c ∈ line.toList, isLineBreak c = false := by
    rw [List.forall_mem_map]
    exact fun p _ => p.isLineBreak_of_mem_line
  have hread := readMethod_of_contentLines (contentLines_of_written hunbroken hlines htext)
    (MethodReading.isSome_feed_of_written hlines)
  rw [MethodReading.foldl_takeMarked hlines] at hread
  refine ⟨_, hread, trimmed_join_textLines doc, trimmed_join_textLines long, ?_⟩
  apply OrderedMap.entries_ofList_of_nodup
  rwa [List.map_map]

/-- The only line of a short text. -/
def checksFile : TextLine "@param" :=
  ⟨"Checks a file.", by decide, ⟨by decide, by decide⟩, by decide, by decide⟩

/-- A line of a long text that names the returned value. -/
def returnsNothing : TextLine "@param" :=
  ⟨"@return void", by decide, ⟨by decide, by decide⟩, by decide, by decide⟩

/-- A parameter whose description follows right after its name and ends in a blank. -/
def fileParam : WrittenParam :=
  ⟨"string[]|null", "file", "... $name ", ⟨by decide, by decide +kernel, by decide, by decide⟩,
    by decide, by decide +kernel⟩

/-- A parameter without a description, whose type starts with a dollar sign. -/
def messageParam : WrittenParam :=
  ⟨"$string", "message_1", "", ⟨by decide, by decide +kernel, by decide, by decide⟩,
    unbroken_empty, by decide⟩

/-- The lines of text and of parameters above, set into each other. -/
def checkLines : List String :=
  [fileParam.line, checksFile.text, "", messageParam.line, returnsNothing.text]

/-- The comment of these lines, each after a tab, is read back. -/
theorem readMethod_checkLines :
    ([fileParam, messageParam].map WrittenParam.name).Nodup ∧
    Interleaving ([fileParam, messageParam].map WrittenParam.line)
        ([checksFile].map TextLine.text ++ "" :: [returnsNothing].map TextLine.text) checkLines ∧
    LaidOut (docblock checkLines) (setLines ['\t'] (docblock checkLines)) ∧
    ∃ read, readMethod (some (String.ofList (setLines ['\t'] (docblock checkLines)))) =
        .ok (some read) ∧
      read.doc = "Checks a file." ∧ read.long = "@return void" ∧
      read.params.entries =
        [("file", ⟨"string[]|null", false, .null⟩), ("message_1", ⟨"$string", false, .null⟩)] := by
  have hnames : ([fileParam, messageParam].map WrittenParam.name).Nodup := by decide
  have hlines : Interleaving ([fileParam, messageParam].map WrittenParam.line)
      ([checksFile].map TextLine.text ++ "" :: [returnsNothing].map TextLine.text) checkLines :=
    .left _ (.right _ (.right _ (.left _ (.right _ .nil))))
  have htext := laidOut_setLines (by decide : ∀ c ∈ ['\t'], isBlank c = true) (docblock checkLines)
  exact ⟨hnames, hlines, htext, readMethod_of_written hnames hlines htext⟩

end TraitDocs.Docblock
