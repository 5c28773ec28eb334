import TraitDocs.Proofs.Docblock.ClassContent
import TraitDocs.Proofs.Docblock.MethodRoundTrip
import TraitDocs.Proofs.OrderedMap.OfList

/-!
# What a method comment says

What a method comment says can be told without the machine that reads it. A comment of delimiters
alone says nothing. Else every parameter line must have the form of one, wherever it stands; a
single one that has not makes the whole comment unreadable. The lines that are neither delimiters,
bare markers nor parameter lines are text: those before the first bare marker are the short text,
those after it the long one. Of the parameter lines, the first with a name gives the parameter its
place, and the last with that name its type.

The form of a parameter line is that of `ParamParts`, and `paramTag?_eq_some_iff` says that such a
line is read as the parts say. A line that is no parameter line is never refused
(`feed_of_not_isParam`), and what it does is independent of the parameters, so that a run is the
texts of all lines and then the parameters of all parameter lines (`feedAll_of_gives`).
-/

set_option autoImplicit false

namespace TraitDocs.Docblock

open Text

/-! ## The form of a parameter line -/

/-- Tells that a text, which follows `@param`, consists of blanks, this type, blanks, a dollar sign
with this name, and a description that does not go on with the name. -/
def ParamTag.StandsIn (tag : ParamTag) (text : List Char) : Prop :=
  ∃ before between description,
    ParamParts before tag.type.toList between tag.name.toList description ∧
    text = before ++ (tag.type.toList ++ (between ++ '$' :: (tag.name.toList ++ description)))

/-- A dollar sign after the type has blanks before it, since the type would have taken it else. -/
theorem takeWhile_isBlank_ne_nil {cs rest : List Char}
    (h : trimStart (cs.dropWhile fun c => !isBlank c) = '$' :: rest) :
    (cs.dropWhile fun c => !isBlank c).takeWhile isBlank ≠ [] := by
  intro hnil
  have hsplit := List.takeWhile_append_dropWhile (p := isBlank)
    (l := cs.dropWhile fun c => !isBlank c)
  rw [hnil, List.nil_append, ← trimStart, h] at hsplit
  have hmem : '$' ∈ (cs.dropWhile fun c => !isBlank c).head? := by
    rw [← hsplit]
    rfl
  exact absurd (eq_false_of_mem_head?_dropWhile hmem) (by decide)

/-- A parameter that is read stands in the text. -/
theorem standsIn_of_paramTag? {text : List Char} {tag : ParamTag} (h : paramTag? text = some tag) :
    tag.StandsIn text := by
  have hform := hasParamForm_of_paramTag? h
  simp only [paramTag?] at h
  split at h
  · rename_i atName hdollar
    split at h
    · cases h
    · rename_i hname
      rw [Bool.or_eq_true, not_or, Bool.not_eq_true', Bool.not_eq_false] at hname
      obtain rfl := Option.some.inj h
      refine ⟨text.takeWhile isBlank,
        ((trimStart text).dropWhile fun c => !isBlank c).takeWhile isBlank,
        atName.dropWhile isWord, ?_, ?_⟩
      · exact {
          before_blank := List.all_eq_true.mp List.all_takeWhile
          type_ne := mt String.toList_eq_nil_iff.mp hform.type_ne
          type_solid := hform.type_solid
          between_ne := takeWhile_isBlank_ne_nil hdollar
          between_blank := List.all_eq_true.mp List.all_takeWhile
          name_ne := mt String.toList_eq_nil_iff.mp hform.name_ne
          name_word := hform.name_word
          apart := fun c hc => eq_false_of_mem_head?_dropWhile hc
          oneLine := hname.2 }
      · have hsplit : ∀ cs : List Char, cs.takeWhile isBlank ++ trimStart cs = cs :=
          fun cs => List.takeWhile_append_dropWhile
        rw [String.toList_ofList, String.toList_ofList, List.takeWhile_append_dropWhile, ← hdollar,
          hsplit, List.takeWhile_append_dropWhile, hsplit]
  · cases h

/-- A parameter is read exactly if it stands in the text. -/
theorem paramTag?_eq_some_iff {text : List Char} {tag : ParamTag} :
    paramTag? text = some tag ↔ tag.StandsIn text := by
  constructor
  · exact standsIn_of_paramTag?
  · rintro ⟨before, between, description, hparts, rfl⟩
    rw [hparts.paramTag?_eq, String.ofList_toList, String.ofList_toList]

/-! ## The content, without the machine -/

namespace MethodLine

/-- Tells whether a line is a parameter line. -/
def isParam (line : String) : Bool :=
  paramStart.toList.isPrefixOf line.toList

/-- Tells that a parameter line gives this type and this name. -/
def Gives (line : String) (tag : ParamTag) : Prop :=
  tag.StandsIn (line.toList.drop paramStart.length)

/-- Tells whether a line is a line of text: no delimiter, no parameter line and not bare. -/
def isText (line : String) : Bool :=
  !isDelimiter line && !isParam line && decide (line ≠ bare)

/-- The text of a line, which is what follows its first two characters, closed by a line feed. -/
def closedText (line : String) : String :=
  String.ofList (line.toList.drop 2) ++ "\n"

end MethodLine

/-- The texts of the lines that are text, in order. -/
def closedTexts (lines : List String) : List String :=
  (lines.filter MethodLine.isText).map MethodLine.closedText

/-- Tells that parameters are those of parameter lines: in the order in which their names come up,
each with the type of the last line that has its name, and without a default value. -/
structure ParamsOf (tags : List ParamTag) (params : OrderedMap String ParamDoc) : Prop where
  names : params.keys = (tags.map ParamTag.name).eraseDups
  last : ∀ tag, LastWith (fun t => t.name = tag.name) tags tag →
    params.get? tag.name = some ⟨tag.type, false, .null⟩

/-- Tells what comes of a method comment with these lines: it says nothing, it is refused because
of a parameter line, or it says something. -/
inductive MethodContent (comment : String) (lines : List String) :
    Except Failure (Option MethodDoc) → Prop
  | nothing (h : ∀ line ∈ lines, isDelimiter line = true) : MethodContent comment lines (.ok none)
  | refused {line : String} (hline : line ∈ lines) (hparam : MethodLine.isParam line = true)
      (hform : ∀ tag, ¬ MethodLine.Gives line tag) :
      MethodContent comment lines (.error (.malformedParamTag comment))
  | said {line : String} {tags : List ParamTag} {params : OrderedMap String ParamDoc}
      (hline : line ∈ lines) (hcontent : isDelimiter line = false)
      (htags : List.Forall₂ MethodLine.Gives (lines.filter MethodLine.isParam) tags)
      (hparams : ParamsOf tags params) :
      MethodContent comment lines (.ok (some {
        doc := trimmed (String.join (closedTexts (lines.takeWhile (· ≠ bare))))
        long := trimmed (String.join (closedTexts (lines.dropWhile (· ≠ bare)).tail))
        params := params }))

/-! ## What a line does to the machine -/

/-- A parameter line is none of the other lines. -/
theorem MethodLine.ne_of_isParam {line other : String} (h : isParam line = true)
    (hother : isParam other = false) : line ≠ other := by
  intro heq
  rw [heq, hother] at h
  cases h

/-- A parameter line is no delimiter. -/
theorem MethodLine.isDelimiter_of_isParam {line : String} (h : isParam line = true) :
    isDelimiter line = false := by
  rw [isDelimiter, Bool.or_eq_false_iff, beq_eq_false_iff_ne, beq_eq_false_iff_ne]
  exact ⟨ne_of_isParam h (by decide), ne_of_isParam h (by decide)⟩

namespace MethodReading

variable {r : MethodReading} {line : String} {lines : List String} {tags : List ParamTag}

/-- What a line does that is no parameter line. -/
def takeText (r : MethodReading) (line : String) : MethodReading :=
  if line = bare then { r with part := .long }
  else if MethodLine.isText line then r.addText (MethodLine.closedText line)
  else r

/-- A parameter line adds the parameter that is read from it, or is refused. -/
theorem feed_of_isParam (h : MethodLine.isParam line = true) (r : MethodReading) :
    r.feed line = (paramTag? (line.toList.drop paramStart.length)).map r.addParam := by
  have hbare : line ≠ bare := MethodLine.ne_of_isParam h (by decide)
  rw [feed_eq, MethodLine.isDelimiter_of_isParam h, if_neg Bool.false_ne_true, if_neg hbare]
  exact if_pos h

/-- A line that is no parameter line is taken. -/
theorem feed_of_not_isParam (h : MethodLine.isParam line = false) (r : MethodReading) :
    r.feed line = some (r.takeText line) := by
  have hparam : ¬ paramStart.toList.isPrefixOf line.toList = true := by
    rw [← MethodLine.isParam, h]
    exact Bool.false_ne_true
  rw [feed_eq, takeText, MethodLine.isText, h]
  by_cases hbare : line = bare
  · rw [hbare]
    rfl
  · cases hdelimiter : isDelimiter line with
    | true => simp [hbare]
    | false => simp [hbare, hparam, MethodLine.closedText]

/-- A parameter line is no text. -/
theorem takeText_of_isParam (h : MethodLine.isParam line = true) (r : MethodReading) :
    r.takeText line = r := by
  rw [takeText, if_neg (MethodLine.ne_of_isParam h (by decide)), MethodLine.isText, h]
  simp

/-- A line that is no parameter line and a parameter can be taken in either order. -/
theorem takeText_addParam (r : MethodReading) (tag : ParamTag) (line : String) :
    (r.addParam tag).takeText line = (r.takeText line).addParam tag := by
  unfold takeText
  split
  · rfl
  · split
    · exact addText_addParam r tag _
    · rfl

/-- Lines that are no parameter lines can be taken before or after a parameter. -/
theorem foldl_takeText_addParam (r : MethodReading) (tag : ParamTag) (lines : List String) :
    lines.foldl takeText (r.addParam tag) = (lines.foldl takeText r).addParam tag := by
  induction lines generalizing r with
  | nil => rfl
  | cons line lines ih => rw [List.foldl_cons, List.foldl_cons, takeText_addParam, ih]

/-! ## Runs of the machine -/

/-- Where all parameter lines have the form of one, no line is refused. The parameters can be added
after all texts. -/
theorem feedAll_of_gives (h : List.Forall₂ MethodLine.Gives (lines.filter MethodLine.isParam) tags)
    (r : MethodReading) :
    r.feedAll lines = some (tags.foldl addParam (lines.foldl takeText r)) := by
  induction lines generalizing r tags with
  | nil =>
    cases h
    rfl
  | cons line lines ih =>
    rw [feedAll, List.foldl_cons]
    cases hparam : MethodLine.isParam line with
    | true =>
      rw [List.filter_cons_of_pos hparam] at h
      cases h with
      | @cons _ tag _ tags htag hrest =>
        rw [feed_of_isParam hparam, paramTag?_eq_some_iff.mpr htag, takeText_of_isParam hparam,
          List.foldl_cons, ← foldl_takeText_addParam]
        exact ih hrest (r.addParam tag)
    | false =>
      rw [List.filter_cons_of_neg (by simp [hparam])] at h
      rw [feed_of_not_isParam hparam]
      exact ih h (r.takeText line)

/-- A parameter line without the form of one ends the reading, wherever it stands. -/
theorem feedAll_eq_none (hline : line ∈ lines) (hparam : MethodLine.isParam line = true)
    (hform : ∀ tag, ¬ MethodLine.Gives line tag) (r : MethodReading) : r.feedAll lines = none := by
  have hrefused : ∀ r : MethodReading, r.feed line = none := by
    intro r
    rw [feed_of_isParam hparam, Option.map_eq_none_iff, Option.eq_none_iff_forall_ne_some]
    intro tag htag
    exact hform tag (paramTag?_eq_some_iff.mp htag)
  induction lines generalizing r with
  | nil => exact absurd hline List.not_mem_nil
  | cons first lines ih =>
    rw [feedAll]
    obtain rfl | hline := List.mem_cons.mp hline
    · rw [hrefused]
    · cases r.feed first with
      | none => rfl
      | some r' => exact ih hline r'

/-- A bare marker turns the machine. -/
theorem takeText_bare (r : MethodReading) : r.takeText bare = { r with part := .long } :=
  rfl

/-- A line that does not turn the machine adds its text, if it has one. -/
theorem takeText_of_ne_bare (h : line ≠ bare) (r : MethodReading) :
    r.takeText line = (closedTexts [line]).foldl addText r := by
  rw [takeText, if_neg h, closedTexts, List.filter_singleton]
  cases MethodLine.isText line <;> rfl

/-- The texts of lines are those of the first line and then those of the rest. -/
theorem closedTexts_cons (line : String) (lines : List String) :
    closedTexts (line :: lines) = closedTexts [line] ++ closedTexts lines := by
  unfold closedTexts
  rw [← List.map_append, ← List.filter_append, List.singleton_append]

/-- Lines of text do not turn the machine. -/
theorem part_foldl_addText (r : MethodReading) (texts : List String) :
    (texts.foldl addText r).part = r.part := by
  rw [foldl_addText]
  split <;> rfl

/-- Lines that leave the machine in its part add their texts to it. -/
theorem foldl_takeText (h : r.part = .long ∨ bare ∉ lines) :
    lines.foldl takeText r = (closedTexts lines).foldl addText r := by
  induction lines generalizing r with
  | nil => rfl
  | cons line lines ih =>
    rw [List.foldl_cons, closedTexts_cons, List.foldl_append]
    by_cases hbare : line = bare
    · -- A bare marker is no text, and finds the machine turned.
      have hlong : r.part = .long := h.resolve_right fun hnot => hnot (hbare ▸ List.mem_cons_self)
      have hturned : r.takeText bare = r := by
        rw [takeText_bare, ← hlong]
      rw [hbare, hturned]
      exact ih (Or.inl hlong)
    · rw [takeText_of_ne_bare hbare]
      apply ih
      rw [part_foldl_addText]
      exact h.imp_right fun hnot hmem => hnot (List.mem_cons_of_mem line hmem)

/-- What the machine has read of the texts in the end: the first bare marker parts the short text
from the long one. -/
theorem texts_foldl_takeText (lines : List String) :
    (lines.foldl takeText {}).doc = closedTexts (lines.takeWhile (· ≠ bare)) ∧
    (lines.foldl takeText {}).long = closedTexts (lines.dropWhile (· ≠ bare)).tail ∧
    (lines.foldl takeText {}).params = .empty := by
  obtain ⟨before, after, rfl, hbefore, hdoc, hlong⟩ | ⟨hbare, hdoc, hlong⟩ := split_at_bare lines
  · have hfirst : before.foldl takeText {} = { doc := closedTexts before } := by
      rw [foldl_takeText (Or.inr hbefore), foldl_addText]
      rfl
    have hsecond : after.foldl takeText { part := .long, doc := closedTexts before } =
        { part := .long, doc := closedTexts before, long := closedTexts after } := by
      rw [foldl_takeText (Or.inl rfl), foldl_addText]
      rfl
    rw [hdoc, hlong, List.foldl_append, List.foldl_cons, hfirst, takeText_bare, hsecond]
    exact ⟨rfl, rfl, rfl⟩
  · rw [hdoc, hlong, foldl_takeText (Or.inr hbare), foldl_addText]
    exact ⟨rfl, rfl, rfl⟩

/-- What the machine has read in the end. -/
theorem result_of_gives (lines : List String) (tags : List ParamTag) :
    (tags.foldl addParam (lines.foldl takeText {})).result =
      { doc := trimmed (String.join (closedTexts (lines.takeWhile (· ≠ bare))))
        long := trimmed (String.join (closedTexts (lines.dropWhile (· ≠ bare)).tail))
        params := .ofList (tags.map fun t => (t.name, ⟨t.type, false, .null⟩)) } := by
  obtain ⟨hdoc, hlong, hparams⟩ := texts_foldl_takeText lines
  rw [foldl_addParam, result, hdoc, hlong, hparams]
  rfl

end MethodReading

/-! ## Readings -/

section Readings

variable {comment : Option String} {tags : List ParamTag} {params : OrderedMap String ParamDoc}

/-- Parameters that are added one after the other are those of their lines. -/
theorem paramsOf_ofList (tags : List ParamTag) :
    ParamsOf tags (.ofList (tags.map fun t => (t.name, ⟨t.type, false, .null⟩))) := by
  constructor
  · rw [OrderedMap.keys_ofList, List.map_map]
    rfl
  · rintro tag ⟨before, after, rfl, -, hafter⟩
    rw [OrderedMap.get?_ofList_eq_some_iff]
    refine ⟨before.map _, after.map _, by rw [List.map_append, List.map_cons], rfl, ?_⟩
    rw [List.forall_mem_map]
    exact hafter

/-- Parameter lines leave no choice in the parameters. -/
theorem ParamsOf.eq_ofList (h : ParamsOf tags params) :
    params = .ofList (tags.map fun t => (t.name, ⟨t.type, false, .null⟩)) := by
  have hread := paramsOf_ofList tags
  apply OrderedMap.eq_of_keys_eq (h.names.trans hread.names.symm)
  intro name hname
  rw [h.names, List.mem_eraseDups] at hname
  obtain ⟨first, hfirst, rfl⟩ := List.mem_map.mp hname
  obtain ⟨tag, htag⟩ := exists_lastWith (p := fun t => t.name = first.name) hfirst rfl
  have hsame : tag.name = first.name := htag.holds
  rw [← hsame] at htag ⊢
  rw [h.last tag htag, hread.last tag htag]

/-- A comment of delimiters alone says nothing. -/
theorem readMethod_of_delimiters
    (h : ∀ line ∈ linesOf (comment.getD ""), isDelimiter line = true) :
    readMethod comment = .ok none := by
  rw [← nonblankLines_eq_linesOf] at h
  simp only [readMethod, contentLines_eq_nil_iff.mpr h]

/-- A comment with a line that is no delimiter is read line by line. -/
theorem readMethod_of_content {line : String} (hline : line ∈ linesOf (comment.getD ""))
    (hcontent : isDelimiter line = false) :
    readMethod comment = (MethodReading.feedAll {} (linesOf (comment.getD ""))).elim
      (.error (.malformedParamTag (comment.getD ""))) fun r => .ok (some r.result) := by
  rw [← nonblankLines_eq_linesOf] at hline ⊢
  have hne : contentLines comment ≠ [] := by
    intro hnil
    rw [contentLines_eq_nil_iff.mp hnil line hline] at hcontent
    cases hcontent
  unfold readMethod
  split
  · rename_i hnil
    exact absurd hnil hne
  · rw [contentLines_of_ne_nil hne]
    cases MethodReading.feedAll {} (nonblankLines (comment.getD "")) <;> rfl

/-- What comes of a method comment is what reading it gives. -/
theorem readMethod_of_methodContent {result : Except Failure (Option MethodDoc)}
    (h : MethodContent (comment.getD "") (linesOf (comment.getD "")) result) :
    readMethod comment = result := by
  cases h with
  | nothing h => exact readMethod_of_delimiters h
  | refused hline hparam hform =>
    rw [readMethod_of_content hline (MethodLine.isDelimiter_of_isParam hparam),
      MethodReading.feedAll_eq_none hline hparam hform, Option.elim_none]
  | said hline hcontent htags hparams =>
    rw [readMethod_of_content hline hcontent, MethodReading.feedAll_of_gives htags,
      Option.elim_some, hparams.eq_ofList, ← MethodReading.result_of_gives]

/-- Something comes of every method comment. -/
theorem exists_methodContent (comment : String) (lines : List String) :
    ∃ result, MethodContent comment lines result := by
  by_cases hcontent : ∃ line ∈ lines, isDelimiter line = false
  · obtain ⟨line, hline, hcontent⟩ := hcontent
    by_cases hform : ∀ line ∈ lines.filter MethodLine.isParam,
        (paramTag? (line.toList.drop paramStart.length)).isSome = true
    · have htags := (forall₂_filterMap hform).imp fun _ _ h => paramTag?_eq_some_iff.mp h
      exact ⟨_, .said hline hcontent htags (paramsOf_ofList _)⟩
    · push Not at hform
      obtain ⟨line, hline, hnone⟩ := hform
      obtain ⟨hline, hparam⟩ := List.mem_filter.mp hline
      refine ⟨_, .refused hline hparam fun tag htag => hnone ?_⟩
      rw [paramTag?_eq_some_iff.mpr htag]
      rfl
  · push Not at hcontent
    exact ⟨_, .nothing fun line hline => by simpa using hcontent line hline⟩

end Readings

/-- The reading of a method comment gives what its lines say, and nothing else: there is one thing
that they say. -/
theorem readMethod_eq_iff_methodContent (comment : Option String)
    (result : Except Failure (Option MethodDoc)) :
    readMethod comment = result ↔
      MethodContent (comment.getD "") (linesOf (comment.getD "")) result := by
  constructor
  · intro h
    obtain ⟨result', hcontent⟩ :=
      exists_methodContent (comment.getD "") (linesOf (comment.getD ""))
    rw [← h, readMethod_of_methodContent hcontent]
    exact hcontent
  · exact readMethod_of_methodContent

-- A parameter line counts after the closing delimiter too, and here it has no name.
example : (readMethod (some "/**\n * Checks.\n */\n * @param int")).toOption.isNone = true := by
  decide

end TraitDocs.Docblock
