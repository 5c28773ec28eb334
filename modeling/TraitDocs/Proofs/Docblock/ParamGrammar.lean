import TraitDocs.Proofs.Docblock.MethodContent

/-!
# The grammar of parameter lines

What follows `@param` is read from left to right, each part as far as it goes. The grammar leaves
the reader more room: any cut of the text into blanks, a type, blanks, a dollar sign with a name,
and a description of one line will do, also one in which the description goes on with characters
that the name could have taken.

`ParamCut` is such a cut. It can be carried on to one with a full name (`ParamCut.fullName_parts`),
and that one is what is read, so all cuts of a text have one type and the longest name is recorded.
-/

set_option autoImplicit false

namespace TraitDocs.Docblock

open Text

/-- A cut of the text that follows `@param`: blanks, a type, blanks, a dollar sign with a name, and
a description whose only line feed, if it has one, is its last character. -/
structure ParamCut (text : List Char) where
  before : List Char
  type : List Char
  between : List Char
  name : List Char
  description : List Char
  text_eq : text = before ++ (type ++ (between ++ '$' :: (name ++ description)))
  before_blank : ∀ c ∈ before, isBlank c = true
  type_ne : type ≠ []
  type_solid : ∀ c ∈ type, isBlank c = false
  between_ne : between ≠ []
  between_blank : ∀ c ∈ between, isBlank c = true
  name_ne : name ≠ []
  name_word : ∀ c ∈ name, isWord c = true
  oneLine : '\n' ∉ description.dropLast

namespace ParamCut

variable {text : List Char}

/-- The cut of a text into parts that are read as they are. -/
def ofParts {before type between name description : List Char}
    (h : ParamParts before type between name description)
    (htext : text = before ++ (type ++ (between ++ '$' :: (name ++ description)))) :
    ParamCut text where
  before := before
  type := type
  between := between
  name := name
  description := description
  text_eq := htext
  before_blank := h.before_blank
  type_ne := h.type_ne
  type_solid := h.type_solid
  between_ne := h.between_ne
  between_blank := h.between_blank
  name_ne := h.name_ne
  name_word := h.name_word
  oneLine := by simpa [isOneLine] using h.oneLine

/-- Tells that no cut of the text has a longer name. -/
def IsLongest (cut : ParamCut text) : Prop :=
  ∀ other : ParamCut text, other.name.length ≤ cut.name.length

/-- The name of a cut with the word characters that the description goes on with. -/
def fullName (cut : ParamCut text) : List Char :=
  cut.name ++ cut.description.takeWhile isWord

/-- The description of a cut without the word characters that it starts with. -/
def restDescription (cut : ParamCut text) : List Char :=
  cut.description.dropWhile isWord

/-- What the full name takes, the description loses. -/
theorem fullName_append_restDescription (cut : ParamCut text) :
    cut.fullName ++ cut.restDescription = cut.name ++ cut.description := by
  rw [fullName, restDescription, List.append_assoc, List.takeWhile_append_dropWhile]

/-- What is left of a description of one line has one line. -/
theorem newline_not_mem_restDescription (cut : ParamCut text) :
    '\n' ∉ cut.restDescription.dropLast := by
  intro hmem
  obtain ⟨taken, htaken⟩ : cut.restDescription <:+ cut.description := List.dropWhile_suffix isWord
  have hne : cut.restDescription ≠ [] := by
    intro hnil
    rw [hnil] at hmem
    exact absurd hmem List.not_mem_nil
  apply cut.oneLine
  rw [← htaken, List.dropLast_append_of_ne_nil hne]
  exact List.mem_append_right taken hmem

/-- A cut can be carried on to one whose name is not followed by a word character. -/
theorem fullName_parts (cut : ParamCut text) :
    ParamParts cut.before cut.type cut.between cut.fullName cut.restDescription where
  before_blank := cut.before_blank
  type_ne := cut.type_ne
  type_solid := cut.type_solid
  between_ne := cut.between_ne
  between_blank := cut.between_blank
  name_ne := List.append_ne_nil_of_left_ne_nil cut.name_ne _
  name_word := by
    rw [fullName, List.forall_mem_append]
    exact ⟨cut.name_word, List.all_eq_true.mp List.all_takeWhile⟩
  apart := fun c hc => eq_false_of_mem_head?_dropWhile hc
  oneLine := by simpa [isOneLine] using cut.newline_not_mem_restDescription

/-- Whatever the cut, the text is read as its type and its full name. -/
theorem paramTag?_eq (cut : ParamCut text) :
    paramTag? text = some ⟨String.ofList cut.type, String.ofList cut.fullName⟩ := by
  conv_lhs => rw [cut.text_eq, ← cut.fullName_append_restDescription]
  exact cut.fullName_parts.paramTag?_eq

/-- All cuts of a text have the same type. -/
theorem type_eq (cut cut' : ParamCut text) : cut.type = cut'.type := by
  have hread := cut.paramTag?_eq.symm.trans cut'.paramTag?_eq
  exact String.ofList_injective (congrArg ParamTag.type (Option.some.inj hread))

/-- All cuts of a text have the same full name. -/
theorem fullName_eq (cut cut' : ParamCut text) : cut.fullName = cut'.fullName := by
  have hread := cut.paramTag?_eq.symm.trans cut'.paramTag?_eq
  exact String.ofList_injective (congrArg ParamTag.name (Option.some.inj hread))

/-- No cut has a longer name than the full name of any other. -/
theorem length_name_le_fullName (cut cut' : ParamCut text) :
    cut.name.length ≤ cut'.fullName.length := by
  rw [← cut.fullName_eq cut', fullName, List.length_append]
  exact Nat.le_add_right _ _

/-- The cut with the full name of a cut. -/
def extended (cut : ParamCut text) : ParamCut text :=
  ofParts cut.fullName_parts (by rw [cut.fullName_append_restDescription]; exact cut.text_eq)

/-- A cut that is extended to its full name is the longest. -/
theorem isLongest_extended (cut : ParamCut text) : cut.extended.IsLongest :=
  fun other => other.length_name_le_fullName cut

/-- A cut with the longest name has a full name. -/
theorem IsLongest.fullName_eq_name {cut : ParamCut text} (h : cut.IsLongest) :
    cut.fullName = cut.name := by
  have hlength : cut.fullName.length ≤ cut.name.length := h cut.extended
  rw [fullName, List.length_append] at hlength
  have hnil : cut.description.takeWhile isWord = [] := List.eq_nil_of_length_eq_zero (by omega)
  rw [fullName, hnil, List.append_nil]

end ParamCut

/-- What is read as a parameter can be cut. -/
theorem exists_paramCut {text : List Char} {tag : ParamTag} (h : paramTag? text = some tag) :
    Nonempty (ParamCut text) := by
  obtain ⟨before, between, description, hparts, htext⟩ := standsIn_of_paramTag? h
  exact ⟨ParamCut.ofParts hparts htext⟩

namespace MethodReading

/-- A parameter line is taken as what follows its start is read. -/
theorem feed_paramStart_append (r : MethodReading) (text : String) :
    r.feed (paramStart ++ text) = (paramTag? text.toList).map r.addParam := by
  have hparam : MethodLine.isParam (paramStart ++ text) = true := by
    rw [MethodLine.isParam, String.toList_append, List.isPrefixOf_iff_prefix]
    exact List.prefix_append _ _
  have hdrop : (paramStart ++ text).toList.drop paramStart.length = text.toList := by
    rw [String.toList_append]
    exact List.drop_left
  rw [feed_of_isParam hparam, hdrop]

/-- A parameter line is taken exactly if what follows its start can be cut. All cuts agree on the
type, and the machine then records it under the longest name. -/
theorem feed_takes_longest_name (r : MethodReading) (text : String) :
    ((∃ r', r.feed (paramStart ++ text) = some r') ↔ Nonempty (ParamCut text.toList)) ∧
    (∀ cut cut' : ParamCut text.toList, cut.type = cut'.type) ∧
    ∀ r', r.feed (paramStart ++ text) = some r' ↔
      ∃ cut : ParamCut text.toList, cut.IsLongest ∧
        r' = { r with
          params := r.params.insert (String.ofList cut.name)
            ⟨String.ofList cut.type, false, .null⟩ } := by
  rw [feed_paramStart_append]
  refine ⟨?_, ParamCut.type_eq, fun r' => ?_⟩
  · constructor
    · rintro ⟨r', hr'⟩
      obtain ⟨tag, htag, -⟩ := Option.map_eq_some_iff.mp hr'
      exact exists_paramCut htag
    · rintro ⟨cut⟩
      rw [cut.paramTag?_eq]
      exact ⟨_, rfl⟩
  · constructor
    · intro hr'
      obtain ⟨tag, htag, rfl⟩ := Option.map_eq_some_iff.mp hr'
      obtain ⟨cut⟩ := exists_paramCut htag
      rw [cut.extended.paramTag?_eq, cut.isLongest_extended.fullName_eq_name] at htag
      obtain rfl := Option.some.inj htag
      exact ⟨cut.extended, cut.isLongest_extended, rfl⟩
    · rintro ⟨cut, hlongest, rfl⟩
      rw [cut.paramTag?_eq, hlongest.fullName_eq_name]
      rfl

end MethodReading

-- The description may go on right after the name, and end in the line feed.
example : paramTag? "\t[int] \n$row½-th\n".toList = some ⟨"[int]", "row½"⟩ := by
  decide +kernel

end TraitDocs.Docblock
