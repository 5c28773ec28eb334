import TraitDocs.Docblock.ContentLine
import TraitDocs.Docblock.ParamTag
import TraitDocs.Failure
import TraitDocs.Json.Basic
import TraitDocs.OrderedMap

/-!
# Method comments

The comment of a method gives a short text, a long text and the documented parameters. A machine
takes the content lines one after the other: delimiters are passed over wherever they stand, a
bare marker turns it from the short text to the long one, and a parameter line adds a parameter
or, if it does not have the form of one, is refused. Every other line is text.
-/

set_option autoImplicit false

namespace TraitDocs

/-- A documented parameter. -/
structure ParamDoc where
  type : String
  /-- Tells whether the parameter declares a default value. -/
  hasDefault : Bool := false
  /-- The default value, which counts only if there is one. -/
  default : Json := .null
  deriving Inhabited

/-- What the comment of a method says. -/
structure MethodDoc where
  /-- The short text. -/
  doc : String
  /-- The long text, which may be empty. -/
  long : String := ""
  params : OrderedMap String ParamDoc := .empty
  deriving Inhabited

namespace Docblock

/-- The part of a method comment that text goes to. -/
inductive MethodPart
  | doc
  | long
  deriving DecidableEq, Repr

/-- The state of the machine that reads a method comment. -/
structure MethodReading where
  /-- The part that text goes to. -/
  part : MethodPart := .doc
  /-- The lines of the short text, each closed by a line feed. -/
  doc : List String := []
  /-- The lines of the long text, each closed by a line feed. -/
  long : List String := []
  params : OrderedMap String ParamDoc := .empty

namespace MethodReading

/-- Adds a line of text to the part that is being read. -/
def addText (r : MethodReading) (line : String) : MethodReading :=
  match r.part with
  | .doc => { r with doc := r.doc ++ [line] }
  | .long => { r with long := r.long ++ [line] }

/-- Adds a parameter. -/
def addParam (r : MethodReading) (tag : ParamTag) : MethodReading :=
  { r with params := r.params.insert tag.name ⟨tag.type, false, .null⟩ }

/-- Offers a line: what has been read then, and whether the line was taken. Refused is a parameter
line that cannot be read; other lines may follow it. -/
def offer (r : MethodReading) (line : String) : MethodReading × Bool :=
  let cs := line.toList
  if isDelimiter line then (r, true)
  else if line = bare then ({ r with part := .long }, true)
  else if paramStart.toList.isPrefixOf cs then
    match paramTag? (cs.drop paramStart.length) with
    | some tag => (r.addParam tag, true)
    | none => (r, false)
  else (r.addText (String.ofList (cs.drop 2) ++ "\n"), true)

/-- Takes a line, or refuses it. -/
def feed (r : MethodReading) (line : String) : Option MethodReading :=
  if (r.offer line).2 then some (r.offer line).1 else none

/-- What a line does: a parameter line is refused if it cannot be read, every other line is
taken. -/
theorem feed_eq (r : MethodReading) (line : String) :
    r.feed line =
      if isDelimiter line then some r
      else if line = bare then some { r with part := .long }
      else if paramStart.toList.isPrefixOf line.toList then
        (paramTag? (line.toList.drop paramStart.length)).map r.addParam
      else some (r.addText (String.ofList (line.toList.drop 2) ++ "\n")) := by
  simp only [feed, offer]
  split
  · rfl
  · split
    · rfl
    · split
      · cases paramTag? (line.toList.drop paramStart.length) <;> rfl
      · rfl

/-- What a line does that is taken: nothing, turn the machine, add a parameter, or add a line of
text. -/
theorem feed_cases {r r' : MethodReading} {line : String} (h : r.feed line = some r') :
    r' = r ∨ r' = { r with part := .long } ∨
      (∃ tag, paramTag? (line.toList.drop paramStart.length) = some tag ∧ r' = r.addParam tag) ∨
      r' = r.addText (String.ofList (line.toList.drop 2) ++ "\n") := by
  rw [feed_eq] at h
  split at h
  · exact Or.inl (Option.some.inj h).symm
  · split at h
    · exact Or.inr (Or.inl (Option.some.inj h).symm)
    · split at h
      · obtain ⟨tag, htag, rfl⟩ := Option.map_eq_some_iff.mp h
        exact Or.inr (Or.inr (Or.inl ⟨tag, htag, rfl⟩))
      · exact Or.inr (Or.inr (Or.inr (Option.some.inj h).symm))

/-- Takes lines up to the first that is refused. -/
def feedAll (r : MethodReading) : List String → Option MethodReading
  | [] => some r
  | line :: lines =>
    match r.feed line with
    | some r => r.feedAll lines
    | none => none

/-- What has been read. -/
def result (r : MethodReading) : MethodDoc where
  doc := Text.trimmed (String.join r.doc)
  long := Text.trimmed (String.join r.long)
  params := r.params

end MethodReading

/-- Reads the comment of a method. A comment without content says nothing, and a parameter line that
cannot be read is a failure that shows the whole comment. -/
def readMethod (comment : Option String) : Except Failure (Option MethodDoc) :=
  match contentLines comment with
  | [] => .ok none
  | lines =>
    match MethodReading.feedAll {} lines with
    | some r => .ok (some r.result)
    | none => .error (.malformedParamTag (comment.getD ""))

end Docblock

end TraitDocs
