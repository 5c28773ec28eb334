import TraitDocs.Docblock.ContentLine
import TraitDocs.OrderedMap

/-!
# Class comments

The comment of a class gives a summary, a description and tags. A machine takes the content lines
one after the other up to the closing delimiter: a bare marker turns it from the summary to the
description, a tag line adds a value to its tag, and every other line of more than two characters
is text.
-/

set_option autoImplicit false

namespace TraitDocs

/-- What the comment of a class says. -/
structure ClassDoc where
  summary : String
  /-- The description, which may be empty. -/
  doc : String
  /-- The values of each tag, in order; the tags stand in the order of their first values. -/
  tags : OrderedMap String (List String) := .empty

/-- Tells whether a tag is there. -/
def ClassDoc.hasTag (d : ClassDoc) (name : String) : Bool :=
  d.tags.contains name

namespace Docblock

/-- The part of a class comment that text goes to. -/
inductive ClassPart
  | summary
  | doc
  deriving DecidableEq, Repr

/-- The state of the machine that reads a class comment. -/
structure ClassReading where
  /-- The part that text goes to. -/
  part : ClassPart := .summary
  /-- The lines of the summary, each closed by a line feed. -/
  summary : List String := []
  /-- The lines of the description, each closed by a line feed. -/
  doc : List String := []
  /-- The values of each tag so far. -/
  tags : OrderedMap String (List String) := .empty

/-- The name and the value of a tag, given what follows its marker: the name ends at the first blank
run, and the value is what stands after that run. -/
def tagOf (text : List Char) : String × String :=
  let word := text.takeWhile fun c => !Text.isBlank c
  let rest := text.dropWhile fun c => !Text.isBlank c
  (String.ofList (word.drop 1), String.ofList (Text.trimStart rest))

namespace ClassReading

/-- Adds a value to a tag. -/
def addTag (r : ClassReading) (name value : String) : ClassReading :=
  { r with tags := r.tags.insert name ((r.tags.get? name).getD [] ++ [value]) }

/-- Adds a line of text to the part that is being read. -/
def addText (r : ClassReading) (line : String) : ClassReading :=
  match r.part with
  | .summary => { r with summary := r.summary ++ [line] }
  | .doc => { r with doc := r.doc ++ [line] }

/-- Takes a line that is not a delimiter. -/
def take (r : ClassReading) (line : String) : ClassReading :=
  let r := if line = bare then { r with part := .doc } else r
  let cs := line.toList
  if tagStart.toList.isPrefixOf cs then
    let tag := tagOf (Text.trim (cs.drop 2))
    r.addTag tag.1 tag.2
  else if 2 < cs.length then r.addText (String.ofList (Text.trimStart (cs.drop 2)) ++ "\n")
  else r

/-- Takes a line and tells whether to go on, which is not so after the closing delimiter. -/
def feed (r : ClassReading) (line : String) : ClassReading × Bool :=
  if line = opening then (r, true)
  else if line = closing then (r, false)
  else (r.take line, true)

/-- What a line can do: nothing, turn the machine, add a value to a tag, or add a line of text. -/
theorem feed_cases (r : ClassReading) (line : String) :
    (r.feed line).1 = r ∨ (r.feed line).1 = { r with part := .doc } ∨
      (r.feed line).1 = r.addTag (tagOf (Text.trim (line.toList.drop 2))).1
        (tagOf (Text.trim (line.toList.drop 2))).2 ∨
      (r.feed line).1 =
        r.addText (String.ofList (Text.trimStart (line.toList.drop 2)) ++ "\n") := by
  unfold feed
  split
  · exact Or.inl rfl
  · split
    · exact Or.inl rfl
    · by_cases hbare : line = bare
      · -- A bare marker is too short to be anything else.
        subst hbare
        exact Or.inr (Or.inl rfl)
      · simp only [take, if_neg hbare]
        split
        · exact Or.inr (Or.inr (Or.inl rfl))
        · split
          · exact Or.inr (Or.inr (Or.inr rfl))
          · exact Or.inl rfl

/-- Takes lines up to the closing delimiter. -/
def feedAll (r : ClassReading) : List String → ClassReading
  | [] => r
  | line :: lines =>
    match r.feed line with
    | (r, true) => r.feedAll lines
    | (r, false) => r

/-- What has been read. -/
def result (r : ClassReading) : ClassDoc where
  summary := Text.trimmed (String.join r.summary)
  doc := Text.trimmed (String.join r.doc)
  tags := r.tags

end ClassReading

/-- Reads the comment of a class; a comment without content says nothing. -/
def readClass (comment : Option String) : Option ClassDoc :=
  match contentLines comment with
  | [] => none
  | lines => some (ClassReading.feedAll {} lines).result

end Docblock

end TraitDocs
