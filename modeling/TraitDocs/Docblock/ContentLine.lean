import TraitDocs.Text.Lines

/-!
# The lines of a comment

A comment is read line by line. Its content lines are its pieces between carriage returns and line
feeds, trimmed, without the empty ones; a comment of delimiters alone has none.
-/

set_option autoImplicit false

namespace TraitDocs.Docblock

/-- The delimiter that opens a comment. -/
def opening : String := "/**"

/-- The delimiter that closes a comment. -/
def closing : String := "*/"

/-- The marker on a line without text. -/
def bare : String := "*"

/-- The start of a tag line. -/
def tagStart : String := "* @"

/-- The start of a parameter line. -/
def paramStart : String := "* @param"

/-- Tells whether a line is a delimiter. -/
def isDelimiter (line : String) : Bool :=
  line == opening || line == closing

/-- The trimmed lines of a comment that are not empty, delimiters included. -/
def nonblankLines (comment : String) : List String :=
  ((Text.pieces comment.toList).map Text.trim).filterMap fun piece =>
    if piece.isEmpty then none else some (String.ofList piece)

/-- The content lines of a comment: its trimmed lines that are not empty, or none if these are all
delimiters. No comment counts as an empty one. -/
def contentLines (comment : Option String) : List String :=
  let lines := nonblankLines (comment.getD "")
  if lines.all isDelimiter then [] else lines

end TraitDocs.Docblock
