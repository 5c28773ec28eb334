/-!
# Why a JSON document is not read

Something is wrong with its text, or it goes beyond a limit. A fault in the text has a position,
counted in characters from the front, and its report gives the line and the column of that position,
both counted from one. A limit says nothing about the text: it is what the reader can hold.
-/

set_option autoImplicit false

namespace TraitDocs.Json

/-- What is wrong with a JSON text. -/
inductive Problem
  /-- The text starts with a byte order mark. -/
  | byteOrderMark
  /-- There is no value where one must be. -/
  | expectingValue
  /-- There is no field name where one must be. -/
  | expectingName
  /-- There is no colon after a field name. -/
  | expectingColon
  /-- There is neither a comma nor the closing bracket after an item. -/
  | expectingComma
  /-- More text follows the value. -/
  | extraData
  /-- A quoted text has no end. -/
  | unterminated
  /-- A control character stands in a quoted text. -/
  | controlCharacter
  /-- A backslash is followed by a character that it cannot escape. -/
  | badEscape
  /-- A `\u` is not followed by four hexadecimal digits and more text. -/
  | badCodeEscape
  deriving DecidableEq, Repr

/-- The words for a problem. -/
def Problem.message : Problem → String
  | .byteOrderMark => "Unexpected UTF-8 BOM (decode using utf-8-sig)"
  | .expectingValue => "Expecting value"
  | .expectingName => "Expecting property name enclosed in double quotes"
  | .expectingColon => "Expecting ':' delimiter"
  | .expectingComma => "Expecting ',' delimiter"
  | .extraData => "Extra data"
  | .unterminated => "Unterminated string starting at"
  | .controlCharacter => "Invalid control character at"
  | .badEscape => "Invalid \\escape"
  | .badCodeEscape => "Invalid \\uXXXX escape"

/-- A problem and where it is. -/
structure ReadError where
  problem : Problem
  /-- The number of characters before the place. -/
  position : Nat
  deriving DecidableEq, Repr

/-- The line of a position in a text. -/
def lineAt (text : List Char) (position : Nat) : Nat :=
  1 + (text.take position).count '\n'

/-- The column of a position in a text. -/
def columnAt (text : List Char) (position : Nat) : Nat :=
  1 + ((text.take position).reverse.takeWhile (· != '\n')).length

/-- The report of a fault in a text: the problem, the line, the column and the position. -/
def ReadError.report (e : ReadError) (text : List Char) : String :=
  e.problem.message ++ ": line " ++ toString (lineAt text e.position) ++ " column "
    ++ toString (columnAt text e.position) ++ " (char " ++ toString e.position ++ ")"

/-- What a reader can hold. -/
structure Limits where
  /-- The most digits of a whole number. -/
  digits : Nat := 4300
  /-- The most lists and objects that can be open at once. -/
  depth : Nat
  deriving DecidableEq, Repr

/-- A limit that a document goes beyond. -/
inductive Excess
  /-- A whole number has too many digits. -/
  | digits
  /-- Too many lists and objects are open at once. -/
  | depth
  deriving DecidableEq, Repr

/-- Why a document is not read. -/
inductive Refusal
  /-- Something is wrong with its text. -/
  | wrong (fault : ReadError)
  /-- It goes beyond a limit. -/
  | beyond (limit : Excess)
  deriving DecidableEq, Repr

end TraitDocs.Json
