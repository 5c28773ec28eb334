import TraitDocs.Json.Writer
import TraitDocs.Text.Printable

/-!
# Values in messages

The text of a value where a message or a signature shows it. A text by itself stands as it is;
inside a list or an object it is quoted, in single quotes unless it holds a single quote and no
double one. The backslash, the quote in use, the line feed, the carriage return and the tab are
escaped by a backslash, and every other character that is not printable by its code point in
hexadecimal digits.
-/

set_option autoImplicit false

namespace TraitDocs.Json

/-- Numbers in a message. -/
def messageNumbers : NumberLayout :=
  { infinity := "inf", nan := "nan" }

/-- The quote for a text: single, unless the text holds a single quote and no double one. -/
def quoteFor (cs : List Char) : Char :=
  if cs.contains '\'' && !cs.contains '"' then '"' else '\''

/-- A character inside a text quoted by `quote`. -/
def displayChar (quote c : Char) : List Char :=
  if c = quote ∨ c = '\\' then ['\\', c]
  else if c = '\n' then ['\\', 'n']
  else if c = '\r' then ['\\', 'r']
  else if c = '\t' then ['\\', 't']
  else if Text.isPrintable c then [c]
  else if c.toNat < 0x100 then '\\' :: 'x' :: hexPadded 2 c.toNat
  else if c.toNat < 0x10000 then '\\' :: 'u' :: hexPadded 4 c.toNat
  else '\\' :: 'U' :: hexPadded 8 c.toNat

/-- A text in the quotes of a message. -/
def displayQuoted (s : String) : String :=
  let cs := s.toList
  let quote := quoteFor cs
  String.ofList (quote :: cs.flatMap (displayChar quote) ++ [quote])

mutual

/-- A value inside a list or an object of a message. -/
def displayNested : Json → String
  | .null => "None"
  | .bool value => if value then "True" else "False"
  | .int value => toString value
  | .float value => messageNumbers.write value
  | .str value => displayQuoted value
  | .array items => "[" ++ ", ".intercalate (displayItems items) ++ "]"
  | .object fields => "\x7b" ++ ", ".intercalate (displayFields fields) ++ "\x7d"

/-- The items of a list of a message. -/
def displayItems : List Json → List String
  | [] => []
  | item :: items => displayNested item :: displayItems items

/-- The fields of an object of a message. -/
def displayFields : List (String × Json) → List String
  | [] => []
  | (name, value) :: fields =>
    (displayQuoted name ++ ": " ++ displayNested value) :: displayFields fields

end

/-- A value in a message; a text stands as it is. -/
def display : Json → String
  | .str value => value
  | value => displayNested value

end TraitDocs.Json
