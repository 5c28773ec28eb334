import TraitDocs.Json.Basic
import TraitDocs.Number.Layout

/-!
# Writing a JSON document

Items are separated by a comma and a blank, names and values by a colon and a blank. A text
escapes the quote, the backslash and the characters below the blank, and nothing else.
-/

set_option autoImplicit false

namespace TraitDocs.Json

/-- Numbers in a document: infinity and no number have words of their own. -/
def documentNumbers : NumberLayout :=
  { infinity := "Infinity", nan := "NaN" }

/-- A number in hexadecimal digits, at least `width` of them. -/
def hexPadded (width n : Nat) : List Char :=
  let digits := Nat.toDigits 16 n
  List.replicate (width - digits.length) '0' ++ digits

/-- A character as it stands in a quoted text. -/
def escapeChar (c : Char) : List Char :=
  if c = '"' then ['\\', '"']
  else if c = '\\' then ['\\', '\\']
  else if c = '\n' then ['\\', 'n']
  else if c = '\r' then ['\\', 'r']
  else if c = '\t' then ['\\', 't']
  else if c = '\x08' then ['\\', 'b']
  else if c = '\x0c' then ['\\', 'f']
  else if c.toNat < 0x20 then '\\' :: 'u' :: hexPadded 4 c.toNat
  else [c]

/-- A text in quotes. -/
def quote (s : String) : String :=
  String.ofList ('"' :: s.toList.flatMap escapeChar ++ ['"'])

mutual

/-- The document of a value. -/
def write : Json → String
  | .null => "null"
  | .bool value => if value then "true" else "false"
  | .int value => toString value
  | .float value => documentNumbers.write value
  | .str value => quote value
  | .array items => "[" ++ ", ".intercalate (writeItems items) ++ "]"
  | .object fields => "\x7b" ++ ", ".intercalate (writeFields fields) ++ "\x7d"

/-- The documents of the items of a list. -/
def writeItems : List Json → List String
  | [] => []
  | item :: items => write item :: writeItems items

/-- The fields of an object with their names. -/
def writeFields : List (String × Json) → List String
  | [] => []
  | (name, value) :: fields => (quote name ++ ": " ++ write value) :: writeFields fields

end

end TraitDocs.Json
