import TraitDocs.Text.CharRange

/-!
# Blank characters and trimming

The blank characters are the white space of the Unicode standard together with the four information
separators U+001C to U+001F. Trimming removes the longest blank run at an end of a text.
-/

set_option autoImplicit false

namespace TraitDocs.Text

/-- The code points of the blank characters. -/
def blankRanges : List CharRange :=
  [⟨0x09, 0x0D⟩, ⟨0x1C, 0x20⟩, ⟨0x85, 0x85⟩, ⟨0xA0, 0xA0⟩, ⟨0x1680, 0x1680⟩, ⟨0x2000, 0x200A⟩,
   ⟨0x2028, 0x2029⟩, ⟨0x202F, 0x202F⟩, ⟨0x205F, 0x205F⟩, ⟨0x3000, 0x3000⟩]

/-- Tells whether a character is blank. -/
def isBlank (c : Char) : Bool :=
  inClass blankRanges c

/-- Tells whether a character is a carriage return or a line feed. -/
def isLineBreak (c : Char) : Bool :=
  c == '\r' || c == '\n'

/-- Removes the blank run at the front. -/
def trimStart (cs : List Char) : List Char :=
  cs.dropWhile isBlank

/-- Removes the blank run at the back. -/
def trimEnd (cs : List Char) : List Char :=
  (cs.reverse.dropWhile isBlank).reverse

/-- Removes the blank runs at both ends. -/
def trim (cs : List Char) : List Char :=
  trimEnd (trimStart cs)

/-- A text without the blank runs at its ends. -/
def trimmed (s : String) : String :=
  String.ofList (trim s.toList)

end TraitDocs.Text
