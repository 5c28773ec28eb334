import TraitDocs.Failure
import TraitDocs.Text.Lines

/-!
# Texts in files

A file holds a text in its UTF-8 form. Reading one refuses bytes that are not such a form and writes
every line break as a line feed; writing one changes nothing.
-/

set_option autoImplicit false

namespace TraitDocs.Text

/-- The text of a file, with line feeds for line breaks. -/
def decode (bytes : ByteArray) : Except Fault (List Char) :=
  match String.fromUTF8? bytes with
  | some text => .ok (unifyBreaks text.toList)
  | none => .error .notUtf8

/-- The bytes of a text. -/
def encode (text : String) : ByteArray :=
  text.toUTF8

end TraitDocs.Text
