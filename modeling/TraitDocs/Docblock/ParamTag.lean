import TraitDocs.Text.Blank
import TraitDocs.Text.Word

/-!
# Parameter lines

What follows `@param` is a type, blanks, a dollar sign with the name, and a description: the type
is the first run of characters that are not blank, the name the longest run of word characters
after the dollar sign. The description holds no line feed but, at most, as its last character.
-/

set_option autoImplicit false

namespace TraitDocs.Docblock

/-- A documented parameter: its type and its name. -/
structure ParamTag where
  type : String
  /-- The name, without its dollar sign. -/
  name : String
  deriving DecidableEq, Repr

/-- Tells whether a text holds no line feed but, at most, as its last character. -/
def isOneLine (cs : List Char) : Bool :=
  !(cs.dropLast.contains '\n')

/-- Reads what follows `@param`, if it has the form of a parameter. A dollar sign found after the
type has blanks before it, and then the type is not empty. -/
def paramTag? (text : List Char) : Option ParamTag :=
  let atType := Text.trimStart text
  let type := atType.takeWhile fun c => !Text.isBlank c
  let afterType := atType.dropWhile fun c => !Text.isBlank c
  match Text.trimStart afterType with
  | '$' :: atName =>
    let name := atName.takeWhile Text.isWord
    let description := atName.dropWhile Text.isWord
    if name.isEmpty || !isOneLine description then none
    else some ⟨String.ofList type, String.ofList name⟩
  | _ => none

end TraitDocs.Docblock
