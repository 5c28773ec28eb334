import TraitDocs.Docblock.MethodDoc
import TraitDocs.Json.Display

/-!
# Signatures

The parameters of a method as its heading shows them: type, dollar sign and name, separated by
commas. A parameter with a default value stands in brackets, which enclose the comma before it,
and shows the value.
-/

set_option autoImplicit false

namespace TraitDocs.Readme

/-- A default value as a signature shows it: a text in single quotes, with nothing escaped. -/
def literal : Json → String
  | .str value => "'" ++ value ++ "'"
  | .null => "null"
  | .bool value => if value then "true" else "false"
  | value => value.display

/-- A parameter of a signature; the first one has no separator before it. -/
def signaturePart (first : Bool) (name : String) (p : ParamDoc) : String :=
  let separator := if first then "" else ", "
  if p.hasDefault then
    (if first then "" else " ") ++ "[" ++ separator ++ p.type ++ " $" ++ name ++ " = "
      ++ literal p.default ++ "]"
  else separator ++ p.type ++ " $" ++ name

/-- The parts of a signature, in order. -/
def signatureParts : List (String × ParamDoc) → List String
  | [] => []
  | (name, p) :: rest =>
    signaturePart true name p :: rest.map fun e => signaturePart false e.1 e.2

/-- The signature of the parameters of a method. -/
def signature (params : OrderedMap String ParamDoc) : String :=
  String.join (signatureParts params.entries)

end TraitDocs.Readme
