import TraitDocs.Failure
import TraitDocs.Json.Basic

/-!
# Reflected classes

What is known of a class before its comments are read: its name, its comment and its methods with
their comments and declared parameters. Comments, and the names of methods, are values of any
kind: a comment that is void says nothing, and one that is neither void nor text cannot be read.
-/

set_option autoImplicit false

namespace TraitDocs

/-- A declared parameter. -/
structure ReflectedParam where
  /-- The name, without a dollar sign. -/
  name : String
  /-- Tells whether the parameter declares a default value. -/
  hasDefault : Bool := false
  /-- The default value, which counts only if there is one. -/
  default : Json := .null

/-- A declared method. -/
structure ReflectedMethod where
  name : Json
  comment : Json := .null
  /-- The parameters, in order; a name may stand twice. -/
  params : List ReflectedParam := []
  /-- Tells whether the method is public. -/
  isPublic : Bool := true

/-- A declared class. -/
structure ReflectedClass where
  name : String
  comment : Json := .null
  /-- The methods, in order; a name may stand twice. -/
  methods : List ReflectedMethod := []

/-- A source of reflected classes: the class of a name, if the name is known. -/
abbrev Reflector := String → Option ReflectedClass

/-- The text of a comment. -/
def commentText (comment : Json) : Except Fault (Option String) :=
  if comment.isVoid then .ok none
  else
    match comment with
    | .str text => .ok (some text)
    | _ => .error .commentNotText

end TraitDocs
