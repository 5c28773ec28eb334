import TraitDocs.Json.Display
import TraitDocs.Json.Reader
import TraitDocs.OrderedMap
import TraitDocs.Reflection
import TraitDocs.Text.Lines

/-!
# Manifests

A manifest is a JSON document that lists classes with their comments, methods and parameters.
Reading one checks its shape: every class and every method is an object, and methods and
parameters have names. A void list may stand for an empty one; a text is taken as the list of its
characters, and an object as the list of its names.
-/

set_option autoImplicit false

namespace TraitDocs

/-- The classes of a manifest by name, in the order of the document. -/
structure Manifest where
  classes : OrderedMap String ReflectedClass

namespace Manifest

/-- The names of the classes, in order. -/
def classNames (m : Manifest) : List String :=
  m.classes.keys

/-- The class of a name, if the manifest has it. -/
def reflect (m : Manifest) : Reflector :=
  m.classes.get?

/-- The failure of a manifest that does not have the shape of one. -/
def misshapen (source reason : String) : Stop :=
  .failure (.badManifest source reason none)

/-- The items of a value that is used as a list. -/
def itemsOf (value : Json) : Except Stop (List Json) :=
  if value.isVoid then .ok []
  else
    match value with
    | .array items => .ok items
    | .str text => .ok (text.toList.map fun c => .str c.toString)
    | .object fields => .ok (fields.map fun f => .str f.1)
    | _ => .error (.fault .notAList)

/-- The items of a field that is used as a list; no field counts as an empty list. -/
def fieldItems (name : String) (fields : List (String × Json)) : Except Stop (List Json) :=
  itemsOf ((Json.fieldOf name fields).getD .null)

/-- The name in the fields of a method or a parameter, unless it is void. -/
def nameOf? (fields : List (String × Json)) : Option Json :=
  (Json.fieldOf "name" fields).filter fun name => !name.isVoid

/-- The parameter of an entry with this name and these fields; dollar signs in front of the name are
left out. -/
def paramOf (name : Json) (fields : List (String × Json)) : Except Stop ReflectedParam :=
  match name with
  | .str name =>
    .ok {
      name := String.ofList (name.toList.dropWhile (· == '$'))
      hasDefault := (Json.fieldOf "default" fields).isSome
      default := (Json.fieldOf "default" fields).getD .null }
  | _ => .error (.fault .parameterNameNotText)

/-- Reads a parameter of a method. -/
def readParam (source className : String) (methodName : Json) (entry : Json) :
    Except Stop ReflectedParam :=
  let nameless := misshapen source
    ("parameter of \"" ++ className ++ ":" ++ methodName.display ++ "\" needs a \"name\"")
  match entry with
  | .object fields =>
    match nameOf? fields with
    | some name => paramOf name fields
    | none => .error nameless
  | _ => .error nameless

/-- Reads a method of a class. -/
def readMethod (source className : String) (entry : Json) : Except Stop ReflectedMethod :=
  let nameless := misshapen source ("every method of \"" ++ className ++ "\" needs a \"name\"")
  match entry with
  | .object fields =>
    match nameOf? fields with
    | some name => do
      let items ← fieldItems "parameters" fields
      let params ← items.mapM (readParam source className name)
      .ok {
        name := name
        comment := (Json.fieldOf "doc" fields).getD .null
        params := params
        isPublic := !((Json.fieldOf "public" fields).getD (.bool true)).isVoid }
    | none => .error nameless
  | _ => .error nameless

/-- Reads a class. -/
def readClass (source className : String) (entry : Json) : Except Stop ReflectedClass :=
  match entry with
  | .object fields => do
    let items ← fieldItems "methods" fields
    let methods ← items.mapM (readMethod source className)
    .ok ⟨className, (Json.fieldOf "doc" fields).getD .null, methods⟩
  | _ => .error (misshapen source ("entry for \"" ++ className ++ "\" must be an object"))

/-- Reads a manifest from a value; `source` names it in messages. -/
def ofJson (source : String) (data : Json) : Except Stop Manifest :=
  match data.field? "classes" with
  | some (.object entries) => do
    let classes ← entries.mapM fun e => do
      let c ← readClass source e.1 e.2
      return (e.1, c)
    .ok ⟨OrderedMap.ofList classes⟩
  | _ => .error (misshapen source "expected an object with a \"classes\" mapping")

/-- The fault of a document that goes beyond a limit. -/
def excessFault : Json.Excess → Fault
  | .digits => .numberTooLong
  | .depth => .nestedTooDeep

/-- Reads a manifest from a text whose line breaks are line feeds. -/
def ofText (limits : Json.Limits) (source : String) (text : List Char) : Except Stop Manifest :=
  match Json.parseChars limits text with
  | .ok data => ofJson source data
  | .error (.beyond limit) => .error (.fault (excessFault limit))
  | .error (.wrong e) =>
    let line := toString (Json.lineAt text e.position)
    .error (.failure (.badManifest source
      ("not valid JSON (" ++ e.problem.message ++ ", line " ++ line ++ ")") (some (e.report text))))

end Manifest

end TraitDocs
