import TraitDocs.Readme.Signature
import TraitDocs.Readme.Template
import TraitDocs.Record

/-!
# Sections of the document

Every class that is not internal gives an entry of the listing and a section with its methods.
Classes stand in ascending order of their names.
-/

set_option autoImplicit false

namespace TraitDocs.Readme

/-- The name of a class without its namespaces: what stands after the last backslash. -/
def shortName (className : String) : String :=
  String.ofList (className.toList.reverse.takeWhile (· != '\\')).reverse

/-- The heading, the signature and the short text of a method. -/
def methodBlock (name : String) (doc : MethodDoc) : String :=
  "\n#### " ++ name ++ "()\n###### " ++ name ++ "(" ++ signature doc.params ++ ")\n" ++
    doc.doc ++ "\n"

/-- A method with the method that asserts the opposite, if there is one. -/
def methodSection (name : String) (method : MethodRecord) : String :=
  methodBlock name method.doc ++
    match method.inverse? with
    | none => ""
    | some inverse => "\nThe inverse assertion" ++ methodBlock inverse.name inverse.doc ++ "\n"

/-- What a class requires: one value in a sentence, any other number as a list without the empty
ones. -/
def requirements (values : List String) : String :=
  match values with
  | [value] => "Requires " ++ value ++ ".\n"
  | values =>
    "Requires:\n" ++ String.join ((values.filter (· ≠ "")).map fun value => "* " ++ value ++ "\n")

/-- The entry of a class in the listing. -/
def listingEntry (className : String) (record : ClassRecord) : String :=
  "\n- **" ++ shortName className ++ "**<br/>\n  " ++ record.classDoc.summary

/-- The section of a class up to its methods. -/
def classHead (className : String) (classDoc : ClassDoc) : String :=
  "\n## " ++ shortName className ++ "\n###### " ++ className ++ "\n" ++ classDoc.doc ++ "\n"
    ++ (if classDoc.doc = "" then "" else "\n")
    ++ ((classDoc.tags.get? "requires").map requirements).getD ""
    ++ "\n### Methods\n"

/-- The section of a class: its head and the sections of its methods. -/
def classSection (className : String) (record : ClassRecord) : String :=
  classHead className record.classDoc
    ++ String.join (record.methods.entries.map fun e => methodSection e.1 e.2)

/-- The two texts that the document is filled with. -/
structure Sections where
  /-- The entries of the listing. -/
  listing : String
  /-- The sections of the classes. -/
  body : String
  deriving DecidableEq, Repr

/-- The classes that the document shows, in ascending order. -/
def shown (records : OrderedMap String ClassRecord) : List (String × ClassRecord) :=
  records.sorted.entries.filter fun e => !e.2.classDoc.hasTag "internal"

/-- The listing and the sections of the classes. -/
def sections (records : OrderedMap String ClassRecord) : Sections where
  listing := String.join ((shown records).map fun e => listingEntry e.1 e.2)
  body := String.join ((shown records).map fun e => classSection e.1 e.2)

/-- The document of the classes. -/
def render (records : OrderedMap String ClassRecord) (template : String) : String :=
  let s := sections records
  fill s.listing s.body template

end TraitDocs.Readme
