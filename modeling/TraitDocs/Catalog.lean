import TraitDocs.Assertion
import TraitDocs.Json.Display
import TraitDocs.Log
import TraitDocs.Readme.Section
import TraitDocs.Reflection

/-!
# Collecting the records of classes

The requested classes are looked up one after the other. The comment of a class is read first; an
internal class is left out, and of any other class every public method is validated: its comment
must be there, have a short text and document exactly the declared parameters. The first failure
ends the work. The journal says which names were looked up and what was logged, also when the work
failed.
-/

set_option autoImplicit false

namespace TraitDocs.Catalog

/-- What happened while classes were collected. -/
structure Journal where
  /-- The names looked up, in order. -/
  lookups : List String := []
  /-- What was logged, in order. -/
  events : List Log.Event := []
  deriving DecidableEq, Repr

/-- The documented parameter of a declaration, with the default value that it declares. -/
def declaredParam (doc : MethodDoc) (p : ReflectedParam) : Option (String × ParamDoc) :=
  (doc.params.get? p.name).map fun documented =>
    (p.name, if p.hasDefault then ⟨documented.type, true, p.default⟩ else documented)

/-- The documentation of a method with its parameters as declared: in the order of their first
declarations, each as its last declaration says. -/
def attachParams (doc : MethodDoc) (params : List ReflectedParam) : MethodDoc :=
  { doc with params := OrderedMap.ofList (params.filterMap (declaredParam doc)) }

/-- The parameter on which a comment and a declaration disagree: the first that is declared and not
documented, or else the first that is documented and not declared. -/
def mismatch? (doc : MethodDoc) (params : List ReflectedParam) : Option String :=
  let declared := params.map (·.name)
  (declared.find? fun name => !doc.params.contains name).or
    (doc.params.keys.find? fun name => !declared.contains name)

/-- Validates a method of a class: the documentation that its record shows. -/
def validate (className : String) (method : ReflectedMethod) : Except Stop MethodDoc :=
  let shown := method.name.display
  match commentText method.comment with
  | .error fault => .error (.fault fault)
  | .ok comment =>
    match Docblock.readMethod comment with
    | .error _ => .error (.failure (.unreadableMethod className shown comment))
    | .ok none => .error (.failure (.missingMethodDoc className shown))
    | .ok (some doc) =>
      if doc.doc = "" then .error (.failure (.emptyDescription className shown))
      else
        match mismatch? doc method.params with
        | some parameter => .error (.failure (.parameterMismatch className shown parameter))
        | none => .ok (attachParams doc method.params)

/-- Tells whether a value is a list or an object. -/
def isCompound : Json → Bool
  | .array _ => true
  | .object _ => true
  | _ => false

/-- Validates a method and checks that its name is not a list or an object. -/
def namedDoc (className : String) (method : ReflectedMethod) : Except Stop (Json × MethodDoc) :=
  match validate className method with
  | .error stop => .error stop
  | .ok doc =>
    if isCompound method.name then .error (.fault .methodNameCompound) else .ok (method.name, doc)

/-- The names and documentations of the public methods, in order. -/
def publicDocs (c : ReflectedClass) : Except Stop (List (Json × MethodDoc)) :=
  (c.methods.filter (·.isPublic)).mapM (namedDoc c.name)

/-- A truth value as the number that it is equal to; any other value as it is. -/
def asNumber : Json → Json
  | .bool value => .int (if value then 1 else 0)
  | value => value

/-- Tells whether two names are one: texts by their characters, numbers and truth values by their
value. -/
def sameName (a b : Json) : Bool :=
  match asNumber a, asNumber b with
  | .null, .null => true
  | .str a, .str b => a = b
  | .int a, .int b => a = b
  | .int a, .float b => b.equalsInt a
  | .float a, .int b => a.equalsInt b
  | .float a, .float b => a.sameValue b
  | _, _ => false

/-- The number of different names. -/
def countNames (names : List Json) : Nat :=
  (names.foldl (fun seen name => if seen.any (sameName name) then seen else name :: seen) []).length

/-- The text of a name that is text. -/
def nameText? : Json → Option String
  | .str name => some name
  | _ => none

/-- The records of methods by name. Every name must be text: names of two kinds cannot be put in
order, and names that are not text cannot be told positive from negative. -/
def methodRecords (docs : List (Json × MethodDoc)) : Except Stop (OrderedMap String MethodRecord) :=
  let texts := docs.filterMap fun d =>
    (nameText? d.1).map fun name => (name, MethodRecord.single name d.2)
  if texts.length = docs.length then .ok (OrderedMap.ofList texts)
  else if texts.isEmpty then .error (.fault .methodNameNotText)
  else .error (.fault .methodNamesMixed)

/-- The record of a class with what is logged on the way; an internal class has none. -/
def classRecord (c : ReflectedClass) : List Log.Event × Except Stop (Option ClassRecord) :=
  match commentText c.comment with
  | .error fault => ([], .error (.fault fault))
  | .ok comment =>
    match Docblock.readClass comment with
    | none => ([], .error (.failure (.missingClassDoc c.name)))
    | some classDoc =>
      if classDoc.hasTag "internal" then ([.skipped c.name], .ok none)
      else
        match publicDocs c with
        | .error stop => ([], .error stop)
        | .ok docs =>
          ([.parsed c.name (countNames (docs.map Prod.fst))],
            (methodRecords docs).map fun records =>
              some ⟨classDoc, Assertion.mergeNegatives records⟩)

/-- Collects the records of the remaining names. -/
def collectFrom (reflect : Reflector) (journal : Journal)
    (records : OrderedMap String ClassRecord) :
    List String → Journal × Except Stop (OrderedMap String ClassRecord)
  | [] => (journal, .ok records.sorted)
  | name :: names =>
    let journal := { journal with lookups := journal.lookups ++ [name] }
    match reflect name with
    | none => (journal, .error (.failure (.unknownClass name)))
    | some c =>
      let (events, outcome) := classRecord c
      let journal := { journal with events := journal.events ++ events }
      match outcome with
      | .error stop => (journal, .error stop)
      | .ok none => collectFrom reflect journal records names
      | .ok (some record) => collectFrom reflect journal (records.insert name record) names

/-- The records of the requested classes, in ascending order of their names and without the internal
ones, and what happened on the way. -/
def collect (reflect : Reflector) (names : List String) :
    Journal × Except Stop (OrderedMap String ClassRecord) :=
  collectFrom reflect {} .empty names

/-- The document of the requested classes, and what happened on the way. -/
def generate (reflect : Reflector) (template : String) (names : List String) :
    Journal × Except Stop String :=
  let (journal, outcome) := collect reflect names
  (journal, outcome.map fun records => Readme.render records template)

end TraitDocs.Catalog
