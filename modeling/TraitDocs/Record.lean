import TraitDocs.Docblock.ClassDoc
import TraitDocs.Docblock.MethodDoc

/-!
# Records

The records that the document is written from: a class with its methods, and a method by itself or
together with the method that asserts the opposite.
-/

set_option autoImplicit false

namespace TraitDocs

/-- A documented method. -/
inductive MethodRecord
  | single (name : String) (doc : MethodDoc)
  /-- A method and the method that asserts the opposite, which may have an opposite of its own. -/
  | paired (name : String) (doc : MethodDoc) (inverse : MethodRecord)
  deriving Inhabited

namespace MethodRecord

/-- The name of a method. -/
def name : MethodRecord → String
  | .single name _ => name
  | .paired name _ _ => name

/-- The documentation of a method. -/
def doc : MethodRecord → MethodDoc
  | .single _ doc => doc
  | .paired _ doc _ => doc

/-- The method that asserts the opposite, if there is one. -/
def inverse? : MethodRecord → Option MethodRecord
  | .single _ _ => none
  | .paired _ _ inverse => some inverse

/-- A method with the method that asserts the opposite, in place of one that it may have. -/
def withInverse (r inverse : MethodRecord) : MethodRecord :=
  .paired r.name r.doc inverse

end MethodRecord

/-- A documented class. -/
structure ClassRecord where
  /-- What its comment says. -/
  classDoc : ClassDoc
  methods : OrderedMap String MethodRecord := .empty

end TraitDocs
