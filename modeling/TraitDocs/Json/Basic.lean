import TraitDocs.Number.Binary64

/-!
# JSON values

Values with whole numbers kept apart from binary64 numbers, and with objects whose fields keep their
order. Reading a document gives objects in which no sequence of code points is the name of two
fields.
-/

set_option autoImplicit false

namespace TraitDocs

/-- A JSON value. -/
inductive Json
  | null
  | bool (value : Bool)
  /-- A whole number, of any size. -/
  | int (value : Int)
  /-- A number written with a fraction or an exponent. -/
  | float (value : Binary64)
  | str (value : String)
  | array (items : List Json)
  /-- Named values, in order. -/
  | object (fields : List (String × Json))
  deriving Inhabited

namespace Json

/-- The value under a name in a list of fields. -/
def fieldOf (name : String) : List (String × Json) → Option Json
  | [] => none
  | (n, v) :: fields => if n = name then some v else fieldOf name fields

/-- The value of a field, if this is an object that has it. -/
def field? (name : String) : Json → Option Json
  | .object fields => fieldOf name fields
  | _ => none

/-- Tells whether a value counts as nothing: null, false, zero, and the empty text, list and
object. -/
def isVoid : Json → Bool
  | .null => true
  | .bool value => !value
  | .int value => value = 0
  | .float value => value.isZero
  | .str value => value = ""
  | .array items => items.isEmpty
  | .object fields => fields.isEmpty

end Json

end TraitDocs
