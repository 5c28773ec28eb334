import TraitDocs.Record
import TraitDocs.Text.Search

/-!
# Assertions and their opposites

The name of an assertion starts with `assert`. An assertion is negative if `Not` occurs after
that, and its positive name is its name without the first `Not`. Pairing takes the methods of a
class in ascending order of their names and files a negative assertion under the positive one, if
the class has it.
-/

set_option autoImplicit false

namespace TraitDocs.Assertion

/-- The start of the name of an assertion. -/
def stem : String := "assert"

/-- The word that makes an assertion negative. -/
def negation : String := "Not"

/-- The name of the assertion that a negative assertion denies; none for any other name. -/
def positiveName? (name : String) : Option String :=
  let cs := name.toList
  let negative := negation.toList
  if stem.toList.isPrefixOf cs && Text.occursIn negative (cs.drop stem.length) then
    some (String.ofList (Text.removeFirst negative cs))
  else none

/-- Files the method under `name` as the opposite of the one that it denies, if both are there. -/
def absorb (methods : OrderedMap String MethodRecord) (name : String) :
    OrderedMap String MethodRecord :=
  match positiveName? name with
  | none => methods
  | some positive =>
    match methods.get? positive, methods.get? name with
    | some target, some inverse => (methods.erase name).insert positive (target.withInverse inverse)
    | _, _ => methods

/-- The methods in ascending order of their names, each negative assertion filed under its positive
one. -/
def mergeNegatives (methods : OrderedMap String MethodRecord) : OrderedMap String MethodRecord :=
  methods.sorted.keys.foldl absorb methods.sorted

end TraitDocs.Assertion
