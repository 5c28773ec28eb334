/-!
# Character classes

Classes of characters given by ranges of code points.

A class is a list of closed ranges, and a character belongs to it when one of the ranges covers its
code point.
-/

set_option autoImplicit false

namespace TraitDocs.Text

/-- A closed range of code points, from `first` to `last`. -/
structure CharRange where
  /-- The least code point of the range. -/
  first : Nat
  /-- The greatest code point of the range. -/
  last : Nat
  deriving DecidableEq, Repr

/-- Tells whether a range covers a character. -/
def CharRange.covers (r : CharRange) (c : Char) : Bool :=
  r.first ≤ c.toNat && c.toNat ≤ r.last

/-- Tells whether some range of a class covers a character. -/
def inClass (ranges : List CharRange) (c : Char) : Bool :=
  ranges.any fun r => r.covers c

end TraitDocs.Text
