import TraitDocs.Number.Binary64

/-!
# Shortest decimal digits

The decimal of fewest digits that reads back as a given number. The decimals that read back are
those in the interval around the number that rounds to it, whose ends belong to it when the
mantissa is even. On the grid of the decimals with one digit, then two, up to seventeen, the two
neighbours of the number are tried; the first grid with a hit settles the digits. Of two hits the
nearer is taken, and of two equally near ones the even one.
-/

set_option autoImplicit false

namespace TraitDocs.Binary64

/-- A decimal number `digits * 10 ^ exponent`. -/
structure Decimal where
  /-- The digits, read as a whole number. -/
  digits : Nat
  /-- The power of ten. -/
  exponent : Int
  deriving DecidableEq, Repr

/-- Compares `a * 2 ^ p` with `b * 10 ^ q`. -/
def comparePowers (a : Nat) (p : Int) (b : Nat) (q : Int) : Ordering :=
  let (twoUp, twoDown) := powerRatio 2 p
  let (tenUp, tenDown) := powerRatio 10 q
  compare (a * twoUp * tenDown) (b * tenUp * twoDown)

/-- The greatest `d` with `d * 10 ^ q` at most `a * 2 ^ p`. -/
def floorOnGrid (a : Nat) (p : Int) (q : Int) : Nat :=
  let (twoUp, twoDown) := powerRatio 2 p
  let (tenUp, tenDown) := powerRatio 10 q
  (a * twoUp * tenDown) / (twoDown * tenUp)

/-- Tells whether `d * 10 ^ q` rounds to the number `mantissa * 2 ^ exponent`. The interval reaches
half a unit up and down, and a quarter of a unit down from the least mantissa of its power. -/
def readsBack (mantissa : Nat) (exponent : Int) (d : Nat) (q : Int) : Bool :=
  let below := if mantissa = leastMantissa ∧ leastExponent < exponent then 1 else 2
  let low := comparePowers (4 * mantissa - below) (exponent - 2) d q
  let high := comparePowers (4 * mantissa + 2) (exponent - 2) d q
  let ends := mantissa % 2 = 0
  (low == .lt || (ends && low == .eq)) && (high == .gt || (ends && high == .eq))

/-- The least power of ten above the number, found from the size of its binary form. -/
def powerAbove (mantissa : Nat) (exponent : Int) : Int :=
  let guess := Int.fdiv (((mantissa.log2 : Int) + exponent) * 30103) 100000
  if comparePowers mantissa exponent 1 guess == .lt then guess
  else if comparePowers mantissa exponent 1 (guess + 1) == .lt then guess + 1
  else guess + 2

/-- The decimal on the grid `10 ^ q` that is nearest to the number among those that read back. -/
def nearestOnGrid (mantissa : Nat) (exponent : Int) (q : Int) : Option Decimal :=
  let d := floorOnGrid mantissa exponent q
  match readsBack mantissa exponent d q, readsBack mantissa exponent (d + 1) q with
  | false, false => none
  | true, false => some ⟨d, q⟩
  | false, true => some ⟨d + 1, q⟩
  | true, true =>
    match comparePowers (2 * mantissa) exponent (2 * d + 1) q with
    | .lt => some ⟨d, q⟩
    | .gt => some ⟨d + 1, q⟩
    | .eq => some ⟨d + d % 2, q⟩

/-- The shortest decimal that reads back as the positive number `mantissa * 2 ^ exponent`. -/
def shortest (mantissa : Nat) (exponent : Int) : Decimal :=
  let above := powerAbove mantissa exponent
  let grids := (List.range 17).map fun (n : Nat) => above - (n : Int) - 1
  match grids.findSome? (nearestOnGrid mantissa exponent) with
  | some found => found
  | none => ⟨floorOnGrid mantissa exponent (above - 17), above - 17⟩

end TraitDocs.Binary64
