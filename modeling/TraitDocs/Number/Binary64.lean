/-!
# Binary64 numbers

The numbers of the 64-bit binary format: a finite one is a sign, a mantissa below `2 ^ 53` and a
power of two, in the form that gives the mantissa as many bits as the format allows. A decimal
fraction is read as the number nearest to it; of two equally near ones, the one with the even
mantissa.
-/

set_option autoImplicit false

namespace TraitDocs

/-- A number of the 64-bit binary format. -/
inductive Binary64
  /-- No number. -/
  | nan
  /-- Positive or negative infinity. -/
  | infinity (negative : Bool)
  /-- The number `mantissa * 2 ^ exponent`, or its opposite. -/
  | finite (negative : Bool) (mantissa : Nat) (exponent : Int)
  deriving DecidableEq, Repr

namespace Binary64

/-- The least power of two in the format. -/
def leastExponent : Int := -1074

/-- The greatest power of two that a mantissa of 53 bits takes in the format. -/
def greatestExponent : Int := 971

/-- The least mantissa of 53 bits. -/
def leastMantissa : Nat := Nat.pow 2 52

/-- A power of a base as a fraction, numerator and denominator. -/
def powerRatio (base : Nat) (exponent : Int) : Nat × Nat :=
  if 0 ≤ exponent then (Nat.pow base exponent.toNat, 1) else (1, Nat.pow base (-exponent).toNat)

/-- The whole number nearest to a fraction; of two equally near ones, the even one. -/
def roundRatio (num den : Nat) : Nat :=
  let whole := num / den
  let twice := 2 * (num % den)
  if twice < den then whole
  else if den < twice then whole + 1
  else whole + whole % 2

/-- A fraction divided by a power of two, numerator and denominator. -/
def scaleDown (num den : Nat) (exponent : Int) : Nat × Nat :=
  let (up, down) := powerRatio 2 exponent
  (num * down, den * up)

/-- The power of two that leaves a positive fraction a mantissa of 53 bits, or the least one. -/
def exponentOf (num den : Nat) : Int :=
  let guess : Int := (num.log2 : Int) - (den.log2 : Int) - 52
  let (n, d) := scaleDown num den guess
  let fitted := if n / d < leastMantissa then guess - 1 else guess
  max fitted leastExponent

/-- The number nearest to a positive fraction, with a sign. -/
def ofRatio (negative : Bool) (num den : Nat) : Binary64 :=
  let exponent := exponentOf num den
  let (n, d) := scaleDown num den exponent
  let mantissa := roundRatio n d
  let (mantissa, exponent) :=
    if mantissa = 2 * leastMantissa then (leastMantissa, exponent + 1) else (mantissa, exponent)
  if greatestExponent < exponent then .infinity negative
  else .finite negative mantissa exponent

/-- The number zero, with a sign. -/
def zero (negative : Bool) : Binary64 :=
  .finite negative 0 leastExponent

/-- The number nearest to `digits * 10 ^ exponent`, with a sign. A magnitude far outside the
format is settled from the number of digits alone. -/
def ofDecimal (negative : Bool) (digits : Nat) (exponent : Int) : Binary64 :=
  let magnitude : Int := exponent + ((Nat.toDigits 10 digits).length : Int)
  if digits = 0 then zero negative
  else if 310 < magnitude then .infinity negative
  else if magnitude < -330 then zero negative
  else
    let (up, down) := powerRatio 10 exponent
    ofRatio negative (digits * up) down

/-- Tells whether a number is zero, of either sign. -/
def isZero : Binary64 → Bool
  | .finite _ mantissa _ => mantissa = 0
  | _ => false

/-- Tells whether a number has the value of an integer. -/
def equalsInt (x : Binary64) (n : Int) : Bool :=
  match x with
  | .finite negative mantissa exponent =>
    let (up, down) := powerRatio 2 exponent
    let value : Int := if negative then -(mantissa * up : Nat) else (mantissa * up : Nat)
    value = n * (down : Int)
  | _ => false

/-- Tells whether two numbers have one value. Zeros of both signs do, and what is no number counts
as one value. -/
def sameValue (x y : Binary64) : Bool :=
  x = y || (x.isZero && y.isZero)

end Binary64

end TraitDocs
