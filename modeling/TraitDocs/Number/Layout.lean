import TraitDocs.Number.Shortest

/-!
# Numbers as text

How a number is laid out: the shortest digits, positional for the powers of ten from `-4` to `15`,
with one place after the point at least, and otherwise with one digit before the point and an
exponent of two digits at least. The words for infinity and for no number are the writer's choice.
-/

set_option autoImplicit false

namespace TraitDocs

/-- The decisions of a writer of binary64 numbers. -/
structure NumberLayout where
  /-- The least power of ten of a leading digit that is written positionally. -/
  leastPositional : Int := -4
  /-- The greatest power of ten of a leading digit that is written positionally. -/
  greatestPositional : Int := 15
  /-- The least number of digits of an exponent. -/
  exponentWidth : Nat := 2
  /-- The word for positive infinity. -/
  infinity : String
  /-- The word for no number. -/
  nan : String

namespace NumberLayout

/-- A run of zeros. -/
def zeros (n : Nat) : List Char :=
  List.replicate n '0'

/-- The text of a positive decimal whose leading digit counts `10 ^ power`, without an exponent. -/
def positional (digits : List Char) (power : Int) : List Char :=
  if power < 0 then '0' :: '.' :: zeros ((-power).toNat - 1) ++ digits
  else
    let whole := power.toNat + 1
    if digits.length ≤ whole then digits ++ zeros (whole - digits.length) ++ ['.', '0']
    else digits.take whole ++ '.' :: digits.drop whole

/-- The text of a positive decimal whose leading digit counts `10 ^ power`, with an exponent. -/
def scientific (layout : NumberLayout) (digits : List Char) (power : Int) : List Char :=
  let fraction := digits.drop 1
  let size := Nat.toDigits 10 power.natAbs
  digits.take 1 ++ (if fraction.isEmpty then [] else '.' :: fraction)
    ++ 'e' :: (if power < 0 then '-' else '+') :: zeros (layout.exponentWidth - size.length) ++ size

/-- The digits of a positive decimal without the zeros at their end. -/
def significant (digits : List Char) : List Char :=
  (digits.reverse.dropWhile (· == '0')).reverse

/-- The text of a positive finite number. -/
def magnitude (layout : NumberLayout) (mantissa : Nat) (exponent : Int) : List Char :=
  let decimal := Binary64.shortest mantissa exponent
  let written := Nat.toDigits 10 decimal.digits
  let power := decimal.exponent + (written.length : Int) - 1
  let digits := significant written
  if layout.leastPositional ≤ power ∧ power ≤ layout.greatestPositional then positional digits power
  else layout.scientific digits power

/-- The text of a number. -/
def write (layout : NumberLayout) : Binary64 → String
  | .nan => layout.nan
  | .infinity negative => (if negative then "-" else "") ++ layout.infinity
  | .finite negative mantissa exponent =>
    (if negative then "-" else "") ++
      if mantissa = 0 then "0.0" else String.ofList (layout.magnitude mantissa exponent)

end NumberLayout

end TraitDocs
