import ServiceCatalog.Numeric.Digits

/-!
# Finite binary floating point numbers

A number of the 64-bit binary format is a sign, a significand below `2^53` and an exponent
from `-1074` to `971`; its value is `± significand * 2^exponent`.  Only the finite numbers are
represented: where the format would give an infinity, the functions of this module answer
`none`.

All arithmetic is exact arithmetic on natural numbers followed by one rounding
(`Binary64.ofRatio`): to the nearest number of the format, and to the one with the even
significand if two are equally near.  So every definition unfolds to `Nat`, and nothing rests
on the machine's floating point unit.
-/

namespace ServiceCatalog.Numeric

set_option autoImplicit false

/-- A finite number of the 64-bit binary format. -/
structure Binary64 where
  negative : Bool
  significand : Nat
  exponent : Int
  deriving DecidableEq, Repr, Inhabited

namespace Binary64

/-- The least exponent of the format. -/
def leastExponent : Int := -1074

/-- The greatest exponent of the format. -/
def greatestExponent : Int := 971

/-- The least significand of 53 bits. -/
def leastNormal : Nat := 0x10000000000000

/-- The least number of more than 53 bits. -/
def significandLimit : Nat := 0x20000000000000

/-- Zero with a sign. -/
def zero (negative : Bool) : Binary64 := ⟨negative, 0, leastExponent⟩

/-! ## Rounding -/

/-- The quotient of two numbers, rounded to the nearest whole number, a half to the even one. -/
def roundHalfEven (numerator denominator : Nat) : Nat :=
  let quotient := numerator / denominator
  let twiceRest := 2 * (numerator % denominator)
  if twiceRest < denominator then quotient
  else if denominator < twiceRest then quotient + 1
  else if quotient % 2 = 0 then quotient
  else quotient + 1

/-- Numerator and denominator of `numerator / denominator / 2^exponent`. -/
def scaleDown (numerator denominator : Nat) (exponent : Int) : Nat × Nat :=
  if 0 ≤ exponent then (numerator, denominator * Nat.pow 2 exponent.toNat)
  else (numerator * Nat.pow 2 (-exponent).toNat, denominator)

/-- The exponent at which the quotient of two positive numbers has a significand of 53 bits,
raised to the least exponent of the format if it lies below.  The logarithms fix it up to one
step, and one division decides the step. -/
def exponentFor (numerator denominator : Nat) : Int :=
  let guess : Int := (numerator.log2 : Int) - (denominator.log2 : Int) - 52
  let (above, below) := scaleDown numerator denominator guess
  max (if above / below < leastNormal then guess - 1 else guess) leastExponent

/-- The number of the format nearest to a quotient, or `none` if that is an infinity. -/
def ofRatio (negative : Bool) (numerator denominator : Nat) : Option Binary64 :=
  if numerator = 0 then some (zero negative)
  else
    let exponent := exponentFor numerator denominator
    let (above, below) := scaleDown numerator denominator exponent
    let rounded := roundHalfEven above below
    let (significand, exponent) :=
      if rounded = significandLimit then (leastNormal, exponent + 1) else (rounded, exponent)
    if greatestExponent < exponent then none else some ⟨negative, significand, exponent⟩

/-! ## Reading -/

/-- The number nearest to an integer. -/
def ofInt (number : Int) : Option Binary64 := ofRatio (number < 0) number.natAbs 1

/-- The number nearest to `± digits * 10^power`.  A power far outside the range of the format
settles the answer without being raised. -/
def ofDecimal (negative : Bool) (digits : Nat) (power : Int) : Option Binary64 :=
  if digits = 0 then some (zero negative)
  else
    let magnitude := power + (decimalDigits digits).length
    if 400 < magnitude then none
    else if magnitude < -400 then some (zero negative)
    else if 0 ≤ power then ofRatio negative (digits * Nat.pow 10 power.toNat) 1
    else ofRatio negative digits (Nat.pow 10 (-power).toNat)

/-! ## Parts of a number -/

/-- The absolute value as a quotient. -/
def ratio (number : Binary64) : Nat × Nat :=
  if 0 ≤ number.exponent then (number.significand * Nat.pow 2 number.exponent.toNat, 1)
  else (number.significand, Nat.pow 2 (-number.exponent).toNat)

/-- The product with the quotient of two numbers, rounded once. -/
def scale (number : Binary64) (numerator denominator : Nat) : Option Binary64 :=
  let (above, below) := number.ratio
  ofRatio number.negative (above * numerator) (below * denominator)

/-- The number has no fraction. -/
def isWhole (number : Binary64) : Bool :=
  let (above, below) := number.ratio
  above % below == 0

/-- The whole part of the absolute value. -/
def wholePart (number : Binary64) : Nat :=
  let (above, below) := number.ratio
  above / below

/-- The sign as it is written. -/
def signText (number : Binary64) : String := if number.negative then "-" else ""

/-- A number without a fraction in full, with one decimal place: `2.0`, `-0.0`, and all 309
digits of the greatest numbers. -/
def wholeText (number : Binary64) : String :=
  number.signText ++ natText number.wholePart ++ ".0"

end Binary64

end ServiceCatalog.Numeric
