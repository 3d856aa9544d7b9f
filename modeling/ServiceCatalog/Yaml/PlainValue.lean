import ServiceCatalog.Json.Basic
import ServiceCatalog.Numeric.Digits

/-!
# What a plain scalar says

A scalar without quotes is null, a truth value, a number or a text, by its spelling alone.

* **Null and truth values** are written in small letters, in capitals, or with one capital; null
  is also a tilde or nothing at all.
* **Integers** are written in base ten without leading zeros, or in the bases sixteen, eight and
  two behind `0x`, `0o` and `0b`, with a sign or without one.  An integer that does not fit 64
  bits is refused as long as it fits 128 bits.
* **Other numbers** have a point, an exponent, or too many digits for an integer.  Their value is
  the nearest floating point number.  The words for infinity and for no number have no value, and
  stand for null.
* **Everything else** is text: also a decimal writing with leading zeros, and a number that is too
  great for the floating point format.
-/

namespace ServiceCatalog.Yaml

set_option autoImplicit false

open ServiceCatalog.Numeric

/-! ## Words -/

/-- The text is a word for null. -/
def isNullWord (text : String) : Bool := ["null", "Null", "NULL", "~"].contains text

/-- The truth value that a word says. -/
def truthValue? (text : String) : Option Bool :=
  if ["true", "True", "TRUE"].contains text then some true
  else if ["false", "False", "FALSE"].contains text then some false
  else none

/-! ## Integers -/

/-- The sign before a number, which is negative or not, and the characters behind it. -/
def splitSign : List Char → Bool × List Char
  | '+' :: rest => (false, rest)
  | '-' :: rest => (true, rest)
  | characters => (false, characters)

/-- Several digits that begin with zero. -/
def hasLeadingZero (characters : List Char) : Bool :=
  match characters with
  | '0' :: digit :: rest => (digit :: rest).all Char.isDigit
  | _ => false

/-- The number that digits of a base write; there has to be a digit. -/
def digitsOfBase? (base : Nat) (digits : List Char) : Option Nat :=
  if digits.isEmpty then none else ofBase? base digits

/-- The number that a writing without a sign says. -/
def magnitude? (characters : List Char) : Option Nat :=
  if hasLeadingZero characters then none
  else
    match characters with
    | '0' :: 'x' :: digits => digitsOfBase? 16 digits
    | '0' :: 'o' :: digits => digitsOfBase? 8 digits
    | '0' :: 'b' :: digits => digitsOfBase? 2 digits
    | digits => digitsOfBase? 10 digits

/-- The integer of at most 128 bits that a text writes. -/
def integer? (characters : List Char) : Option Int := do
  let (negative, unsigned) := splitSign characters
  let size ← magnitude? unsigned
  if negative then
    if size ≤ 0x80000000000000000000000000000000 then some (-size) else none
  else if size < 0x100000000000000000000000000000000 then some size
  else none

/-! ## Other numbers -/

/-- A number that need not be an integer: a finite one, or none. -/
inductive RealWord where
  | finite (number : Binary64)
  | notFinite
  deriving DecidableEq, Repr

/-- The power of ten behind its mark. -/
def power? (characters : List Char) : Option Int := do
  let (negative, digits) := splitSign characters
  let size ← digitsOfBase? 10 digits
  return if negative then -size else size

/-- The digits before and behind the point, and the power of ten, of a number without a sign. -/
def decimalParts? (characters : List Char) : Option (List Char × List Char × Int) := do
  let whole := characters.takeWhile Char.isDigit
  let rest := characters.drop whole.length
  let fraction := match rest with
    | '.' :: digits => digits.takeWhile Char.isDigit
    | _ => []
  let rest := match rest with
    | '.' :: digits => digits.drop fraction.length
    | rest => rest
  if whole.isEmpty && fraction.isEmpty then none
  else
    match rest with
    | [] => return (whole, fraction, 0)
    | mark :: rest =>
        if mark = 'e' ∨ mark = 'E' then return (whole, fraction, ← power? rest) else none

/-- The finite number that a text without a sign writes in base ten. -/
def decimal? (negative : Bool) (characters : List Char) : Option Binary64 := do
  let (whole, fraction, power) ← decimalParts? characters
  Binary64.ofDecimal negative (ofDigits (whole ++ fraction)) (power - fraction.length)

/-- The number that a text writes, if it does. -/
def real? (text : String) : Option RealWord :=
  let (negative, unsigned) := splitSign text.toList
  if [".inf", ".Inf", ".INF"].contains (String.ofList unsigned)
      || [".nan", ".NaN", ".NAN"].contains text then some .notFinite
  else (decimal? negative unsigned).map .finite

/-! ## Values -/

/-- The value of a number. -/
def RealWord.value : RealWord → Json.Value
  | .finite number => .number (.real number)
  | .notFinite => .null

/-- The value of an integer, if it fits. -/
def integerValue? (number : Int) : Option Json.Value :=
  (Json.Number.ofInt? number).map .number

/-- The value that a plain scalar says; none if it is an integer that is refused. -/
def plainValue? (text : String) : Option Json.Value :=
  if text.isEmpty || isNullWord text then some .null
  else
    match truthValue? text with
    | some flag => some (.bool flag)
    | none =>
        match integer? text.toList with
        | some number => integerValue? number
        | none =>
            if hasLeadingZero (splitSign text.toList).2 then some (.string text)
            else
              match real? text with
              | some word => some word.value
              | none => some (.string text)

end ServiceCatalog.Yaml
