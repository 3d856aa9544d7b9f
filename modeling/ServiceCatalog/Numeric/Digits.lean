/-!
# Digits

Natural numbers and integers are written in base ten.  The writing has no leading zero except for
zero itself, whose writing is the single digit `0`.

The digits of a base up to sixteen are ten decimal digits and six letters, which are read in either
case.  A number is written in base sixteen with small letters and without leading zeros; single
digits are written in capitals where an octet stands behind a percent sign.
-/

namespace ServiceCatalog.Numeric

set_option autoImplicit false

/-! ## Base ten -/

/-- The character of a digit below ten. -/
def digitChar (digit : Nat) : Char := Char.ofNat (0x30 + digit)

/-- The value of a digit character. -/
def digitValue (character : Char) : Nat := character.toNat - 0x30

/-- The decimal digits of a number, most significant first. -/
def decimalDigits (number : Nat) : List Char :=
  if number < 10 then [digitChar number]
  else decimalDigits (number / 10) ++ [digitChar (number % 10)]
termination_by number

/-- The number that a list of digits writes, after the digits already read. -/
def ofDigitsFrom (read : Nat) : List Char → Nat
  | [] => read
  | digit :: digits => ofDigitsFrom (read * 10 + digitValue digit) digits

/-- The number that a list of digits writes. -/
def ofDigits (digits : List Char) : Nat := ofDigitsFrom 0 digits

/-- The decimal writing of a natural number. -/
def natText (number : Nat) : String := String.ofList (decimalDigits number)

/-- The decimal writing of an integer: a minus sign before the digits of a negative one. -/
def intDigits (number : Int) : List Char :=
  if number < 0 then '-' :: decimalDigits number.natAbs else decimalDigits number.natAbs

/-- The decimal writing of an integer. -/
def intText (number : Int) : String := String.ofList (intDigits number)

/-! ## Reading other bases -/

/-- The value of a hexadecimal digit in either case. -/
def hexValue? (character : Char) : Option Nat :=
  let code := character.toNat
  if 0x30 ≤ code ∧ code ≤ 0x39 then some (code - 0x30)
  else if 0x41 ≤ code ∧ code ≤ 0x46 then some (code - 0x37)
  else if 0x61 ≤ code ∧ code ≤ 0x66 then some (code - 0x57)
  else none

/-- The number that digits of a base write, if they all are digits of it. -/
def ofBase? (base : Nat) (digits : List Char) : Option Nat :=
  digits.foldlM (fun number digit => do
    let value ← hexValue? digit
    if value < base then some (number * base + value) else none) 0

/-! ## Writing in base sixteen -/

/-- The character of a hexadecimal digit below sixteen, in small letters. -/
def hexDigit (digit : Nat) : Char :=
  if digit < 10 then Char.ofNat (0x30 + digit) else Char.ofNat (0x57 + digit)

/-- The character of a hexadecimal digit below sixteen, in capitals. -/
def capitalHexDigit (digit : Nat) : Char :=
  if digit < 10 then Char.ofNat (0x30 + digit) else Char.ofNat (0x37 + digit)

/-- The hexadecimal digits of a number, most significant first. -/
def hexDigits (number : Nat) : List Char :=
  if number < 16 then [hexDigit number]
  else hexDigits (number / 16) ++ [hexDigit (number % 16)]
termination_by number

end ServiceCatalog.Numeric
