import ServiceCatalog.Json.Basic
import ServiceCatalog.Numeric.Digits
import ServiceCatalog.Numeric.ShortestDecimal

/-!
# The compact text of a JSON value

Values are printed without any space, members in their order.  Whole numbers are printed in
decimal, floating point numbers as the shortest text that reads back.

Inside a string the quote and the backslash are escaped, and so are the control characters
below the space: five of them by a letter, the others by four hexadecimal digits.  Nothing
else is escaped.
-/

namespace ServiceCatalog.Json

set_option autoImplicit false

open ServiceCatalog.Numeric

/-! ## Strings -/

/-- A character as it stands inside a printed string. -/
def escapedChar (character : Char) : List Char :=
  if character = '"' then ['\\', '"']
  else if character = '\\' then ['\\', '\\']
  else if character = '\n' then ['\\', 'n']
  else if character = '\t' then ['\\', 't']
  else if character = '\r' then ['\\', 'r']
  else if character = '\x08' then ['\\', 'b']
  else if character = '\x0C' then ['\\', 'f']
  else if character.toNat < 0x20 then
    ['\\', 'u', '0', '0', hexDigit (character.toNat / 16), hexDigit (character.toNat % 16)]
  else [character]

/-- The printed form of a string. -/
def printedString (characters : List Char) : List Char :=
  '"' :: characters.flatMap escapedChar ++ ['"']

/-! ## Values -/

/-- The printed form of a number. -/
def printedNumber : Number → List Char
  | .whole number _ => intDigits number
  | .real number => number.shortText.toList

mutual

/-- The printed form of a value. -/
def printed : Value → List Char
  | .null => ['n', 'u', 'l', 'l']
  | .bool true => ['t', 'r', 'u', 'e']
  | .bool false => ['f', 'a', 'l', 's', 'e']
  | .number number => printedNumber number
  | .string text => printedString text.toList
  | .array items => '[' :: printedItems items ++ [']']
  | .object members => '{' :: printedMembers members ++ ['}']

/-- The printed items of an array, with commas between them. -/
def printedItems : List Value → List Char
  | [] => []
  | [item] => printed item
  | item :: items => printed item ++ ',' :: printedItems items

/-- The printed members of an object, with commas between them. -/
def printedMembers : List (String × Value) → List Char
  | [] => []
  | [(name, value)] => printedString name.toList ++ ':' :: printed value
  | (name, value) :: members =>
      printedString name.toList ++ ':' :: printed value ++ ',' :: printedMembers members

end

/-- The compact text of a value. -/
def Value.compact (value : Value) : String := String.ofList (printed value)

end ServiceCatalog.Json
