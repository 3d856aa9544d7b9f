import ServiceCatalog.Numeric.Digits
import ServiceCatalog.Text.Utf8

/-!
# Percent encoding

The parts of an address may hold any octet, written as a percent sign and two hexadecimal digits.
Each part has its own set of characters that have to be written this way; those outside the basic
range always are.
-/

namespace ServiceCatalog.Address

set_option autoImplicit false

open ServiceCatalog.Numeric

/-- A control character of the basic range, or any character above it. -/
def isControlOrHigh (character : Char) : Bool :=
  character.toNat < 0x20 || 0x7E < character.toNat

/-- Characters that are encoded in a fragment. -/
def inFragment (character : Char) : Bool :=
  isControlOrHigh character || " \"<>\x60".toList.contains character

/-- Characters that are encoded in a path. -/
def inPath (character : Char) : Bool :=
  inFragment character || "#?\x7b\x7d".toList.contains character

/-- Characters that are encoded in a query; the apostrophe only under the special schemes. -/
def inQuery (special : Bool) (character : Char) : Bool :=
  isControlOrHigh character || " \"#<>".toList.contains character
    || (special && character == '\x27')

/-- An octet behind a percent sign. -/
def encodedOctet (octet : UInt8) : List Char :=
  ['%', capitalHexDigit (octet.toNat / 16), capitalHexDigit (octet.toNat % 16)]

/-- Encodes the characters of a set. -/
def percentEncode (encoded : Char → Bool) (characters : List Char) : List Char :=
  characters.flatMap fun character =>
    if encoded character then (Text.encodeChar character).flatMap encodedOctet else [character]

/-- The octets of a text in which octets may be written behind percent signs.  A percent sign
that two hexadecimal digits do not follow stands for itself. -/
def percentDecode : List Char → List UInt8
  | '%' :: first :: second :: rest =>
      match hexValue? first, hexValue? second with
      | some high, some low => (high * 16 + low).toUInt8 :: percentDecode rest
      | _, _ => Text.encodeChar '%' ++ percentDecode (first :: second :: rest)
  | character :: rest => Text.encodeChar character ++ percentDecode rest
  | [] => []

end ServiceCatalog.Address
