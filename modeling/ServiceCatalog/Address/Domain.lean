import ServiceCatalog.Address.Percent
import ServiceCatalog.Text.Blank
import ServiceCatalog.Text.LetterCase
import ServiceCatalog.Text.Printable

/-!
# Domain names

A domain name in an address is brought into small letters of the basic range.  Labels that hold
other letters are written in the international form: `xn--` and the label in Punycode, which
writes the basic characters first and then, for every other character in increasing order, how far
to move and where to insert it.

A name is refused if it holds a character that no domain name holds, or if a label in the
international form is not the writing of any label.
-/

namespace ServiceCatalog.Address

set_option autoImplicit false

/-! ## Punycode -/

namespace Punycode

/-- The sign of a digit below 36: a letter, then a numeral. -/
def digitSign (digit : Nat) : Char :=
  if digit < 26 then Char.ofNat (0x61 + digit) else Char.ofNat (0x30 + (digit - 26))

/-- The value of a digit. -/
def digitValue? (character : Char) : Option Nat :=
  let code := character.toNat
  if 0x61 ≤ code ∧ code ≤ 0x7A then some (code - 0x61)
  else if 0x30 ≤ code ∧ code ≤ 0x39 then some (code - 0x30 + 26)
  else none

/-- The first part of adapting: halves of thirty-fives until the distance is small. -/
def shrink : Nat → Nat → Nat → Nat × Nat
  | 0, distance, steps => (distance, steps)
  | fuel + 1, distance, steps =>
      if 455 < distance then shrink fuel (distance / 35) (steps + 36) else (distance, steps)

/-- The bias for the next number, from the last distance. -/
def adapt (distance points : Nat) (first : Bool) : Nat :=
  let distance := if first then distance / 700 else distance / 2
  let (distance, steps) := shrink 64 (distance + distance / points) 0
  steps + 36 * distance / (distance + 38)

/-- The threshold at a place. -/
def threshold (place bias : Nat) : Nat :=
  if place ≤ bias then 1 else if bias + 26 ≤ place then 26 else place - bias

/-- A number in digits of varying base, lowest first. -/
def writeNumber : Nat → Nat → Nat → Nat → List Char
  | 0, _, _, _ => []
  | fuel + 1, number, place, bias =>
      let limit := threshold place bias
      if number < limit then [digitSign number]
      else
        digitSign (limit + (number - limit) % (36 - limit)) ::
          writeNumber fuel ((number - limit) / (36 - limit)) (place + 36) bias

/-- The state of writing: the distance gathered, the bias, how many characters are written, and
the text so far. -/
structure Writing where
  distance : Nat
  bias : Nat
  count : Nat
  basics : Nat
  text : List Char

/-- Passes over one character of the label, while the characters of one code are written. -/
def Writing.pass (code : Nat) (writing : Writing) (character : Char) : Writing :=
  if character.toNat < code then { writing with distance := writing.distance + 1 }
  else if character.toNat = code then
    { writing with
      distance := 0
      bias := adapt writing.distance (writing.count + 1) (writing.count == writing.basics)
      count := writing.count + 1
      text := writing.text ++ writeNumber 64 writing.distance 36 writing.bias }
  else writing

/-- Writes the characters from a code upwards. -/
def writeFrom (label : List Char) : Nat → Nat → Writing → List Char
  | 0, _, writing => writing.text
  | fuel + 1, code, writing =>
      match ((label.map Char.toNat).filter (code ≤ ·)).min? with
      | none => writing.text
      | some next =>
          let moved := { writing with
            distance := writing.distance + (next - code) * (writing.count + 1) }
          let written := label.foldl (Writing.pass next) moved
          writeFrom label fuel (next + 1) { written with distance := written.distance + 1 }

/-- A label in Punycode. -/
def encode (label : List Char) : List Char :=
  let basics := label.filter Text.isBasic
  let start := if basics.isEmpty then [] else basics ++ ['-']
  writeFrom label label.length 0x80 ⟨0, 72, basics.length, basics.length, start⟩

/-- Reads a number in digits of varying base, lowest first. -/
def readNumber : Nat → List Char → Nat → Nat → Nat → Option (Nat × List Char)
  | _, [], _, _, _ => none
  | number, character :: rest, weight, place, bias => do
      let digit ← digitValue? character
      let number := number + digit * weight
      let limit := threshold place bias
      if digit < limit then return (number, rest)
      else if 0x10000000000 < weight then none
      else readNumber number rest (weight * (36 - limit)) (place + 36) bias

/-- Reads insertions up to the end. -/
def readFrom : Nat → List Char → Nat → Nat → Nat → List Char → Option (List Char)
  | 0, _, _, _, _, _ => none
  | _ + 1, [], _, _, _, label => some label
  | fuel + 1, text, code, position, bias, label => do
      let (distance, rest) ← readNumber 0 text 1 36 bias
      let count := label.length + 1
      let sum := position + distance
      let code := code + sum / count
      let place := sum % count
      if code < 0x110000 ∧ ¬(0xD800 ≤ code ∧ code < 0xE000) then
        readFrom fuel rest code (place + 1) (adapt distance count (position == 0))
          (label.take place ++ Char.ofNat code :: label.drop place)
      else none

end Punycode

/-! ## Characters of domain names -/

/-- Characters of the basic range that no domain name holds. -/
def isForbidden (character : Char) : Bool :=
  character.toNat ≤ 0x20 || character.toNat == 0x7F
    || "%#/:<>?@[\\]^|".toList.contains character

/-- Characters that a domain name passes over: the soft hyphen, joiners of no width, variation
selectors. -/
def isIgnored (character : Char) : Bool :=
  let code := character.toNat
  code == 0xAD || code == 0x200B || code == 0x2060 || code == 0xFEFF || code == 0x2064
    || (0xFE00 ≤ code && code ≤ 0xFE0F)

/-- The form of a character in a domain name.  The full stops of wide scripts are full stops, and
letters and marks of the wide form are those of the basic range. -/
def domainChar (character : Char) : List Char :=
  let code := character.toNat
  if isIgnored character then []
  else if code = 0x3002 ∨ code = 0xFF0E ∨ code = 0xFF61 then ['.']
  else if 0xFF01 ≤ code ∧ code ≤ 0xFF5E then [(Char.ofNat (code - 0xFEE0)).toLower]
  else if code = 0x1E9E then ['s', 's']
  else Text.loweredChar character

/-- A character above the basic range that may stand in a domain name: no control, separator,
private or unassigned one. -/
def isDomainChar (character : Char) : Bool :=
  Text.isBasic character || !Text.inRanges Text.hiddenRanges character.toNat

/-! ## Names -/

/-- A label in the international form is refused unless it writes a label that needs the form. -/
def isProperLabel (label : List Char) : Bool :=
  match label with
  | 'x' :: 'n' :: '-' :: '-' :: text =>
      let parts := text.reverse.span (· != '-')
      let (basics, tail) :=
        if parts.2.isEmpty then ([], text) else ((parts.2.drop 1).reverse, parts.1.reverse)
      match Punycode.readFrom (text.length + 1) tail 0x80 0 72 basics with
      | some read =>
          !read.all Text.isBasic && read.all isDomainChar && read.flatMap domainChar == read
            && Punycode.encode read == text
      | none => false
  | _ => true

/-- The written form of a label. -/
def writtenLabel (label : List Char) : List Char :=
  if label.all Text.isBasic then label else "xn--".toList ++ Punycode.encode label

/-- The written form of a domain name, or `none` if the text is none. -/
def domain? (octets : List UInt8) : Option (List Char) := do
  let characters ← Text.decode? octets
  let mapped := characters.flatMap domainChar
  if mapped.any isForbidden || !mapped.all isDomainChar then none
  else
    let labels := Text.splitWhen (· == '.') mapped
    if labels.all isProperLabel then
      return List.intercalate ['.'] (labels.map writtenLabel)
    else none

end ServiceCatalog.Address
