import ServiceCatalog.Json.Basic
import ServiceCatalog.Numeric.Digits

/-!
# Reading JSON text

A reader takes the characters of a text and answers with what it read and the characters
behind it, or with `none`.  There is one reader per construct of the format.

Three decisions go beyond the grammar.

* **Nesting.**  At most 127 arrays and objects may stand inside one another.
* **Surrogates.**  An escape for one half of a surrogate pair is only read together with an
  escape for the other half.
* **Numbers.**  A whole number that fits 64 bits is kept exactly.  Any other number is
  floating point, and is read with one word of precision: leading digits are gathered as
  long as their number fits 64 bits (`Gathered`), the gathered number is rounded to the
  floating point format, and the result is multiplied or divided by the nearest floating
  point number to a power of ten (`scaleByTen`).  That is two roundings, so the last binary
  place can differ from that of the nearest number.  A number too great for the format is no
  number.

The reader of values spends one unit of fuel per call.  Two units per character suffice, which
is what `parse?` provides.
-/

namespace ServiceCatalog.Json

set_option autoImplicit false

open ServiceCatalog.Numeric

/-! ## Numbers -/

/-- The digits of a number that were gathered into one word: the number they write, and the
power of ten of the last one. -/
structure Gathered where
  significand : Nat
  power : Int
  deriving DecidableEq, Repr

/-- Gathers the digits before the point.  The first digit that does not fit and all digits
after it only raise the power. -/
def Gathered.takeWhole (gathered : Gathered) : List Char → Gathered
  | [] => gathered
  | digit :: digits =>
      let extended := gathered.significand * 10 + digitValue digit
      if extended < wordLimit then Gathered.takeWhole ⟨extended, gathered.power⟩ digits
      else ⟨gathered.significand, gathered.power + digits.length + 1⟩

/-- Gathers the digits after the point.  The first digit that does not fit and all digits after
it are left out. -/
def Gathered.takeFraction (gathered : Gathered) : List Char → Gathered
  | [] => gathered
  | digit :: digits =>
      let extended := gathered.significand * 10 + digitValue digit
      if extended < wordLimit then Gathered.takeFraction ⟨extended, gathered.power - 1⟩ digits
      else gathered

/-- The floating point number nearest to a power of ten. -/
def powerOfTen (power : Nat) : Binary64 :=
  (Binary64.ofRatio false (Nat.pow 10 power) 1).getD (Binary64.zero false)

/-- Multiplies a number by a power of ten, or divides it by one, with powers up to the 308th.
A number is divided by the 308th power as often as the power asks for, until it is zero. -/
def scaleByTen : Nat → Binary64 → Int → Option Binary64
  | 0, number, _ => some number
  | steps + 1, number, power =>
      if number.significand = 0 then some number
      else if 308 < power then none
      else if 0 ≤ power then
        let (above, below) := (powerOfTen power.toNat).ratio
        number.scale above below
      else if -308 ≤ power then
        let (above, below) := (powerOfTen (-power).toNat).ratio
        number.scale below above
      else
        let (above, below) := (powerOfTen 308).ratio
        (number.scale below above).bind fun divided => scaleByTen steps divided (power + 308)

/-- The floating point number of gathered digits. -/
def Gathered.toBinary64 (gathered : Gathered) (negative : Bool) : Option Binary64 :=
  (Binary64.ofRatio negative gathered.significand 1).bind fun number =>
    scaleByTen 4 number gathered.power

/-- The parts of a written number. -/
structure WrittenNumber where
  negative : Bool
  whole : List Char
  fraction : List Char
  power : Option Int
  deriving DecidableEq, Repr

/-- A written number without fraction and exponent that fits is a whole number (zero with a
minus sign is not); any other is a floating point number. -/
def WrittenNumber.value? (written : WrittenNumber) : Option Number :=
  let real : Option Number :=
    let gathered := Gathered.takeFraction (Gathered.takeWhole ⟨0, 0⟩ written.whole)
      written.fraction
    (Gathered.toBinary64 ⟨gathered.significand, gathered.power + written.power.getD 0⟩
      written.negative).map .real
  if written.fraction.isEmpty && written.power.isNone then
    let size : Int := ofDigits written.whole
    if written.negative then
      if size = 0 then real else (Number.ofInt? (-size)).or real
    else (Number.ofInt? size).or real
  else real

/-- The digits at the front, and the characters behind them. -/
def spanDigits : List Char → List Char × List Char
  | [] => ([], [])
  | character :: rest =>
      if character.isDigit then
        let (digits, behind) := spanDigits rest
        (character :: digits, behind)
      else ([], character :: rest)

/-- The fraction of a number: nothing, or a point and at least one digit. -/
def readFraction? : List Char → Option (List Char × List Char)
  | '.' :: rest =>
      let (digits, behind) := spanDigits rest
      if digits.isEmpty then none else some (digits, behind)
  | characters => some ([], characters)

/-- The digits of an exponent with its sign. -/
def readPower? (negative : Bool) (characters : List Char) : Option (Option Int × List Char) :=
  let (digits, behind) := spanDigits characters
  if digits.isEmpty then none
  else
    let size : Int := ofDigits digits
    some (some (if negative then -size else size), behind)

/-- The exponent of a number: nothing, or a mark, perhaps a sign, and at least one digit. -/
def readExponent? : List Char → Option (Option Int × List Char)
  | [] => some (none, [])
  | mark :: rest =>
      if mark = 'e' ∨ mark = 'E' then
        match rest with
        | '+' :: behind => readPower? false behind
        | '-' :: behind => readPower? true behind
        | behind => readPower? false behind
      else some (none, mark :: rest)

/-- The digits before the point: a zero alone, or digits that do not begin with one. -/
def readWhole? (characters : List Char) : Option (List Char × List Char) :=
  match spanDigits characters with
  | ([], _) => none
  | ('0' :: _ :: _, _) => none
  | (digits, behind) => some (digits, behind)

/-- A number behind its sign. -/
def readUnsigned? (negative : Bool) (characters : List Char) : Option (Value × List Char) := do
  let (whole, rest) ← readWhole? characters
  let (fraction, rest) ← readFraction? rest
  let (power, rest) ← readExponent? rest
  let number ← WrittenNumber.value? ⟨negative, whole, fraction, power⟩
  return (.number number, rest)

/-- A number. -/
def readNumber? : List Char → Option (Value × List Char)
  | '-' :: rest => readUnsigned? true rest
  | characters => readUnsigned? false characters

/-! ## Strings -/

/-- Four hexadecimal digits. -/
def readUnit? : List Char → Option (Nat × List Char)
  | first :: second :: third :: fourth :: rest => do
      let first ← hexValue? first
      let second ← hexValue? second
      let third ← hexValue? third
      let fourth ← hexValue? fourth
      return (((first * 16 + second) * 16 + third) * 16 + fourth, rest)
  | _ => none

/-- The character of an escape with four hexadecimal digits, or of two such escapes that make a
surrogate pair. -/
def readCode? (characters : List Char) : Option (Char × List Char) := do
  let (unit, rest) ← readUnit? characters
  if unit < 0xD800 ∨ 0xE000 ≤ unit then return (Char.ofNat unit, rest)
  else if 0xDC00 ≤ unit then none
  else
    match rest with
    | '\\' :: 'u' :: rest => do
        let (low, rest) ← readUnit? rest
        if 0xDC00 ≤ low ∧ low < 0xE000 then
          return (Char.ofNat (0x10000 + (unit - 0xD800) * 0x400 + (low - 0xDC00)), rest)
        else none
    | _ => none

/-- The character of an escape by one letter. -/
def letterEscape? (letter : Char) : Option Char :=
  if letter = '"' ∨ letter = '\\' ∨ letter = '/' then some letter
  else if letter = 'b' then some '\x08'
  else if letter = 'f' then some '\x0C'
  else if letter = 'n' then some '\n'
  else if letter = 'r' then some '\r'
  else if letter = 't' then some '\t'
  else none

/-- The characters of a string up to its closing quote. -/
def readCharacters? : Nat → List Char → Option (List Char × List Char)
  | 0, _ => none
  | _, [] => none
  | fuel + 1, character :: rest =>
      if character = '"' then some ([], rest)
      else if character = '\\' then
        match rest with
        | 'u' :: rest => do
            let (decoded, rest) ← readCode? rest
            let (characters, rest) ← readCharacters? fuel rest
            return (decoded :: characters, rest)
        | letter :: rest => do
            let decoded ← letterEscape? letter
            let (characters, rest) ← readCharacters? fuel rest
            return (decoded :: characters, rest)
        | [] => none
      else if character.toNat < 0x20 then none
      else do
        let (characters, rest) ← readCharacters? fuel rest
        return (character :: characters, rest)

/-- A string behind its opening quote. -/
def readString? (characters : List Char) : Option (String × List Char) := do
  let (characters, rest) ← readCharacters? (characters.length + 1) characters
  return (String.ofList characters, rest)

/-! ## Values -/

/-- The white space of the format. -/
def isSpace (character : Char) : Bool :=
  character == ' ' || character == '\n' || character == '\t' || character == '\r'

/-- The characters behind white space. -/
def skipSpace (characters : List Char) : List Char := characters.dropWhile isSpace

mutual

/-- A value whose first character is not white space, with room for `depth` more levels of
nesting. -/
def readValue? : Nat → Nat → List Char → Option (Value × List Char)
  | 0, _, _ => none
  | fuel + 1, depth, characters =>
      match characters with
      | 'n' :: 'u' :: 'l' :: 'l' :: rest => some (.null, rest)
      | 't' :: 'r' :: 'u' :: 'e' :: rest => some (.bool true, rest)
      | 'f' :: 'a' :: 'l' :: 's' :: 'e' :: rest => some (.bool false, rest)
      | '"' :: rest => do
          let (text, rest) ← readString? rest
          return (.string text, rest)
      | '[' :: rest =>
          match depth with
          | 0 => none
          | depth + 1 =>
              match skipSpace rest with
              | ']' :: rest => some (.array [], rest)
              | rest => do
                  let (items, rest) ← readItems? fuel depth rest
                  return (.array items, rest)
      | '{' :: rest =>
          match depth with
          | 0 => none
          | depth + 1 =>
              match skipSpace rest with
              | '}' :: rest => some (.object [], rest)
              | rest => do
                  let (members, rest) ← readMembers? fuel depth rest
                  return (.ofMembers members, rest)
      | characters => readNumber? characters

/-- The items of an array, at least one, up to the closing bracket. -/
def readItems? : Nat → Nat → List Char → Option (List Value × List Char)
  | 0, _, _ => none
  | fuel + 1, depth, characters => do
      let (item, rest) ← readValue? fuel depth characters
      match skipSpace rest with
      | ']' :: rest => return ([item], rest)
      | ',' :: rest => do
          let (items, rest) ← readItems? fuel depth (skipSpace rest)
          return (item :: items, rest)
      | _ => none

/-- The members of an object, at least one, up to the closing brace. -/
def readMembers? : Nat → Nat → List Char → Option (List (String × Value) × List Char)
  | 0, _, _ => none
  | fuel + 1, depth, characters =>
      match characters with
      | '"' :: rest => do
          let (name, rest) ← readString? rest
          match skipSpace rest with
          | ':' :: rest => do
              let (value, rest) ← readValue? fuel depth (skipSpace rest)
              match skipSpace rest with
              | '}' :: rest => return ([(name, value)], rest)
              | ',' :: rest => do
                  let (members, rest) ← readMembers? fuel depth (skipSpace rest)
                  return ((name, value) :: members, rest)
              | _ => none
          | _ => none
      | _ => none

end

/-- The deepest nesting of arrays and objects. -/
def deepestNesting : Nat := 127

/-- The value that a whole text writes. -/
def parseChars? (characters : List Char) : Option Value :=
  match readValue? (2 * characters.length + 2) deepestNesting (skipSpace characters) with
  | some (value, rest) => if skipSpace rest = [] then some value else none
  | none => none

/-- The value that a text writes. -/
def parse? (text : String) : Option Value := parseChars? text.toList

end ServiceCatalog.Json
