/-!
# UTF-8

Texts travel as octets.  Writing is `encode`.  Reading goes through `segments`, which cuts any
sequence of octets into characters and faults: a fault is the longest beginning of a character
that the next octet does not continue, or a single octet that begins none.

* `decode?` is the strict reading: there must be no fault.
* `decodeLossy` is the lenient one: every fault becomes one replacement character.
-/

namespace ServiceCatalog.Text

set_option autoImplicit false

/-! ## Writing -/

/-- The octets of a character. -/
def encodeChar (character : Char) : List UInt8 :=
  let code := character.toNat
  if code < 0x80 then [code.toUInt8]
  else if code < 0x800 then [(0xC0 + code / 0x40).toUInt8, (0x80 + code % 0x40).toUInt8]
  else if code < 0x10000 then
    [(0xE0 + code / 0x1000).toUInt8, (0x80 + code / 0x40 % 0x40).toUInt8,
      (0x80 + code % 0x40).toUInt8]
  else
    [(0xF0 + code / 0x40000).toUInt8, (0x80 + code / 0x1000 % 0x40).toUInt8,
      (0x80 + code / 0x40 % 0x40).toUInt8, (0x80 + code % 0x40).toUInt8]

/-- The octets of a text. -/
def encode (characters : List Char) : List UInt8 := characters.flatMap encodeChar

/-! ## Reading -/

/-- What an octet begins: a character of its own, or one that needs further octets.  `low` and
`high` bound the next octet; every later one lies between `0x80` and `0xBF`. -/
inductive Lead where
  | single (code : Nat)
  | multiple (bits : Nat) (low high : Nat) (further : Nat)
  | fault
  deriving DecidableEq, Repr

/-- What an octet begins.  The bounds shut out overlong writings, surrogates, and codes beyond
the last one. -/
def lead (octet : Nat) : Lead :=
  if octet < 0x80 then .single octet
  else if octet < 0xC2 then .fault
  else if octet < 0xE0 then .multiple (octet - 0xC0) 0x80 0xBF 0
  else if octet = 0xE0 then .multiple 0 0xA0 0xBF 1
  else if octet = 0xED then .multiple 0xD 0x80 0x9F 1
  else if octet < 0xF0 then .multiple (octet - 0xE0) 0x80 0xBF 1
  else if octet = 0xF0 then .multiple 0 0x90 0xBF 2
  else if octet < 0xF4 then .multiple (octet - 0xF0) 0x80 0xBF 2
  else if octet = 0xF4 then .multiple 4 0x80 0x8F 2
  else .fault

/-- A character that is only begun: the bits read, the bounds of the next octet, and how many
octets follow that one. -/
structure Begun where
  bits : Nat
  low : Nat
  high : Nat
  further : Nat
  deriving DecidableEq, Repr

/-- What an octet between characters gives: a character, a fault, or a character begun. -/
def beginAt (code : Nat) : List (Option Char) × Option Begun :=
  match lead code with
  | .single code => ([some (Char.ofNat code)], none)
  | .multiple bits low high further => ([], some ⟨bits, low, high, further⟩)
  | .fault => ([none], none)

/-- What an octet gives.  One that does not continue the character begun before it leaves a
fault there, and is then looked at as an octet between characters. -/
def advance : Option Begun → Nat → List (Option Char) × Option Begun
  | none, code => beginAt code
  | some begun, code =>
      if begun.low ≤ code ∧ code ≤ begun.high then
        let bits := begun.bits * 0x40 + (code - 0x80)
        match begun.further with
        | 0 => ([some (Char.ofNat bits)], none)
        | further + 1 => ([], some ⟨bits, 0x80, 0xBF, further⟩)
      else
        let (given, next) := beginAt code
        (none :: given, next)

/-- Cuts octets into characters and faults, with a character perhaps begun before them.  A fault
is `none`. -/
def segmentsFrom : Option Begun → List UInt8 → List (Option Char)
  | none, [] => []
  | some _, [] => [none]
  | begun, octet :: octets =>
      let (given, next) := advance begun octet.toNat
      given ++ segmentsFrom next octets

/-- The characters and faults of a sequence of octets. -/
def segments (octets : List UInt8) : List (Option Char) := segmentsFrom none octets

/-- The characters of octets without a fault. -/
def decode? (octets : List UInt8) : Option (List Char) := (segments octets).mapM id

/-- The replacement character. -/
def replacement : Char := Char.ofNat 0xFFFD

/-- The characters of octets, with a replacement character for every fault. -/
def decodeLossy (octets : List UInt8) : List Char :=
  (segments octets).map fun segment => segment.getD replacement

end ServiceCatalog.Text
