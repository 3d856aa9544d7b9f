import ServiceCatalog.Association
import ServiceCatalog.Numeric.Binary64

/-!
# Ordered JSON values

Documents, arguments and payloads are JSON values.  The members of an object keep their
order: it is the order in which operations are declared, in which query pairs are written, and
in which a value is printed.  A name that occurs twice keeps its first place and takes its
last value (`Value.ofMembers`).

A whole number in a document is kept exactly as long as it fits 64 bits, with or without a
sign; every other number is a floating point number.  The constructor of whole numbers carries
the proof that its number fits.
-/

namespace ServiceCatalog.Json

set_option autoImplicit false

open ServiceCatalog.Numeric

/-! ## Numbers -/

/-- The least natural number that does not fit 64 bits. -/
def wordLimit : Nat := 0x10000000000000000

/-- A whole number fits 64 bits, signed or unsigned. -/
def Fits (number : Int) : Prop := -0x8000000000000000 ≤ number ∧ number < 0x10000000000000000

instance (number : Int) : Decidable (Fits number) :=
  inferInstanceAs (Decidable (-0x8000000000000000 ≤ number ∧ number < 0x10000000000000000))

/-- A number of a document. -/
inductive Number where
  | whole (number : Int) (fits : Fits number)
  | real (number : Binary64)
  deriving DecidableEq, Repr

instance : Inhabited Number := ⟨.whole 0 (by decide)⟩

/-- A whole number that fits. -/
def Number.ofInt? (number : Int) : Option Number :=
  if fits : Fits number then some (.whole number fits) else none

/-- The nearest floating point number; a whole number that fits always has one. -/
def Number.toBinary64 : Number → Binary64
  | .whole number _ => (Binary64.ofInt number).getD (Binary64.zero false)
  | .real number => number

/-! ## Values -/

/-- A JSON value. -/
inductive Value where
  | null
  | bool (flag : Bool)
  | number (number : Number)
  | string (text : String)
  | array (items : List Value)
  | object (members : List (String × Value))
  deriving Inhabited, Repr

/-! ## Members -/

/-- The object of a sequence of members in which names may repeat. -/
def Value.ofMembers (members : List (String × Value)) : Value := .object (assignAll members)

/-- The member of an object with a name; a value of another shape has none. -/
def Value.member? (name : String) : Value → Option Value
  | .object members => members.lookup name
  | _ => none

/-- The text of a string. -/
def Value.text? : Value → Option String
  | .string text => some text
  | _ => none

/-- The value is `null`. -/
def Value.isNull : Value → Bool
  | .null => true
  | _ => false

end ServiceCatalog.Json
