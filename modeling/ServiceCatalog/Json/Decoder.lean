import ServiceCatalog.Json.Basic
import ServiceCatalog.Numeric.ShortestDecimal
import ServiceCatalog.Text.Printable

/-!
# Reading typed data out of a JSON value

A `Decoder` takes a value apart into typed data or answers with a `Mismatch`, the cause of the
failure.  The wording of all mismatches is one function, `Mismatch.message`.

Records are the main case.  A record is written as an object, in which members of other names
are passed over, or as an array of its fields in declared order.  A record decoder starts from
a blank record and fills in one field after another, in the order of the document, so the first
bad member of the document is the one reported (`readMembers`).  A field may be absent
in three ways (`Absence`):

* a required field must be there;
* an optional field may be missing from an object, but not from an array;
* a defaulted field may be missing from both.
-/

namespace ServiceCatalog.Json

set_option autoImplicit false

open ServiceCatalog.Numeric

/-! ## Mismatches -/

/-- What a value is, as far as a mismatch tells. -/
inductive Shape where
  | null
  | boolean (flag : Bool)
  | whole (number : Int)
  | real (number : Binary64)
  | text (text : String)
  | sequence
  | map
  | bareName
  deriving DecidableEq, Repr

/-- What a decoder asks for. -/
inductive Expectation where
  | text
  | boolean
  | sequence
  | map
  | unit
  | signedWord
  | byte
  | float
  | record (name : String)
  | nameOrMap
  | nameWithContent
  | singleMember
  deriving DecidableEq, Repr

/-- Why a value could not be read. -/
inductive Mismatch where
  | wrongType (found : Shape) (expected : Expectation)
  | wrongValue (found : Shape) (expected : Expectation)
  | tooShort (length : Nat) (record : String) (fields : Nat)
  | tooLong (length : Nat)
  | missingField (name : String)
  | unknownName (found : String) (known : List String)
  deriving DecidableEq, Repr

/-- The shape of a value. -/
def Value.shape : Value → Shape
  | .null => .null
  | .bool flag => .boolean flag
  | .number (.whole size _) => .whole size
  | .number (.real size) => .real size
  | .string characters => .text characters
  | .array _ => .sequence
  | .object _ => .map

/-- A shape in the words of a message. -/
def Shape.message : Shape → String
  | .null => "null"
  | .boolean flag => "boolean `" ++ (if flag then "true" else "false") ++ "`"
  | .whole size => "integer `" ++ intText size ++ "`"
  | .real size => "floating point `" ++ size.shortText ++ "`"
  | .text characters => "string " ++ Text.quoted characters
  | .sequence => "sequence"
  | .map => "map"
  | .bareName => "unit variant"

/-- An expectation in the words of a message. -/
def Expectation.message : Expectation → String
  | .text => "a string"
  | .boolean => "a boolean"
  | .sequence => "a sequence"
  | .map => "a map"
  | .unit => "unit"
  | .signedWord => "i64"
  | .byte => "u8"
  | .float => "f64"
  | .record name => "struct " ++ name
  | .nameOrMap => "string or map"
  | .nameWithContent => "newtype variant"
  | .singleMember => "map with a single key"

/-- The known names in the words of a message. -/
def knownNames : List String → String
  | [] => "there are no variants"
  | [name] => "expected `" ++ name ++ "`"
  | [first, second] => "expected `" ++ first ++ "` or `" ++ second ++ "`"
  | names => "expected one of " ++ ", ".intercalate (names.map fun name => "`" ++ name ++ "`")

/-- The wording of a mismatch. -/
def Mismatch.message : Mismatch → String
  | .wrongType found expected =>
      "invalid type: " ++ found.message ++ ", expected " ++ expected.message
  | .wrongValue found expected =>
      "invalid value: " ++ found.message ++ ", expected " ++ expected.message
  | .tooShort length record fields =>
      "invalid length " ++ natText length ++ ", expected struct " ++ record ++ " with "
        ++ natText fields ++ (if fields = 1 then " element" else " elements")
  | .tooLong length =>
      "invalid length " ++ natText length ++ ", expected fewer elements in array"
  | .missingField name => "missing field `" ++ name ++ "`"
  | .unknownName found known => "unknown variant `" ++ found ++ "`, " ++ knownNames known

/-! ## Decoders -/

/-- Reads typed data out of a value. -/
abbrev Decoder (α : Type) := Value → Except Mismatch α

/-- Any value, as it is. -/
def anyValue : Decoder Value := fun value => .ok value

/-- A string. -/
def text : Decoder String
  | .string characters => .ok characters
  | value => .error (.wrongType value.shape .text)

/-- A boolean. -/
def boolean : Decoder Bool
  | .bool flag => .ok flag
  | value => .error (.wrongType value.shape .boolean)

/-- The value `null` alone. -/
def unit : Decoder Unit
  | .null => .ok ()
  | value => .error (.wrongType value.shape .unit)

/-- A whole number within bounds; a floating point number is none, even without a fraction. -/
def boundedInt (least greatest : Int) (expected : Expectation) : Decoder Int
  | .number (.whole number _) =>
      if least ≤ number ∧ number ≤ greatest then .ok number
      else .error (.wrongValue (.whole number) expected)
  | value => .error (.wrongType value.shape expected)

/-- A whole number of 64 bits with a sign. -/
def signedWord : Decoder Int := boundedInt (-0x8000000000000000) 0x7FFFFFFFFFFFFFFF .signedWord

/-- A whole number of eight bits without a sign. -/
def byte : Decoder Int := boundedInt 0 255 .byte

/-- A number, taken to the nearest floating point number. -/
def float : Decoder Binary64
  | .number number => .ok number.toBinary64
  | value => .error (.wrongType value.shape .float)

/-- Nothing for `null`, otherwise what the decoder reads. -/
def optional {α : Type} (decoder : Decoder α) : Decoder (Option α)
  | .null => .ok none
  | value => (decoder value).map some

/-- An array, item by item. -/
def listOf {α : Type} (decoder : Decoder α) : Decoder (List α)
  | .array items => items.mapM decoder
  | value => .error (.wrongType value.shape .sequence)

/-- The members of an object, one by one. -/
def membersOf {α : Type} (decoder : Decoder α) : Decoder (List (String × α))
  | .object members =>
      members.mapM fun (name, value) => (decoder value).map fun read => (name, read)
  | value => .error (.wrongType value.shape .map)

/-! ## Names -/

/-- The known thing with a name. -/
def named {α : Type} (known : List (String × α)) (name : String) : Except Mismatch α :=
  match known.lookup name with
  | some thing => .ok thing
  | none => .error (.unknownName name (known.map Prod.fst))

/-- One of several named things: its name, or an object that holds `null` under its name. -/
def oneOf {α : Type} (known : List (String × α)) : Decoder α
  | .string name => named known name
  | .object [(name, content)] => do
      let thing ← named known name
      unit content
      return thing
  | .object _ => .error (.wrongValue .map .singleMember)
  | value => .error (.wrongType value.shape .nameOrMap)

/-! ## Records -/

/-- How a field may be absent. -/
inductive Absence where
  | required
  | optional
  | defaulted
  deriving DecidableEq, Repr

/-- A field of the record `ρ`: how its value is read into the record. -/
structure RecordField (ρ : Type) where
  name : String
  absence : Absence
  read : Value → ρ → Except Mismatch ρ

/-- A field whose value is read by a decoder and put in place by a setter. -/
def RecordField.of {ρ α : Type} (name : String) (absence : Absence) (decoder : Decoder α)
    (place : α → ρ → ρ) : RecordField ρ :=
  ⟨name, absence, fun value record => (decoder value).map fun read => place read record⟩

/-- Reads the members that name a field into the record, in the order of the document. -/
def readMembers {ρ : Type} (fields : List (RecordField ρ)) :
    List (String × Value) → ρ → Except Mismatch ρ
  | [], record => .ok record
  | (name, value) :: members, record =>
      match fields.find? fun field => field.name == name with
      | some field => do readMembers fields members (← field.read value record)
      | none => readMembers fields members record

/-- The first required field that no member names. -/
def firstMissing {ρ : Type} (fields : List (RecordField ρ)) (members : List (String × Value)) :
    Option (RecordField ρ) :=
  fields.find? fun field => field.absence == .required && (members.lookup field.name).isNone

/-- Reads the items of an array into the fields, in declared order.  `position` counts the
items already read. -/
def readItems {ρ : Type} (tooShort : Nat → Mismatch) (tooLong : Mismatch) :
    Nat → List (RecordField ρ) → List Value → ρ → Except Mismatch ρ
  | _, [], [], record => .ok record
  | _, [], _ :: _, _ => .error tooLong
  | position, field :: fields, [], record =>
      if field.absence = .defaulted then
        readItems tooShort tooLong (position + 1) fields [] record
      else .error (tooShort position)
  | position, field :: fields, item :: items, record => do
      readItems tooShort tooLong (position + 1) fields items (← field.read item record)

/-- Reads a record, starting from a blank one. -/
def record {ρ : Type} (name : String) (fields : List (RecordField ρ)) (blank : ρ) : Decoder ρ
  | .object members => do
      let record ← readMembers fields members blank
      match firstMissing fields members with
      | some field => .error (.missingField field.name)
      | none => .ok record
  | .array items =>
      readItems (fun length => .tooShort length name fields.length) (.tooLong items.length) 0
        fields items blank
  | value => .error (.wrongType value.shape (.record name))

end ServiceCatalog.Json
