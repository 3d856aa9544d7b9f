import ServiceCatalog.Address.Domain
import ServiceCatalog.Numeric.Digits

/-!
# Hosts

The host of an address under one of the special schemes is a domain name, a number address of
four octets, or one of eight groups between square brackets.  Under any other scheme it is a
bracketed address or a text that is taken as it is.

A name whose last label is a number is read as a number address, in which every part may be
written in base eight, ten or sixteen and the last part fills the octets that are left.
-/

namespace ServiceCatalog.Address

set_option autoImplicit false

open ServiceCatalog.Numeric

/-! ## Errors -/

/-- Why a text is no absolute address. -/
inductive AddressError where
  | relative
  | emptyHost
  | badPort
  | badNumberAddress
  | badGroupAddress
  | badDomain
  | badHostCharacter
  deriving DecidableEq, Repr

/-- The wording of an address error. -/
def AddressError.message : AddressError → String
  | .relative => "relative URL without a base"
  | .emptyHost => "empty host"
  | .badPort => "invalid port number"
  | .badNumberAddress => "invalid IPv4 address"
  | .badGroupAddress => "invalid IPv6 address"
  | .badDomain => "invalid international domain name"
  | .badHostCharacter => "invalid domain character"

/-- A host. -/
inductive Host where
  | name (characters : List Char)
  | octets (number : Nat)
  | groups (values : List Nat)
  deriving DecidableEq, Repr

/-! ## Number addresses -/

/-- A part of a number address: `0x` begins base sixteen, `0` base eight, and nothing at all
behind them is zero. -/
def partValue? : List Char → Option Nat
  | [] => none
  | '0' :: 'x' :: digits => ofBase? 16 digits
  | '0' :: 'X' :: digits => ofBase? 16 digits
  | ['0'] => some 0
  | '0' :: digits => ofBase? 8 digits
  | digits => ofBase? 10 digits

/-- The labels of a name, without the empty one behind a full stop at the end. -/
def labelsOf (name : List Char) : List (List Char) :=
  let labels := Text.splitWhen (· == '.') name
  if labels.getLast? = some [] ∧ labels.length ≠ 1 then labels.dropLast else labels

/-- The last label of a name is a number. -/
def endsInNumber (name : List Char) : Bool :=
  match (labelsOf name).getLast? with
  | none => false
  | some last => !last.isEmpty && (last.all Char.isDigit || (partValue? last).isSome)

/-- The number of a number address. -/
def numberAddress? (name : List Char) : Option Nat := do
  let values ← (labelsOf name).mapM partValue?
  let last ← values.getLast?
  let front := values.dropLast
  if 3 < front.length ∨ front.any (255 < ·) ∨ Nat.pow 256 (4 - front.length) ≤ last then none
  else
    return front.zipIdx.foldl (fun sum (value, place) => sum + value * Nat.pow 256 (3 - place)) last

/-! ## Group addresses -/

/-- Four numbers below 256 with full stops between them, as two groups. -/
def embeddedGroups? (characters : List Char) : Option (List Nat) := do
  let parts := Text.splitWhen (· == '.') characters
  let values ← parts.mapM fun part =>
    match part with
    | [] => none
    | '0' :: _ :: _ => none
    | digits => if digits.all Char.isDigit then some (ofDigits digits) else none
  match values with
  | [first, second, third, fourth] =>
      if values.any (255 < ·) then none else some [first * 256 + second, third * 256 + fourth]
  | _ => none

/-- A group of one to four hexadecimal digits. -/
def group? (characters : List Char) : Option Nat :=
  if characters.isEmpty ∨ 4 < characters.length then none else ofBase? 16 characters

/-- Groups with colons between them; the last two may be written as four numbers. -/
def groupList? (characters : List Char) : Option (List Nat) :=
  if characters.isEmpty then some []
  else
    let parts := Text.splitWhen (· == ':') characters
    match parts.getLast? with
    | none => some []
    | some last =>
        if last.contains '.' then do
          return (← parts.dropLast.mapM group?) ++ (← embeddedGroups? last)
        else parts.mapM group?

/-- What stands before and behind the first two colons in a row, if there are any. -/
def cutAtGap : List Char → Option (List Char × List Char)
  | ':' :: ':' :: rest => some ([], rest)
  | character :: rest => (cutAtGap rest).map fun (front, back) => (character :: front, back)
  | [] => none

/-- The eight groups of a group address.  Two colons in a row stand for one or more groups of
zero. -/
def groupAddress? (characters : List Char) : Option (List Nat) := do
  match cutAtGap characters with
  | none =>
      let groups ← groupList? characters
      if groups.length = 8 then some groups else none
  | some (front, back) =>
      let first ← groupList? front
      let last ← groupList? back
      if first.length + last.length < 8 ∧ !front.contains '.' then
        some (first ++ List.replicate (8 - first.length - last.length) 0 ++ last)
      else none

/-- The length of the run of zeros at the beginning. -/
def zeroRun (values : List Nat) : Nat := (values.takeWhile (· == 0)).length

/-- Where the longest run of zeros begins, the first of several, and how long it is. -/
def longestRun (values : List Nat) : Nat × Nat :=
  (List.range values.length).foldl (fun best start =>
    let length := zeroRun (values.drop start)
    if best.2 < length then (start, length) else best) (0, 0)

/-- Groups with colons between them. -/
def joinGroups (values : List Nat) : List Char :=
  List.intercalate [':'] (values.map hexDigits)

/-- A group address as it is written: the longest run of at least two zeros is left out. -/
def writtenGroups (values : List Nat) : List Char :=
  let (start, length) := longestRun values
  if length < 2 then joinGroups values
  else joinGroups (values.take start) ++ "::".toList ++ joinGroups (values.drop (start + length))

/-! ## Reading and writing -/

/-- A text between square brackets, or `none` if the second one is missing. -/
def bracketed? : List Char → Option (List Char)
  | '[' :: rest => if rest.getLast? = some ']' then some rest.dropLast else none
  | _ => none

/-- Reads a bracketed host. -/
def bracketedHost (characters : List Char) : Except AddressError Host :=
  match (bracketed? characters).bind groupAddress? with
  | some groups => .ok (.groups groups)
  | none => .error .badGroupAddress

/-- Reads the host of a special scheme. -/
def specialHost (characters : List Char) : Except AddressError Host :=
  if characters.head? = some '[' then bracketedHost characters
  else
    match domain? (percentDecode characters) with
    | none => .error .badDomain
    | some [] => .error .emptyHost
    | some name =>
        if endsInNumber name then
          match numberAddress? name with
          | some number => .ok (.octets number)
          | none => .error .badNumberAddress
        else .ok (.name name)

/-- Characters that no host holds. -/
def isForbiddenInHost (character : Char) : Bool :=
  "\x00\t\n\r #/:<>?@[\\]^|".toList.contains character

/-- Reads the host of any other scheme. -/
def plainHost (characters : List Char) : Except AddressError Host :=
  if characters.head? = some '[' then bracketedHost characters
  else if characters.any isForbiddenInHost then .error .badHostCharacter
  else .ok (.name (percentEncode isControlOrHigh characters))

/-- A host as it is written. -/
def Host.written : Host → List Char
  | .name characters => characters
  | .octets number =>
      List.intercalate ['.'] ([3, 2, 1, 0].map fun place =>
        decimalDigits (number / Nat.pow 256 place % 256))
  | .groups values => '[' :: writtenGroups values ++ [']']

end ServiceCatalog.Address
