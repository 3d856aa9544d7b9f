import ServiceCatalog.Catalog.Vocabulary
import ServiceCatalog.Json.Basic
import ServiceCatalog.Numeric.Digits
import ServiceCatalog.Text.Utf8

/-!
# Requests

A request is all that a transport needs for one exchange.  The address is kept apart from the
query pairs; the address under which an answer is stored joins the two (`Request.fullUrl`).

Pairs of names and values are written `name=value`, with `&` between the pairs.  Inside a name
or a value the digits and letters of the basic range and the four marks `*`, `-`, `.` and `_`
stand for themselves, a space is written `+`, and every other octet of the UTF-8 writing as a
percent sign with two hexadecimal digits in capitals.  Neither separator occurs in what is written
for a name or a value, so a written list of pairs can be cut apart again.
-/

namespace ServiceCatalog

set_option autoImplicit false

/-! ## Form encoding -/

namespace FormEncoding

open ServiceCatalog.Numeric

/-- An octet that stands for itself. -/
def standsForItself (octet : UInt8) : Bool :=
  let code := octet.toNat
  (0x30 ≤ code && code ≤ 0x39) || (0x41 ≤ code && code ≤ 0x5A) || (0x61 ≤ code && code ≤ 0x7A)
    || code == 0x2A || code == 0x2D || code == 0x2E || code == 0x5F

/-- An octet as it is written. -/
def writtenOctet (octet : UInt8) : List Char :=
  if standsForItself octet then [Char.ofNat octet.toNat]
  else if octet.toNat = 0x20 then ['+']
  else ['%', capitalHexDigit (octet.toNat / 16), capitalHexDigit (octet.toNat % 16)]

/-- A name or a value as it is written. -/
def component (text : String) : List Char := (Text.encode text.toList).flatMap writtenOctet

/-- A pair as it is written. -/
def written (pair : String × String) : List Char := component pair.1 ++ '=' :: component pair.2

/-- Pairs as they are written, on characters. -/
def encodeChars (pairs : List (String × String)) : List Char :=
  List.intercalate ['&'] (pairs.map written)

/-- Pairs as they are written. -/
def encode (pairs : List (String × String)) : String := String.ofList (encodeChars pairs)

end FormEncoding

/-! ## Requests -/

/-- The payload of a request: a JSON value, or form fields in order. -/
inductive Payload where
  | json (value : Json.Value)
  | form (fields : List (String × String))
  deriving Repr

/-- A request.  Times are in milliseconds. -/
structure Request where
  verb : Verb
  url : String
  query : List (String × String)
  payload : Option Payload
  headers : List (String × String)
  timeout : Option Nat
  deriving Repr

namespace Request

/-- A request of an address and nothing else. -/
def bare (verb : Verb) (url : String) : Request := ⟨verb, url, [], none, [], none⟩

/-- The written query, if there is a pair to write. -/
def queryString? (request : Request) : Option String :=
  if request.query.isEmpty then none else some (FormEncoding.encode request.query)

/-- The address with the written query behind a question mark. -/
def fullUrl (request : Request) : String :=
  match request.queryString? with
  | some query => request.url ++ "?" ++ query
  | none => request.url

end Request

end ServiceCatalog
