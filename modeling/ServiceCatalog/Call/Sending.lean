import ServiceCatalog.Address.Parser
import ServiceCatalog.Call.Response
import ServiceCatalog.Request.Basic

/-!
# What stops a request before a connection is opened

A request over the web is looked at before anything is sent.  Its headers must have names that
are tokens and values without control characters, and its address must be absolute, with a host,
under a scheme of the web.  The headers are looked at first, in order, and in each the name before
the value.
-/

namespace ServiceCatalog

set_option autoImplicit false

open ServiceCatalog.Address

/-! ## Headers -/

/-- What is wrong with a header. -/
inductive HeaderFault where
  | badName
  | badValue
  deriving DecidableEq, Repr

/-- The wording of a header fault. -/
def HeaderFault.message : HeaderFault → String
  | .badName => "invalid HTTP header name"
  | .badValue => "failed to parse header value"

/-- A character of a token: a digit or letter of the basic range, or one of fifteen marks. -/
def isTokenChar (character : Char) : Bool :=
  character.isAlphanum || "!#$%&'*+-.^_\x60|~".toList.contains character

/-- A header name is a token that is not empty and not longer than a length field of sixteen bits
can say. -/
def isHeaderName (name : String) : Bool :=
  !name.isEmpty && name.toList.all isTokenChar && name.length < 65536

/-- A header value holds no control character of the basic range but the tab. -/
def isHeaderValue (value : String) : Bool :=
  value.toList.all fun character =>
    character == '\t' || (0x20 ≤ character.toNat && character.toNat != 0x7F)

/-- What is wrong with a header, if anything. -/
def headerFault? (name value : String) : Option HeaderFault :=
  if !isHeaderName name then some .badName
  else if !isHeaderValue value then some .badValue
  else none

/-- The first header with a fault, by its name, and the fault. -/
def firstHeaderFault? (headers : List (String × String)) : Option (String × HeaderFault) :=
  headers.findSome? fun (name, value) =>
    (headerFault? name value).map fun fault => (name, fault)

/-! ## Addresses -/

/-- A scheme of the web. -/
def isWebScheme (scheme : List Char) : Bool :=
  scheme == "http".toList || scheme == "https".toList

/-- Why an address cannot be reached over the web, if it cannot.  An address without a host is
named as it is, another one with the query pairs of the request and without credentials. -/
def unreachable? (url : String) (query : List (String × String)) : Option TransportError :=
  match readAddress url with
  | .error _ => some (.unsendable none)
  | .ok address =>
      let named := fun (address : AbsoluteAddress) =>
        some (TransportError.unsendable (some (String.ofList address.written)))
      if address.host?.isNone then named address
      else if isWebScheme address.scheme then none
      else named (address.withoutCredentials.withPairs query)

/-- Why a request is refused before a connection is opened, if it is. -/
def Request.refusal? (request : Request) : Option TransportError :=
  match firstHeaderFault? request.headers with
  | some (name, fault) =>
      some (.invalidRequest ("header '" ++ name ++ "': " ++ fault.message))
  | none => unreachable? request.url request.query

end ServiceCatalog
