import ServiceCatalog.Json.Decoder
import ServiceCatalog.Json.Parser
import ServiceCatalog.Json.Printer
import ServiceCatalog.Text.Utf8

/-!
# What a call ends with

A response is a status, headers and octets.  Every body has a JSON value
(`decodeBody`): blank bodies are `null`, a JSON text is the value it writes, and any other body
is the string of its text, read leniently.

A call is rejected locally if a required argument is missing or its operation is unknown.  Later
it is rejected if the transport fails, if the server answers outside the statuses of success, or
if the payload does not have the type that was asked for.
-/

namespace ServiceCatalog

set_option autoImplicit false

open ServiceCatalog.Json

/-! ## Responses -/

/-- What a server answered. -/
structure Response where
  status : Nat
  headers : List (String × String)
  body : List UInt8
  deriving Repr

namespace Response

/-- A response with a JSON body. -/
def json (status : Nat) (value : Value) : Response :=
  ⟨status, [("content-type", "application/json")], Text.encode (printed value)⟩

/-- The statuses of success are those from 200 to 299. -/
def isSuccess (response : Response) : Bool := 200 ≤ response.status && response.status ≤ 299

end Response

/-- A blank octet: space, tab, line feed, form feed or carriage return. -/
def isBlankOctet (octet : UInt8) : Bool :=
  octet == 0x20 || octet == 0x09 || octet == 0x0A || octet == 0x0C || octet == 0x0D

/-- The value of a body. -/
def decodeBody (body : List UInt8) : Value :=
  if body.all isBlankOctet then .null
  else
    match (Text.decode? body).bind parseChars? with
    | some value => value
    | none => .string (String.ofList (Text.decodeLossy body))

/-! ## Errors of the transport -/

/-- Why a transport gave no response.  A request that cannot be sent names its address if it has
one that could be read. -/
inductive TransportError where
  | unsendable (address : Option String)
  | timeout (milliseconds : Nat)
  | connection (text : String)
  | invalidRequest (text : String)
  deriving DecidableEq, Repr

namespace TransportError

/-- A caller may try again after a timeout and after a failed connection. -/
def isRetryable : TransportError → Bool
  | .timeout _ | .connection _ => true
  | .unsendable _ | .invalidRequest _ => false

/-- The wording of a transport error. -/
def message : TransportError → String
  | .unsendable none => "HTTP request failed: builder error"
  | .unsendable (some address) =>
      "HTTP request failed: builder error for url (" ++ address ++ ")"
  | .timeout milliseconds => "Request timeout after " ++ Numeric.natText milliseconds ++ "ms"
  | .connection text => "Connection failed: " ++ text
  | .invalidRequest text => "Invalid request: " ++ text

end TransportError

/-! ## Errors of a call -/

/-- Why a call was rejected. -/
inductive CallError where
  | missingParameter (operation parameter : String)
  | unknownOperation (name : String)
  | httpStatus (status : Nat) (headers : List (String × String)) (body : Json.Value)
  | transport (cause : TransportError)
  | decode (operation : String) (cause : Json.Mismatch)
  deriving Repr

namespace CallError

/-- The call was rejected before any request. -/
def isLocal : CallError → Bool
  | .missingParameter .. | .unknownOperation _ => true
  | _ => false

/-- The status, if the server answered. -/
def statusCode? : CallError → Option Nat
  | .httpStatus status _ _ => some status
  | _ => none

/-- The wording of an error. -/
def message : CallError → String
  | .missingParameter operation parameter =>
      "Missing required parameter '" ++ parameter ++ "' for operation '" ++ operation ++ "'"
  | .unknownOperation name => "Unknown operation '" ++ name ++ "'"
  | .httpStatus status _ body => "HTTP " ++ Numeric.natText status ++ ": " ++ body.compact
  | .transport cause => cause.message
  | .decode operation cause =>
      "Failed to decode response of '" ++ operation ++ "': " ++ cause.message

end CallError

end ServiceCatalog
