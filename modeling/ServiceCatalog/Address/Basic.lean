import ServiceCatalog.Address.Host
import ServiceCatalog.Request.Basic

/-!
# Absolute addresses

An absolute address is a scheme, perhaps an authority, a path, and perhaps a query and a
fragment.  The parts are kept in their written form, in which every octet that a part cannot hold
stands behind a percent sign, so writing an address is putting its parts behind one another.

The path is either a list of segments or, for an address such as that of a mailbox, a text that
nothing is known about.
-/

namespace ServiceCatalog.Address

set_option autoImplicit false

/-! ## Schemes -/

/-- How addresses of a scheme are read. -/
inductive SchemeKind where
  | web
  | file
  | other
  deriving DecidableEq, Repr

/-- The kind of a scheme. -/
def SchemeKind.of (scheme : List Char) : SchemeKind :=
  if ["http", "https", "ws", "wss", "ftp"].contains (String.ofList scheme) then .web
  else if scheme = "file".toList then .file
  else .other

/-- Backslashes count as slashes, and hosts are domain names. -/
def SchemeKind.isSpecial (kind : SchemeKind) : Bool := kind != .other

/-- The port that a scheme uses if none is given. -/
def defaultPort? (scheme : List Char) : Option Nat :=
  [("http", 80), ("https", 443), ("ws", 80), ("wss", 443), ("ftp", 21)].lookup
    (String.ofList scheme)

/-! ## Addresses -/

/-- Who asks: a name and perhaps a password. -/
structure Credentials where
  user : List Char
  password : Option (List Char)
  deriving DecidableEq, Repr

/-- Where an address leads to. -/
structure Authority where
  credentials : Credentials
  host : Option Host
  port : Option Nat
  deriving DecidableEq, Repr

/-- The path of an address. -/
inductive Path where
  | segments (list : List (List Char))
  | text (characters : List Char)
  deriving DecidableEq, Repr

/-- An absolute address. -/
structure AbsoluteAddress where
  scheme : List Char
  authority : Option Authority
  path : Path
  query : Option (List Char)
  fragment : Option (List Char)
  deriving DecidableEq, Repr

/-- Credentials with the sign behind them, or nothing if there are none. -/
def Credentials.written (credentials : Credentials) : List Char :=
  let password := (credentials.password.map fun password => ':' :: password).getD []
  if credentials.user.isEmpty ∧ credentials.password = none then []
  else credentials.user ++ password ++ ['@']

/-- An authority as it is written. -/
def Authority.written (authority : Authority) : List Char :=
  authority.credentials.written ++ (authority.host.map Host.written).getD [] ++
    (authority.port.map fun port => ':' :: Numeric.decimalDigits port).getD []

/-- A path as it is written. -/
def Path.written : Path → List Char
  | .segments list => list.flatMap fun segment => '/' :: segment
  | .text characters => characters

/-- What stands between the authority and the path: a path without an authority must not look
like one. -/
def pathGuard (authority : Option Authority) (path : Path) : List Char :=
  match authority, path.written with
  | none, '/' :: '/' :: _ => "/.".toList
  | _, _ => []

/-- An address as it is written. -/
def AbsoluteAddress.written (address : AbsoluteAddress) : List Char :=
  address.scheme ++ [':'] ++
    (address.authority.map fun authority => "//".toList ++ authority.written).getD [] ++
    pathGuard address.authority address.path ++ address.path.written ++
    (address.query.map ('?' :: ·)).getD [] ++ (address.fragment.map ('#' :: ·)).getD []

/-- The host of an address. -/
def AbsoluteAddress.host? (address : AbsoluteAddress) : Option Host :=
  address.authority.bind Authority.host

/-- An address without credentials.  Credentials that are no UTF-8 stay where they are. -/
def AbsoluteAddress.withoutCredentials (address : AbsoluteAddress) : AbsoluteAddress :=
  match address.authority with
  | none => address
  | some authority =>
      let isText := fun part => (Text.decode? (percentDecode part)).isSome
      let named := !authority.credentials.user.isEmpty
      let secret := authority.credentials.password.any isText
      if isText authority.credentials.user && (named || secret) then
        { address with authority := some { authority with credentials := ⟨[], none⟩ } }
      else address

/-- Adds pairs to the query, behind those that are there. -/
def AbsoluteAddress.withPairs (pairs : List (String × String)) (address : AbsoluteAddress) :
    AbsoluteAddress :=
  if pairs.isEmpty then address
  else
    let added := FormEncoding.encodeChars pairs
    match address.query with
    | none | some [] => { address with query := some added }
    | some query => { address with query := some (query ++ '&' :: added) }

end ServiceCatalog.Address
