import ServiceCatalog.Association
import ServiceCatalog.Call.Sending
import ServiceCatalog.Catalog.Error
import ServiceCatalog.Client.Binding

/-!
# Clients

A client is a catalog brought to life: one binding for each operation, in catalog order, all with
the same base address and the same cache.  An index says at which position the binding of an
operation stands, so that it is found by the name of the operation.

A client cannot be built if nobody gave a base address, if the base address is not absolute, if
the catalog is inconsistent, or if one of its standard headers has a fault.
-/

namespace ServiceCatalog

set_option autoImplicit false

open ServiceCatalog.Address

/-! ## Why there is no client -/

/-- Why a client cannot be built. -/
inductive ClientError where
  | missingBaseUrl (title : String)
  | badBaseUrl (url : String) (cause : AddressError)
  | catalog (cause : CatalogError)
  | badHeader (name : String) (fault : HeaderFault)
  deriving DecidableEq, Repr

/-- The wording of an error, for those that have one. -/
def ClientError.message? : ClientError → Option String
  | .missingBaseUrl title =>
      some ("No base URL: the catalog '" ++ title ++ "' has no host and none was configured")
  | .badBaseUrl url cause => some ("Invalid base URL '" ++ url ++ "': " ++ cause.message)
  | .catalog cause => cause.message?
  | .badHeader name fault => some ("Invalid header '" ++ name ++ "': " ++ fault.message)

/-- Checks the standard headers of a client. -/
def checkHeaders (headers : List (String × String)) : Except ClientError Unit :=
  match firstHeaderFault? headers with
  | some (name, fault) => .error (.badHeader name fault)
  | none => .ok ()

/-! ## Clients -/

/-- The bindings of a catalog, and their positions by the names of the operations. -/
structure Client where
  catalog : Catalog
  baseUrl : String
  bindings : List Binding
  index : List (String × Nat)
  cache : Option String
  deriving Repr

namespace Client

/-- A base address without the slashes at its end. -/
def trimmedBase (url : String) : String :=
  String.ofList (Text.dropEndWhile (· == '/') url.toList)

/-- The base address that was given, otherwise that of the catalog, in its trimmed form. -/
def chooseBase (catalog : Catalog) (given : Option String) : Except ClientError String :=
  match given <|> catalog.baseUrl with
  | none => .error (.missingBaseUrl catalog.title)
  | some url =>
      match readAddress url with
      | .error cause => .error (.badBaseUrl url cause)
      | .ok _ => .ok (trimmedBase url)

/-- The positions of operations by their names.  Of several operations with one name it would be the
last one. -/
def indexOf (operations : List Operation) : List (String × Nat) :=
  assignAll (operations.zipIdx.map fun (operation, position) => (operation.name, position))

/-- Builds a client. -/
def build (catalog : Catalog) (baseUrl cache : Option String) : Except ClientError Client := do
  let base ← chooseBase catalog baseUrl
  catalog.validate.mapError .catalog
  let bindings ← (catalog.operations.mapM fun operation => Binding.bind operation base).mapError
    .catalog
  return ⟨catalog, base, bindings.map (·.withCache cache), indexOf catalog.operations, cache⟩

/-- The binding of an operation. -/
def binding? (client : Client) (name : String) : Option Binding :=
  (client.index.lookup name).bind fun position => client.bindings[position]?

/-- Replaces the cache of the client and of every binding. -/
def withCache (cache : String) (client : Client) : Client :=
  { client with
    bindings := client.bindings.map (·.withCache (some cache))
    cache := some cache }

/-- Calls an operation by its name.  An unknown name gives a call that is already rejected. -/
def call (client : Client) (name : String) (arguments : Arguments) (options : CallOptions)
    (shared : Shared) : PendingCall × Shared × List Event :=
  match client.binding? name with
  | some binding => binding.call arguments options shared
  | none => (.rejected name (.unknownOperation name), shared, [])

/-- Takes the entry of a key out of the cache of the client. -/
def invalidate (client : Client) (key : String) (shared : Shared) : Shared × List Event :=
  match client.cache with
  | some cache => shared.removeFromCache cache key
  | none => (shared, [])

end Client

end ServiceCatalog
