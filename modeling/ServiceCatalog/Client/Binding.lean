import ServiceCatalog.Call.Pending
import ServiceCatalog.Catalog.Validity
import ServiceCatalog.Request.Preparation

/-!
# Bindings

A binding is an operation that can be called: it knows the base address, and the cache to use
when a call brings none of its own.

A call never fails when it is made.  A missing argument gives a call that is already rejected.  A
cacheable operation is looked up in the cache of the call first, unless the call asks for a fresh
answer, and a hit gives a call that is already resolved.  Every other call waits for the
transport.
-/

namespace ServiceCatalog

set_option autoImplicit false

open ServiceCatalog.Json

/-- An operation with its base address and the cache to use when a call brings none. -/
structure Binding where
  operation : Operation
  baseUrl : String
  cache : Option String
  deriving DecidableEq, Repr

namespace Binding

/-- Binds an operation that is consistent. -/
def bind (operation : Operation) (baseUrl : String) : Except CatalogError Binding :=
  operation.validate.map fun _ => ⟨operation, baseUrl, none⟩

/-- Sets the cache to use when a call brings none. -/
def withCache (cache : Option String) (binding : Binding) : Binding :=
  { binding with cache := cache }

/-- The name of the operation. -/
def name (binding : Binding) : String := binding.operation.name

/-- Prepares a call. -/
def prepare (binding : Binding) (arguments : Arguments) (options : CallOptions) :
    Except MissingParameter PreparedCall :=
  binding.operation.prepare binding.baseUrl arguments options

/-- The cache of a call: its own if it brings one, otherwise that of the binding. -/
def effectiveCache (binding : Binding) (options : CallOptions) : Option String :=
  options.cache <|> binding.cache

/-- The cache that a call may be answered from: its cache, if the operation is cacheable and no
fresh answer is asked for. -/
def readableCache (binding : Binding) (options : CallOptions) : Option String :=
  if binding.operation.isCacheable && !options.refresh then binding.effectiveCache options
  else none

/-- Looks up the answer of a prepared call, if it may be answered from a cache at all. -/
def lookUp (binding : Binding) (options : CallOptions) (prepared : PreparedCall)
    (shared : Shared) : Option Value × Shared × List Event :=
  match binding.readableCache options with
  | none => (none, shared, [])
  | some cache => shared.readCache cache prepared.cacheKey

/-- The flight of a prepared call, not sent yet. -/
def flight (binding : Binding) (options : CallOptions) (prepared : PreparedCall) : Flight where
  request := prepared.request
  cacheKey := prepared.cacheKey
  cache := binding.effectiveCache options
  lifetime := options.lifetime
  progress := none

/-- Calls the operation. -/
def call (binding : Binding) (arguments : Arguments) (options : CallOptions) (shared : Shared) :
    PendingCall × Shared × List Event :=
  match binding.prepare arguments options with
  | .error missing =>
      (.rejected binding.name (.missingParameter missing.operation missing.parameter), shared, [])
  | .ok prepared =>
      match binding.lookUp options prepared shared with
      | (some value, shared, events) => (.resolved binding.name value, shared, events)
      | (none, shared, events) =>
          (.awaiting binding.name (binding.flight options prepared), shared, events)

end Binding

end ServiceCatalog
