import ServiceCatalog.Call.Cache
import ServiceCatalog.Call.Response
import ServiceCatalog.Request.Basic

/-!
# What calls share

The calls of a client run side by side.  They share the clock, the caches, which go by names, and
the transport.  What they do to these is recorded as a list of events, in order, so that
statements about any interleaving of calls are statements about such lists.

A transport is given by its answers: to the request that was sent as number `ticket`, when it is
asked for the answer after `polls` earlier times, it answers `none` as long as the answer is
outstanding.
-/

namespace ServiceCatalog

set_option autoImplicit false

open ServiceCatalog.Json

/-- A response, or why there is none. -/
abbrev Exchange := Except TransportError Response

/-- The answers of a transport, by the number of the request and the number of earlier polls. -/
abbrev Transport := Nat → Nat → Option Exchange

/-- What a transport and the caches get to see. -/
inductive Event where
  | sent (request : Request)
  | cacheRead (cache key : String) (hit : Bool)
  | cacheWritten (cache key : String) (value : Value) (lifetime : Option Nat)
  | cacheRemoved (cache key : String)
  deriving Repr

/-- The clock, the caches by their names, and how many requests were sent. -/
structure Shared where
  now : Nat
  caches : List (String × Cache)
  sent : Nat
  deriving Inhabited, Repr

namespace Shared

/-- Nothing kept and nothing sent. -/
def initial : Shared := ⟨0, [], 0⟩

/-- Lets time pass. -/
def wait (milliseconds : Nat) (shared : Shared) : Shared :=
  { shared with now := shared.now + milliseconds }

/-- The cache with a name; one that was never written to is empty. -/
def cache (shared : Shared) (name : String) : Cache :=
  (shared.caches.lookup name).getD Cache.empty

/-- Puts a cache in the place of the one with a name. -/
def setCache (name : String) (cache : Cache) (shared : Shared) : Shared :=
  { shared with caches := assign name cache shared.caches }

/-- Reads a key of a cache. -/
def readCache (name key : String) (shared : Shared) : Option Value × Shared × List Event :=
  let (found, cache) := (shared.cache name).read shared.now key
  (found, shared.setCache name cache, [.cacheRead name key found.isSome])

/-- Keeps a value in a cache. -/
def writeCache (name key : String) (value : Value) (lifetime : Option Nat) (shared : Shared) :
    Shared × List Event :=
  (shared.setCache name ((shared.cache name).put shared.now key value lifetime),
    [.cacheWritten name key value lifetime])

/-- Takes a key out of a cache. -/
def removeFromCache (name key : String) (shared : Shared) : Shared × List Event :=
  (shared.setCache name ((shared.cache name).remove key), [.cacheRemoved name key])

/-- Hands a request to the transport and answers with its number. -/
def send (request : Request) (shared : Shared) : Nat × Shared × List Event :=
  (shared.sent, { shared with sent := shared.sent + 1 }, [.sent request])

end Shared

end ServiceCatalog
