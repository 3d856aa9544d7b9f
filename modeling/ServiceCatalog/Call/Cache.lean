import ServiceCatalog.Json.Basic

/-!
# Caches

A cache keeps payloads under keys.  An entry may have a lifetime; once that has passed the entry
counts as absent.  It is only taken out when it is read, so until then it is still counted.  A
lifetime of nothing has passed at once.

Every operation that looks at the clock is given the time, in milliseconds since some beginning.
-/

namespace ServiceCatalog

set_option autoImplicit false

open ServiceCatalog.Json

/-- An entry of a cache, with the time from which it counts as absent. -/
structure CacheEntry where
  value : Value
  expiresAt : Option Nat
  deriving Repr

/-- The lifetime of an entry has passed. -/
def CacheEntry.isExpired (now : Nat) (entry : CacheEntry) : Bool :=
  entry.expiresAt.any fun expiry => expiry ≤ now

/-- A cache. -/
structure Cache where
  entries : List (String × CacheEntry)
  deriving Inhabited, Repr

namespace Cache

/-- A cache without entries. -/
def empty : Cache := ⟨[]⟩

/-- Keeps a value under a key, in place of what was there.

Times and lifetimes have no bound here, so there always is a time at which the lifetime has passed.
A clock of bounded range breaks off, before anything is kept, if that time is beyond its range; what
is said here holds of lifetimes that end within it. -/
def put (now : Nat) (key : String) (value : Value) (lifetime : Option Nat) (cache : Cache) :
    Cache :=
  ⟨assign key ⟨value, lifetime.map fun span => now + span⟩ cache.entries⟩

/-- Takes the entry of a key out. -/
def remove (key : String) (cache : Cache) : Cache := ⟨unassign key cache.entries⟩

/-- The value under a key, if its lifetime has not passed, and the cache after reading. -/
def read (now : Nat) (key : String) (cache : Cache) : Option Value × Cache :=
  match cache.entries.lookup key with
  | none => (none, cache)
  | some entry =>
      if entry.isExpired now then (none, cache.remove key) else (some entry.value, cache)

/-- The number of entries, those whose lifetime has passed included. -/
def size (cache : Cache) : Nat := cache.entries.length

/-- There are no entries. -/
def isEmpty (cache : Cache) : Bool := cache.size == 0

end Cache

end ServiceCatalog
