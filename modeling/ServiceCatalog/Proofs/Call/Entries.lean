import ServiceCatalog.Association
import ServiceCatalog.Call.Shared

/-!
# The caches as one table

All caches together are a table of entries, with a name and a key for each row (`Shared.row?`).
Every operation on the caches changes at most one row: writing sets it, taking a key out empties
it, and reading empties it only when the lifetime of the entry has passed.  Emptying a cache
changes the rows of its name.

What a reading finds is the value of the row, if its lifetime has not passed (`readCache_found`).
-/

namespace ServiceCatalog

set_option autoImplicit false

open ServiceCatalog.Json

/-! ## Reading one cache -/

namespace Cache

variable (now : Nat) (key : String) (cache : Cache)

theorem read_found :
    (cache.read now key).1 =
      ((cache.entries.lookup key).filter fun entry => !entry.isExpired now).map
        CacheEntry.value := by
  simp only [read]
  cases cache.entries.lookup key with
  | none => rfl
  | some entry => by_cases expired : entry.isExpired now <;> simp [expired, Option.filter]

theorem lookup_read (asked : String) :
    (cache.read now key).2.entries.lookup asked =
      if asked = key then (cache.entries.lookup key).filter fun entry => !entry.isExpired now
      else cache.entries.lookup asked := by
  simp only [read]
  cases found : cache.entries.lookup key with
  | none => by_cases keyed : asked = key <;> simp [keyed, found]
  | some entry =>
      by_cases expired : entry.isExpired now
      · simp [expired, remove, lookup_unassign, Option.filter]
      · by_cases keyed : asked = key <;> simp [expired, keyed, found, Option.filter]

end Cache

namespace Shared

/-- The entry of a cache under a key. -/
def row? (shared : Shared) (name key : String) : Option CacheEntry :=
  (shared.cache name).entries.lookup key

variable (shared : Shared) (name key other asked : String)

/-! ## Putting a cache in place -/

theorem cache_setCache (cache : Cache) :
    (shared.setCache name cache).cache other =
      if other = name then cache else shared.cache other := by
  simp only [Shared.cache, setCache, lookup_assign]
  by_cases same : other = name <;> simp [same]

theorem row?_setCache (cache : Cache) :
    (shared.setCache name cache).row? other asked =
      if other = name then cache.entries.lookup asked else shared.row? other asked := by
  simp only [row?, cache_setCache]
  by_cases same : other = name <;> simp [same]

/-- Emptying a cache empties its rows. -/
theorem row?_clear :
    (shared.setCache name Cache.empty).row? other asked =
      if other = name then none else shared.row? other asked := by
  simp [row?_setCache, Cache.empty]

/-! ## Writing and taking out -/

/-- **Writing sets one row.** -/
theorem row?_writeCache (value : Value) (lifetime : Option Nat) :
    (shared.writeCache name key value lifetime).1.row? other asked =
      if other = name ∧ asked = key then
        some ⟨value, lifetime.map fun span => shared.now + span⟩
      else shared.row? other asked := by
  simp only [writeCache, row?_setCache, Cache.put, lookup_assign]
  by_cases same : other = name
  · by_cases keyed : asked = key <;> simp [same, keyed, row?]
  · simp [same]

/-- **Taking a key out empties one row.** -/
theorem row?_removeFromCache :
    (shared.removeFromCache name key).1.row? other asked =
      if other = name ∧ asked = key then none else shared.row? other asked := by
  simp only [removeFromCache, row?_setCache, Cache.remove, lookup_unassign]
  by_cases same : other = name
  · by_cases keyed : asked = key <;> simp [same, keyed, row?]
  · simp [same]

/-! ## Reading -/

/-- What a reading finds is the value of the row, if its lifetime has not passed. -/
theorem readCache_found :
    (shared.readCache name key).1 =
      ((shared.row? name key).filter fun entry => !entry.isExpired shared.now).map
        CacheEntry.value := by
  simp only [readCache, Cache.read_found, row?]

/-- A reading finds a value exactly if there is a row with that value whose lifetime has not
passed. -/
theorem readCache_eq_some {value : Value} :
    (shared.readCache name key).1 = some value ↔
      ∃ entry, shared.row? name key = some entry ∧ entry.isExpired shared.now = false ∧
        entry.value = value := by
  rw [readCache_found]
  simp [Option.map_eq_some_iff, Option.filter_eq_some_iff, and_assoc]

/-- A reading is one event, which says whether there was a hit. -/
theorem readCache_events :
    (shared.readCache name key).2.2 =
      [.cacheRead name key (shared.readCache name key).1.isSome] := rfl

/-- **Reading empties a row only when its lifetime has passed.** -/
theorem row?_readCache :
    (shared.readCache name key).2.1.row? other asked =
      if other = name ∧ asked = key then
        (shared.row? name key).filter fun entry => !entry.isExpired shared.now
      else shared.row? other asked := by
  simp only [readCache, row?_setCache, Cache.lookup_read]
  by_cases same : other = name
  · by_cases keyed : asked = key <;> simp [same, keyed, row?]
  · simp [same]

end Shared

end ServiceCatalog
