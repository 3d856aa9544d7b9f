import ServiceCatalog.Client.Session
import ServiceCatalog.Proofs.Call.Polling

/-!
# What making a call does

Making a call has five outcomes, the constructors of `Target.Making`.  The name is unknown, or an
argument is missing: then the call is rejected, and nothing else happens.  Otherwise the call is
prepared, and a cache is read if there is one that may be read (`Binding.readableCache`).  A hit
resolves the call; in the other cases it waits with a flight that was not sent yet.

`Target.making` says that these are all.  Statements about calls are proved by going through the
five cases, without looking into the functions again.
-/

namespace ServiceCatalog

set_option autoImplicit false

open ServiceCatalog.Json

namespace Binding

/-- Binding gives an operation that is consistent with its address, and no cache. -/
theorem bind_eq_ok {operation : Operation} {baseUrl : String} {binding : Binding} :
    Binding.bind operation baseUrl = .ok binding ↔
      operation.validate = .ok () ∧ binding = ⟨operation, baseUrl, none⟩ := by
  cases valid : operation.validate <;> simp [bind, valid, Except.map, eq_comm]

/-- A cache that may be read is the cache of the call, and the operation and the settings of the
call allow reading. -/
theorem readableCache_eq_some {binding : Binding} {options : CallOptions} {cache : String} :
    binding.readableCache options = some cache ↔
      binding.operation.isCacheable = true ∧ options.refresh = false ∧
        binding.effectiveCache options = some cache := by
  simp only [readableCache]
  cases binding.operation.isCacheable <;> cases options.refresh <;> simp

/-- No cache may be read if the operation or the settings of the call forbid it, or if the call has
no cache. -/
theorem readableCache_eq_none {binding : Binding} {options : CallOptions} :
    binding.readableCache options = none ↔
      binding.operation.isCacheable = false ∨ options.refresh = true ∨
        binding.effectiveCache options = none := by
  simp only [readableCache]
  cases binding.operation.isCacheable <;> cases options.refresh <;> simp

/-- With a cache that may be read, looking up is reading it. -/
theorem lookUp_of_readable {binding : Binding} {options : CallOptions} {cache : String}
    (readable : binding.readableCache options = some cache) (prepared : PreparedCall)
    (shared : Shared) :
    binding.lookUp options prepared shared = shared.readCache cache prepared.cacheKey := by
  simp only [lookUp, readable]

/-- Without a cache that may be read, nothing is looked up. -/
theorem lookUp_of_unreadable {binding : Binding} {options : CallOptions}
    (unreadable : binding.readableCache options = none) (prepared : PreparedCall)
    (shared : Shared) :
    binding.lookUp options prepared shared = (none, shared, []) := by
  simp only [lookUp, unreadable]

section Prepared

variable {binding : Binding} {arguments : Arguments} {options : CallOptions} {shared : Shared}
  {prepared : PreparedCall} (prepares : binding.prepare arguments options = .ok prepared)
include prepares

/-- A prepared call for which nothing was found waits. -/
theorem call_of_lookUp_none (absent : (binding.lookUp options prepared shared).1 = none) :
    binding.call arguments options shared =
      (.awaiting binding.name (binding.flight options prepared),
        (binding.lookUp options prepared shared).2) := by
  simp only [call, prepares]
  split
  · next looked => simp [looked] at absent
  · next looked => rw [looked]

/-- A prepared call for which a value was found is resolved with it. -/
theorem call_of_lookUp_some {value : Value}
    (kept : (binding.lookUp options prepared shared).1 = some value) :
    binding.call arguments options shared =
      (.resolved binding.name value, (binding.lookUp options prepared shared).2) := by
  simp only [call, prepares]
  split
  · next looked =>
      simp only [looked, Option.some.injEq] at kept
      rw [looked, kept]
  · next looked => simp [looked] at kept

end Prepared

end Binding

namespace Target

/-- What making a call through a target gives: the call, what is shared afterwards, and the
events. -/
inductive Making (client : Client) (arguments : Arguments) (options : CallOptions)
    (shared : Shared) : Target → PendingCall → Shared → List Event → Prop where
  | unknown {name : String} (unknown : client.binding? name = none) :
      Making client arguments options shared (.operation name)
        (.rejected name (.unknownOperation name)) shared []
  | missing {target : Target} {binding : Binding} {missing : MissingParameter}
      (found : target.binding? client = some binding)
      (incomplete : binding.prepare arguments options = .error missing) :
      Making client arguments options shared target
        (.rejected binding.name (.missingParameter missing.operation missing.parameter)) shared []
  | unread {target : Target} {binding : Binding} {prepared : PreparedCall}
      (found : target.binding? client = some binding)
      (complete : binding.prepare arguments options = .ok prepared)
      (unreadable : binding.readableCache options = none) :
      Making client arguments options shared target
        (.awaiting binding.name (binding.flight options prepared)) shared []
  | hit {target : Target} {binding : Binding} {prepared : PreparedCall} {cache : String}
      {value : Value} (found : target.binding? client = some binding)
      (complete : binding.prepare arguments options = .ok prepared)
      (readable : binding.readableCache options = some cache)
      (kept : (shared.readCache cache prepared.cacheKey).1 = some value) :
      Making client arguments options shared target (.resolved binding.name value)
        (shared.readCache cache prepared.cacheKey).2.1
        [.cacheRead cache prepared.cacheKey true]
  | missed {target : Target} {binding : Binding} {prepared : PreparedCall} {cache : String}
      (found : target.binding? client = some binding)
      (complete : binding.prepare arguments options = .ok prepared)
      (readable : binding.readableCache options = some cache)
      (absent : (shared.readCache cache prepared.cacheKey).1 = none) :
      Making client arguments options shared target
        (.awaiting binding.name (binding.flight options prepared))
        (shared.readCache cache prepared.cacheKey).2.1
        [.cacheRead cache prepared.cacheKey false]

variable {client : Client} {arguments : Arguments} {options : CallOptions} {shared : Shared}

/-- Calling a binding that a target has is one of the five cases. -/
theorem making_of_binding {target : Target} {binding : Binding}
    (found : target.binding? client = some binding) :
    Making client arguments options shared target (binding.call arguments options shared).1
      (binding.call arguments options shared).2.1 (binding.call arguments options shared).2.2 := by
  cases prepares : binding.prepare arguments options with
  | error missing =>
      simp only [Binding.call, prepares]
      exact .missing found prepares
  | ok prepared =>
      cases readable : binding.readableCache options with
      | none =>
          simp only [Binding.call, prepares, Binding.lookUp_of_unreadable readable]
          exact .unread found prepares readable
      | some cache =>
          have reads := Binding.lookUp_of_readable readable prepared shared
          have seen := shared.readCache_events cache prepared.cacheKey
          cases kept : (shared.readCache cache prepared.cacheKey).1 with
          | none =>
              rw [Binding.call_of_lookUp_none prepares (reads ▸ kept), reads, seen, kept]
              exact .missed found prepares readable kept
          | some value =>
              rw [Binding.call_of_lookUp_some prepares (reads ▸ kept), reads, seen, kept]
              exact .hit found prepares readable kept

/-- **Making a call is one of the five cases.** -/
theorem making (target : Target) :
    Making client arguments options shared target
      (target.call client arguments options shared).1
      (target.call client arguments options shared).2.1
      (target.call client arguments options shared).2.2 := by
  cases target with
  | held binding => exact making_of_binding rfl
  | operation name =>
      cases found : client.binding? name with
      | none =>
          simp only [call, Client.call, found]
          exact .unknown found
      | some binding =>
          have same : (Target.operation name).call client arguments options shared =
              binding.call arguments options shared := by
            simp only [call, Client.call, found]
          rw [same]
          exact making_of_binding found

/-! ## Reading the five cases back -/

/-- A call that cannot be prepared is rejected in silence. -/
theorem Making.of_unprepared {target : Target} {pending : PendingCall} {after : Shared}
    {events : List Event}
    (making : Making client arguments options shared target pending after events)
    (unprepared : ∀ binding, target.binding? client = some binding →
      ∃ missing, binding.prepare arguments options = .error missing) :
    events = [] ∧ ∃ operation cause, pending = .rejected operation cause := by
  have prepares : ∀ {binding : Binding} {prepared : PreparedCall},
      target.binding? client = some binding →
        binding.prepare arguments options ≠ .ok prepared := by
    intro binding prepared found complete
    obtain ⟨missing, incomplete⟩ := unprepared binding found
    cases complete.symm.trans incomplete
  cases making with
  | unknown | missing => exact ⟨rfl, _, _, rfl⟩
  | unread found complete | hit found complete | missed found complete =>
      exact absurd complete (prepares found)

/-- A prepared call is served from the cache that it may be read from, or it waits. -/
theorem Making.of_prepared {target : Target} {pending : PendingCall} {after : Shared}
    {events : List Event} {binding : Binding} {prepared : PreparedCall}
    (making : Making client arguments options shared target pending after events)
    (found : target.binding? client = some binding)
    (complete : binding.prepare arguments options = .ok prepared) :
    (∃ cache value, binding.readableCache options = some cache ∧
        (shared.readCache cache prepared.cacheKey).1 = some value ∧
        pending = .resolved binding.name value ∧
        events = [.cacheRead cache prepared.cacheKey true]) ∨
      ((∀ cache, binding.readableCache options = some cache →
          (shared.readCache cache prepared.cacheKey).1 = none) ∧
        pending = .awaiting binding.name (binding.flight options prepared) ∧
        events = ((binding.readableCache options).map fun cache =>
          Event.cacheRead cache prepared.cacheKey false).toList) := by
  cases making with
  | unknown unknown => cases unknown.symm.trans found
  | missing held incomplete =>
      obtain rfl := Option.some.inj (held.symm.trans found)
      cases incomplete.symm.trans complete
  | unread held prepares unreadable =>
      obtain rfl := Option.some.inj (held.symm.trans found)
      obtain rfl := Except.ok.inj (prepares.symm.trans complete)
      refine .inr ⟨fun cache readable => ?_, rfl, by rw [unreadable]; rfl⟩
      cases unreadable.symm.trans readable
  | hit held prepares readable kept =>
      obtain rfl := Option.some.inj (held.symm.trans found)
      obtain rfl := Except.ok.inj (prepares.symm.trans complete)
      exact .inl ⟨_, _, readable, kept, rfl, rfl⟩
  | missed held prepares readable absent =>
      obtain rfl := Option.some.inj (held.symm.trans found)
      obtain rfl := Except.ok.inj (prepares.symm.trans complete)
      refine .inr ⟨fun cache readableToo => ?_, rfl, by rw [readable]; rfl⟩
      obtain rfl := Option.some.inj (readable.symm.trans readableToo)
      exact absent

/-- A value that is kept for a prepared call serves it. -/
theorem Making.of_kept {target : Target} {pending : PendingCall} {after : Shared}
    {events : List Event} {binding : Binding} {prepared : PreparedCall} {cache : String}
    {value : Value} (making : Making client arguments options shared target pending after events)
    (found : target.binding? client = some binding)
    (complete : binding.prepare arguments options = .ok prepared)
    (readable : binding.readableCache options = some cache)
    (kept : (shared.readCache cache prepared.cacheKey).1 = some value) :
    pending = .resolved binding.name value ∧
      events = [.cacheRead cache prepared.cacheKey true] := by
  rcases making.of_prepared found complete with
    ⟨other, held, readableToo, keptToo, resolved, events⟩ | ⟨absent, -, -⟩
  · obtain rfl := Option.some.inj (readable.symm.trans readableToo)
    obtain rfl := Option.some.inj (kept.symm.trans keptToo)
    exact ⟨resolved, events⟩
  · cases kept.symm.trans (absent cache readable)

/-- A call that is made in the state of a cache hit is a prepared call for which a value is
kept. -/
theorem Making.of_cacheHit {target : Target} {pending : PendingCall} {after : Shared}
    {events : List Event}
    (making : Making client arguments options shared target pending after events)
    (state : pending.state = .cacheHit) :
    ∃ binding prepared cache value, target.binding? client = some binding ∧
      binding.prepare arguments options = .ok prepared ∧
      binding.readableCache options = some cache ∧
      (shared.readCache cache prepared.cacheKey).1 = some value := by
  cases making with
  | hit found complete readable kept => exact ⟨_, _, _, _, found, complete, readable, kept⟩
  | unknown | missing | unread | missed => cases state

end Target

/-! ## An example client -/

/-- A catalog of three operations.  Two share an address, one writing and one reading; the third
has a placeholder in its address, and a query. -/
def itemsCatalog : Catalog where
  title := "Items"
  description := none
  version := none
  baseUrl := none
  operations := [.declare "addItem" .post "/items" [], .declare "listItems" .get "/items" [],
    .declare "showItem" .get "/items/\x7bid\x7d" [.declare "id" .path, .declare "view" .query]]

/-- The client of that catalog, with a cache. -/
def itemsClient : Client where
  catalog := itemsCatalog
  baseUrl := "http://items.test"
  bindings := itemsCatalog.operations.map fun operation =>
    ⟨operation, "http://items.test", some "store"⟩
  index := [("addItem", 0), ("listItems", 1), ("showItem", 2)]
  cache := some "store"

/-- It is the client that the catalog gives. -/
theorem build_itemsCatalog :
    Client.build itemsCatalog (some "http://items.test/") (some "store") = .ok itemsClient := rfl

end ServiceCatalog
