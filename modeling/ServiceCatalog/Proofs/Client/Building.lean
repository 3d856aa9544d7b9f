import ServiceCatalog.Proofs.Catalog.Validity
import ServiceCatalog.Proofs.Client.PathArguments
import ServiceCatalog.Proofs.Client.Staleness
import ServiceCatalog.Proofs.Description.Loading
import ServiceCatalog.Proofs.Text.Lines

/-!
# What a built client is

A client holds the same thing several times: the operations stand in its catalog, in its bindings
and in its index, and its cache is held once more by every binding.  Building makes them agree, and
replacing the cache keeps them so (`Client.Faithful`): what the index finds is the binding of the
operation that the catalog finds, and every binding has the cache of the client.

So a call by name that brings no cache is answered from the cache in which the client invalidates.
Taking its key out there takes out the one entry that it would have been answered with, and as long
as no call waits for the transport, nothing puts one back (`Client.Forgets`).

The catalog of a description was checked when it was loaded, so building finds no fault in it.
-/

namespace ServiceCatalog

set_option autoImplicit false

open ServiceCatalog.Json

/-! ## The index -/

/-- Of operations with different names, the one that is found is the one with the name. -/
theorem Catalog.find?_eq_some {catalog : Catalog} {name : String} {operation : Operation}
    (distinct : (catalog.operations.map Operation.name).Nodup) :
    catalog.find? name = some operation ↔
      operation ∈ catalog.operations ∧ operation.name = name := by
  unfold Catalog.find?
  constructor
  · intro found
    exact ⟨List.mem_of_find?_eq_some found, by simpa using List.find?_some found⟩
  · rintro ⟨member, named⟩
    cases found : catalog.operations.find? fun other => other.name == name with
    | none => exact absurd (List.find?_eq_none.mp found operation member) (by simp [named])
    | some other =>
        have sameName : other.name = operation.name := by
          simpa [named] using List.find?_some found
        rw [List.inj_on_of_nodup_map distinct (List.mem_of_find?_eq_some found) member sameName]

namespace Client

/-- The index assigns their positions to the names of operations. -/
theorem indexOf_eq (operations : List Operation) :
    indexOf operations =
      assignAll (operations.zipIdx.map fun entry => (entry.1.name, entry.2)) := rfl

/-- **The index gives the position of the operation with a name.** -/
theorem lookup_indexOf {operations : List Operation} {name : String} {position : Nat}
    (distinct : (operations.map Operation.name).Nodup) :
    (indexOf operations).lookup name = some position ↔
      ∃ operation, operations[position]? = some operation ∧ operation.name = name := by
  have keys : ((operations.zipIdx.map fun entry => (entry.1.name, entry.2)).map
      Prod.fst).Nodup := by
    rw [List.map_map]
    rwa [← List.zipIdx_map_fst 0 operations, List.map_map] at distinct
  rw [indexOf_eq, lookup_assignAll, ← lookup_perm keys (List.reverse_perm _).symm,
    lookup_eq_some_iff_mem keys]
  simp [List.mem_zipIdx_iff_getElem?]

/-! ## Building -/

/-- A client is faithful to a catalog: there is one binding for each operation, in catalog order, at
the address of the client and with its cache, and the binding that has a name is that of the
operation that has it. -/
structure Faithful (client : Client) (catalog : Catalog) : Prop where
  catalog_eq : client.catalog = catalog
  bindings_eq : client.bindings =
    catalog.operations.map fun operation => ⟨operation, client.baseUrl, client.cache⟩
  binding?_eq : ∀ name, client.binding? name =
    (catalog.find? name).map fun operation => ⟨operation, client.baseUrl, client.cache⟩

/-- A binding for each operation of a consistent catalog. -/
theorem mapM_bind_eq_ok {operations : List Operation} {base : String}
    (valid : ∀ operation ∈ operations, operation.violation? = none) :
    (operations.mapM fun operation => Binding.bind operation base) =
      .ok (operations.map fun operation => ⟨operation, base, none⟩) := by
  rw [mapM_eq_ok, List.forall₂_map_right_iff, List.forall₂_same]
  intro operation member
  exact Binding.bind_eq_ok.mpr ⟨Operation.validate_eq_ok.mpr (valid operation member), rfl⟩

theorem chooseBase_eq_ok {catalog : Catalog} {given : Option String} {base : String}
    (chosen : chooseBase catalog given = .ok base) :
    ∃ url, (given <|> catalog.baseUrl) = some url ∧ base = trimmedBase url := by
  unfold chooseBase at chosen
  split at chosen
  · cases chosen
  · next url there =>
      split at chosen
      · cases chosen
      · exact ⟨url, there, (Except.ok.inj chosen).symm⟩

variable {catalog : Catalog} {baseUrl cache : Option String} {client : Client}

/-- **When a client is built, and what it is then.** -/
theorem build_eq_ok (built : build catalog baseUrl cache = .ok client) :
    catalog.validate = .ok () ∧
      ∃ url, (baseUrl <|> catalog.baseUrl) = some url ∧
        client = ⟨catalog, trimmedBase url,
          catalog.operations.map fun operation => ⟨operation, trimmedBase url, cache⟩,
          indexOf catalog.operations, cache⟩ := by
  simp only [build, bind_eq_ok, mapError_eq_ok] at built
  obtain ⟨base, chosen, _, valid, bindings, bound, same⟩ := built
  obtain ⟨url, there, rfl⟩ := chooseBase_eq_ok chosen
  rw [mapM_bind_eq_ok (Catalog.validate_eq_ok.mp valid).2] at bound
  obtain rfl := Except.ok.inj bound
  obtain rfl := Except.ok.inj same
  exact ⟨valid, url, there, by rw [List.map_map]; rfl⟩

/-- **A built client is faithful to its catalog.** -/
theorem faithful_of_build (built : build catalog baseUrl cache = .ok client) :
    client.Faithful catalog := by
  obtain ⟨valid, url, -, rfl⟩ := build_eq_ok built
  have distinct := (Catalog.validate_eq_ok.mp valid).1
  refine ⟨rfl, rfl, fun name => ?_⟩
  ext binding
  simp only [binding?, Option.bind_eq_some_iff, Option.map_eq_some_iff, lookup_indexOf distinct,
    Catalog.find?_eq_some distinct, List.getElem?_map]
  constructor
  · rintro ⟨position, ⟨operation, there, named⟩, other, same, rfl⟩
    obtain rfl := Option.some.inj (there.symm.trans same)
    exact ⟨operation, ⟨List.mem_of_getElem? there, named⟩, rfl⟩
  · rintro ⟨operation, ⟨member, named⟩, rfl⟩
    obtain ⟨position, there⟩ := List.mem_iff_getElem?.mp member
    exact ⟨position, ⟨operation, there, named⟩, operation, there, rfl⟩

/-- **Building finds no fault in a consistent catalog.** -/
theorem build_ne_catalog (valid : catalog.validate = .ok ()) (cause : CatalogError) :
    build catalog baseUrl cache ≠ .error (.catalog cause) := by
  have bindings := (Catalog.validate_eq_ok.mp valid).2
  refine bind_ne_error ?_ fun base => ?_
  · unfold chooseBase
    split
    · simp
    · split <;> simp
  · rw [valid, mapM_bind_eq_ok bindings]
    exact ok_ne_error

/-! ## Replacing the cache -/

/-- Replaces the cache several times, one after the other. -/
def withCaches (caches : List String) (client : Client) : Client :=
  caches.foldl (fun client cache => client.withCache cache) client

theorem Faithful.withCache (faithful : client.Faithful catalog) (cache : String) :
    (client.withCache cache).Faithful catalog := by
  refine ⟨faithful.catalog_eq, ?_, fun name => ?_⟩
  · show client.bindings.map _ = _
    rw [faithful.bindings_eq, List.map_map]
    rfl
  · rw [binding?_withCache, faithful.binding?_eq, Option.map_map]
    rfl

/-- **Replacing the cache keeps a client faithful**, however often it is done. -/
theorem Faithful.withCaches (faithful : client.Faithful catalog) (caches : List String) :
    (client.withCaches caches).Faithful catalog := by
  induction caches generalizing client with
  | nil => exact faithful
  | cons cache caches ih => exact ih (faithful.withCache cache)

theorem baseUrl_withCaches (caches : List String) (client : Client) :
    (client.withCaches caches).baseUrl = client.baseUrl := by
  induction caches generalizing client with
  | nil => rfl
  | cons cache caches ih => exact ih (client.withCache cache)

/-- The last cache counts. -/
theorem cache_withCaches (caches : List String) (client : Client) :
    (client.withCaches caches).cache = (caches.getLast? <|> client.cache) := by
  induction caches generalizing client with
  | nil => rfl
  | cons cache caches ih =>
      have next : (client.withCaches (cache :: caches)).cache =
          (caches.getLast? <|> some cache) := ih (client.withCache cache)
      rw [next, List.getLast?_cons]
      cases caches.getLast? <;> rfl

/-- Every binding of a faithful client has the cache of the client. -/
theorem Faithful.coherent (faithful : client.Faithful catalog) : client.Coherent := by
  intro binding member
  rw [faithful.bindings_eq] at member
  obtain ⟨operation, -, rfl⟩ := List.mem_map.mp member
  rfl

end Client

/-! ## Taking the key of a call out -/

/-- No call of a session waits for the transport. -/
def Session.Quiet (session : Session) : Prop :=
  ∀ call pending flight, session.calls.lookup call = some pending →
    pending.outcome ≠ .waiting flight

/-- A call is handed to the transport: it is made to wait, and its first poll sends `request`. -/
structure Dispatched (request : Request) (call : String) (made : Moment) (polls : List Moment) :
    Prop where
  state : made.after.HasCall call .awaitingTransport false
  sent : ∀ first later, polls = first :: later → first.sends = [.sent request]

namespace Session

variable {transport : Transport} {session : Session} {name key : String}

/-- Where no call waits, a step keeps no payload, unless it puts one into a cache by hand. -/
theorem unwritten_of_quiet (quiet : session.Quiet) {step : Step}
    (unput : ∀ cache key value lifetime, step ≠ .put cache key value lifetime)
    (value : Value) (lifetime : Option Nat) :
    .cacheWritten name key value lifetime ∉ (session.moment transport step).events := by
  cases step with
  | start call target arguments options =>
      exact (making_of_start transport session call target arguments options).unwritten name key
        value lifetime
  | poll call =>
      cases found : session.calls.lookup call with
      | none =>
          rw [moment_poll_unknown found]
          exact List.not_mem_nil
      | some pending =>
          rcases pending.poll_cases transport session.shared with ⟨-, poll⟩ | ⟨result, -, poll⟩ |
            ⟨flight, waiting, -, -⟩ | ⟨flight, exchange, waiting, -, -⟩
          · rw [moment_poll found poll]
            exact List.not_mem_nil
          · rw [moment_poll found poll]
            exact List.not_mem_nil
          · exact absurd waiting (quiet call pending flight found)
          · exact absurd waiting (quiet call pending flight found)
  | invalidate asked =>
      simp only [moment, step, Client.invalidate]
      cases session.client.cache <;> simp [Shared.removeFromCache]
  | put cache asked value lifetime => exact absurd rfl (unput cache asked value lifetime)
  | useCache _ | read _ _ | remove _ _ | clear _ | wait _ =>
      simp [moment, step, Shared.readCache, Shared.removeFromCache]

/-- **A row that is empty stays empty as long as no call waits**, and nothing is put into a cache by
hand. -/
theorem row_stays_empty {steps : List Step} (empty : session.shared.row? name key = none)
    (unput : NothingPut steps)
    (quiet : ∀ moment ∈ session.history transport steps, moment.before.Quiet) :
    (session.after transport steps).shared.row? name key = none := by
  induction steps generalizing session with
  | nil => exact empty
  | cons step rest ih =>
      obtain ⟨unputHere, unputRest⟩ := unput.of_cons
      obtain ⟨quietHere, quietRest⟩ := List.forall_mem_cons.mp quiet
      refine ih (Option.eq_none_iff_forall_ne_some.mpr fun entry held => ?_) unputRest quietRest
      rcases (row_change step name key).held_or_written held with before | ⟨lifetime, written⟩
      · cases empty.symm.trans before
      · exact unwritten_of_quiet quietHere unputHere _ lifetime written

/-- A prepared call for which no row is there is handed to the transport. -/
theorem dispatched_of_no_row {call : String} {target : Target} {arguments : Arguments}
    {options : CallOptions} {binding : Binding} {prepared : PreparedCall} {rest : List Step}
    (found : target.binding? session.client = some binding)
    (complete : binding.prepare arguments options = .ok prepared)
    (empty : ∀ cache, binding.effectiveCache options = some cache →
      session.shared.row? cache prepared.cacheKey = none)
    (own : ∀ step ∈ rest, step.made? ≠ some call) :
    let made := session.moment transport (.start call target arguments options)
    Dispatched prepared.request call made (pollsOf call (made.after.history transport rest)) := by
  intro made
  have placed : made.after.calls.lookup call = some _ :=
    lookup_after_start call target arguments options
  rcases target.making.of_prepared found complete with
    ⟨cache, value, readable, kept, -, -⟩ | ⟨-, awaiting, -⟩
  · obtain ⟨-, -, cached⟩ := Binding.readableCache_eq_some.mp readable
    obtain ⟨entry, held, -, -⟩ := (session.shared.readCache_eq_some cache prepared.cacheKey).mp kept
    cases (empty cache cached).symm.trans held
  · rw [awaiting] at placed
    refine ⟨⟨_, placed, rfl, rfl⟩, fun first later polls => ?_⟩
    have course : Course (.waiting (binding.flight options prepared))
        (pollsOf call (made.after.history transport rest)) := course_of_polls placed own
    rw [polls] at course
    exact course.sends_cons.1

end Session

namespace Client

/-- What taking the key of a call out of the cache of the client does to such calls.  A call that is
served is served with the entry of that key in that cache (`served`).  Taking the key out takes out
that entry and no other (`taken_out`).  And whatever steps come after that, as long as no call waits
for the transport and nothing is put into a cache by hand, the next such call is handed to the
transport (`dispatched`). -/
structure Forgets (client : Client) (name : String) (arguments : Arguments)
    (options : CallOptions) (prepared : PreparedCall) : Prop where
  served : ∀ shared, (client.call name arguments options shared).1.state = .cacheHit →
    ∃ cache entry, client.cache = some cache ∧
      shared.row? cache prepared.cacheKey = some entry ∧
      (client.call name arguments options shared).1.outcome = .ready (.ok entry.value)
  taken_out : ∀ shared cache, client.cache = some cache → ∀ other key,
    (client.invalidate prepared.cacheKey shared).1.row? other key =
      if other = cache ∧ key = prepared.cacheKey then none else shared.row? other key
  dispatched : ∀ (transport : Transport) (session : Session) (call : String)
    (since rest : List Step), session.client = client → NothingPut since →
    (∀ cache, .useCache cache ∉ since) → (∀ step ∈ rest, step.made? ≠ some call) →
    let dropped := session.moment transport (.invalidate prepared.cacheKey)
    (∀ moment ∈ dropped.after.history transport since, moment.before.Quiet) →
    let made := (dropped.after.after transport since).moment transport
      (.start call name arguments options)
    Dispatched prepared.request call made (pollsOf call (made.after.history transport rest))

variable {catalog : Catalog} {client : Client}

/-- **A faithful client forgets what it takes out.** -/
theorem Faithful.forgets (faithful : client.Faithful catalog) {name : String}
    {arguments : Arguments} {options : CallOptions} {binding : Binding} {prepared : PreparedCall}
    (found : client.binding? name = some binding) (own : options.cache = none)
    (complete : binding.prepare arguments options = .ok prepared) :
    client.Forgets name arguments options prepared := by
  have cached : binding.effectiveCache options = client.cache := by
    rw [faithful.coherent.effectiveCache found, own]
    rfl
  refine ⟨fun shared hit => ?_, fun shared cache held other key => ?_, ?_⟩
  · have making : Target.Making client arguments options shared (.operation name) _ _ _ :=
      Target.making _
    rcases making.of_prepared found complete with
      ⟨cache, value, readable, kept, resolved, -⟩ | ⟨-, awaiting, -⟩
    · obtain ⟨-, -, effective⟩ := Binding.readableCache_eq_some.mp readable
      obtain ⟨entry, held, -, rfl⟩ := (shared.readCache_eq_some cache prepared.cacheKey).mp kept
      exact ⟨cache, entry, cached ▸ effective, held, congrArg PendingCall.outcome resolved⟩
    · cases hit.symm.trans (congrArg PendingCall.state awaiting)
  · simp only [invalidate, held]
    exact shared.row?_removeFromCache cache prepared.cacheKey other key
  · rintro transport session call since rest rfl unput unchanged ownRest dropped quiet made
    have foundFirst : Target.binding? session.client (.operation name) = some binding := found
    obtain ⟨again, foundAgain, -, same⟩ :=
      Session.binding_after foundFirst (.invalidate prepared.cacheKey :: since)
    obtain rfl : again = binding := same fun cache member => unchanged cache (by simpa using member)
    refine Session.dispatched_of_no_row foundAgain complete (fun cache effective => ?_) ownRest
    refine Session.row_stays_empty ?_ unput quiet
    have held : session.client.cache = some cache := cached ▸ effective
    have removes : session.client.invalidate prepared.cacheKey session.shared =
        session.shared.removeFromCache cache prepared.cacheKey := by simp only [invalidate, held]
    have shared : dropped.after.shared =
        (session.shared.removeFromCache cache prepared.cacheKey).1 := congrArg Prod.fst removes
    rw [shared, Shared.row?_removeFromCache, if_pos ⟨rfl, rfl⟩]

end Client

/-- **Clients stay in step with their catalog and their cache.**

Let a client be built, and let its cache be replaced any number of times.  Then it is faithful to
the catalog, at the address that was given or else that of the catalog, without the slashes at its
end, and its cache is the last one that it was given.  A prepared call by name that brings no cache
of its own is forgotten when its key is taken out of the cache of the client.

If the catalog was loaded from a description, building finds no fault in it. -/
theorem clients_stay_in_step (catalog : Catalog) (baseUrl cache : Option String) :
    (∀ built, Client.build catalog baseUrl cache = .ok built → ∀ caches : List String,
      let client := built.withCaches caches
      client.Faithful catalog ∧
      (∃ url, (baseUrl <|> catalog.baseUrl) = some url ∧
        Text.WithoutEnd '/' url client.baseUrl) ∧
      client.cache = (caches.getLast? <|> cache) ∧
      ∀ name arguments options binding prepared, client.binding? name = some binding →
        options.cache = none → binding.prepare arguments options = .ok prepared →
        client.Forgets name arguments options prepared) ∧
    ∀ format text, Description.loadText format text = .ok catalog →
      ∀ cause, Client.build catalog baseUrl cache ≠ .error (.catalog cause) := by
  constructor
  · intro built done caches client
    have faithful : client.Faithful catalog := (Client.faithful_of_build done).withCaches caches
    have base : client.baseUrl = built.baseUrl := Client.baseUrl_withCaches caches built
    have held : client.cache = (caches.getLast? <|> built.cache) :=
      Client.cache_withCaches caches built
    obtain ⟨-, url, there, rfl⟩ := Client.build_eq_ok done
    have trimmed : Text.WithoutEnd '/' url client.baseUrl :=
      base ▸ Text.withoutEnd_dropEndWhile '/' url
    exact ⟨faithful, ⟨url, there, trimmed⟩, held,
      fun name arguments options binding prepared found own complete =>
        faithful.forgets found own complete⟩
  · intro format text loaded cause
    exact Client.build_ne_catalog (Description.validate_of_loadText loaded) cause

/-- A description of one operation, as a text. -/
def listingText : String :=
  "\x7b\"swagger\":\"2.0\",\"info\":\x7b\"title\":\"Items\"\x7d,\"paths\":" ++
    "\x7b\"/items\":\x7b\"get\":\x7b\"operationId\":\"listItems\"\x7d\x7d\x7d\x7d"

/-- The catalog of that description. -/
def listingCatalog : Catalog :=
  (Catalog.titled "Items").withOperation (.declare "listItems" .get "/items" [])

/-- The client of items gets another cache.  A listing that is kept there is taken out, and some
time later, nothing being on its way, the next one is handed to the transport.  Building finds no
fault in a catalog of one operation that was loaded from a text. -/
theorem listings_are_forgotten :
    let client := itemsClient.withCaches ["attic", "shelf"]
    let key := "http://items.test/items"
    let transport : Transport := fun _ _ => some (.ok ⟨200, [], [0x37]⟩)
    let session := (Session.opened client).after transport
      [.start "first" "listItems" Arguments.empty CallOptions.none, .poll "first"]
    let dropped := session.moment transport (.invalidate key)
    let made := (dropped.after.after transport [.wait 5, .poll "first"]).moment transport
      (.start "second" "listItems" Arguments.empty CallOptions.none)
    client.Faithful itemsCatalog ∧ client.cache = some "shelf" ∧
      (session.shared.row? "shelf" key).isSome ∧
      Dispatched (.bare .get key) "second" made
        (pollsOf "second" (made.after.history transport [.poll "second"])) ∧
      Description.loadText .json listingText = .ok listingCatalog ∧
      ∀ cause, Client.build listingCatalog none none ≠ .error (.catalog cause) := by
  intro client key transport session dropped made
  have loaded : Description.loadText .json listingText = .ok listingCatalog := by decide +kernel
  obtain ⟨faithful, -, cached, forgets⟩ := (clients_stay_in_step itemsCatalog
    (some "http://items.test/") (some "store")).1 itemsClient build_itemsCatalog ["attic", "shelf"]
  have unput : NothingPut [.wait 5, .poll "first"] := by simp [NothingPut]
  have quiet : ∀ moment ∈ dropped.after.history transport [.wait 5, .poll "first"],
      moment.before.Quiet := by
    have settled : ∀ later : Session,
        later.calls = [("first", ⟨"listItems", .resolved, .taken⟩)] → later.Quiet := by
      intro later calls call pending flight found waiting
      obtain ⟨-, rfl⟩ := Prod.mk.inj (List.mem_singleton.mp
        (calls ▸ mem_of_lookup_eq_some found))
      cases waiting
    exact List.forall_mem_cons.mpr ⟨settled _ rfl, List.forall_mem_cons.mpr ⟨settled _ rfl,
      List.forall_mem_nil _⟩⟩
  have own : ∀ step ∈ [Step.poll "second"], step.made? ≠ some "second" := by simp [Step.made?]
  have forgotten := forgets "listItems" Arguments.empty CallOptions.none
    ⟨.declare "listItems" .get "/items" [], "http://items.test", some "shelf"⟩
    ⟨.bare .get key, key⟩ rfl rfl rfl
  exact ⟨faithful, cached, rfl,
    forgotten.dispatched transport session "second" _ _ rfl unput (by simp) own quiet, loaded,
    (clients_stay_in_step listingCatalog none none).2 .json listingText loaded⟩

end ServiceCatalog
