import ServiceCatalog.Proofs.Client.Rows

/-!
# What was kept is read back

A cacheable call that waits for the transport and is answered leaves its payload in its cache.  As
long as nothing is put, taken out or cleared under that key of that cache, and the lifetime of the
payload has not passed, every new call of the operation with the same arguments, settings and
cache is served with that payload, without a request.

The way there has three parts: the flight of a call stays what it was until its answer
(`Session.inFlight_after`), the answer writes the row of the flight (`Session.row_of_answer`), and
the row stays through any steps that spare it (`Session.row_kept`).
-/

namespace ServiceCatalog

set_option autoImplicit false

open ServiceCatalog.Json
open PendingCall (resultOf)

/-! ## Bindings through a run -/

/-- Changing the cache of a client changes the cache of what goes by a name, and nothing else. -/
theorem Client.binding?_withCache (cache name : String) (client : Client) :
    (client.withCache cache).binding? name =
      (client.binding? name).map (·.withCache (some cache)) := by
  simp only [Client.binding?, Client.withCache, List.getElem?_map]
  cases client.index.lookup name <;> rfl

/-- A call is in flight, or its result was given. -/
def PendingCall.InFlight (flight : Flight) (pending : PendingCall) : Prop :=
  pending.outcome = .taken ∨
    ∃ progress, pending.outcome = .waiting { flight with progress := progress }

/-- Two bindings call one operation at one address. -/
structure Binding.Agrees (first second : Binding) : Prop where
  operation : first.operation = second.operation
  baseUrl : first.baseUrl = second.baseUrl

namespace Session

variable {transport : Transport} {session : Session}

/-- A target keeps its operation and its address through a step, and its cache unless the step
changes the cache of the client. -/
theorem binding_after_moment {target : Target} {binding : Binding}
    (found : target.binding? session.client = some binding) (step : Step) :
    ∃ next, target.binding? (session.moment transport step).after.client = some next ∧
      next.Agrees binding ∧ ((∀ cache, step ≠ .useCache cache) → next = binding) := by
  have client : (session.moment transport step).after.client = _ := client_after_moment step
  rw [client]
  cases step with
  | useCache cache =>
      cases target with
      | held held => exact ⟨binding, found, ⟨rfl, rfl⟩, fun _ => rfl⟩
      | operation name =>
          have renamed := Client.binding?_withCache cache name session.client
          rw [show session.client.binding? name = some binding from found] at renamed
          exact ⟨_, renamed, ⟨rfl, rfl⟩, fun kept => absurd rfl (kept cache)⟩
  | start | poll | invalidate | put | read | remove | clear | wait =>
      exact ⟨binding, found, ⟨rfl, rfl⟩, fun _ => rfl⟩

/-- A target keeps its operation and its address through a run, and its cache if no step changes
the cache of the client. -/
theorem binding_after {target : Target} {binding : Binding}
    (found : target.binding? session.client = some binding) (steps : List Step) :
    ∃ last, target.binding? (session.after transport steps).client = some last ∧
      last.Agrees binding ∧ ((∀ cache, .useCache cache ∉ steps) → last = binding) := by
  induction steps generalizing session binding with
  | nil => exact ⟨binding, found, ⟨rfl, rfl⟩, fun _ => rfl⟩
  | cons step rest ih =>
      obtain ⟨next, foundNext, agreesNext, sameNext⟩ :=
        (binding_after_moment found step : ∃ next, target.binding?
          (session.moment transport step).after.client = some next ∧ _)
      obtain ⟨last, foundLast, agreesLast, sameLast⟩ := ih foundNext
      refine ⟨last, foundLast, ⟨?_, ?_⟩, fun unchanged => ?_⟩
      · exact agreesLast.operation.trans agreesNext.operation
      · exact agreesLast.baseUrl.trans agreesNext.baseUrl
      · have restUnchanged := sameLast fun cache member =>
          unchanged cache (List.mem_cons_of_mem _ member)
        exact restUnchanged.trans (sameNext fun cache same =>
          unchanged cache (same ▸ List.mem_cons_self))

/-! ## The answer of a flight -/

/-- A call that is in flight stays in its flight until its result is given. -/
theorem inFlight_after_moment {call : String} {pending : PendingCall} {flight : Flight}
    (found : session.calls.lookup call = some pending) (inFlight : pending.InFlight flight)
    {step : Step} (unmade : step.made? ≠ some call) :
    ∃ next, (session.moment transport step).after.calls.lookup call = some next ∧
      next.InFlight flight := by
  by_cases polled : step.polled? = some call
  · obtain rfl := Step.polled?_eq_some.mp polled
    rcases pending.poll_cases transport session.shared with ⟨taken, poll⟩ | ⟨result, ready, poll⟩ |
      ⟨other, waiting, -, poll⟩ | ⟨other, exchange, -, -, poll⟩
    · exact ⟨_, lookup_after_poll found poll, .inl taken⟩
    · exact ⟨_, lookup_after_poll found poll, .inl rfl⟩
    · rcases inFlight with taken | ⟨progress, own⟩
      · cases taken.symm.trans waiting
      · obtain rfl := Outcome.waiting.inj (own.symm.trans waiting)
        exact ⟨_, lookup_after_poll found poll, .inr ⟨_, rfl⟩⟩
    · exact ⟨_, lookup_after_poll found poll, .inl rfl⟩
  · exact ⟨pending, (lookup_after_moment unmade polled).trans found, inFlight⟩

/-- It does so through a run. -/
theorem inFlight_after {call : String} {pending : PendingCall} {flight : Flight}
    (found : session.calls.lookup call = some pending) (inFlight : pending.InFlight flight)
    {steps : List Step} (own : ∀ step ∈ steps, step.made? ≠ some call) :
    ∃ last, (session.after transport steps).calls.lookup call = some last ∧
      last.InFlight flight := by
  induction steps generalizing session pending with
  | nil => exact ⟨pending, found, inFlight⟩
  | cons step rest ih =>
      obtain ⟨unmade, ownRest⟩ := List.forall_mem_cons.mp own
      obtain ⟨next, foundNext, inFlightNext⟩ :=
        (inFlight_after_moment found inFlight unmade : ∃ next,
          (session.moment transport step).after.calls.lookup call = some next ∧ _)
      exact ih foundNext inFlightNext ownRest

/-- A call in flight gives the result that the answer of the transport means. -/
theorem answer_of_inFlight {call : String} {pending : PendingCall} {flight : Flight}
    {result : CallResult} (found : session.calls.lookup call = some pending)
    (inFlight : pending.InFlight flight)
    (settled : (session.moment transport (.poll call)).result = some result) :
    ∃ progress exchange, pending.outcome = .waiting { flight with progress := progress } ∧
      transport (Flight.position { flight with progress := progress } session.shared).1
        (Flight.position { flight with progress := progress } session.shared).2 = some exchange ∧
      resultOf exchange = result := by
  rcases pending.poll_cases transport session.shared with ⟨-, poll⟩ | ⟨result, ready, -⟩ |
    ⟨other, -, -, poll⟩ | ⟨other, exchange, waiting, answered, poll⟩
  · rw [moment_poll found poll] at settled
    cases settled
  · rcases inFlight with taken | ⟨progress, waiting⟩
    · cases taken.symm.trans ready
    · cases waiting.symm.trans ready
  · rw [moment_poll found poll] at settled
    cases settled
  · rcases inFlight with taken | ⟨progress, own⟩
    · cases taken.symm.trans waiting
    · obtain rfl := Outcome.waiting.inj (own.symm.trans waiting)
      rw [moment_poll found poll] at settled
      exact ⟨progress, exchange, own, answered, Option.some.inj settled⟩

/-- The answer of a call in flight writes the row of the flight. -/
theorem row_of_answer {call : String} {pending : PendingCall} {flight : Flight} {cache : String}
    {value : Value} (found : session.calls.lookup call = some pending)
    (inFlight : pending.InFlight flight) (cached : flight.cache = some cache)
    (settled : (session.moment transport (.poll call)).result = some (.ok value)) :
    (session.moment transport (.poll call)).after.shared.row? cache flight.cacheKey =
      some ⟨value, flight.lifetime.map fun span => session.shared.now + span⟩ := by
  obtain ⟨progress, exchange, waiting, answered, result⟩ :=
    answer_of_inFlight found inFlight settled
  rw [moment_poll found (PendingCall.poll_answered waiting answered)]
  simp [PendingCall.keep, cached, result, Shared.row?_writeCache]

end Session

/-! ## The round trip -/

section RoundTrip

variable {transport : Transport} {session : Session} {target : Target} {arguments : Arguments}
  {options : CallOptions} {binding : Binding} {prepared : PreparedCall} {cache : String}
  {value : Value}

/-- A call that was made to wait, and then is answered, leaves its payload in its cache. -/
theorem row_of_settled_call {call : String}
    (found : target.binding? session.client = some binding)
    (complete : binding.prepare arguments options = .ok prepared)
    (cached : binding.effectiveCache options = some cache) {waiting : List Step}
    (own : ∀ step ∈ waiting, step.made? ≠ some call) :
    let made := session.moment transport (.start call target arguments options)
    let settling := (made.after.after transport waiting).moment transport (.poll call)
    made.after.HasCall call .awaitingTransport false → settling.result = some (.ok value) →
      settling.after.shared.row? cache prepared.cacheKey =
        some ⟨value, options.lifetime.map fun span => settling.before.shared.now + span⟩ := by
  intro made settling awaited settled
  have placed : made.after.calls.lookup call = some _ :=
    Session.lookup_after_start call target arguments options
  obtain ⟨pending, foundCall, state, -⟩ := awaited
  obtain rfl := Option.some.inj (placed.symm.trans foundCall)
  rcases target.making.of_prepared found complete with
    ⟨_, _, -, -, resolved, -⟩ | ⟨-, awaiting, -⟩
  · rw [resolved] at state
    cases state
  · have inFlight : (PendingCall.awaiting binding.name
        (binding.flight options prepared)).InFlight (binding.flight options prepared) :=
      .inr ⟨none, rfl⟩
    rw [awaiting] at placed
    obtain ⟨last, foundLast, inFlightLast⟩ := Session.inFlight_after placed inFlight own
    exact Session.row_of_answer foundLast inFlightLast cached settled

/-- A call is served with `value` from `cache`: it is made resolved, with no event but a reading,
its first poll gives the value, and none of its polls has an event. -/
structure ServedWith (value : Value) (cache key call : String) (made : Moment)
    (polls : List Moment) : Prop where
  state : made.after.HasCall call .cacheHit false
  reading : made.events = [.cacheRead cache key true]
  silent : ∀ poll ∈ polls, poll.events = []
  given : ∀ first later, polls = first :: later → first.result = some (.ok value)

/-- A call is served from a row that is there. -/
theorem served_of_row {call : String} {entry : CacheEntry} {rest : List Step}
    (found : target.binding? session.client = some binding)
    (complete : binding.prepare arguments options = .ok prepared)
    (readable : binding.readableCache options = some cache)
    (held : session.shared.row? cache prepared.cacheKey = some entry)
    (alive : entry.isExpired session.shared.now = false)
    (own : ∀ step ∈ rest, step.made? ≠ some call) :
    let made := session.moment transport (.start call target arguments options)
    ServedWith entry.value cache prepared.cacheKey call made
      (pollsOf call (made.after.history transport rest)) := by
  intro made
  have kept : (session.shared.readCache cache prepared.cacheKey).1 = some entry.value :=
    (session.shared.readCache_eq_some cache prepared.cacheKey).mpr ⟨entry, held, alive, rfl⟩
  obtain ⟨resolved, events⟩ := target.making.of_kept found complete readable kept
  have placed : made.after.calls.lookup call = some _ :=
    Session.lookup_after_start call target arguments options
  rw [resolved] at placed
  have course : Course (.ready (.ok entry.value))
      (pollsOf call (made.after.history transport rest)) := course_of_polls placed own
  refine ⟨⟨_, placed, rfl, rfl⟩, events, course.silent_of_ready, ?_⟩
  intro first later polls
  rw [polls] at course
  cases course with
  | ready given => exact given

end RoundTrip

/-- **Cached reads make the round trip.**  Let a call of a cacheable operation be made that asks for
no fresh answer and has the cache `cache`, and let it wait for the transport.  Whatever steps come
after that, if a poll of it gives `value`, then after any further steps that spare its key in that
cache, and while the lifetime of the payload has not passed, each new call is served with `value`:
each call with the same arguments and settings, through any target that has the same operation,
address and cache.

The target of the first call is such a target, unless the client was given another cache and the
call brings none of its own. -/
theorem cached_reads_round_trip (transport : Transport) (session : Session) (call : String)
    (target : Target) (arguments : Arguments) (options : CallOptions) (binding : Binding)
    (prepared : PreparedCall) (cache : String) (value : Value) (waiting later : List Step)
    (found : target.binding? session.client = some binding)
    (complete : binding.prepare arguments options = .ok prepared)
    (cacheable : binding.operation.isCacheable = true) (fresh : options.refresh = false)
    (cached : binding.effectiveCache options = some cache)
    (own : ∀ step ∈ waiting, step.made? ≠ some call) :
    let made := session.moment transport (.start call target arguments options)
    let settling := (made.after.after transport waiting).moment transport (.poll call)
    let last := settling.after.after transport later
    made.after.HasCall call .awaitingTransport false →
    settling.result = some (.ok value) →
    (∀ moment ∈ settling.after.history transport later, moment.Spares cache prepared.cacheKey) →
    (∀ span ∈ options.lifetime, last.shared.now < settling.before.shared.now + span) →
      (∀ (other : Target) (again : Binding), other.binding? last.client = some again →
        again.Agrees binding → again.effectiveCache options = some cache →
        ∀ (name : String) (rest : List Step), (∀ step ∈ rest, step.made? ≠ some name) →
          let remade := last.moment transport (.start name other arguments options)
          ServedWith value cache prepared.cacheKey name remade
            (pollsOf name (remade.after.history transport rest))) ∧
      ∃ again, target.binding? last.client = some again ∧ again.Agrees binding ∧
        (options.cache.isSome ∨ (∀ other, .useCache other ∉ waiting ++ later) →
          again.effectiveCache options = some cache) := by
  intro made settling last awaited settled spared lifetime
  refine ⟨fun other again foundAgain agrees cachedAgain name rest ownRest => ?_, ?_⟩
  · -- The row was written when the first call settled, and is still there.
    have written := row_of_settled_call found complete cached own awaited settled
    have alive : CacheEntry.isExpired last.shared.now
        ⟨value, options.lifetime.map fun span => settling.before.shared.now + span⟩ = false := by
      simp only [CacheEntry.isExpired]
      cases bounded : options.lifetime with
      | none => rfl
      | some span => simpa using lifetime span bounded
    have held := Session.row_kept written spared alive
    -- The new call is prepared as the first was, and so asks for that row.
    have completeAgain : again.prepare arguments options = .ok prepared := by
      rw [← complete, Binding.prepare, Binding.prepare, agrees.operation, agrees.baseUrl]
    have readableAgain : again.readableCache options = some cache :=
      Binding.readableCache_eq_some.mpr ⟨agrees.operation ▸ cacheable, fresh, cachedAgain⟩
    exact served_of_row foundAgain completeAgain readableAgain held alive ownRest
  · -- From the first call to the last session there is one run.
    have run : session.after transport
        (.start call target arguments options :: waiting ++ .poll call :: later) = last := by
      simp [last, settling, made, Session.after_append]
    obtain ⟨again, foundAgain, agrees, same⟩ := Session.binding_after found
      (.start call target arguments options :: waiting ++ .poll call :: later)
    refine ⟨again, run ▸ foundAgain, agrees, ?_⟩
    rintro (own | unchanged)
    · rw [← cached, Binding.effectiveCache, Binding.effectiveCache]
      obtain ⟨held, brought⟩ := Option.isSome_iff_exists.mp own
      rw [brought]
      rfl
    · have kept : again = binding :=
        same fun other member => unchanged other (by simpa using member)
      rw [kept, cached]

/-- A listing with a lifetime of a second is read back half a second later, after its neighbour was
taken out. -/
theorem listing_makes_the_round_trip :
    let transport : Transport := fun _ polls =>
      if polls = 0 then none else some (.ok ⟨200, [], [0x37]⟩)
    let options : CallOptions := { CallOptions.none with lifetime := some 1000 }
    let session := (Session.opened itemsClient).after transport
      [.start "first" "listItems" Arguments.empty options, .poll "first", .poll "first",
        .invalidate "http://items.test/items/1", .wait 500]
    let remade := session.moment transport (.start "second" "listItems" Arguments.empty options)
    ServedWith (.number (.whole 7 (by decide))) "store" "http://items.test/items" "second" remade
      (pollsOf "second" (remade.after.history transport [.poll "first", .poll "second"])) := by
  intro transport options session remade
  have own : ∀ step ∈ [Step.poll "first"], step.made? ≠ some "first" := by simp [Step.made?]
  have ownAgain : ∀ step ∈ [Step.poll "first", .poll "second"], step.made? ≠ some "second" := by
    simp [Step.made?]
  have spared : ∀ moment ∈ ((Session.opened itemsClient).after transport
      [.start "first" "listItems" Arguments.empty options, .poll "first", .poll "first"]).history
        transport [.invalidate "http://items.test/items/1", .wait 500],
      moment.Spares "store" "http://items.test/items" := by
    refine List.forall_mem_cons.mpr ⟨⟨fun value lifetime => ?_, ?_, ?_⟩,
      List.forall_mem_cons.mpr ⟨⟨fun value lifetime => ?_, ?_, ?_⟩, List.forall_mem_nil _⟩⟩
    · change _ ∉ [Event.cacheRemoved "store" "http://items.test/items/1"]
      simp
    · change _ ∉ [Event.cacheRemoved "store" "http://items.test/items/1"]
      simp
    · simp [Session.moment]
    · exact List.not_mem_nil
    · exact List.not_mem_nil
    · simp [Session.moment]
  have inTime : ∀ span ∈ options.lifetime, 500 < 0 + span := by simp [options]
  have trip := cached_reads_round_trip transport (Session.opened itemsClient) "first" "listItems"
    Arguments.empty options
    ⟨.declare "listItems" .get "/items" [], "http://items.test", some "store"⟩
    ⟨.bare .get "http://items.test/items", "http://items.test/items"⟩ "store"
    (.number (.whole 7 (by decide))) [.poll "first"]
    [.invalidate "http://items.test/items/1", .wait 500] rfl rfl rfl rfl rfl own
    ⟨_, rfl, rfl, rfl⟩ rfl spared inTime
  exact trip.1 "listItems" _ rfl ⟨rfl, rfl⟩ rfl "second" _ ownAgain

end ServiceCatalog
