import ServiceCatalog.Proofs.Client.History

/-!
# What a call does to the caches and to the transport

The events of a call are those of the step that makes it and those of its polls.  This file says
what they are, for every client that was built, after any run, and whatever other steps come
between the polls of the call.

A call that cannot be prepared is silent.  A prepared call keeps to `Traffic`: making it reads the
one cache that it may be read from, and nothing else; if that is a hit, the call is silent from
then on; otherwise the first poll sends the prepared request, no other poll sends, and the poll
that gives a payload is the one that keeps it, in the cache of the call.

The proof follows the course of the outcome of a call, one lemma for each kind of event.
-/

namespace ServiceCatalog

set_option autoImplicit false

open ServiceCatalog.Json

/-! ## Kinds of events -/

namespace Event

/-- A cache was read. -/
def isRead : Event → Bool
  | .cacheRead .. => true
  | _ => false

/-- A request was sent. -/
def isSend : Event → Bool
  | .sent _ => true
  | _ => false

/-- A payload was kept. -/
def isWrite : Event → Bool
  | .cacheWritten .. => true
  | _ => false

end Event

namespace Moment

/-- The readings of a moment. -/
def reads (moment : Moment) : List Event := moment.events.filter Event.isRead

/-- The requests sent in a moment. -/
def sends (moment : Moment) : List Event := moment.events.filter Event.isSend

/-- The payloads kept in a moment. -/
def writes (moment : Moment) : List Event := moment.events.filter Event.isWrite

end Moment

namespace Flight

variable (flight : Flight) (result : CallResult)

@[simp] theorem reads_sending : flight.sending.filter Event.isRead = [] := by
  simp only [sending]
  cases flight.progress <;> rfl

@[simp] theorem sends_sending : flight.sending.filter Event.isSend = flight.sending := by
  simp only [sending]
  cases flight.progress <;> rfl

@[simp] theorem writes_sending : flight.sending.filter Event.isWrite = [] := by
  simp only [sending]
  cases flight.progress <;> rfl

@[simp] theorem reads_keeping : (flight.keeping result).filter Event.isRead = [] := by
  simp only [keeping]
  cases flight.cache <;> cases result <;> rfl

@[simp] theorem sends_keeping : (flight.keeping result).filter Event.isSend = [] := by
  simp only [keeping]
  cases flight.cache <;> cases result <;> rfl

@[simp] theorem writes_keeping :
    (flight.keeping result).filter Event.isWrite = flight.keeping result := by
  simp only [keeping]
  cases flight.cache <;> cases result <;> rfl

/-- A result is kept by one event at most. -/
theorem keeping_length_le : (flight.keeping result).length ≤ 1 := by
  simp only [keeping]
  cases flight.cache <;> cases result <;> simp

/-- What a flight that gave a result, or none, has to keep. -/
def kept : Option CallResult → List Event
  | some result => flight.keeping result
  | none => []

end Flight

/-- A payload of a prepared call is kept in the cache of the call, under its key and with the
lifetime that was asked for. -/
theorem Binding.kept_flight_ok {binding : Binding} {options : CallOptions} {cache : String}
    {prepared : PreparedCall} {value : Value}
    (cached : binding.effectiveCache options = some cache) :
    (binding.flight options prepared).kept (some (.ok value)) =
      [.cacheWritten cache prepared.cacheKey value options.lifetime] := by
  simp only [Flight.kept, Flight.keeping, flight, cached]

/-- Without a cache, and without a payload, nothing is kept of a prepared call. -/
theorem Binding.kept_flight_eq_nil {binding : Binding} {options : CallOptions}
    {prepared : PreparedCall} {result : Option CallResult}
    (nothing : binding.effectiveCache options = none ∨ ∀ value, result ≠ some (.ok value)) :
    (binding.flight options prepared).kept result = [] := by
  rcases result with _ | cause | value
  · rfl
  · simp only [Flight.kept, Flight.keeping]
    cases (binding.flight options prepared).cache <;> rfl
  · have uncached := nothing.resolve_right fun other => other value rfl
    simp only [Flight.kept, Flight.keeping, flight, uncached]

/-! ## The events of a course -/

namespace Course

variable {outcome : Outcome} {flight : Flight} {polls : List Moment}

/-- A poll never reads a cache. -/
theorem reads_eq_nil (course : Course outcome polls) : ∀ poll ∈ polls, poll.reads = [] := by
  induction course with
  | unpolled => simp
  | taken idle _ ih =>
      exact List.forall_mem_cons.mpr ⟨by rw [Moment.reads, idle.no_events]; rfl, ih⟩
  | ready given silent _ ih =>
      exact List.forall_mem_cons.mpr ⟨by rw [Moment.reads, silent]; rfl, ih⟩
  | outstanding nothing sent _ ih =>
      exact List.forall_mem_cons.mpr ⟨by rw [Moment.reads, sent, Flight.reads_sending], ih⟩
  | answered given kept _ ih => exact List.forall_mem_cons.mpr ⟨by simp [Moment.reads, kept], ih⟩

/-- A flight that was sent is not sent again. -/
theorem sends_eq_nil (course : Course (.waiting flight) polls) (sent : flight.sending = []) :
    ∀ poll ∈ polls, poll.sends = [] := by
  generalize waiting : Outcome.waiting flight = outcome at course
  induction course generalizing flight with
  | unpolled => simp
  | taken | ready => cases waiting
  | outstanding nothing sends _ ih =>
      cases waiting
      exact List.forall_mem_cons.mpr ⟨by rw [Moment.sends, sends, sent]; rfl, ih rfl rfl⟩
  | answered given kept rest =>
      cases waiting
      have quiet := rest.silent_of_taken
      refine List.forall_mem_cons.mpr ⟨by simp [Moment.sends, kept, sent], ?_⟩
      exact fun poll member => by rw [Moment.sends, quiet poll member]; rfl

/-- The first poll of a flight sends it, if it was not sent before; the later polls do not. -/
theorem sends_cons {first : Moment} {later : List Moment}
    (course : Course (.waiting flight) (first :: later)) :
    first.sends = flight.sending ∧ ∀ poll ∈ later, poll.sends = [] := by
  cases course with
  | outstanding nothing sent rest =>
      exact ⟨by rw [Moment.sends, sent, Flight.sends_sending], rest.sends_eq_nil rfl⟩
  | answered given kept rest =>
      have quiet := rest.silent_of_taken
      refine ⟨by simp [Moment.sends, kept], fun poll member => ?_⟩
      rw [Moment.sends, quiet poll member]
      rfl

/-- A payload is kept in the poll that gives it, and in no other. -/
theorem writes_eq (course : Course (.waiting flight) polls) :
    ∀ poll ∈ polls, poll.writes = flight.kept poll.result := by
  generalize waiting : Outcome.waiting flight = outcome at course
  induction course generalizing flight with
  | unpolled => simp
  | taken | ready => cases waiting
  | outstanding nothing sent _ ih =>
      cases waiting
      have later := ih rfl
      refine List.forall_mem_cons.mpr ⟨?_, later⟩
      rw [Moment.writes, sent, Flight.writes_sending, nothing]
      rfl
  | answered given kept rest =>
      cases waiting
      refine List.forall_mem_cons.mpr ⟨?_, fun poll member => ?_⟩
      · simp [Moment.writes, kept, given, Flight.kept]
      · have idle := rest.idle_of_taken poll member
        rw [Moment.writes, idle.no_events, idle.no_result]
        rfl

/-- At most one payload is kept. -/
theorem writes_length_le (course : Course (.waiting flight) polls) :
    (polls.flatMap Moment.writes).length ≤ 1 := by
  generalize waiting : Outcome.waiting flight = outcome at course
  induction course generalizing flight with
  | unpolled => simp
  | taken | ready => cases waiting
  | @outstanding _ first later _ nothing sent _ ih =>
      have quiet : first.writes = [] := by rw [Moment.writes, sent, Flight.writes_sending]
      rw [List.flatMap_cons, quiet]
      exact ih rfl
  | @answered sent first later result given kept rest =>
      have written : first.writes = sent.keeping result := by
        simp only [Moment.writes, kept, List.filter_append, Flight.writes_sending,
          Flight.writes_keeping, List.nil_append]
      have quiet : later.flatMap Moment.writes = [] :=
        List.flatMap_eq_nil_iff.mpr fun poll member => by
          rw [Moment.writes, rest.silent_of_taken poll member]
          rfl
      rw [List.flatMap_cons, quiet, List.append_nil, written]
      exact sent.keeping_length_le result

end Course

/-! ## One cache for all bindings -/

/-- Every binding of a client has the cache of the client. -/
def Client.Coherent (client : Client) : Prop :=
  ∀ binding ∈ client.bindings, binding.cache = client.cache

/-- What a built client is made of. -/
theorem Client.of_build {catalog : Catalog} {baseUrl cache : Option String} {client : Client}
    (built : Client.build catalog baseUrl cache = .ok client) :
    ∃ (base : String) (bindings : List Binding), chooseBase catalog baseUrl = .ok base ∧
      client = ⟨catalog, base, bindings.map (·.withCache cache), indexOf catalog.operations,
        cache⟩ := by
  simp only [Client.build, bind, Except.bind] at built
  split at built
  · cases built
  · next base chosen =>
      split at built
      · cases built
      · split at built
        · cases built
        · next bindings bound => exact ⟨base, bindings, chosen, (Except.ok.inj built).symm⟩

/-- A client is built that way. -/
theorem Client.coherent_of_build {catalog : Catalog} {baseUrl cache : Option String}
    {client : Client} (built : Client.build catalog baseUrl cache = .ok client) :
    client.Coherent := by
  obtain ⟨base, bindings, -, rfl⟩ := Client.of_build built
  intro binding member
  obtain ⟨before, _, rfl⟩ := List.mem_map.mp member
  rfl

/-- Changing the cache changes it everywhere. -/
theorem Client.coherent_withCache (cache : String) (client : Client) :
    (client.withCache cache).Coherent := by
  intro binding member
  obtain ⟨before, _, rfl⟩ := List.mem_map.mp member
  rfl

/-- A run keeps the bindings together. -/
theorem Session.coherent_after {transport : Transport} {session : Session}
    (coherent : session.client.Coherent) (steps : List Step) :
    (session.after transport steps).client.Coherent := by
  induction steps generalizing session with
  | nil => exact coherent
  | cons step rest ih =>
      have next : (session.moment transport step).after.client.Coherent := by
        rw [client_after_moment]
        cases step with
        | useCache cache => exact Client.coherent_withCache cache _
        | start | poll | invalidate | put | read | remove | clear | wait => exact coherent
      exact ih next

/-- A binding that is found by a name is one of the client. -/
theorem Client.mem_bindings_of_binding? {client : Client} {name : String} {binding : Binding}
    (found : client.binding? name = some binding) : binding ∈ client.bindings := by
  obtain ⟨position, -, there⟩ := Option.bind_eq_some_iff.mp found
  exact List.mem_of_getElem? there

/-- A call by name goes to its own cache, if it brings one, and to that of the client
otherwise. -/
theorem Client.Coherent.effectiveCache {client : Client} (coherent : client.Coherent)
    {name : String} {binding : Binding} (found : client.binding? name = some binding)
    (options : CallOptions) :
    binding.effectiveCache options = (options.cache <|> client.cache) := by
  rw [Binding.effectiveCache, coherent binding (mem_bindings_of_binding? found)]

/-! ## The discipline -/

/-- A call without events. -/
structure Silent (made : Moment) (polls : List Moment) : Prop where
  making : made.events = []
  polling : ∀ poll ∈ polls, poll.events = []

/-- A call was served from a cache. -/
def Moment.Served (made : Moment) : Prop := ∃ cache key, made.events = [.cacheRead cache key true]

/-- The events of a prepared call.  The cache of the call is read once, when the call is made, if
the operation is cacheable and no fresh answer is asked for; otherwise no cache is read (`unread`,
`read`, `read_once`).  A call that was served does nothing more (`served`).  Any other sends the
prepared request in its first poll and never again (`sent`, `sent_once`), and the poll that gives a
payload keeps it in the cache of the call, under its key and with the lifetime that was asked for
(`written`, `unwritten`, `written_once`). -/
structure Traffic (binding : Binding) (options : CallOptions) (prepared : PreparedCall)
    (made : Moment) (polls : List Moment) : Prop where
  unread : binding.operation.isCacheable = false ∨ options.refresh = true ∨
    binding.effectiveCache options = none → made.events = []
  read : binding.operation.isCacheable = true → options.refresh = false →
    ∀ cache, binding.effectiveCache options = some cache →
      ∃ hit, made.events = [.cacheRead cache prepared.cacheKey hit]
  read_once : ∀ poll ∈ polls, poll.reads = []
  served : made.Served → ∀ poll ∈ polls, poll.events = []
  sent : ¬ made.Served → ∀ first later, polls = first :: later →
    first.sends = [.sent prepared.request]
  sent_once : ∀ first later, polls = first :: later → ∀ poll ∈ later, poll.sends = []
  written : ¬ made.Served → ∀ poll ∈ polls, ∀ cache value,
    binding.effectiveCache options = some cache → poll.result = some (.ok value) →
      poll.writes = [.cacheWritten cache prepared.cacheKey value options.lifetime]
  unwritten : ¬ made.Served → ∀ poll ∈ polls,
    (binding.effectiveCache options = none ∨ ∀ value, poll.result ≠ some (.ok value)) →
      poll.writes = []
  written_once : (polls.flatMap Moment.writes).length ≤ 1

namespace Traffic

variable {binding : Binding} {options : CallOptions} {prepared : PreparedCall} {made : Moment}
  {polls : List Moment}

/-- A call that was served keeps to its traffic if it is silent afterwards. -/
theorem of_served {cache : String} (readable : binding.readableCache options = some cache)
    (events : made.events = [.cacheRead cache prepared.cacheKey true])
    (silent : ∀ poll ∈ polls, poll.events = []) :
    Traffic binding options prepared made polls where
  unread forbidden := nomatch (Binding.readableCache_eq_none.mpr forbidden).symm.trans readable
  read cacheable fresh other cached := by
    have readOther := Binding.readableCache_eq_some.mpr ⟨cacheable, fresh, cached⟩
    obtain rfl := Option.some.inj (readable.symm.trans readOther)
    exact ⟨true, events⟩
  read_once poll member := by rw [Moment.reads, silent poll member]; rfl
  served _ := silent
  sent unserved := absurd ⟨_, _, events⟩ unserved
  sent_once := by
    rintro first later rfl poll member
    rw [Moment.sends, silent poll (List.mem_cons_of_mem _ member)]
    rfl
  written unserved := absurd ⟨_, _, events⟩ unserved
  unwritten unserved := absurd ⟨_, _, events⟩ unserved
  written_once := by
    have quiet : polls.flatMap Moment.writes = [] :=
      List.flatMap_eq_nil_iff.mpr fun poll member => by
        rw [Moment.writes, silent poll member]
        rfl
    simp [quiet]

/-- A call that waits keeps to its traffic by the course of its flight. -/
theorem of_awaiting
    (events : made.events = ((binding.readableCache options).map fun cache =>
      Event.cacheRead cache prepared.cacheKey false).toList)
    (course : Course (.waiting (binding.flight options prepared)) polls) :
    Traffic binding options prepared made polls where
  unread forbidden := by rw [events, Binding.readableCache_eq_none.mpr forbidden]; rfl
  read cacheable fresh cache cached := by
    refine ⟨false, ?_⟩
    rw [events, Binding.readableCache_eq_some.mpr ⟨cacheable, fresh, cached⟩]
    rfl
  read_once := course.reads_eq_nil
  served := by
    rintro ⟨cache, key, served⟩
    cases readable : binding.readableCache options <;> simp [readable, served] at events
  sent _ := by
    rintro first later rfl
    exact course.sends_cons.1
  sent_once := by
    rintro first later rfl
    exact course.sends_cons.2
  written _ poll member cache value cached given := by
    rw [course.writes_eq poll member, given, Binding.kept_flight_ok cached]
  unwritten _ poll member nothing := by
    rw [course.writes_eq poll member, Binding.kept_flight_eq_nil nothing]
  written_once := course.writes_length_le

end Traffic

section Calls

variable {transport : Transport} {session : Session} {call : String} {target : Target}
  {arguments : Arguments} {options : CallOptions} {rest : List Step}

/-- A call that cannot be prepared is silent. -/
theorem silent_of_unprepared (own : ∀ step ∈ rest, step.made? ≠ some call)
    (unprepared : ∀ binding, target.binding? session.client = some binding →
      ∃ missing, binding.prepare arguments options = .error missing) :
    let made := session.moment transport (.start call target arguments options)
    Silent made (pollsOf call (made.after.history transport rest)) := by
  intro made
  have placed : made.after.calls.lookup call = some _ :=
    Session.lookup_after_start call target arguments options
  have course : Course (target.call session.client arguments options session.shared).1.outcome
      (pollsOf call (made.after.history transport rest)) := course_of_polls placed own
  obtain ⟨silent, operation, cause, rejected⟩ := target.making.of_unprepared unprepared
  rw [rejected] at course
  exact ⟨silent, course.silent_of_ready⟩

/-- A prepared call keeps to its traffic. -/
theorem traffic_of_prepared {binding : Binding} {prepared : PreparedCall}
    (own : ∀ step ∈ rest, step.made? ≠ some call)
    (found : target.binding? session.client = some binding)
    (complete : binding.prepare arguments options = .ok prepared) :
    let made := session.moment transport (.start call target arguments options)
    Traffic binding options prepared made
      (pollsOf call (made.after.history transport rest)) := by
  intro made
  have placed : made.after.calls.lookup call = some _ :=
    Session.lookup_after_start call target arguments options
  have course : Course (target.call session.client arguments options session.shared).1.outcome
      (pollsOf call (made.after.history transport rest)) := course_of_polls placed own
  rcases target.making.of_prepared found complete with
    ⟨cache, value, readable, -, resolved, events⟩ | ⟨-, awaiting, events⟩
  · rw [resolved] at course
    exact .of_served readable events course.silent_of_ready
  · rw [awaiting] at course
    exact .of_awaiting events course

end Calls

/-- **Calls keep to their discipline.**  Let a client be built, let any steps be taken, then make a
call, and let any further steps be taken that do not give its name to another call.

If no binding goes by the name of the call, or an argument is missing, the call is silent.
Otherwise its events are the traffic of its prepared form; and a call by name goes to the cache
that it brings, or else to the cache that the client has at that time. -/
theorem calls_keep_to_discipline {catalog : Catalog} {baseUrl cache : Option String}
    {client : Client} (built : Client.build catalog baseUrl cache = .ok client)
    (transport : Transport) (before : List Step) (call : String) (target : Target)
    (arguments : Arguments) (options : CallOptions) (rest : List Step)
    (own : ∀ step ∈ rest, step.made? ≠ some call) :
    let session := (Session.opened client).after transport before
    let made := session.moment transport (.start call target arguments options)
    let polls := pollsOf call (made.after.history transport rest)
    (target.binding? session.client = none → Silent made polls) ∧
      ∀ binding, target.binding? session.client = some binding →
        (∀ name, target = .operation name →
          binding.effectiveCache options = (options.cache <|> session.client.cache)) ∧
        (∀ missing, binding.prepare arguments options = .error missing → Silent made polls) ∧
        ∀ prepared, binding.prepare arguments options = .ok prepared →
          Traffic binding options prepared made polls := by
  intro session made polls
  refine ⟨fun unknown => ?_, fun binding found => ⟨?_, fun missing incomplete => ?_, ?_⟩⟩
  · exact silent_of_unprepared own fun binding found => nomatch unknown.symm.trans found
  · rintro name rfl
    have coherent : session.client.Coherent :=
      Session.coherent_after (Client.coherent_of_build built) before
    exact coherent.effectiveCache found options
  · refine silent_of_unprepared own fun other foundOther => ⟨missing, ?_⟩
    obtain rfl := Option.some.inj (found.symm.trans foundOther)
    exact incomplete
  · exact fun prepared complete => traffic_of_prepared own found complete

/-- Two calls of one operation, side by side: the polls of the first stand between those of the
second, and both find the cache that the client was given last. -/
theorem listing_keeps_to_discipline :
    let transport : Transport := fun _ polls =>
      if polls = 0 then none else some (.ok (Response.json 200 (.array [])))
    let session := (Session.opened itemsClient).after transport [.useCache "shelf"]
    let made := session.moment transport
      (.start "first" (.operation "listItems") Arguments.empty CallOptions.none)
    let polls := pollsOf "first" (made.after.history transport
      [.poll "first", .start "second" (.operation "listItems") Arguments.empty CallOptions.none,
        .poll "second", .poll "first", .poll "second"])
    Traffic ⟨.declare "listItems" .get "/items" [], "http://items.test", some "shelf"⟩
      CallOptions.none ⟨.bare .get "http://items.test/items", "http://items.test/items"⟩
      made polls := by
  intro transport session made polls
  have own : ∀ step ∈ [Step.poll "first",
      .start "second" (.operation "listItems") Arguments.empty CallOptions.none,
      .poll "second", .poll "first", .poll "second"], step.made? ≠ some "first" := by
    simp [Step.made?]
  have discipline := calls_keep_to_discipline build_itemsCatalog transport [.useCache "shelf"]
    "first" (.operation "listItems") Arguments.empty CallOptions.none _ own
  exact (discipline.2 _ rfl).2.2 _ rfl

end ServiceCatalog
