import ServiceCatalog.Proofs.Client.CachedRead
import ServiceCatalog.Proofs.Request.FormEncoding

/-!
# Where kept payloads come from

In a run in which payloads are kept by calls only, every row of every cache holds the payload of a
response of success that was received before (`Answered`), and the key of the row is the full
address of the request that it answered.  So a call that is served from a cache is given the
payload of an earlier answer to a request of the same full address, and of the same address and
query pairs if the two addresses hold equally many question marks, as they do when they hold none.

No more can be said.  A row does not tell the verb of the request that it answers, because writing
calls keep their payloads under the same keys as reading calls.  And a question mark that comes
into an address from an argument reads like the one before the query.

The invariant behind this is `Traced`: requests are numbered in the order in which they were sent,
each flight that was sent has the number of its own request, and each row was received.  One step
keeps it (`Traced.after_moment`).
-/

namespace ServiceCatalog

set_option autoImplicit false

open ServiceCatalog.Json
open PendingCall (resultOf keep)

/-! ## Requests and answers of a history -/

/-- The request that an event sends. -/
def Event.request? : Event → Option Request
  | .sent request => some request
  | _ => none

/-- The requests that are sent in a moment. -/
def Moment.requests (moment : Moment) : List Request := moment.events.filterMap Event.request?

/-- The requests of a history, in the order in which they were sent. -/
def requestsOf (moments : List Moment) : List Request := moments.flatMap Moment.requests

/-- A request was answered in a history: a poll of its flight, whose number is that of the request,
was given the response by the transport, and gave the result that the response means. -/
inductive Answered (transport : Transport) (request : Request) (response : Response) :
    List Moment → Prop where
  | received {earlier later : List Moment} {moment : Moment} {call : String}
      {pending : PendingCall} {flight : Flight} {ticket polls : Nat}
      (polled : moment.step = .poll call)
      (found : moment.before.calls.lookup call = some pending)
      (waiting : pending.outcome = .waiting flight)
      (asked : flight.position moment.before.shared = (ticket, polls))
      (sent : (requestsOf (earlier ++ [moment]))[ticket]? = some request)
      (answer : transport ticket polls = some (.ok response))
      (given : moment.result = some (resultOf (.ok response))) :
      Answered transport request response (earlier ++ moment :: later)

/-- A payload was received under a key: it is the body of a response of success to a request whose
full address is the key. -/
def Received (transport : Transport) (key : String) (value : Value) (past : List Moment) : Prop :=
  ∃ request response, Answered transport request response past ∧ response.isSuccess = true ∧
    decodeBody response.body = value ∧ request.fullUrl = key

section Histories

variable {transport : Transport} {past : List Moment}

@[simp] theorem requestsOf_append (first second : List Moment) :
    requestsOf (first ++ second) = requestsOf first ++ requestsOf second :=
  List.flatMap_append

@[simp] theorem requestsOf_singleton (moment : Moment) :
    requestsOf [moment] = moment.requests := by
  simp [requestsOf]

/-- What was answered stays answered. -/
theorem Answered.append {request : Request} {response : Response}
    (answered : Answered transport request response past) (later : List Moment) :
    Answered transport request response (past ++ later) := by
  cases answered with
  | received polled found waiting asked sent answer given =>
      rw [List.append_assoc, List.cons_append]
      exact .received polled found waiting asked sent answer given

/-- What was answered was sent. -/
theorem Answered.mem_requestsOf {request : Request} {response : Response}
    (answered : Answered transport request response past) : request ∈ requestsOf past := by
  cases answered with
  | @received earlier later moment _ _ _ _ _ _ _ _ _ sent _ _ =>
      have split : earlier ++ moment :: later = earlier ++ [moment] ++ later := by simp
      rw [split, requestsOf_append]
      exact List.mem_append_left _ (List.mem_of_getElem? sent)

/-- What was received stays received. -/
theorem Received.append {key : String} {value : Value}
    (received : Received transport key value past) (later : List Moment) :
    Received transport key value (past ++ later) := by
  obtain ⟨request, response, answered, known⟩ := received
  exact ⟨request, response, answered.append later, known⟩

end Histories

/-! ## The invariant -/

/-- A flight is kept under the full address of its request, and once it was sent it has the number
of its request. -/
structure Flight.Numbered (requests : List Request) (flight : Flight) : Prop where
  key : flight.cacheKey = flight.request.fullUrl
  number : ∀ ticket polls, flight.progress = some (ticket, polls) →
    requests[ticket]? = some flight.request

/-- A session follows from its past. -/
structure Traced (transport : Transport) (past : List Moment) (session : Session) : Prop where
  count : session.shared.sent = (requestsOf past).length
  flights : ∀ call pending flight, session.calls.lookup call = some pending →
    pending.outcome = .waiting flight → flight.Numbered (requestsOf past)
  rows : ∀ name key entry, session.shared.row? name key = some entry →
    Received transport key entry.value past

/-- Nothing happened before a session was opened. -/
theorem traced_opened (transport : Transport) (client : Client) :
    Traced transport [] (Session.opened client) where
  count := rfl
  flights := by simp [Session.opened]
  rows := by simp [Session.opened, Shared.initial, Shared.row?, Shared.cache, Cache.empty]

/-- A flight keeps its number when more requests are sent. -/
theorem Flight.Numbered.append {requests : List Request} {flight : Flight}
    (numbered : flight.Numbered requests) (more : List Request) :
    flight.Numbered (requests ++ more) where
  key := numbered.key
  number ticket polls progress := by
    have here := numbered.number ticket polls progress
    rw [List.getElem?_append_left (List.getElem?_eq_some_iff.mp here).1, here]

/-! ## What is sent -/

namespace Flight

variable (flight : Flight) (shared : Shared)

@[simp] theorem requests_keeping (result : CallResult) :
    (flight.keeping result).filterMap Event.request? = [] := by
  simp only [keeping]
  cases flight.cache <;> cases result <;> rfl

/-- A flight that gets on its way is counted. -/
theorem launched_sent :
    (flight.launched shared).sent =
      shared.sent + (flight.sending.filterMap Event.request?).length := by
  simp only [launched, sending]
  cases flight.progress <;> rfl

/-- A flight that is on its way has the number of its request. -/
theorem Numbered.launched {flight : Flight} {shared : Shared} {requests : List Request}
    (numbered : flight.Numbered requests) (count : shared.sent = requests.length) :
    (requests ++ flight.sending.filterMap Event.request?)[(flight.position shared).1]? =
      some flight.request := by
  cases progress : flight.progress with
  | none => simp [position, sending, progress, count, Event.request?]
  | some reached =>
      have here := numbered.number reached.1 reached.2 progress
      simpa [position, sending, progress] using here

end Flight

/-- Getting a flight on its way writes nothing. -/
theorem Flight.notMem_sending (flight : Flight) (name key : String) (value : Value)
    (lifetime : Option Nat) : .cacheWritten name key value lifetime ∉ flight.sending := by
  simp only [sending]
  cases flight.progress <;> simp

/-- What is kept of a result is its payload, in the cache of the flight and under its key. -/
theorem Flight.mem_keeping {flight : Flight} {result : CallResult} {name key : String}
    {value : Value} {lifetime : Option Nat} :
    .cacheWritten name key value lifetime ∈ flight.keeping result ↔
      flight.cache = some name ∧ flight.cacheKey = key ∧ result = .ok value ∧
        flight.lifetime = lifetime := by
  simp only [keeping]
  cases flight.cache <;> cases result <;> simp [eq_comm]

/-- A payload comes from a response of success. -/
theorem PendingCall.resultOf_eq_ok {exchange : Exchange} {value : Value} :
    resultOf exchange = .ok value ↔ ∃ response, exchange = .ok response ∧
      response.isSuccess = true ∧ decodeBody response.body = value := by
  rcases exchange with cause | response
  · simp [resultOf]
  · by_cases success : response.isSuccess = true <;> simp [resultOf, success]

/-- The key of a prepared call is the full address of its request. -/
theorem Binding.cacheKey_of_prepare {binding : Binding} {arguments : Arguments}
    {options : CallOptions} {prepared : PreparedCall}
    (complete : binding.prepare arguments options = .ok prepared) :
    prepared.cacheKey = prepared.request.fullUrl := by
  simp only [Binding.prepare, Operation.prepare] at complete
  split at complete
  · cases complete
  · obtain rfl := Except.ok.inj complete
    rfl

namespace Target.Making

variable {client : Client} {arguments : Arguments} {options : CallOptions}
  {shared after : Shared} {target : Target} {pending : PendingCall} {events : List Event}

/-- Making a call sends nothing. -/
theorem requests_eq_nil
    (making : Target.Making client arguments options shared target pending after events) :
    events.filterMap Event.request? = [] := by
  cases making <;> rfl

/-- Making a call writes nothing. -/
theorem unwritten
    (making : Target.Making client arguments options shared target pending after events)
    (name key : String) (value : Value) (lifetime : Option Nat) :
    .cacheWritten name key value lifetime ∉ events := by
  cases making <;> simp

/-- Making a call sends nothing, so the count stays. -/
theorem sent_eq
    (making : Target.Making client arguments options shared target pending after events) :
    after.sent = shared.sent := by
  rcases making.shared_eq with rfl | ⟨cache, key, rfl⟩ <;> rfl

/-- A call is made with a flight that was not sent yet. -/
theorem numbered {flight : Flight}
    (making : Target.Making client arguments options shared target pending after events)
    (waiting : pending.outcome = .waiting flight) (requests : List Request) :
    flight.Numbered requests := by
  cases making with
  | unknown | missing | hit => cases waiting
  | unread found complete | missed found complete =>
      obtain rfl := Outcome.waiting.inj waiting
      exact ⟨Binding.cacheKey_of_prepare complete, fun ticket polls sent => nomatch sent⟩

end Target.Making

/-! ## One step -/

namespace Traced

variable {transport : Transport} {past : List Moment} {session : Session}

/-- Every request that is sent is counted. -/
theorem sent_after_moment (step : Step) :
    (session.moment transport step).after.shared.sent =
      session.shared.sent + (session.moment transport step).requests.length := by
  cases step with
  | start call target arguments options =>
      have making := Session.making_of_start transport session call target arguments options
      rw [Moment.requests, making.requests_eq_nil]
      exact making.sent_eq
  | poll call =>
      cases found : session.calls.lookup call with
      | none =>
          rw [Session.moment_poll_unknown found]
          rfl
      | some pending =>
          rcases pending.poll_cases transport session.shared with ⟨-, poll⟩ | ⟨result, -, poll⟩ |
            ⟨flight, -, -, poll⟩ | ⟨flight, exchange, -, -, poll⟩ <;>
            rw [Session.moment_poll found poll]
          · rfl
          · rfl
          · exact flight.launched_sent session.shared
          · simp [Moment.requests, flight.launched_sent session.shared]
  | invalidate asked =>
      simp only [Session.moment, Session.step, Client.invalidate, Moment.requests]
      cases session.client.cache <;> rfl
  | useCache _ | put _ _ _ _ | read _ _ | remove _ _ | clear _ | wait _ => rfl

/-- A call that waits after it was polled has a flight with its number. -/
theorem numbered_of_poll (traced : Traced transport past session) {call : String}
    {pending : PendingCall} {flight : Flight}
    (found : (session.moment transport (.poll call)).after.calls.lookup call = some pending)
    (waiting : pending.outcome = .waiting flight) :
    flight.Numbered (requestsOf past ++ (session.moment transport (.poll call)).requests) := by
  cases before : session.calls.lookup call with
  | none =>
      rw [Session.moment_poll_unknown before] at found
      cases before.symm.trans found
  | some earlier =>
      rcases earlier.poll_cases transport session.shared with ⟨taken, poll⟩ | ⟨result, -, poll⟩ |
        ⟨asked, outcome, -, poll⟩ | ⟨asked, exchange, -, -, poll⟩
      all_goals
        have next := Session.lookup_after_poll before poll
        obtain rfl := Option.some.inj (next.symm.trans found)
      · cases taken.symm.trans waiting
      · cases waiting
      · -- The flight goes on, with the number that it had or was given just now.
        have numbered := traced.flights call earlier asked before outcome
        obtain rfl := Outcome.waiting.inj waiting
        refine ⟨numbered.key, fun ticket polls progress => ?_⟩
        obtain ⟨rfl, -⟩ := Prod.mk.inj (Option.some.inj progress)
        rw [Session.moment_poll before poll]
        exact numbered.launched traced.count
      · cases waiting

/-- A call that waits after a moment has a flight with its number. -/
theorem flights_after_moment (traced : Traced transport past session) (step : Step)
    {call : String} {pending : PendingCall} {flight : Flight}
    (found : (session.moment transport step).after.calls.lookup call = some pending)
    (waiting : pending.outcome = .waiting flight) :
    flight.Numbered (requestsOf past ++ (session.moment transport step).requests) := by
  by_cases made : step.made? = some call
  · cases step with
    | start other target arguments options =>
        obtain rfl := Option.some.inj made
        rw [Session.lookup_after_start] at found
        obtain rfl := Option.some.inj found
        have making := Session.making_of_start transport session other target arguments options
        exact making.numbered waiting _
    | poll | invalidate | useCache | put | read | remove | clear | wait => cases made
  · by_cases polled : step.polled? = some call
    · obtain rfl := Step.polled?_eq_some.mp polled
      exact traced.numbered_of_poll found waiting
    · rw [Session.lookup_after_moment made polled] at found
      exact (traced.flights call pending flight found waiting).append _

/-- A payload that a poll keeps was received. -/
theorem received_of_poll (traced : Traced transport past session) {call name key : String}
    {value : Value} {lifetime : Option Nat}
    (written : .cacheWritten name key value lifetime ∈
      (session.moment transport (.poll call)).events) :
    Received transport key value (past ++ [session.moment transport (.poll call)]) := by
  cases before : session.calls.lookup call with
  | none =>
      rw [Session.moment_poll_unknown before] at written
      cases written
  | some pending =>
      rcases pending.poll_cases transport session.shared with ⟨-, poll⟩ | ⟨result, -, poll⟩ |
        ⟨flight, -, -, poll⟩ | ⟨flight, exchange, waiting, answer, poll⟩ <;>
        have moment := Session.moment_poll before poll <;> rw [moment] at written
      · cases written
      · cases written
      · exact absurd written (flight.notMem_sending name key value lifetime)
      · have numbered := traced.flights call pending flight before waiting
        have kept := (List.mem_append.mp written).resolve_left
          (flight.notMem_sending name key value lifetime)
        obtain ⟨-, rfl, result, -⟩ := Flight.mem_keeping.mp kept
        obtain ⟨response, rfl, success, body⟩ := PendingCall.resultOf_eq_ok.mp result
        have sent : (requestsOf (past ++ [session.moment transport (.poll call)]))[
            (flight.position session.shared).1]? = some flight.request := by
          have launched := numbered.launched traced.count
          rw [requestsOf_append, requestsOf_singleton, moment]
          simpa [Moment.requests] using launched
        have answered : Answered transport flight.request response
            (past ++ [session.moment transport (.poll call)]) :=
          .received rfl before waiting rfl sent answer (by rw [moment])
        exact ⟨flight.request, response, answered, success, body, numbered.key.symm⟩

/-- A payload that a step keeps was received, unless the step puts it there itself. -/
theorem received_of_moment (traced : Traced transport past session) {step : Step}
    (unput : ∀ cache key value lifetime, step ≠ .put cache key value lifetime)
    {name key : String} {value : Value} {lifetime : Option Nat}
    (written : .cacheWritten name key value lifetime ∈ (session.moment transport step).events) :
    Received transport key value (past ++ [session.moment transport step]) := by
  cases step with
  | poll call => exact traced.received_of_poll written
  | start call target arguments options =>
      have making := Session.making_of_start transport session call target arguments options
      exact absurd written (making.unwritten name key value lifetime)
  | put cache asked kept span => exact absurd rfl (unput cache asked kept span)
  | invalidate asked =>
      simp only [Session.moment, Session.step, Client.invalidate, Shared.removeFromCache] at written
      cases cache : session.client.cache <;> simp [cache] at written
  | read cache asked => cases (List.mem_singleton.mp written)
  | remove cache asked => cases (List.mem_singleton.mp written)
  | useCache | clear | wait => cases written

/-- **One step keeps a session traced.** -/
theorem after_moment (traced : Traced transport past session) {step : Step}
    (unput : ∀ cache key value lifetime, step ≠ .put cache key value lifetime) :
    Traced transport (past ++ [session.moment transport step])
      (session.moment transport step).after where
  count := by
    rw [sent_after_moment, traced.count, requestsOf_append, requestsOf_singleton,
      List.length_append]
  flights call pending flight found waiting := by
    rw [requestsOf_append, requestsOf_singleton]
    exact traced.flights_after_moment step found waiting
  rows name key entry held := by
    rcases (Session.row_change step name key).held_or_written held with
      heldBefore | ⟨lifetime, written⟩
    · exact (traced.rows name key entry heldBefore).append _
    · exact traced.received_of_moment unput written

/-- A run keeps a session traced. -/
theorem after_run (traced : Traced transport past session) {steps : List Step}
    (unput : ∀ cache key value lifetime, .put cache key value lifetime ∉ steps) :
    Traced transport (past ++ session.history transport steps)
      (session.after transport steps) := by
  induction steps generalizing past session with
  | nil => simpa using traced
  | cons step rest ih =>
      have first : Traced transport (past ++ [session.moment transport step])
          (session.moment transport step).after :=
        traced.after_moment fun cache key value lifetime same =>
          unput cache key value lifetime (same ▸ List.mem_cons_self)
      have later := ih first fun cache key value lifetime member =>
        unput cache key value lifetime (List.mem_cons_of_mem _ member)
      rw [List.append_assoc] at later
      exact later

end Traced

/-! ## Served payloads -/

/-- **Served payloads were received before.**  Let a client be opened with empty caches, and let any
steps be taken that put nothing into a cache by hand.  If a call that is made then is served from
a cache, it is a prepared call, it is given the payload of a response of success that some poll
received before, and the request that was answered has the full address of the prepared request.
If the addresses of the two requests hold equally many question marks, then these are the same, and
so are the query pairs. -/
theorem served_payloads_were_received (transport : Transport) (client : Client)
    (before : List Step)
    (unput : ∀ cache key value lifetime, .put cache key value lifetime ∉ before) (call : String)
    (target : Target) (arguments : Arguments) (options : CallOptions) :
    let session := (Session.opened client).after transport before
    let past := (Session.opened client).history transport before
    let made := session.moment transport (.start call target arguments options)
    made.after.HasCall call .cacheHit false →
      ∃ binding prepared cache value request response,
        target.binding? session.client = some binding ∧
        binding.operation.isCacheable = true ∧
        binding.prepare arguments options = .ok prepared ∧
        (∀ rest : List Step, (∀ step ∈ rest, step.made? ≠ some call) →
          ServedWith value cache prepared.cacheKey call made
            (pollsOf call (made.after.history transport rest))) ∧
        Answered transport request response past ∧ response.isSuccess = true ∧
        decodeBody response.body = value ∧
        request.fullUrl = prepared.request.fullUrl ∧
        (request.url.toList.count '?' = prepared.request.url.toList.count '?' →
          request.url = prepared.request.url ∧ request.query = prepared.request.query) := by
  intro session past made served
  have traced : Traced transport past session := by
    have run := (traced_opened transport client).after_run unput
    rwa [List.nil_append] at run
  obtain ⟨pending, found, state, -⟩ := served
  have placed : made.after.calls.lookup call = some _ :=
    Session.lookup_after_start call target arguments options
  obtain rfl := Option.some.inj (placed.symm.trans found)
  have making := Session.making_of_start transport session call target arguments options
  obtain ⟨binding, prepared, cache, value, bound, complete, readable, kept⟩ :=
    making.of_cacheHit state
  obtain ⟨entry, held, alive, rfl⟩ :=
    (session.shared.readCache_eq_some cache prepared.cacheKey).mp kept
  obtain ⟨request, response, answered, success, body, address⟩ :=
    traced.rows cache prepared.cacheKey entry held
  have same : request.fullUrl = prepared.request.fullUrl :=
    address.trans (Binding.cacheKey_of_prepare complete)
  exact ⟨binding, prepared, cache, entry.value, request, response, bound,
    (Binding.readableCache_eq_some.mp readable).1, complete,
    fun rest own => served_of_row bound complete readable held alive own,
    answered, success, body, same, Request.fullUrl_inj same⟩

/-- A listing that is served was received when the first listing was answered. -/
theorem served_listing_was_received :
    let transport : Transport := fun _ polls =>
      if polls = 0 then none else some (.ok ⟨200, [], [0x37]⟩)
    let before : List Step := [.start "first" "listItems" Arguments.empty CallOptions.none,
      .poll "first", .poll "first"]
    let past := (Session.opened itemsClient).history transport before
    ∃ value request response, Answered transport request response past ∧
      decodeBody response.body = value ∧ request.fullUrl = "http://items.test/items" := by
  intro transport before past
  have unput : ∀ cache key value lifetime, .put cache key value lifetime ∉ before := by
    simp [before]
  obtain ⟨binding, prepared, cache, value, request, response, bound, -, complete, -, answered, -,
    body, address, -⟩ := served_payloads_were_received transport itemsClient before unput "second"
      "listItems" Arguments.empty CallOptions.none ⟨_, rfl, rfl, rfl⟩
  obtain rfl := Option.some.inj bound
  obtain rfl := Except.ok.inj complete
  exact ⟨value, request, response, answered, body, address⟩

/-- **Kept payloads are known by the full address alone.**  The listing is served with what a
writing call of the same address kept: no reading request was answered before.  And a call with a
query is served with what a call kept whose argument brought a question mark into the address: no
request of the same address was answered before. -/
theorem provenance_is_by_full_address :
    let transport : Transport := fun _ _ => some (.ok ⟨200, [], [0x37]⟩)
    let opened := Session.opened itemsClient
    let adding : List Step := [.start "first" "addItem" Arguments.empty CallOptions.none,
      .poll "first"]
    let asking : List Step :=
      [.start "first" "showItem" ⟨[("id", .string "a?view=1")]⟩ CallOptions.none, .poll "first"]
    (((opened.after transport adding).moment transport
        (.start "second" "listItems" Arguments.empty CallOptions.none)).after.HasCall "second"
          .cacheHit false ∧
      ∀ request response, Answered transport request response (opened.history transport adding) →
        request.verb ≠ .get) ∧
    ((opened.after transport asking).moment transport
        (.start "second" "showItem" ⟨[("id", .string "a"), ("view", .string "1")]⟩
          CallOptions.none)).after.HasCall "second" .cacheHit false ∧
      ∀ request response, Answered transport request response (opened.history transport asking) →
        request.url ≠ "http://items.test/items/a" ∧ request.query ≠ [("view", "1")] := by
  intro transport opened adding asking
  refine ⟨⟨⟨_, rfl, rfl, rfl⟩, fun request response answered => ?_⟩,
    ⟨_, rfl, rfl, rfl⟩, fun request response answered => ?_⟩
  · have sent : request ∈ [Request.bare .post "http://items.test/items"] := answered.mem_requestsOf
    obtain rfl := List.mem_singleton.mp sent
    decide
  · have sent : request ∈ [Request.bare .get "http://items.test/items/a?view=1"] :=
      answered.mem_requestsOf
    obtain rfl := List.mem_singleton.mp sent
    decide

end ServiceCatalog
