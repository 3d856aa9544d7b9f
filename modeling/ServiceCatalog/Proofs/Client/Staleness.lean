import ServiceCatalog.Proofs.Client.Provenance

/-!
# How long a kept payload can be stale

A payload is stale if its request was sent before the entry of its key was taken out of the cache
of the client, or before a fresh answer was asked for.  Neither of the two reaches a flight that is
still on its way: it keeps its payload when it is answered, and later calls are served with it.
That is the only way in which a stale payload is served.

Whatever a row holds was kept there by one poll, the last that changed the row (`LastKept`), and the
request of that poll has a number.  A row that was there at the beginning of a run is still the same
at its end, or the last poll that changed it is one of the run (`Traced.kept_since`).  If the
request of that poll has a number from before the run, then its call was waiting for the answer when
the run began (`Session.awaits_of_after_moment`): a call that waits was given its number when its
request was sent.

Taking a key out leaves no row to be the same.  A fresh answer leaves its own.
-/

namespace ServiceCatalog

set_option autoImplicit false

open ServiceCatalog.Json
open PendingCall (resultOf keep)

/-! ## Waiting for an answer -/

/-- A call waits for the answer to a request that was sent, by its number. -/
def Session.Awaits (session : Session) (call : String) (ticket : Nat) : Prop :=
  ∃ pending flight polls, session.calls.lookup call = some pending ∧
    pending.outcome = .waiting flight ∧ flight.progress = some (ticket, polls)

/-- A flight whose number was given before was sent before. -/
theorem Flight.sent_of_position {flight : Flight} {shared : Shared} {ticket polls : Nat}
    (position : flight.position shared = (ticket, polls)) (early : ticket < shared.sent) :
    flight.progress = some (ticket, polls) := by
  cases progress : flight.progress with
  | none =>
      simp only [Flight.position, progress, Option.getD_none, Prod.mk.injEq] at position
      omega
  | some reached =>
      simp only [Flight.position, progress, Option.getD_some] at position
      rw [position]

/-- A call is made without a request that was sent. -/
theorem Target.Making.unsent {client : Client} {arguments : Arguments} {options : CallOptions}
    {shared after : Shared} {target : Target} {pending : PendingCall} {events : List Event}
    (making : Target.Making client arguments options shared target pending after events)
    {flight : Flight} (waiting : pending.outcome = .waiting flight) : flight.progress = none := by
  cases making with
  | unknown | missing | hit => cases waiting
  | unread | missed =>
      obtain rfl := Outcome.waiting.inj waiting
      rfl

namespace Session

variable {transport : Transport} {session : Session}

/-- **No call begins to wait for an old request.**  A call that waits after a step for the answer to
a request that was sent before the step has waited for it before the step. -/
theorem awaits_of_after_moment {step : Step} {call : String} {ticket : Nat}
    (awaits : (session.moment transport step).after.Awaits call ticket)
    (early : ticket < session.shared.sent) : session.Awaits call ticket := by
  obtain ⟨pending, flight, polls, found, waiting, progress⟩ := awaits
  by_cases made : step.made? = some call
  · cases step with
    | start other target arguments options =>
        obtain rfl := Option.some.inj made
        rw [lookup_after_start] at found
        obtain rfl := Option.some.inj found
        have making := making_of_start transport session other target arguments options
        cases (making.unsent waiting).symm.trans progress
    | poll | invalidate | useCache | put | read | remove | clear | wait => cases made
  · by_cases polled : step.polled? = some call
    · obtain rfl := Step.polled?_eq_some.mp polled
      cases before : session.calls.lookup call with
      | none =>
          rw [moment_poll_unknown before] at found
          cases before.symm.trans found
      | some earlier =>
          rcases earlier.poll_cases transport session.shared with ⟨taken, poll⟩ |
            ⟨result, -, poll⟩ | ⟨asked, outcome, -, poll⟩ | ⟨asked, exchange, -, -, poll⟩
          all_goals
            have next := lookup_after_poll before poll
            obtain rfl := Option.some.inj (next.symm.trans found)
          · cases taken.symm.trans waiting
          · cases waiting
          · -- The flight goes on, under the number that it had.
            obtain rfl := Outcome.waiting.inj waiting
            obtain ⟨number, -⟩ := Prod.mk.inj (Option.some.inj progress)
            have position : asked.position session.shared =
                (ticket, (asked.position session.shared).2) := by rw [← number]
            exact ⟨earlier, asked, _, before, outcome, Flight.sent_of_position position early⟩
          · cases waiting
    · rw [lookup_after_moment made polled] at found
      exact ⟨pending, flight, polls, found, waiting, progress⟩

end Session

/-! ## What became of a row -/

/-- A poll keeps a payload in a row: the transport answers the request of the call, which has the
number `ticket`, with a response of success, and the payload is its body. -/
structure Moment.Keeps (transport : Transport) (name key : String) (value : Value) (call : String)
    (ticket : Nat) (request : Request) (moment : Moment) : Prop where
  polled : moment.step = .poll call
  flying : ∃ pending flight polls response, moment.before.calls.lookup call = some pending ∧
    pending.outcome = .waiting flight ∧ flight.request = request ∧ flight.cacheKey = key ∧
    flight.position moment.before.shared = (ticket, polls) ∧
    transport ticket polls = some (.ok response) ∧ response.isSuccess = true ∧
    decodeBody response.body = value
  given : moment.result = some (.ok value)
  written : ∃ lifetime, .cacheWritten name key value lifetime ∈ moment.events

/-- What becomes of a row in a moment in which nothing is put into a cache by hand. -/
inductive Moment.RowFate (transport : Transport) (moment : Moment) (name key : String) : Prop where
  | spared (spares : moment.Spares name key)
  | kept {entry : CacheEntry} {call : String} {ticket : Nat} {request : Request}
      (held : moment.after.shared.row? name key = some entry)
      (keeps : moment.Keeps transport name key entry.value call ticket request)
  | emptied (empty : moment.after.shared.row? name key = none)

/-- Getting a flight on its way takes nothing out. -/
theorem Flight.unremoved_sending (flight : Flight) (name key : String) :
    .cacheRemoved name key ∉ flight.sending := by
  simp only [sending]
  cases flight.progress <;> simp

/-- Keeping a result takes nothing out. -/
theorem Flight.unremoved_keeping (flight : Flight) (result : CallResult) (name key : String) :
    .cacheRemoved name key ∉ flight.keeping result := by
  simp only [keeping]
  cases flight.cache <;> cases result <;> simp

/-- Making a call takes nothing out. -/
theorem Target.Making.unremoved {client : Client} {arguments : Arguments} {options : CallOptions}
    {shared after : Shared} {target : Target} {pending : PendingCall} {events : List Event}
    (making : Target.Making client arguments options shared target pending after events)
    (name key : String) : .cacheRemoved name key ∉ events := by
  cases making <;> simp

namespace Session

variable {transport : Transport} {session : Session} {name key : String}

/-- Making a call spares every row. -/
theorem spares_of_start (call : String) (target : Target) (arguments : Arguments)
    (options : CallOptions) :
    (session.moment transport (.start call target arguments options)).Spares name key := by
  have making := making_of_start transport session call target arguments options
  exact ⟨making.unwritten name key, making.unremoved name key, fun same => by cases same⟩

/-- A moment that takes a key out empties one row and spares the others. -/
theorem row_fate_of_remove {moment : Moment} {cache asked : String}
    (removes : moment.after.shared = (moment.before.shared.removeFromCache cache asked).1)
    (events : moment.events = [.cacheRemoved cache asked])
    (uncleared : moment.step ≠ .clear name) : moment.RowFate transport name key := by
  by_cases here : name = cache ∧ key = asked
  · exact .emptied (by rw [removes, Shared.row?_removeFromCache, if_pos here])
  · refine .spared ⟨fun value lifetime => by simp [events], ?_, uncleared⟩
    simpa [events] using here

/-- An answer that is kept in a row changes that row and spares the others. -/
theorem row_fate_of_answer {call : String} {pending : PendingCall} {flight : Flight}
    {exchange : Exchange} (found : session.calls.lookup call = some pending)
    (waiting : pending.outcome = .waiting flight)
    (answered : transport (flight.position session.shared).1 (flight.position session.shared).2 =
      some exchange) :
    (session.moment transport (.poll call)).RowFate transport name key := by
  have moment := moment_poll found (PendingCall.poll_answered waiting answered)
  by_cases kept : ∃ value lifetime, .cacheWritten name key value lifetime ∈
      flight.keeping (resultOf exchange)
  · obtain ⟨value, lifetime, written⟩ := kept
    obtain ⟨cached, keyed, result, -⟩ := Flight.mem_keeping.mp written
    obtain ⟨response, rfl, success, body⟩ := PendingCall.resultOf_eq_ok.mp result
    have held : (session.moment transport (.poll call)).after.shared.row? name key =
        some ⟨value, flight.lifetime.map fun span =>
          (flight.launched session.shared).now + span⟩ := by
      rw [moment, result]
      simp [keep, cached, keyed, Shared.row?_writeCache]
    refine .kept held ⟨rfl, ⟨pending, flight, _, response, found, waiting, rfl, keyed, rfl,
      answered, success, body⟩, ?_, lifetime, ?_⟩
    · rw [moment, result]
    · rw [moment]
      exact List.mem_append_right _ written
  · refine .spared ⟨fun value lifetime written => ?_, fun removed => ?_, fun same => by cases same⟩
    · rw [moment] at written
      rcases List.mem_append.mp written with sent | written
      · exact flight.notMem_sending name key value lifetime sent
      · exact kept ⟨value, lifetime, written⟩
    · rw [moment] at removed
      rcases List.mem_append.mp removed with sent | removed
      · exact flight.unremoved_sending name key sent
      · exact flight.unremoved_keeping _ name key removed

/-- **A step has one of the three fates for a row**, unless it puts something into a cache. -/
theorem row_fate {step : Step}
    (unput : ∀ cache key value lifetime, step ≠ .put cache key value lifetime)
    (name key : String) : (session.moment transport step).RowFate transport name key := by
  cases step with
  | start call target arguments options =>
      exact .spared (spares_of_start call target arguments options)
  | poll call =>
      cases found : session.calls.lookup call with
      | none =>
          rw [moment_poll_unknown found]
          exact .spared ⟨by simp, by simp, by simp⟩
      | some pending =>
          rcases pending.poll_cases transport session.shared with ⟨-, poll⟩ | ⟨result, -, poll⟩ |
            ⟨flight, -, -, poll⟩ | ⟨flight, exchange, waiting, answered, -⟩
          · rw [moment_poll found poll]
            exact .spared ⟨by simp, by simp, by simp⟩
          · rw [moment_poll found poll]
            exact .spared ⟨by simp, by simp, by simp⟩
          · rw [moment_poll found poll]
            exact .spared ⟨flight.notMem_sending name key, flight.unremoved_sending name key,
              by simp⟩
          · exact row_fate_of_answer found waiting answered
  | invalidate asked =>
      cases held : session.client.cache with
      | none =>
          have events : (session.moment transport (.invalidate asked)).events = [] := by
            simp [moment, Session.step, Client.invalidate, held]
          exact .spared ⟨by simp [events], by simp [events], by simp [moment]⟩
      | some cache =>
          have removes : session.client.invalidate asked session.shared =
              session.shared.removeFromCache cache asked := by simp only [Client.invalidate, held]
          exact row_fate_of_remove (congrArg Prod.fst removes) (congrArg Prod.snd removes)
            (by simp [moment])
  | put cache asked value lifetime => exact absurd rfl (unput cache asked value lifetime)
  | remove cache asked => exact row_fate_of_remove rfl rfl (by simp [moment])
  | clear cache =>
      by_cases here : name = cache
      · refine .emptied ?_
        have row := session.shared.row?_clear cache name key
        rwa [if_pos here] at row
      · exact .spared ⟨fun _ _ => List.not_mem_nil, List.not_mem_nil,
          fun same => here (Step.clear.inj same).symm⟩
  | read cache asked => exact .spared ⟨by simp [moment, Session.step, Shared.readCache],
      by simp [moment, Session.step, Shared.readCache], by simp [moment]⟩
  | useCache _ | wait _ =>
      exact .spared ⟨fun _ _ => List.not_mem_nil, List.not_mem_nil, fun same => by cases same⟩

end Session

/-! ## Who changed a row last -/

/-- The last of the moments that changed a row is a poll that kept a payload in it. -/
inductive LastKept (transport : Transport) (name key : String) (value : Value) (call : String)
    (ticket : Nat) (request : Request) : List Moment → Prop where
  | here {moment : Moment} {later : List Moment}
      (keeps : moment.Keeps transport name key value call ticket request)
      (spared : ∀ other ∈ later, other.Spares name key) :
      LastKept transport name key value call ticket request (moment :: later)
  | later {moment : Moment} {later : List Moment}
      (last : LastKept transport name key value call ticket request later) :
      LastKept transport name key value call ticket request (moment :: later)

/-- A payload was kept in a row by the last of `moments` that changed the row.  Its request has the
number `ticket` among those of `whole`, and the key of the row as its full address.  If the number
is below `bound`, the call was waiting for the answer in `session`. -/
structure KeptSince (transport : Transport) (session : Session) (bound : Nat)
    (whole moments : List Moment) (name key : String) (value : Value) (call : String)
    (ticket : Nat) (request : Request) : Prop where
  last : LastKept transport name key value call ticket request moments
  sent : (requestsOf whole)[ticket]? = some request
  address : request.fullUrl = key
  outstanding : ticket < bound → session.Awaits call ticket

/-- Nothing is put into a cache by hand. -/
def NothingPut (steps : List Step) : Prop :=
  ∀ cache key value lifetime, .put cache key value lifetime ∉ steps

section Rows

variable {transport : Transport} {session : Session} {name key : String} {value : Value}
  {call : String} {ticket : Nat} {request : Request}

theorem NothingPut.of_cons {step : Step} {rest : List Step} (unput : NothingPut (step :: rest)) :
    (∀ cache key value lifetime, step ≠ .put cache key value lifetime) ∧ NothingPut rest :=
  ⟨fun cache key value lifetime same => unput cache key value lifetime (same ▸ List.mem_cons_self),
    fun cache key value lifetime member =>
      unput cache key value lifetime (List.mem_cons_of_mem _ member)⟩

/-- A request keeps its number when more requests are sent. -/
theorem requestsOf_append_of_some {past : List Moment}
    (sent : (requestsOf past)[ticket]? = some request) (later : List Moment) :
    (requestsOf (past ++ later))[ticket]? = some request := by
  rw [requestsOf_append, List.getElem?_append_left (List.getElem?_eq_some_iff.mp sent).1, sent]

/-- A request whose payload is kept was sent, with the key of the row as its full address. -/
theorem Traced.sent_of_keeps {past : List Moment} (traced : Traced transport past session)
    {step : Step}
    (keeps : (session.moment transport step).Keeps transport name key value call ticket request) :
    (requestsOf (past ++ [session.moment transport step]))[ticket]? = some request ∧
      request.fullUrl = key := by
  obtain ⟨pending, flight, polls, response, found, waiting, rfl, rfl, position, answer, -, -⟩ :=
    keeps.flying
  obtain rfl : step = .poll call := keeps.polled
  have found : session.calls.lookup call = some pending := found
  have numbered := traced.flights call pending flight found waiting
  have answered : transport (flight.position session.shared).1
      (flight.position session.shared).2 = some (.ok response) := by
    rw [show flight.position session.shared = (ticket, polls) from position]
    exact answer
  have moment := Session.moment_poll found (PendingCall.poll_answered waiting answered)
  have launched := numbered.launched traced.count
  rw [show flight.position session.shared = (ticket, polls) from position] at launched
  refine ⟨?_, numbered.key.symm⟩
  rw [requestsOf_append, requestsOf_singleton, moment]
  simpa [Moment.requests] using launched

/-- A payload that is kept by a request of before is kept by a call that waits. -/
theorem Moment.Keeps.awaits {step : Step}
    (keeps : (session.moment transport step).Keeps transport name key value call ticket request)
    (early : ticket < session.shared.sent) : session.Awaits call ticket := by
  obtain ⟨pending, flight, polls, response, found, waiting, -, -, position, -⟩ := keeps.flying
  exact ⟨pending, flight, polls, found, waiting, Flight.sent_of_position position early⟩

/-- **A row that is there at the end of a run** was there before and was left alone, or it holds
what the last poll that changed it has kept. -/
theorem Traced.kept_since {past : List Moment} (traced : Traced transport past session)
    {steps : List Step} (unput : NothingPut steps) {entry : CacheEntry}
    (held : (session.after transport steps).shared.row? name key = some entry) :
    (session.shared.row? name key = some entry ∧
        ∀ moment ∈ session.history transport steps, moment.Spares name key) ∨
      ∃ call ticket request, KeptSince transport session (requestsOf past).length
        (past ++ session.history transport steps) (session.history transport steps) name key
        entry.value call ticket request := by
  induction steps generalizing past session with
  | nil => exact .inl ⟨held, List.forall_mem_nil _⟩
  | cons step rest ih =>
      obtain ⟨unputHere, unputRest⟩ := unput.of_cons
      have next : Traced transport (past ++ [session.moment transport step])
          (session.moment transport step).after := traced.after_moment unputHere
      have whole : past ++ session.history transport (step :: rest) =
          past ++ [session.moment transport step] ++
            (session.moment transport step).after.history transport rest := by simp
      rw [whole, Session.history_cons]
      rcases ih next unputRest held with ⟨heldNext, spared⟩ | ⟨call, ticket, request, since⟩
      · -- The rest of the run leaves the row alone, so the first step decides.
        cases Session.row_fate unputHere name key with
        | spared spares =>
            rcases (Session.row_change step name key).held_or_written heldNext with
              before | ⟨lifetime, written⟩
            · exact .inl ⟨before, List.forall_mem_cons.mpr ⟨spares, spared⟩⟩
            · exact absurd written (spares.unwritten _ _)
        | kept heldHere keeps =>
            obtain rfl := Option.some.inj (heldHere.symm.trans heldNext)
            obtain ⟨sent, address⟩ := traced.sent_of_keeps keeps
            refine .inr ⟨_, _, _, .here keeps spared, ?_, address, ?_⟩
            · exact requestsOf_append_of_some sent _
            · exact fun early => keeps.awaits (traced.count ▸ early)
        | emptied empty => cases empty.symm.trans heldNext
      · refine .inr ⟨call, ticket, request, since.last.later, since.sent, since.address, ?_⟩
        intro early
        have later : ticket < (requestsOf (past ++ [session.moment transport step])).length := by
          rw [requestsOf_append, List.length_append]
          omega
        exact Session.awaits_of_after_moment (since.outstanding later) (traced.count ▸ early)

/-- A call that is made with a hit is served from a row that is there. -/
theorem row_of_served {cache : String} {target : Target} {arguments : Arguments}
    {options : CallOptions}
    (served : (session.moment transport (.start call target arguments options)).events =
      [.cacheRead cache key true]) :
    ∃ entry, session.shared.row? cache key = some entry ∧
      ∀ rest : List Step, (∀ step ∈ rest, step.made? ≠ some call) →
        ServedWith entry.value cache key call
          (session.moment transport (.start call target arguments options))
          (pollsOf call ((session.moment transport
            (.start call target arguments options)).after.history transport rest)) := by
  have making := Session.making_of_start transport session call target arguments options
  rw [served] at making
  generalize made : (target.call session.client arguments options session.shared).1 = pending
    at making
  generalize (session.moment transport (.start call target arguments options)).after.shared =
    after at making
  cases making with
  | hit found complete readable kept =>
      obtain ⟨entry, held, alive, -⟩ := (session.shared.readCache_eq_some _ _).mp kept
      exact ⟨entry, held, fun rest own => served_of_row found complete readable held alive own⟩

/-- A call in flight that gives a payload keeps it in the row of its flight. -/
theorem keeps_of_answer {pending : PendingCall} {flight : Flight}
    (found : session.calls.lookup call = some pending) (inFlight : pending.InFlight flight)
    (cached : flight.cache = some name)
    (settled : (session.moment transport (.poll call)).result = some (.ok value)) :
    ∃ ticket, (session.moment transport (.poll call)).Keeps transport name flight.cacheKey value
      call ticket flight.request := by
  obtain ⟨progress, exchange, waiting, answered, result⟩ :=
    Session.answer_of_inFlight found inFlight settled
  obtain ⟨response, rfl, success, body⟩ := PendingCall.resultOf_eq_ok.mp result
  refine ⟨_, rfl, ⟨pending, _, _, response, found, waiting, rfl, rfl, rfl, answered, success, body⟩,
    settled, flight.lifetime, ?_⟩
  rw [Session.moment_poll found (PendingCall.poll_answered waiting answered)]
  exact List.mem_append_right _ (Flight.mem_keeping.mpr ⟨cached, rfl, result, rfl⟩)

/-- A refreshing call waits for the transport when it is made. -/
theorem awaiting_of_refresh {target : Target} {arguments : Arguments} {options : CallOptions}
    {binding : Binding} {prepared : PreparedCall}
    (found : target.binding? session.client = some binding)
    (complete : binding.prepare arguments options = .ok prepared)
    (refresh : options.refresh = true) :
    (session.moment transport (.start call target arguments options)).after.calls.lookup call =
      some (.awaiting binding.name (binding.flight options prepared)) := by
  rw [Session.lookup_after_start]
  rcases target.making.of_prepared found complete with ⟨cache, _, readable, -⟩ | ⟨-, awaiting, -⟩
  · have fresh := (Binding.readableCache_eq_some.mp readable).2.1
    cases refresh.symm.trans fresh
  · rw [awaiting]

end Rows

/-! ## The two ends of staleness -/

/-- Every call that is made with a hit in a row is served with a payload that was kept by the last
of `moments` that changed the row; and only if its call was waiting in `session`, the request of the
payload has a number below `bound`. -/
def ServesSince (transport : Transport) (session : Session) (bound : Nat)
    (whole moments : List Moment) (name key : String) (last : Session) : Prop :=
  ∀ (call : String) (target : Target) (arguments : Arguments) (options : CallOptions),
    let made := last.moment transport (.start call target arguments options)
    made.events = [.cacheRead name key true] →
      ∃ value keeper ticket request,
        KeptSince transport session bound whole moments name key value keeper ticket request ∧
        ∀ rest : List Step, (∀ step ∈ rest, step.made? ≠ some call) →
          ServedWith value name key call made (pollsOf call (made.after.history transport rest))

section Ends

variable {transport : Transport} {session : Session} {past : List Moment}

/-- After a key was taken out of the cache of the client, calls are served from there with what was
kept since. -/
theorem Traced.serves_since_removal (traced : Traced transport past session) {cache key : String}
    {later : List Step} (cached : session.client.cache = some cache) (unput : NothingPut later) :
    let dropped := session.moment transport (.invalidate key)
    let since := dropped.after.history transport later
    ServesSince transport session (requestsOf past).length (past ++ dropped :: since) since cache
      key (dropped.after.after transport later) := by
  intro dropped since call target arguments options made served
  have removes : session.client.invalidate key session.shared =
      session.shared.removeFromCache cache key := by simp only [Client.invalidate, cached]
  have shared : dropped.after.shared = (session.shared.removeFromCache cache key).1 :=
    congrArg Prod.fst removes
  have events : dropped.events = [.cacheRemoved cache key] := congrArg Prod.snd removes
  have next : Traced transport (past ++ [dropped]) dropped.after :=
    traced.after_moment fun _ _ _ _ same => by cases same
  obtain ⟨entry, held, serves⟩ := row_of_served served
  rcases next.kept_since unput held with ⟨still, -⟩ | ⟨keeper, ticket, request, kept⟩
  · -- The removal left no row that could still be the same.
    rw [shared, Shared.row?_removeFromCache, if_pos ⟨rfl, rfl⟩] at still
    cases still
  · have count : (requestsOf (past ++ [dropped])).length = (requestsOf past).length := by
      simp [Moment.requests, events, Event.request?]
    have whole : past ++ [dropped] ++ since = past ++ dropped :: since := by simp
    refine ⟨entry.value, keeper, ticket, request, ⟨kept.last, ?_, kept.address, ?_⟩, serves⟩
    · exact whole ▸ kept.sent
    · exact fun early => kept.outstanding (count ▸ early)

/-- After a poll has kept a payload in a row, calls are served from there with that payload or with
what was kept since. -/
theorem Traced.serves_since_keeping (traced : Traced transport past session) {step : Step}
    (unputHere : ∀ cache key value lifetime, step ≠ .put cache key value lifetime)
    {name key call : String} {value : Value} {ticket : Nat} {request : Request} {later : List Step}
    (unput : NothingPut later) :
    let settling := session.moment transport step
    let since := settling :: settling.after.history transport later
    settling.Keeps transport name key value call ticket request →
    (∃ expiry, settling.after.shared.row? name key = some ⟨value, expiry⟩) →
      (requestsOf (past ++ since))[ticket]? = some request ∧
        ServesSince transport settling.after ticket (past ++ since) since name key
          (settling.after.after transport later) := by
  rintro settling since keeps ⟨expiry, written⟩
  obtain ⟨sent, address⟩ := traced.sent_of_keeps keeps
  have next : Traced transport (past ++ [settling]) settling.after := traced.after_moment unputHere
  have whole : past ++ since = past ++ [settling] ++ settling.after.history transport later := by
    simp [since]
  have sentWhole : (requestsOf (past ++ since))[ticket]? = some request :=
    whole ▸ requestsOf_append_of_some sent _
  refine ⟨sentWhole, ?_⟩
  intro other target arguments options made served
  obtain ⟨entry, held, serves⟩ := row_of_served served
  rcases next.kept_since unput held with ⟨still, spared⟩ | ⟨keeper, number, asked, kept⟩
  · obtain rfl := Option.some.inj (written.symm.trans still)
    refine ⟨value, call, ticket, request, ⟨.here keeps spared, sentWhole, address,
      ?_⟩, serves⟩
    exact fun early => absurd early (Nat.lt_irrefl ticket)
  · refine ⟨entry.value, keeper, number, asked, ⟨kept.last.later, ?_, kept.address, ?_⟩, serves⟩
    · exact whole ▸ kept.sent
    · exact fun early => kept.outstanding (Nat.lt_trans early (List.getElem?_eq_some_iff.mp sent).1)

end Ends

/-- **Only flights outlast an invalidation and a refresh.**  Let a client be opened with empty
caches, and let any steps be taken that put nothing into a cache by hand.

* Let a key be taken out of the cache of the client, and let any further steps be taken.  If a call
  that is made then is served from that cache under that key, then with what the last poll since the
  removal has kept there.  If its request was sent before the removal, its call was waiting for the
  answer at the removal.
* Let a refreshing call be made and let it give a payload, with any steps between.  The poll that
  gives it keeps it in the cache of the call.  Let any further steps be taken.  If a call that is
  made then is served from that cache under that key, then with that payload or with what a later
  poll has kept there.  If its request was sent before that of the refreshing call, its call was
  waiting for the answer when the refreshing call gave its payload. -/
theorem staleness_ends_but_for_flights (transport : Transport) (client : Client)
    (before : List Step) (unput : NothingPut before) :
    let session := (Session.opened client).after transport before
    let past := (Session.opened client).history transport before
    (∀ (cache key : String) (later : List Step), session.client.cache = some cache →
        NothingPut later →
      let dropped := session.moment transport (.invalidate key)
      let since := dropped.after.history transport later
      ServesSince transport session (requestsOf past).length (past ++ dropped :: since) since
        cache key (dropped.after.after transport later)) ∧
    ∀ (call : String) (target : Target) (arguments : Arguments) (options : CallOptions)
        (binding : Binding) (prepared : PreparedCall) (cache : String) (value : Value)
        (waiting later : List Step),
      target.binding? session.client = some binding →
      binding.prepare arguments options = .ok prepared → options.refresh = true →
      binding.effectiveCache options = some cache → NothingPut waiting → NothingPut later →
      (∀ step ∈ waiting, step.made? ≠ some call) →
      let asking := .start call target arguments options :: waiting
      let settling := (session.after transport asking).moment transport (.poll call)
      let since := settling :: settling.after.history transport later
      settling.result = some (.ok value) →
        ∃ own, settling.Keeps transport cache prepared.cacheKey value call own prepared.request ∧
          (requestsOf (past ++ session.history transport asking ++ since))[own]? =
            some prepared.request ∧
          ServesSince transport settling.after own
            (past ++ session.history transport asking ++ since) since cache prepared.cacheKey
            (settling.after.after transport later) := by
  intro session past
  have traced : Traced transport past session := by
    have run := (traced_opened transport client).after_run unput
    rwa [List.nil_append] at run
  refine ⟨fun cache key later cached unputLater => traced.serves_since_removal cached unputLater,
    fun call target arguments options binding prepared cache value waiting later found complete
      refresh cached unputWaiting unputLater own => ?_⟩
  intro asking settling since settled
  have unputAsking : NothingPut asking := by
    intro kept key held lifetime member
    exact unputWaiting kept key held lifetime (by simpa [asking] using member)
  -- The refreshing call is in flight until it gives its payload.
  have inFlight : (PendingCall.awaiting binding.name (binding.flight options prepared)).InFlight
      (binding.flight options prepared) := .inr ⟨none, rfl⟩
  have begun : (session.moment transport
      (.start call target arguments options)).after.calls.lookup call = some _ :=
    awaiting_of_refresh found complete refresh
  obtain ⟨last, foundLast, inFlightLast⟩ := Session.inFlight_after begun inFlight own
  obtain ⟨number, keeps⟩ := keeps_of_answer foundLast inFlightLast cached settled
  have written := Session.row_of_answer foundLast inFlightLast cached settled
  have unputPoll : ∀ kept key held lifetime, Step.poll call ≠ .put kept key held lifetime :=
    fun _ _ _ _ same => by cases same
  have serves := (traced.after_run unputAsking).serves_since_keeping unputPoll unputLater keeps
    ⟨_, written⟩
  exact ⟨number, keeps, serves⟩

/-- A listing is served with what was asked for after a removal, and with what was asked for
afresh. -/
theorem listings_are_served_since :
    let transport : Transport := fun _ polls =>
      if polls = 0 then none else some (.ok ⟨200, [], [0x37]⟩)
    let key := "http://items.test/items"
    let refreshing : CallOptions := { CallOptions.none with refresh := true }
    let before : List Step := [.start "first" "listItems" Arguments.empty CallOptions.none,
      .poll "first", .poll "first"]
    let session := (Session.opened itemsClient).after transport before
    let past := (Session.opened itemsClient).history transport before
    let dropped := session.moment transport (.invalidate key)
    let since := dropped.after.history transport
      [.start "second" "listItems" Arguments.empty CallOptions.none, .poll "second",
        .poll "second"]
    let asking := [.start "second" "listItems" Arguments.empty refreshing, .poll "second"]
    let settling := (session.after transport asking).moment transport (.poll "second")
    (∃ value keeper ticket request, KeptSince transport session (requestsOf past).length
      (past ++ dropped :: since) since "store" key value keeper ticket request) ∧
    ∃ own value keeper ticket request, KeptSince transport settling.after own
      (past ++ session.history transport asking ++ [settling]) [settling] "store" key value keeper
      ticket request := by
  intro transport key refreshing before session past dropped since asking settling
  have unput : NothingPut before := by simp [NothingPut, before]
  have unputLater : NothingPut
      [.start "second" "listItems" Arguments.empty CallOptions.none, .poll "second",
        .poll "second"] := by simp [NothingPut]
  have unputWaiting : NothingPut [.poll "second"] := by simp [NothingPut]
  have unputNothing : NothingPut [] := by simp [NothingPut]
  have own : ∀ step ∈ [Step.poll "second"], step.made? ≠ some "second" := by simp [Step.made?]
  have ends := staleness_ends_but_for_flights transport itemsClient before unput
  constructor
  · obtain ⟨value, keeper, ticket, request, kept, -⟩ := ends.1 "store" key _ rfl unputLater
      "third" "listItems" Arguments.empty CallOptions.none rfl
    exact ⟨value, keeper, ticket, request, kept⟩
  · obtain ⟨own, -, -, serves⟩ := ends.2 "second" "listItems" Arguments.empty refreshing
      ⟨.declare "listItems" .get "/items" [], "http://items.test", some "store"⟩
      ⟨.bare .get key, key⟩ "store" (.number (.whole 7 (by decide))) [.poll "second"] []
      rfl rfl rfl rfl unputWaiting unputNothing own rfl
    obtain ⟨value, keeper, ticket, request, kept, -⟩ := serves "third" "listItems" Arguments.empty
      CallOptions.none rfl
    exact ⟨own, value, keeper, ticket, request, kept⟩

/-- **A flight outlasts a removal and a refresh.**  The first listing is on its way when its key is
taken out, or when a fresh listing is asked for and answered: a later listing is served with its
payload.  And a fresh listing that brings its own cache leaves the payload in the cache of the
client. -/
theorem flights_outlast_removal_and_refresh :
    let transport : Transport := fun ticket polls =>
      if ticket = 0 then if polls = 0 then none else some (.ok ⟨200, [], [0x37]⟩)
      else some (.ok ⟨200, [], [0x38]⟩)
    let key := "http://items.test/items"
    let old : Value := .number (.whole 7 (by decide))
    let fresh : Value := .number (.whole 8 (by decide))
    let list (call : String) (options : CallOptions) : Step :=
      .start call "listItems" Arguments.empty options
    let refreshing : CallOptions := { CallOptions.none with refresh := true }
    let sent := (Session.opened itemsClient).after transport
      [list "first" CallOptions.none, .poll "first"]
    let again (session : Session) : Moment :=
      session.moment transport (list "again" CallOptions.none)
    let served (session : Session) : Prop := ServedWith old "store" key "again" (again session)
      (pollsOf "again" ((again session).after.history transport [.poll "again"]))
    let keptFirst := LastKept transport "store" key old "first" 0 (.bare .get key)
    (sent.shared.sent = 1 ∧
      keptFirst (sent.history transport [.invalidate key, .poll "first"]) ∧
      served (sent.after transport [.invalidate key, .poll "first"])) ∧
    (((sent.after transport [list "second" refreshing]).moment transport
        (.poll "second")).result = some (.ok fresh) ∧
      keptFirst (sent.history transport [list "second" refreshing, .poll "second",
        .poll "first"]) ∧
      served (sent.after transport [list "second" refreshing, .poll "second", .poll "first"])) ∧
    ((((sent.after transport [.poll "first", list "second" { refreshing with cache := some "own" }]
        ).moment transport (.poll "second")).result = some (.ok fresh)) ∧
      served (sent.after transport [.poll "first",
        list "second" { refreshing with cache := some "own" }, .poll "second"])) := by
  intro transport key old fresh list refreshing sent again served keptFirst
  have serves : ∀ session : Session, (again session).events = [.cacheRead "store" key true] →
      session.shared.row? "store" key = some ⟨old, none⟩ → served session := by
    intro session hit row
    obtain ⟨entry, held, serves⟩ := row_of_served hit
    obtain rfl := Option.some.inj (row.symm.trans held)
    exact serves _ (by simp [Step.made?])
  have keeps : ∀ session : Session, session.calls.lookup "first" =
        some ⟨"listItems", .awaitingTransport,
          .waiting ⟨.bare .get key, key, some "store", none, some (0, 1)⟩⟩ →
      (session.moment transport (.poll "first")).Keeps transport "store" key old "first" 0
        (.bare .get key) := by
    intro session found
    have answer : transport 0 1 = some (.ok ⟨200, [], [0x37]⟩) := rfl
    have moment := Session.moment_poll found (PendingCall.poll_answered rfl answer)
    have result : resultOf (.ok ⟨200, [], [0x37]⟩) = .ok old := rfl
    refine ⟨rfl, ⟨_, _, 1, _, found, rfl, rfl, rfl, rfl, answer, rfl, rfl⟩, ?_, none, ?_⟩
    · rw [moment, result]
    · rw [moment]
      exact List.mem_append_right _ (Flight.mem_keeping.mpr ⟨rfl, rfl, result, rfl⟩)
  have nothing : ∀ moment ∈ ([] : List Moment), moment.Spares "store" key := List.forall_mem_nil _
  exact ⟨⟨rfl, .later (.here (keeps _ rfl) nothing), serves _ rfl rfl⟩,
    ⟨rfl, .later (.later (.here (keeps _ rfl) nothing)), serves _ rfl rfl⟩, rfl, serves _ rfl rfl⟩

end ServiceCatalog
