import ServiceCatalog.Call.Pending
import ServiceCatalog.Proofs.Call.Entries

/-!
# What a poll does

A poll does one of four things, and which one depends only on what the call has in hand and on
the transport (`poll_taken`, `poll_ready`, `poll_outstanding`, `poll_answered`).

The events of a poll are read off the flight: one that was not sent yet is sent
(`Flight.sending`), and a payload is kept under the key of the flight in the cache of the flight,
if it has one (`Flight.keeping`).
-/

namespace ServiceCatalog

set_option autoImplicit false

open ServiceCatalog.Json

/-! ## Flights -/

namespace Flight

/-- The number of the request of a flight and how often the transport was asked for its answer.  A
flight that was not sent yet gets the next number. -/
def position (flight : Flight) (shared : Shared) : Nat × Nat :=
  flight.progress.getD (shared.sent, 0)

/-- What is shared once a flight is on its way. -/
def launched (flight : Flight) (shared : Shared) : Shared :=
  match flight.progress with
  | some _ => shared
  | none => { shared with sent := shared.sent + 1 }

/-- The events of getting a flight on its way. -/
def sending (flight : Flight) : List Event :=
  match flight.progress with
  | some _ => []
  | none => [.sent flight.request]

/-- The events of keeping a result of a flight. -/
def keeping (flight : Flight) (result : CallResult) : List Event :=
  match flight.cache, result with
  | some cache, .ok value => [.cacheWritten cache flight.cacheKey value flight.lifetime]
  | _, _ => []

/-- The flight after the transport was asked once more, without an answer. -/
def asked (flight : Flight) (shared : Shared) : Flight :=
  { flight with progress := some ((flight.position shared).1, (flight.position shared).2 + 1) }

@[simp] theorem launched_now (flight : Flight) (shared : Shared) :
    (flight.launched shared).now = shared.now := by
  simp only [launched]
  cases flight.progress <;> rfl

@[simp] theorem row?_launched (flight : Flight) (shared : Shared) (name key : String) :
    (flight.launched shared).row? name key = shared.row? name key := by
  simp only [launched]
  cases flight.progress <;> rfl

end Flight

namespace PendingCall

theorem launch_eq (flight : Flight) (shared : Shared) :
    launch flight shared = (flight.position shared, flight.launched shared, flight.sending) := by
  simp only [launch, Flight.position, Flight.launched, Flight.sending, Shared.send]
  cases flight.progress <;> rfl

theorem keep_events (flight : Flight) (result : CallResult) (shared : Shared) :
    (keep flight result shared).2 = flight.keeping result := by
  simp only [keep, Flight.keeping, Shared.writeCache]
  cases flight.cache <;> cases result <;> rfl

@[simp] theorem keep_now (flight : Flight) (result : CallResult) (shared : Shared) :
    (keep flight result shared).1.now = shared.now := by
  simp only [keep]
  cases flight.cache <;> cases result <;> rfl

@[simp] theorem keep_sent (flight : Flight) (result : CallResult) (shared : Shared) :
    (keep flight result shared).1.sent = shared.sent := by
  simp only [keep]
  cases flight.cache <;> cases result <;> rfl

/-- A row after a result was kept: the row of the flight, if there is a payload and a cache for
it, and every other row as it was. -/
theorem row?_keep (flight : Flight) (result : CallResult) (shared : Shared) (name key : String) :
    (∃ value, flight.cache = some name ∧ flight.cacheKey = key ∧ result = .ok value ∧
        (keep flight result shared).1.row? name key =
          some ⟨value, flight.lifetime.map fun span => shared.now + span⟩) ∨
      (keep flight result shared).1.row? name key = shared.row? name key := by
  cases kept : flight.cache with
  | none => exact .inr (by simp [keep, kept])
  | some cache =>
      cases result with
      | error cause => exact .inr (by simp [keep, kept])
      | ok value =>
          by_cases here : name = cache ∧ key = flight.cacheKey
          · obtain ⟨rfl, rfl⟩ := here
            exact .inl ⟨value, rfl, rfl, rfl, by simp [keep, kept, Shared.row?_writeCache]⟩
          · exact .inr (by simp [keep, kept, Shared.row?_writeCache, here])

/-! ## The four things a poll does -/

variable {transport : Transport} {call : PendingCall} {shared : Shared}

/-- A call whose result was taken gives nothing and does nothing. -/
theorem poll_taken (taken : call.outcome = .taken) (transport : Transport) (shared : Shared) :
    call.poll transport shared = (none, call, shared, []) := by
  simp only [poll, taken]

/-- A result in hand is given without a request. -/
theorem poll_ready {result : CallResult} (ready : call.outcome = .ready result)
    (transport : Transport) (shared : Shared) :
    call.poll transport shared = (some result, call.settled result, shared, []) := by
  simp only [poll, ready]

/-- Without an answer the flight goes on. -/
theorem poll_outstanding {flight : Flight} (waiting : call.outcome = .waiting flight)
    (unanswered : transport (flight.position shared).1 (flight.position shared).2 = none) :
    call.poll transport shared =
      (none, { call with outcome := .waiting (flight.asked shared) }, flight.launched shared,
        flight.sending) := by
  simp only [poll, waiting, launch_eq, unanswered]
  rfl

/-- With an answer its result is given, and its payload is kept. -/
theorem poll_answered {flight : Flight} {exchange : Exchange}
    (waiting : call.outcome = .waiting flight)
    (answered : transport (flight.position shared).1 (flight.position shared).2 = some exchange) :
    call.poll transport shared =
      (some (resultOf exchange), call.settled (resultOf exchange),
        (keep flight (resultOf exchange) (flight.launched shared)).1,
        flight.sending ++ flight.keeping (resultOf exchange)) := by
  rw [← keep_events flight (resultOf exchange) (flight.launched shared)]
  simp only [poll, waiting, launch_eq, answered]

/-- **A poll does one of the four things.** -/
theorem poll_cases (transport : Transport) (call : PendingCall) (shared : Shared) :
    (call.outcome = .taken ∧ call.poll transport shared = (none, call, shared, [])) ∨
      (∃ result, call.outcome = .ready result ∧
        call.poll transport shared = (some result, call.settled result, shared, [])) ∨
      (∃ flight, call.outcome = .waiting flight ∧
        transport (flight.position shared).1 (flight.position shared).2 = none ∧
        call.poll transport shared =
          (none, { call with outcome := .waiting (flight.asked shared) },
            flight.launched shared, flight.sending)) ∨
      ∃ flight exchange, call.outcome = .waiting flight ∧
        transport (flight.position shared).1 (flight.position shared).2 = some exchange ∧
        call.poll transport shared =
          (some (resultOf exchange), call.settled (resultOf exchange),
            (keep flight (resultOf exchange) (flight.launched shared)).1,
            flight.sending ++ flight.keeping (resultOf exchange)) := by
  cases outcome : call.outcome with
  | taken => exact .inl ⟨rfl, poll_taken outcome transport shared⟩
  | ready result => exact .inr (.inl ⟨result, rfl, poll_ready outcome transport shared⟩)
  | waiting flight =>
      cases answer : transport (flight.position shared).1 (flight.position shared).2 with
      | none => exact .inr (.inr (.inl ⟨flight, rfl, answer, poll_outstanding outcome answer⟩))
      | some exchange =>
          exact .inr (.inr (.inr ⟨flight, exchange, rfl, answer, poll_answered outcome answer⟩))

/-- Polling at most once is polling. -/
theorem pollUpTo_one : call.pollUpTo transport 1 shared = call.poll transport shared := by
  simp only [pollUpTo]
  split
  · next polled => exact polled.symm
  · next polled => simp [polled]

end PendingCall

end ServiceCatalog
