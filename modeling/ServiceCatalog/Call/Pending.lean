import ServiceCatalog.Call.Shared
import ServiceCatalog.Text.Printable

/-!
# Pending calls

A pending call is the result of a call that may not be there yet.  It is asked for its result by
polling, and gives it once.

A call begins in one of three states: it is already rejected for a fault of the caller, already
resolved from a cache, or it waits for the transport.  The poll that gives the result takes it
into one of the two final states, and every later poll finds the result taken and answers that
nothing is there.

A waiting call sends its request at the first poll.  When the transport answers with a status of
success, the payload is kept in the cache of the call, if it has one, in the poll that gives it.
-/

namespace ServiceCatalog

set_option autoImplicit false

open ServiceCatalog.Json

/-! ## States -/

/-- Where a call is in its life. -/
inductive CallState where
  | validationFailed
  | cacheHit
  | awaitingTransport
  | resolved
  | rejected
  deriving DecidableEq, Repr

namespace CallState

/-- A final state. -/
def isTerminal : CallState → Bool
  | .resolved | .rejected => true
  | _ => false

/-- The name of a state. -/
def name : CallState → String
  | .validationFailed => "ValidationFailed"
  | .cacheHit => "CacheHit"
  | .awaitingTransport => "AwaitingTransport"
  | .resolved => "Resolved"
  | .rejected => "Rejected"

end CallState

/-! ## Calls -/

/-- The result of a call. -/
abbrev CallResult := Except CallError Value

/-- A request on its way: where its payload is to be kept, and, once it was sent, its number and
how often the transport was asked for the answer. -/
structure Flight where
  request : Request
  cacheKey : String
  cache : Option String
  lifetime : Option Nat
  progress : Option (Nat × Nat)
  deriving Repr

/-- What a call has in hand. -/
inductive Outcome where
  | ready (result : CallResult)
  | waiting (flight : Flight)
  | taken

/-- A call. -/
structure PendingCall where
  operation : String
  state : CallState
  outcome : Outcome

namespace PendingCall

/-- A call rejected for a fault of the caller. -/
def rejected (operation : String) (cause : CallError) : PendingCall :=
  ⟨operation, .validationFailed, .ready (.error cause)⟩

/-- A call resolved from a cache. -/
def resolved (operation : String) (value : Value) : PendingCall :=
  ⟨operation, .cacheHit, .ready (.ok value)⟩

/-- A call that waits for the transport. -/
def awaiting (operation : String) (flight : Flight) : PendingCall :=
  ⟨operation, .awaitingTransport, .waiting flight⟩

/-- The result was given. -/
def isTerminated (call : PendingCall) : Bool := call.state.isTerminal

/-- A call as messages show it. -/
def shown (call : PendingCall) : String :=
  "PendingCall \x7b operation: " ++ Text.quoted call.operation ++ ", state: " ++ call.state.name
    ++ ", .. \x7d"

/-! ## Polling -/

/-- The state that a result leads to. -/
def finalState : CallResult → CallState
  | .ok _ => .resolved
  | .error _ => .rejected

/-- The call after its result was given. -/
def settled (call : PendingCall) (result : CallResult) : PendingCall :=
  { call with state := finalState result, outcome := .taken }

/-- The result that an answer of the transport means. -/
def resultOf : Exchange → CallResult
  | .error cause => .error (.transport cause)
  | .ok response =>
      let body := decodeBody response.body
      if response.isSuccess then .ok body
      else .error (.httpStatus response.status response.headers body)

/-- Keeps the payload of a resolved flight in its cache, if it has one. -/
def keep (flight : Flight) (result : CallResult) (shared : Shared) : Shared × List Event :=
  match flight.cache, result with
  | some cache, .ok value => shared.writeCache cache flight.cacheKey value flight.lifetime
  | _, _ => (shared, [])

/-- The number of a flight and how often it was polled; a flight that was not sent yet is sent. -/
def launch (flight : Flight) (shared : Shared) : (Nat × Nat) × Shared × List Event :=
  match flight.progress with
  | some progress => (progress, shared, [])
  | none =>
      let (ticket, shared, events) := shared.send flight.request
      ((ticket, 0), shared, events)

/-- Asks a call for its result.  Answers with the result, if it is there, the call after the poll,
and what the poll did. -/
def poll (transport : Transport) (call : PendingCall) (shared : Shared) :
    Option CallResult × PendingCall × Shared × List Event :=
  match call.outcome with
  | .taken => (none, call, shared, [])
  | .ready result => (some result, call.settled result, shared, [])
  | .waiting flight =>
      let ((ticket, polls), shared, sent) := launch flight shared
      match transport ticket polls with
      | none =>
          let flight := { flight with progress := some (ticket, polls + 1) }
          (none, { call with outcome := .waiting flight }, shared, sent)
      | some exchange =>
          let result := resultOf exchange
          let (shared, kept) := keep flight result shared
          (some result, call.settled result, shared, sent ++ kept)

/-- Polls until the result is there, at most a number of times. -/
def pollUpTo (transport : Transport) : Nat → PendingCall → Shared →
    Option CallResult × PendingCall × Shared × List Event
  | 0, call, shared => (none, call, shared, [])
  | limit + 1, call, shared =>
      match call.poll transport shared with
      | (some result, call, shared, events) => (some result, call, shared, events)
      | (none, call, shared, events) =>
          let (result, call, shared, later) := pollUpTo transport limit call shared
          (result, call, shared, events ++ later)

/-- Reads typed data out of the payload of a call. -/
def typed {α : Type} (operation : String) (decoder : Decoder α) :
    CallResult → Except CallError α
  | .error cause => .error cause
  | .ok value => (decoder value).mapError fun cause => .decode operation cause

end PendingCall

end ServiceCatalog
