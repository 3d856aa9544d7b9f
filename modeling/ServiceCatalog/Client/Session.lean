import ServiceCatalog.Client.Basic

/-!
# Sessions

A session is a client together with the calls that were made with it, each under a name of its
own, and with what they share.  It moves in steps, and the steps of different calls may come in
any order: that is all there is to calls running side by side.

Each step answers with the session after it and the events it caused.  Statements about runs are
statements about `run`, which takes one step after the other.
-/

namespace ServiceCatalog

set_option autoImplicit false

open ServiceCatalog.Json

/-- A client with its calls and what they share. -/
structure Session where
  client : Client
  shared : Shared
  calls : List (String × PendingCall)

/-- What a call is made through: an operation of the client, by its name, or a binding that one
holds, of this client or of any other. -/
inductive Target where
  | operation (name : String)
  | held (binding : Binding)

namespace Target

/-- The name of an operation is a target. -/
instance : Coe String Target := ⟨.operation⟩

/-- The binding that a call is made through, if there is one. -/
def binding? (client : Client) : Target → Option Binding
  | .operation name => client.binding? name
  | .held binding => some binding

/-- Makes a call through a target. -/
def call (client : Client) (arguments : Arguments) (options : CallOptions) (shared : Shared) :
    Target → PendingCall × Shared × List Event
  | .operation name => client.call name arguments options shared
  | .held binding => binding.call arguments options shared

end Target

/-- A step of a session. -/
inductive Step where
  | start (call : String) (target : Target) (arguments : Arguments) (options : CallOptions)
  | poll (call : String)
  | invalidate (key : String)
  | useCache (cache : String)
  | put (cache key : String) (value : Value) (lifetime : Option Nat)
  | read (cache key : String)
  | remove (cache key : String)
  | clear (cache : String)
  | wait (milliseconds : Nat)

namespace Session

/-- A session with no calls and nothing shared yet. -/
def opened (client : Client) : Session := ⟨client, Shared.initial, []⟩

/-- Makes a call under a name; an earlier call of that name is given up. -/
def start (call : String) (target : Target) (arguments : Arguments) (options : CallOptions)
    (session : Session) : PendingCall × Session × List Event :=
  let (pending, shared, events) :=
    target.call session.client arguments options session.shared
  (pending, { session with shared := shared, calls := assign call pending session.calls }, events)

/-- Polls a call up to a number of times.  A call that does not exist never answers. -/
def pollUpTo (transport : Transport) (limit : Nat) (call : String) (session : Session) :
    Option CallResult × Session × List Event :=
  match session.calls.lookup call with
  | none => (none, session, [])
  | some pending =>
      let (result, pending, shared, events) := pending.pollUpTo transport limit session.shared
      (result, { session with shared := shared, calls := assign call pending session.calls },
        events)

/-- Gives a call up. -/
def giveUp (call : String) (session : Session) : Session :=
  { session with calls := unassign call session.calls }

/-- Takes a step.  A poll also answers with the result of the call, if it gave one. -/
def step (transport : Transport) (session : Session) :
    Step → Option CallResult × Session × List Event
  | .start call target arguments options =>
      let (_, session, events) := session.start call target arguments options
      (none, session, events)
  | .poll call => session.pollUpTo transport 1 call
  | .invalidate key =>
      let (shared, events) := session.client.invalidate key session.shared
      (none, { session with shared := shared }, events)
  | .useCache cache => (none, { session with client := session.client.withCache cache }, [])
  | .put cache key value lifetime =>
      let (shared, events) := session.shared.writeCache cache key value lifetime
      (none, { session with shared := shared }, events)
  | .read cache key =>
      let (_, shared, events) := session.shared.readCache cache key
      (none, { session with shared := shared }, events)
  | .remove cache key =>
      let (shared, events) := session.shared.removeFromCache cache key
      (none, { session with shared := shared }, events)
  | .clear cache =>
      (none, { session with shared := session.shared.setCache cache Cache.empty }, [])
  | .wait milliseconds =>
      (none, { session with shared := session.shared.wait milliseconds }, [])

/-- Takes one step after the other, and gathers the events. -/
def run (transport : Transport) (session : Session) : List Step → Session × List Event
  | [] => (session, [])
  | step :: rest =>
      let (_, session, events) := session.step transport step
      let (session, later) := run transport session rest
      (session, events ++ later)

end Session

end ServiceCatalog
