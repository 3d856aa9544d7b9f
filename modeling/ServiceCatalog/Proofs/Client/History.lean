import ServiceCatalog.Proofs.Client.Making

/-!
# Histories of sessions

A run of a session is looked at through its moments.  A moment is a step as it was taken: the
session before and after it, what a poll gave, and the events.  The moments of a run are its
history, and everything a run shows is in them (`run_events`).

The moments that concern one call are the one in which it was made and those in which it was
polled.  All other steps leave the call as it is (`lookup_after_moment`), so what the polls of a
call show depends only on what the call has in hand: it is the course of its outcome
(`course_of_polls`).  A course begins, perhaps, with polls of a flight that find no answer, then
gives one result, and after that every poll is idle.
-/

namespace ServiceCatalog

set_option autoImplicit false

open ServiceCatalog.Json

/-! ## Moments -/

namespace Step

/-- The name under which a step makes a call. -/
def made? : Step → Option String
  | .start call .. => some call
  | _ => none

/-- The call that a step polls. -/
def polled? : Step → Option String
  | .poll call => some call
  | _ => none

@[simp] theorem polled?_eq_some {step : Step} {call : String} :
    step.polled? = some call ↔ step = .poll call := by
  cases step <;> simp [polled?]

end Step

/-- A step as it was taken. -/
structure Moment where
  before : Session
  step : Step
  result : Option CallResult
  after : Session
  events : List Event

/-- A poll that gives nothing and does nothing. -/
structure Moment.Idle (moment : Moment) : Prop where
  no_result : moment.result = none
  no_events : moment.events = []
  unchanged : moment.after = moment.before

namespace Session

/-- A step as a session takes it. -/
def moment (transport : Transport) (session : Session) (step : Step) : Moment where
  before := session
  step := step
  result := (session.step transport step).1
  after := (session.step transport step).2.1
  events := (session.step transport step).2.2

/-- The moments of a run. -/
def history (transport : Transport) (session : Session) : List Step → List Moment
  | [] => []
  | step :: rest =>
      session.moment transport step ::
        history transport (session.moment transport step).after rest

/-- The session after a run. -/
def after (transport : Transport) (session : Session) (steps : List Step) : Session :=
  (session.run transport steps).1

variable {transport : Transport} {session : Session}

@[simp] theorem history_nil : session.history transport [] = [] := rfl

@[simp] theorem history_cons (step : Step) (rest : List Step) :
    session.history transport (step :: rest) =
      session.moment transport step ::
        (session.moment transport step).after.history transport rest := rfl

@[simp] theorem after_nil : session.after transport [] = session := rfl

@[simp] theorem after_cons (step : Step) (rest : List Step) :
    session.after transport (step :: rest) =
      (session.moment transport step).after.after transport rest := rfl

/-- The events of a run are those of its moments. -/
theorem run_events (steps : List Step) :
    (session.run transport steps).2 = (session.history transport steps).flatMap Moment.events := by
  induction steps generalizing session with
  | nil => rfl
  | cons step rest ih =>
      have later : ((session.moment transport step).after.run transport rest).2 =
          ((session.moment transport step).after.history transport rest).flatMap Moment.events := ih
      simp only [history_cons, List.flatMap_cons, ← later]
      rfl

theorem after_append (first second : List Step) :
    session.after transport (first ++ second) =
      (session.after transport first).after transport second := by
  induction first generalizing session with
  | nil => rfl
  | cons step rest ih => exact ih

/-- A call of a session is in a state, and is terminated or not. -/
def HasCall (session : Session) (call : String) (state : CallState) (terminated : Bool) : Prop :=
  ∃ pending, session.calls.lookup call = some pending ∧ pending.state = state ∧
    pending.isTerminated = terminated

/-! ## What a step does to the session -/

/-- Making a call puts it in place under its name. -/
theorem moment_start (call : String) (target : Target) (arguments : Arguments)
    (options : CallOptions) :
    session.moment transport (.start call target arguments options) =
      let made := target.call session.client arguments options session.shared
      { before := session
        step := .start call target arguments options
        result := none
        after := { session with shared := made.2.1, calls := assign call made.1 session.calls }
        events := made.2.2 } := rfl

/-- The call after it was made. -/
theorem lookup_after_start (call : String) (target : Target) (arguments : Arguments)
    (options : CallOptions) :
    (session.moment transport (.start call target arguments options)).after.calls.lookup call =
      some (target.call session.client arguments options session.shared).1 :=
  lookup_assign_self _ _ _

/-- The moment in which a call is made shows the making. -/
theorem making_of_start (transport : Transport) (session : Session) (call : String)
    (target : Target) (arguments : Arguments) (options : CallOptions) :
    Target.Making session.client arguments options session.shared target
      (target.call session.client arguments options session.shared).1
      (session.moment transport (.start call target arguments options)).after.shared
      (session.moment transport (.start call target arguments options)).events :=
  target.making

/-- Polling a call puts it in place as the poll leaves it. -/
theorem moment_poll {call : String} {pending next : PendingCall} {result : Option CallResult}
    {shared : Shared} {events : List Event} (found : session.calls.lookup call = some pending)
    (poll : pending.poll transport session.shared = (result, next, shared, events)) :
    session.moment transport (.poll call) =
      { before := session
        step := .poll call
        result := result
        after := { session with shared := shared, calls := assign call next session.calls }
        events := events } := by
  simp only [moment, step, pollUpTo, found, PendingCall.pollUpTo_one, poll]

/-- The call after a poll. -/
theorem lookup_after_poll {call : String} {pending next : PendingCall}
    {result : Option CallResult} {shared : Shared} {events : List Event}
    (found : session.calls.lookup call = some pending)
    (poll : pending.poll transport session.shared = (result, next, shared, events)) :
    (session.moment transport (.poll call)).after.calls.lookup call = some next := by
  rw [moment_poll found poll]
  exact lookup_assign_self _ _ _

/-- A poll of a call whose result was taken is idle. -/
theorem idle_of_taken {call : String} {pending : PendingCall}
    (found : session.calls.lookup call = some pending) (taken : pending.outcome = .taken) :
    (session.moment transport (.poll call)).Idle := by
  rw [moment_poll found (PendingCall.poll_taken taken _ _), assign_of_lookup found]
  exact ⟨rfl, rfl, rfl⟩

/-- A poll of a call that does not exist is idle. -/
theorem moment_poll_unknown {call : String} (absent : session.calls.lookup call = none) :
    session.moment transport (.poll call) = ⟨session, .poll call, none, session, []⟩ := by
  simp only [moment, step, pollUpTo, absent]

/-- **A step leaves every call alone but the one it makes or polls.** -/
theorem lookup_after_moment {call : String} {step : Step} (unmade : step.made? ≠ some call)
    (unpolled : step.polled? ≠ some call) :
    (session.moment transport step).after.calls.lookup call = session.calls.lookup call := by
  cases step with
  | start other target arguments options =>
      simp only [moment_start]
      exact lookup_assign_of_ne (fun same => unmade (by rw [Step.made?, same])) _ _
  | poll other =>
      cases found : session.calls.lookup other with
      | none => rw [moment_poll_unknown found]
      | some pending =>
          rw [moment_poll found rfl]
          exact lookup_assign_of_ne (fun same => unpolled (by rw [Step.polled?, same])) _ _
  | invalidate _ | useCache _ | put _ _ _ _ | read _ _ | remove _ _ | clear _ | wait _ => rfl

/-- Only changing the cache of the client changes the client. -/
theorem client_after_moment (step : Step) :
    (session.moment transport step).after.client =
      match step with
      | .useCache cache => session.client.withCache cache
      | _ => session.client := by
  cases step with
  | poll call =>
      cases found : session.calls.lookup call with
      | none => rw [moment_poll_unknown found]
      | some pending => rw [moment_poll found rfl]
  | start _ _ _ _ | invalidate _ | useCache _ | put _ _ _ _ | read _ _ | remove _ _ | clear _
  | wait _ => rfl

end Session

/-! ## The polls of a call -/

/-- The moments in which a call is polled. -/
def pollsOf (call : String) (moments : List Moment) : List Moment :=
  moments.filter fun moment => moment.step.polled? == some call

theorem pollsOf_cons_poll {call : String} {moment : Moment} (polled : moment.step = .poll call)
    (rest : List Moment) : pollsOf call (moment :: rest) = moment :: pollsOf call rest := by
  simp [pollsOf, polled, Step.polled?]

theorem pollsOf_cons_other {call : String} {moment : Moment}
    (other : moment.step.polled? ≠ some call) (rest : List Moment) :
    pollsOf call (moment :: rest) = pollsOf call rest :=
  List.filter_cons_of_neg (by simpa using other)

/-- The course of the polls of a call, by what the call has in hand before them. -/
inductive Course : Outcome → List Moment → Prop where
  | unpolled (outcome : Outcome) : Course outcome []
  | taken {moment : Moment} {later : List Moment} (idle : moment.Idle)
      (rest : Course .taken later) : Course .taken (moment :: later)
  | ready {result : CallResult} {moment : Moment} {later : List Moment}
      (given : moment.result = some result) (silent : moment.events = [])
      (rest : Course .taken later) : Course (.ready result) (moment :: later)
  | outstanding {flight : Flight} {moment : Moment} {later : List Moment} {progress : Nat × Nat}
      (nothing : moment.result = none) (sent : moment.events = flight.sending)
      (rest : Course (.waiting { flight with progress := some progress }) later) :
      Course (.waiting flight) (moment :: later)
  | answered {flight : Flight} {moment : Moment} {later : List Moment} {result : CallResult}
      (given : moment.result = some result)
      (kept : moment.events = flight.sending ++ flight.keeping result)
      (rest : Course .taken later) : Course (.waiting flight) (moment :: later)

/-- **The polls of a call take the course of what it has in hand**, whatever other steps come
between them. -/
theorem course_of_polls {transport : Transport} {session : Session} {call : String}
    {pending : PendingCall} (found : session.calls.lookup call = some pending)
    {steps : List Step} (own : ∀ step ∈ steps, step.made? ≠ some call) :
    Course pending.outcome (pollsOf call (session.history transport steps)) := by
  induction steps generalizing session pending with
  | nil => exact .unpolled _
  | cons step rest ih =>
      obtain ⟨unmade, ownRest⟩ := List.forall_mem_cons.mp own
      rw [Session.history_cons]
      by_cases polled : step.polled? = some call
      · -- The call is polled: the poll is the first of the course.
        obtain rfl := Step.polled?_eq_some.mp polled
        rw [pollsOf_cons_poll rfl]
        rcases pending.poll_cases transport session.shared with ⟨outcome, poll⟩ |
          ⟨result, outcome, poll⟩ | ⟨flight, outcome, -, poll⟩ |
          ⟨flight, exchange, outcome, -, poll⟩
        all_goals
          have moment := Session.moment_poll found poll
          have later := ih (Session.lookup_after_poll found poll) ownRest
          rw [outcome]
        · rw [outcome] at later
          exact .taken (Session.idle_of_taken found outcome) later
        · exact .ready (by rw [moment]) (by rw [moment]) later
        · exact .outstanding (by rw [moment]) (by rw [moment]) later
        · exact .answered (by rw [moment]) (by rw [moment]) later
      · rw [pollsOf_cons_other polled]
        exact ih ((Session.lookup_after_moment unmade polled).trans found) ownRest

namespace Course

variable {polls : List Moment}

/-- Once the result was taken, every poll is idle. -/
theorem idle_of_taken (course : Course .taken polls) : ∀ poll ∈ polls, poll.Idle := by
  generalize taken : Outcome.taken = outcome at course
  induction course with
  | unpolled => simp
  | taken idle _ ih => exact List.forall_mem_cons.mpr ⟨idle, ih rfl⟩
  | ready | outstanding | answered => cases taken

/-- Once the result was taken, nothing happens. -/
theorem silent_of_taken (course : Course .taken polls) : ∀ poll ∈ polls, poll.events = [] :=
  fun poll member => (course.idle_of_taken poll member).no_events

/-- A result in hand is given without any event. -/
theorem silent_of_ready {result : CallResult} (course : Course (.ready result) polls) :
    ∀ poll ∈ polls, poll.events = [] := by
  cases course with
  | unpolled => simp
  | ready given silent rest => exact List.forall_mem_cons.mpr ⟨silent, rest.silent_of_taken⟩

end Course

end ServiceCatalog
