import ServiceCatalog.Proofs.Client.History

/-!
# Calls settle once

A call is made rejected, resolved or awaiting the transport (`PendingCall.Fresh`).  Its history,
from then on and with any steps of other calls between its polls, has one of two shapes
(`Settlement`).  Either it waits through all of it: it stays in the state in which it was made,
is not terminated, and its polls give nothing, each of them because the transport has no answer
yet.  Or it waits for a while, then one poll gives a result and takes it into a final state, and
after that it rests: the state stays, the call is terminated, and every further poll is idle.

Which final state follows which first state and which result is said by `CallState.Path`, in four
cases.

The state of a call and what it has in hand stay in step because a fresh call stays fresh through
every poll without an answer, and otherwise is settled: these two are all that a run leads to.
-/

namespace ServiceCatalog

set_option autoImplicit false

open ServiceCatalog.Json
open PendingCall (finalState resultOf)

/-! ## The shape of a history -/

/-- The four ways through the states: the first state, the result, and the final state. -/
inductive CallState.Path : CallState → CallResult → CallState → Prop where
  | rejected (cause : CallError) : Path .validationFailed (.error cause) .rejected
  | cached (value : Value) : Path .cacheHit (.ok value) .resolved
  | answered (value : Value) : Path .awaitingTransport (.ok value) .resolved
  | failed (cause : CallError) : Path .awaitingTransport (.error cause) .rejected

/-- Every way ends in a final state. -/
theorem CallState.Path.isTerminal {first last : CallState} {result : CallResult}
    (path : first.Path result last) : last.isTerminal = true := by
  cases path <;> rfl

/-- A call as it is made, or as a poll without an answer leaves it. -/
inductive PendingCall.Fresh : PendingCall → Prop where
  | rejected (operation : String) (cause : CallError) : Fresh (.rejected operation cause)
  | resolved (operation : String) (value : Value) : Fresh (.resolved operation value)
  | awaiting (operation : String) (flight : Flight) : Fresh (.awaiting operation flight)

namespace Moment

/-- The call has a flight whose answer is outstanding. -/
def Outstanding (transport : Transport) (call : String) (moment : Moment) : Prop :=
  ∃ pending flight, moment.before.calls.lookup call = some pending ∧
    pending.outcome = .waiting flight ∧
    transport (flight.position moment.before.shared).1
      (flight.position moment.before.shared).2 = none

/-- The call waits: it is in its first state afterwards, and if it was polled, nothing came, because
the answer is outstanding. -/
structure Waits (transport : Transport) (call : String) (first : CallState) (moment : Moment) :
    Prop where
  unsettled : moment.after.HasCall call first false
  nothing : moment.step = .poll call → moment.result = none
  outstanding : moment.step = .poll call → moment.Outstanding transport call

/-- The call is settled: it was polled, gave a result, and is in a final state afterwards. -/
structure Settles (call : String) (first : CallState) (result : CallResult) (last : CallState)
    (moment : Moment) : Prop where
  polled : moment.step = .poll call
  given : moment.result = some result
  path : first.Path result last
  settled : moment.after.HasCall call last true

/-- The call rests: it is in its final state afterwards, and if it was polled, the poll was
idle. -/
structure Rests (call : String) (last : CallState) (moment : Moment) : Prop where
  settled : moment.after.HasCall call last true
  idle : moment.step = .poll call → moment.Idle

end Moment

/-- The history of a call that was made in a state. -/
inductive Settlement (transport : Transport) (call : String) (first : CallState) :
    List Moment → Prop where
  | waiting {moments : List Moment}
      (waits : ∀ moment ∈ moments, moment.Waits transport call first) :
      Settlement transport call first moments
  | settled {before later : List Moment} {moment : Moment} {result : CallResult}
      {last : CallState} (waits : ∀ moment ∈ before, moment.Waits transport call first)
      (settles : moment.Settles call first result last)
      (rests : ∀ moment ∈ later, moment.Rests call last) :
      Settlement transport call first (before ++ moment :: later)

namespace Settlement

variable {transport : Transport} {call : String} {first : CallState} {moment : Moment}
  {moments : List Moment}

/-- A moment of waiting may stand before any history. -/
theorem cons (waits : moment.Waits transport call first)
    (rest : Settlement transport call first moments) :
    Settlement transport call first (moment :: moments) := by
  cases rest with
  | waiting waitsRest => exact .waiting (List.forall_mem_cons.mpr ⟨waits, waitsRest⟩)
  | settled waitsRest settles rests =>
      exact .settled (List.forall_mem_cons.mpr ⟨waits, waitsRest⟩) settles rests

/-- The polls of a call that give a result. -/
def answers (call : String) (moments : List Moment) : List Moment :=
  (pollsOf call moments).filter fun moment => moment.result.isSome

/-- Moments in which no poll of the call gives a result have no answers. -/
theorem answers_eq_nil
    (nothing : ∀ moment ∈ moments, moment.step = .poll call → moment.result = none) :
    answers call moments = [] := by
  refine List.filter_eq_nil_iff.mpr fun moment member => ?_
  obtain ⟨listed, polled⟩ := List.mem_filter.mp member
  have step := Step.polled?_eq_some.mp (beq_iff_eq.mp polled)
  simp [nothing moment listed step]

/-- **At most one poll gives a result.** -/
theorem answers_length_le (history : Settlement transport call first moments) :
    (answers call moments).length ≤ 1 := by
  cases history with
  | waiting waits => simp [answers_eq_nil fun moment member => (waits moment member).nothing]
  | @settled before later moment result last waits settles rests =>
      have early : answers call before = [] :=
        answers_eq_nil fun moment member => (waits moment member).nothing
      have late : answers call later = [] :=
        answers_eq_nil fun moment member polled => ((rests moment member).idle polled).no_result
      have split : answers call (before ++ moment :: later) =
          answers call before ++ answers call [moment] ++ answers call later := by
        simp [answers, pollsOf, ← List.filter_append]
      rw [split, early, late, List.nil_append, List.append_nil]
      calc (answers call [moment]).length
          ≤ (pollsOf call [moment]).length := List.length_filter_le _ _
        _ ≤ [moment].length := List.length_filter_le _ _

end Settlement

/-! ## Every history has that shape -/

section Histories

variable {transport : Transport} {session : Session} {call : String} {steps : List Step}

/-- A step that does not concern a call keeps what is known of it. -/
theorem Session.HasCall.after_moment {state : CallState} {terminated : Bool} {step : Step}
    (has : session.HasCall call state terminated) (unmade : step.made? ≠ some call)
    (unpolled : step.polled? ≠ some call) :
    (session.moment transport step).after.HasCall call state terminated := by
  obtain ⟨pending, found, known⟩ := has
  exact ⟨pending, (lookup_after_moment unmade unpolled).trans found, known⟩

/-- A settled call rests for good. -/
theorem rests_of_settled {pending : PendingCall}
    (found : session.calls.lookup call = some pending) (taken : pending.outcome = .taken)
    (terminated : pending.isTerminated = true) (own : ∀ step ∈ steps, step.made? ≠ some call) :
    ∀ moment ∈ session.history transport steps, moment.Rests call pending.state := by
  induction steps generalizing session with
  | nil => simp
  | cons step rest ih =>
      obtain ⟨unmade, ownRest⟩ := List.forall_mem_cons.mp own
      have has : session.HasCall call pending.state true := ⟨pending, found, rfl, terminated⟩
      rw [Session.history_cons, List.forall_mem_cons]
      by_cases polled : step.polled? = some call
      · obtain rfl := Step.polled?_eq_some.mp polled
        have idle : (session.moment transport (.poll call)).Idle :=
          Session.idle_of_taken found taken
        have unchanged : (session.moment transport (.poll call)).after = session := idle.unchanged
        exact ⟨⟨by rwa [unchanged], fun _ => idle⟩, ih (by rwa [unchanged]) ownRest⟩
      · refine ⟨⟨has.after_moment unmade polled, fun same => ?_⟩, ?_⟩
        · exact absurd (Step.polled?_eq_some.mpr same) polled
        · exact ih ((Session.lookup_after_moment unmade polled).trans found) ownRest

/-- A poll that gives a result on one of the four ways settles the call, and it rests from then
on. -/
theorem settlement_of_result {pending : PendingCall} {result : CallResult} {shared : Shared}
    {events : List Event} {last : CallState}
    (found : session.calls.lookup call = some pending)
    (poll : pending.poll transport session.shared =
      (some result, pending.settled result, shared, events))
    (path : pending.state.Path result last) (final : finalState result = last)
    (own : ∀ step ∈ steps, step.made? ≠ some call) :
    Settlement transport call pending.state (session.history transport (.poll call :: steps)) := by
  have moment := Session.moment_poll found poll
  have settled := Session.lookup_after_poll found poll
  have state : (pending.settled result).state = last := final
  have terminated : (pending.settled result).isTerminated = true := by
    simp only [PendingCall.isTerminated, state]
    exact path.isTerminal
  have rests : ∀ moment ∈ (session.moment transport (.poll call)).after.history transport steps,
      moment.Rests call (pending.settled result).state :=
    rests_of_settled settled rfl terminated own
  rw [state] at rests
  have settles : (session.moment transport (.poll call)).Settles call pending.state result last :=
    ⟨rfl, by rw [moment], path, _, settled, state, terminated⟩
  exact .settled (List.forall_mem_nil _) settles rests

/-- The history of a fresh call waits, or settles once and rests. -/
theorem settlement_of_fresh {pending : PendingCall} (fresh : pending.Fresh)
    (found : session.calls.lookup call = some pending)
    (own : ∀ step ∈ steps, step.made? ≠ some call) :
    Settlement transport call pending.state (session.history transport steps) := by
  induction steps generalizing session pending with
  | nil => exact .waiting (by simp)
  | cons step rest ih =>
      obtain ⟨unmade, ownRest⟩ := List.forall_mem_cons.mp own
      by_cases polled : step.polled? = some call
      · obtain rfl := Step.polled?_eq_some.mp polled
        cases fresh with
        | rejected operation cause =>
            exact settlement_of_result found (PendingCall.poll_ready rfl _ _) (.rejected cause) rfl
              ownRest
        | resolved operation value =>
            exact settlement_of_result found (PendingCall.poll_ready rfl _ _) (.cached value) rfl
              ownRest
        | awaiting operation flight =>
            have waiting : (PendingCall.awaiting operation flight).outcome = .waiting flight := rfl
            cases answer : transport (flight.position session.shared).1
                (flight.position session.shared).2 with
            | none =>
                -- The flight goes on: the call is as fresh as before.
                have poll := PendingCall.poll_outstanding waiting answer
                have moment := Session.moment_poll found poll
                have next := Session.lookup_after_poll found poll
                have later := ih (.awaiting operation (flight.asked session.shared)) next ownRest
                have waits : (session.moment transport (.poll call)).Waits transport call
                    .awaitingTransport :=
                  ⟨⟨_, next, rfl, rfl⟩, fun _ => by rw [moment],
                    fun _ => ⟨_, flight, found, waiting, answer⟩⟩
                exact .cons waits later
            | some exchange =>
                have poll := PendingCall.poll_answered waiting answer
                cases result : resultOf exchange with
                | ok value =>
                    rw [result] at poll
                    exact settlement_of_result found poll (.answered value) rfl ownRest
                | error cause =>
                    rw [result] at poll
                    exact settlement_of_result found poll (.failed cause) rfl ownRest
      · have has : session.HasCall call pending.state false := by
          refine ⟨pending, found, rfl, ?_⟩
          cases fresh <;> rfl
        have other : step ≠ .poll call := fun same => polled (Step.polled?_eq_some.mpr same)
        refine .cons ⟨has.after_moment unmade polled, ?_, ?_⟩ ?_
        · exact fun same => absurd same other
        · exact fun same => absurd same other
        · exact ih fresh ((Session.lookup_after_moment unmade polled).trans found) ownRest

/-- A call is made fresh. -/
theorem Target.Making.fresh {client : Client} {arguments : Arguments} {options : CallOptions}
    {shared after : Shared} {target : Target} {pending : PendingCall} {events : List Event}
    (making : Target.Making client arguments options shared target pending after events) :
    pending.Fresh := by
  cases making with
  | unknown | missing => exact .rejected _ _
  | unread | missed => exact .awaiting _ _
  | hit => exact .resolved _ _

end Histories

/-- **Every call settles once.**  A call that is made is fresh.  A fresh call is not terminated,
and its history, whatever steps come between its polls, is one of waiting, or of waiting, settling
and resting; so at most one poll gives a result. -/
theorem calls_settle_once (transport : Transport) :
    (∀ (session : Session) (call : String) (target : Target) (arguments : Arguments)
        (options : CallOptions), ∃ pending : PendingCall, pending.Fresh ∧
          (session.moment transport
            (.start call target arguments options)).after.calls.lookup call = some pending) ∧
      ∀ (session : Session) (call : String) (pending : PendingCall) (steps : List Step),
        pending.Fresh → session.calls.lookup call = some pending →
        (∀ step ∈ steps, step.made? ≠ some call) →
          pending.isTerminated = false ∧
            Settlement transport call pending.state (session.history transport steps) ∧
            (Settlement.answers call (session.history transport steps)).length ≤ 1 := by
  refine ⟨fun session call target arguments options => ?_,
    fun session call pending steps fresh found own => ?_⟩
  · exact ⟨_, (target.making).fresh, lookup_assign_self _ _ _⟩
  · have history : Settlement transport call pending.state (session.history transport steps) :=
      settlement_of_fresh fresh found own
    refine ⟨?_, history, history.answers_length_le⟩
    cases fresh <;> rfl

/-- A listing that fails when the transport is asked for the second time, with the polls of another
call between. -/
theorem listing_settles_once :
    let transport : Transport := fun _ polls =>
      if polls = 0 then none else some (.error (.timeout 5))
    let session := (Session.opened itemsClient).after transport
      [.start "first" "listItems" Arguments.empty CallOptions.none,
        .start "second" "missing" Arguments.empty CallOptions.none]
    let history := session.history transport
      [.poll "first", .poll "second", .poll "first", .poll "second", .poll "first"]
    Settlement transport "first" .awaitingTransport history ∧
      (Settlement.answers "first" history).length ≤ 1 := by
  intro transport session history
  have own : ∀ step ∈ [Step.poll "first", .poll "second", .poll "first", .poll "second",
      .poll "first"], step.made? ≠ some "first" := by simp [Step.made?]
  have fresh : (PendingCall.awaiting "listItems" ⟨.bare .get "http://items.test/items",
      "http://items.test/items", some "store", none, none⟩).Fresh := .awaiting _ _
  exact ((calls_settle_once transport).2 session "first" _ _ fresh rfl own).2

end ServiceCatalog
