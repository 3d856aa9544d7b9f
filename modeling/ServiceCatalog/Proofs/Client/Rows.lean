import ServiceCatalog.Proofs.Client.History

/-!
# What a run does to a row

A step does one of five things to a row of the caches (`Moment.RowChange`).  It leaves the row as
it was; or it empties a row whose lifetime has passed; or it writes the row, takes it out, or
clears its cache.  The last three can be seen from outside: writing and taking out are events, and
clearing is a step of its own.  So what a run does to a row is known from its moments.

* A row that is spared by all moments of a run, and whose lifetime has not passed at the end, is
  there at the end (`Session.row_kept`).
* A row that is there at the end was there at the beginning, or one of the moments wrote it
  (`Session.row_written`).

Both rest on the clock, which never goes back (`Session.now_le_after`).
-/

namespace ServiceCatalog

set_option autoImplicit false

open ServiceCatalog.Json
open PendingCall (resultOf)

/-! ## One step -/

/-- What a moment does to a row. -/
inductive Moment.RowChange (moment : Moment) (name key : String) : Prop where
  | same (kept : moment.after.shared.row? name key = moment.before.shared.row? name key)
  | expired {entry : CacheEntry} (held : moment.before.shared.row? name key = some entry)
      (passed : entry.isExpired moment.before.shared.now = true)
      (emptied : moment.after.shared.row? name key = none)
  | written {value : Value} {lifetime : Option Nat}
      (event : .cacheWritten name key value lifetime ∈ moment.events)
      (placed : moment.after.shared.row? name key =
        some ⟨value, lifetime.map fun span => moment.before.shared.now + span⟩)
  | removed (event : .cacheRemoved name key ∈ moment.events)
      (emptied : moment.after.shared.row? name key = none)
  | cleared (step : moment.step = .clear name)
      (emptied : moment.after.shared.row? name key = none)

/-- What making a call does to what is shared: nothing, or a reading. -/
theorem Target.Making.shared_eq {client : Client} {arguments : Arguments} {options : CallOptions}
    {shared after : Shared} {target : Target} {pending : PendingCall} {events : List Event}
    (making : Target.Making client arguments options shared target pending after events) :
    after = shared ∨ ∃ cache key, after = (shared.readCache cache key).2.1 := by
  cases making with
  | unknown | missing | unread => exact .inl rfl
  | hit | missed => exact .inr ⟨_, _, rfl⟩

/-- Making a call takes no time. -/
theorem Target.Making.now_eq {client : Client} {arguments : Arguments} {options : CallOptions}
    {shared after : Shared} {target : Target} {pending : PendingCall} {events : List Event}
    (making : Target.Making client arguments options shared target pending after events) :
    after.now = shared.now := by
  rcases making.shared_eq with rfl | ⟨cache, key, rfl⟩ <;> rfl

namespace Session

variable {transport : Transport} {session : Session} {name key : String}

/-- A moment that only reads changes no row but one whose lifetime has passed. -/
theorem row_change_of_read {moment : Moment} {cache asked : String}
    (reads : moment.after.shared = (moment.before.shared.readCache cache asked).2.1) :
    moment.RowChange name key := by
  have row := moment.before.shared.row?_readCache cache asked name key
  rw [← reads] at row
  by_cases here : name = cache ∧ key = asked
  · obtain ⟨rfl, rfl⟩ := here
    simp only [and_self, if_true] at row
    cases held : moment.before.shared.row? name key with
    | none => exact .same (by rw [row, held]; rfl)
    | some entry =>
        by_cases passed : entry.isExpired moment.before.shared.now
        · exact .expired held passed (by rw [row, held]; simp [Option.filter, passed])
        · exact .same (by rw [row, held]; simp [Option.filter, passed])
  · exact .same (by rw [row, if_neg here])

/-- A moment that takes a key out changes one row. -/
theorem row_change_of_remove {moment : Moment} {cache asked : String}
    (removes : moment.after.shared = (moment.before.shared.removeFromCache cache asked).1)
    (event : .cacheRemoved cache asked ∈ moment.events) : moment.RowChange name key := by
  have row := moment.before.shared.row?_removeFromCache cache asked name key
  rw [← removes] at row
  by_cases here : name = cache ∧ key = asked
  · obtain ⟨rfl, rfl⟩ := here
    exact .removed event (by rw [row]; simp)
  · exact .same (by rw [row, if_neg here])

/-- A moment that writes changes one row. -/
theorem row_change_of_write {moment : Moment} {cache asked : String} {value : Value}
    {lifetime : Option Nat}
    (writes : moment.after.shared =
      (moment.before.shared.writeCache cache asked value lifetime).1)
    (event : .cacheWritten cache asked value lifetime ∈ moment.events) :
    moment.RowChange name key := by
  have row := moment.before.shared.row?_writeCache cache asked name key value lifetime
  rw [← writes] at row
  by_cases here : name = cache ∧ key = asked
  · obtain ⟨rfl, rfl⟩ := here
    exact .written event (by rw [row]; simp)
  · exact .same (by rw [row, if_neg here])

/-- A poll changes at most the row in which it keeps a payload. -/
theorem row_change_of_poll {call : String} {pending : PendingCall}
    (found : session.calls.lookup call = some pending) :
    (session.moment transport (.poll call)).RowChange name key := by
  rcases pending.poll_cases transport session.shared with ⟨-, poll⟩ | ⟨result, -, poll⟩ |
    ⟨flight, -, -, poll⟩ | ⟨flight, exchange, -, -, poll⟩ <;> rw [moment_poll found poll]
  · exact .same rfl
  · exact .same rfl
  · exact .same (flight.row?_launched session.shared name key)
  · rcases PendingCall.row?_keep flight (resultOf exchange) (flight.launched session.shared)
        name key with ⟨value, cached, rfl, ok, placed⟩ | same
    · rw [Flight.launched_now] at placed
      exact .written (by simp [Flight.keeping, cached, ok]) placed
    · exact .same (same.trans (flight.row?_launched session.shared name key))

/-- **A step does one of the five things to a row.** -/
theorem row_change (step : Step) (name key : String) :
    (session.moment transport step).RowChange name key := by
  cases step with
  | start call target arguments options =>
      have making := making_of_start transport session call target arguments options
      rcases making.shared_eq with unchanged | ⟨cache, asked, read⟩
      · exact .same (congrArg (Shared.row? · name key) unchanged)
      · exact row_change_of_read read
  | poll call =>
      cases found : session.calls.lookup call with
      | none =>
          rw [moment_poll_unknown found]
          exact .same rfl
      | some pending => exact row_change_of_poll found
  | invalidate asked =>
      cases held : session.client.cache with
      | none =>
          have shared : (session.moment transport (.invalidate asked)).after.shared =
              session.shared := by simp [moment, Session.step, Client.invalidate, held]
          exact .same (congrArg (Shared.row? · name key) shared)
      | some cache =>
          have removes : session.client.invalidate asked session.shared =
              session.shared.removeFromCache cache asked := by simp only [Client.invalidate, held]
          have events : (session.moment transport (.invalidate asked)).events =
              [.cacheRemoved cache asked] := congrArg Prod.snd removes
          exact row_change_of_remove (congrArg Prod.fst removes) (events ▸ .head _)
  | useCache cache => exact .same rfl
  | put cache asked value lifetime => exact row_change_of_write rfl (.head _)
  | read cache asked => exact row_change_of_read rfl
  | remove cache asked => exact row_change_of_remove rfl (.head _)
  | clear cache =>
      have row : (session.moment transport (.clear cache)).after.shared.row? name key =
          if name = cache then none else session.shared.row? name key :=
        session.shared.row?_clear cache name key
      by_cases here : name = cache
      · subst here
        exact .cleared rfl (by rw [row, if_pos rfl])
      · exact .same (by rw [row, if_neg here]; rfl)
  | wait milliseconds => exact .same rfl

/-! ## The clock -/

/-- Polling takes no time. -/
theorem now_of_poll {call : String} {pending : PendingCall}
    (found : session.calls.lookup call = some pending) :
    (session.moment transport (.poll call)).after.shared.now = session.shared.now := by
  rcases pending.poll_cases transport session.shared with ⟨-, poll⟩ | ⟨result, -, poll⟩ |
    ⟨flight, -, -, poll⟩ | ⟨flight, exchange, -, -, poll⟩ <;> rw [moment_poll found poll]
  · exact flight.launched_now session.shared
  · simp

/-- Only waiting takes time. -/
theorem now_after_moment (step : Step) :
    (session.moment transport step).after.shared.now =
      match step with
      | .wait milliseconds => session.shared.now + milliseconds
      | _ => session.shared.now := by
  cases step with
  | start call target arguments options =>
      exact (making_of_start transport session call target arguments options).now_eq
  | poll call =>
      cases found : session.calls.lookup call with
      | none => rw [moment_poll_unknown found]
      | some pending => exact now_of_poll found
  | invalidate asked =>
      simp only [moment, Session.step, Client.invalidate]
      cases session.client.cache <;> rfl
  | useCache _ | put _ _ _ _ | read _ _ | remove _ _ | clear _ | wait _ => rfl

/-- The clock never goes back. -/
theorem now_le_after (steps : List Step) :
    session.shared.now ≤ (session.after transport steps).shared.now := by
  induction steps generalizing session with
  | nil => exact Nat.le_refl _
  | cons step rest ih =>
      have here : session.shared.now ≤ (session.moment transport step).after.shared.now := by
        rw [now_after_moment]
        cases step <;> simp
      exact Nat.le_trans here ih

end Session

/-! ## Runs -/

/-- A moment leaves a row alone: the row is not written or taken out, and its cache is not
cleared. -/
structure Moment.Spares (name key : String) (moment : Moment) : Prop where
  unwritten : ∀ value lifetime, .cacheWritten name key value lifetime ∉ moment.events
  unremoved : .cacheRemoved name key ∉ moment.events
  uncleared : moment.step ≠ .clear name

/-- A row that a moment spares stays, if its lifetime has not passed. -/
theorem Moment.RowChange.kept {moment : Moment} {name key : String} {entry : CacheEntry}
    (change : moment.RowChange name key) (spares : moment.Spares name key)
    (held : moment.before.shared.row? name key = some entry)
    (alive : entry.isExpired moment.before.shared.now = false) :
    moment.after.shared.row? name key = some entry := by
  cases change with
  | same kept => exact kept.trans held
  | expired heldBefore passed =>
      obtain rfl := Option.some.inj (heldBefore.symm.trans held)
      exact absurd passed (by simp [alive])
  | written event => exact absurd event (spares.unwritten _ _)
  | removed event => exact absurd event spares.unremoved
  | cleared step => exact absurd step spares.uncleared

/-- A row that is there after a moment was there before, or the moment wrote it. -/
theorem Moment.RowChange.held_or_written {moment : Moment} {name key : String}
    {entry : CacheEntry} (change : moment.RowChange name key)
    (held : moment.after.shared.row? name key = some entry) :
    moment.before.shared.row? name key = some entry ∨
      ∃ lifetime, .cacheWritten name key entry.value lifetime ∈ moment.events := by
  cases change with
  | same kept => exact .inl (kept.symm.trans held)
  | written event placed =>
      obtain rfl := Option.some.inj (placed.symm.trans held)
      exact .inr ⟨_, event⟩
  | expired _ _ emptied | removed _ emptied | cleared _ emptied =>
      cases emptied.symm.trans held

/-- An entry whose lifetime has not passed was good at every earlier time. -/
theorem CacheEntry.isExpired_of_le {entry : CacheEntry} {earlier now : Nat}
    (order : earlier ≤ now) (alive : entry.isExpired now = false) :
    entry.isExpired earlier = false := by
  simp only [CacheEntry.isExpired] at alive ⊢
  cases expires : entry.expiresAt with
  | none => rfl
  | some expiry =>
      simp only [expires, Option.any_some, decide_eq_false_iff_not, Nat.not_le] at alive ⊢
      omega

namespace Session

variable {transport : Transport} {session : Session} {name key : String}

/-- **A row that a run spares is there at the end**, if its lifetime has not passed. -/
theorem row_kept {entry : CacheEntry} {steps : List Step}
    (held : session.shared.row? name key = some entry)
    (spared : ∀ moment ∈ session.history transport steps, moment.Spares name key)
    (alive : entry.isExpired (session.after transport steps).shared.now = false) :
    (session.after transport steps).shared.row? name key = some entry := by
  induction steps generalizing session with
  | nil => exact held
  | cons step rest ih =>
      obtain ⟨spares, sparedRest⟩ := List.forall_mem_cons.mp spared
      have order : session.shared.now ≤ (session.after transport (step :: rest)).shared.now :=
        now_le_after _
      have now := CacheEntry.isExpired_of_le order alive
      exact ih ((row_change step name key).kept spares held now) sparedRest alive

/-- **A row that is there at the end of a run was written by it**, or was there before. -/
theorem row_written {entry : CacheEntry} {steps : List Step}
    (held : (session.after transport steps).shared.row? name key = some entry) :
    session.shared.row? name key = some entry ∨
      ∃ moment ∈ session.history transport steps, ∃ lifetime,
        .cacheWritten name key entry.value lifetime ∈ moment.events := by
  induction steps generalizing session with
  | nil => exact .inl held
  | cons step rest ih =>
      rcases ih held with heldHere | ⟨moment, member, writes⟩
      · rcases (row_change step name key).held_or_written heldHere with before | writes
        · exact .inl before
        · exact .inr ⟨_, List.mem_cons_self, writes⟩
      · exact .inr ⟨moment, List.mem_cons_of_mem _ member, writes⟩

end Session

end ServiceCatalog
