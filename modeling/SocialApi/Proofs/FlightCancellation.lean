/-
Module: SocialApi.Proofs.FlightCancellation
Purpose: What the single-flight lock keeps when the futures of validate_content calls are
  dropped at their await points.
Trusted boundary: none
Main exports:
  ValidatorOp.awaits, droppableValidator, heldAfter, LocksHaveHolders, NoneDroppedHolding,
  locks_have_holders_iff, lock_outlives_holder
-/
import SocialApi.Process.Cancellation
import SocialApi.Proofs.ContentFlights

namespace SocialApi

open Process
open HttpExternalValidator

/-- The steps at which a future waits; the others are made without an `await`. -/
def ValidatorOp.awaits : ValidatorOp → Bool
  | .getString _ | .setString _ _ _ | .getProfile _ _ | .getContent _ | .sleep _
  | .nextRun _ => true
  | .checkState | .reset | .recordFailure | .singleFlightInsert _
  | .singleFlightRemove _ => false

/-- The validator, whose calls may be dropped where they wait. -/
@[reducible] def droppableValidator (setting : ValidatorSetting) : System :=
  (validatorService setting).droppable ValidatorOp.awaits

section Runs

variable {setting : ValidatorSetting}

/-- Where a call stands after a trace, dropped or not. -/
def flightAfter (call : ValidatorCall) (i : Nat)
    (trace : List (Event (droppableValidator setting))) : Dropping Flight :=
  controlAfter (M := droppableValidator setting)
    (Dropping.advanced (M := validatorService setting) (Flight.advance setting)) i
    (.live (Flight.initial call)) trace

/-- The key that a call has inserted and not removed. -/
def heldAfter (call : ValidatorCall) (i : Nat)
    (trace : List (Event (droppableValidator setting))) : Option String :=
  (flightAfter call i trace).phase.owns

/-- Some call that has neither come back nor been dropped is between its insert of the key
and its remove. -/
def HeldByLive (key : String) (trace : List (Event (droppableValidator setting)))
    (last : Pool (droppableValidator setting)) : Prop :=
  ∃ (i : Nat) (thread : Thread (droppableValidator setting)),
    last.threads[i]? = some thread ∧ ¬ thread.Returned ∧
      heldAfter thread.call i trace = some key

/-- Every key in the lock is held by a live call, and a new call can take any other. -/
structure LocksHaveHolders (trace : List (Event (droppableValidator setting)))
    (last : Pool (droppableValidator setting)) : Prop where
  held : ∀ key, last.state.singleFlightLock key = true → HeldByLive key trace last
  free : ∀ key, ¬ HeldByLive key trace last → ∀ env, ∃ after,
    ValidatorState.handle env (.singleFlightInsert key) last.state = some (true, after, [])

/-- No call is dropped between its insert and its remove. -/
def NoneDroppedHolding (trace : List (Event (droppableValidator setting))) : Prop :=
  ∀ before event after, trace = before ++ event :: after → event.res = none →
    heldAfter event.call event.thread before = none

instance (trace : List (Event (droppableValidator setting))) :
    Decidable (NoneDroppedHolding trace) :=
  decidable_of_iff (∀ (i : Nat) (bound : i < trace.length), (trace.get ⟨i, bound⟩).res = none →
      heldAfter (trace.get ⟨i, bound⟩).call (trace.get ⟨i, bound⟩).thread (trace.take i) = none)
    (by
      constructor
      · intro every before event after split unanswered
        subst split
        have bound : before.length < (before ++ event :: after).length := by simp
        have same : (before ++ event :: after).get ⟨before.length, bound⟩ = event := by simp
        have nothing := every before.length bound
        rw [same, List.take_left] at nothing
        exact nothing unanswered
      · intro condition i bound unanswered
        apply condition (trace.take i) _ (trace.drop (i + 1)) _ unanswered
        rw [List.get_eq_getElem, List.cons_getElem_drop_succ, List.take_append_drop])

variable {state : ValidatorState} {calls : List ValidatorCall}
  {trace : List (Event (droppableValidator setting))}
  {last : Pool (droppableValidator setting)}

/-- What a step does to the lock and to what its call holds, dropped or not. -/
theorem Dropping.lockMove {flight : Flight} {op : ValidatorOp} {env : Fate × ValidatorEnv}
    {state after : ValidatorState} {answer : Option op.Res} {spawned : List ValidatorCall}
    (permitted : flight.Permitted setting op)
    (handled : (droppableValidator setting).handle env op state =
      some (answer, after, spawned)) :
    spawned = [] ∧
      LockMove flight.owns
        (Dropping.advanced (M := validatorService setting) (Flight.advance setting)
          (.live flight) op answer).phase.owns
        state.singleFlightLock after.singleFlightLock := by
  rcases System.droppable_handle handled with
    ⟨value, rfl, served⟩ | ⟨rfl, waits, ⟨rfl, rfl⟩ | ⟨value, served⟩⟩
  · exact Flight.lockMove permitted served
  · exact ⟨rfl, .keep⟩
  · obtain ⟨started, lock⟩ := ValidatorState.handle_lock served
    refine ⟨started, ?_⟩
    rw [lock]
    cases op with
    | singleFlightInsert cacheKey => cases waits
    | singleFlightRemove cacheKey => cases waits
    | _ => exact .keep

/-- The lock holds just the keys that calls hold, dropped ones included, and no two calls
hold the same. -/
theorem flights_own_locks (contents : ∀ call ∈ calls, call.IsContent)
    (fresh : ∀ key, state.singleFlightLock key = false)
    (run : Run (M := droppableValidator setting) (Pool.start state calls) trace last) :
    ∃ phases : List (Dropping Flight),
      Phased (M := droppableValidator setting)
        (Dropping.advanced (M := validatorService setting) (Flight.advance setting))
        (Dropping.Permitted (M := validatorService setting) (Flight.Permitted setting))
        (Dropping.Possible (M := validatorService setting) fun _ _ _ => True)
        (Dropping.Final (M := validatorService setting) Flight.Final) phases last ∧
      (∀ (i : Nat) (thread : Thread (droppableValidator setting)),
        last.threads[i]? = some thread →
          thread.call ∈ calls ∧ phases[i]? = some (flightAfter thread.call i trace)) ∧
      Owned (fun flight => flight.phase.owns) last.state.singleFlightLock phases := by
  have bodies : ∀ call : ValidatorCall, call.IsContent →
      ((droppableValidator setting).body call).Obeys
        (Dropping.advanced (M := validatorService setting) (Flight.advance setting))
        (Dropping.Permitted (M := validatorService setting) (Flight.Permitted setting))
        (Dropping.Possible (M := validatorService setting) fun _ _ _ => True)
        (Dropping.Final (M := validatorService setting) Flight.Final)
        (.live (Flight.initial call)) := by
    intro call isContent
    exact Dropping.obeys (M := validatorService setting) (body_flies isContent)
  have tails : ∀ (phase : Dropping Flight) (target : ValidatorCall),
      Dropping.Final (M := validatorService setting) Flight.Final phase (.inl target) →
        target.IsContent ∧ phase = .live (Flight.initial target) := by
    intro phase target final
    cases phase with
    | live flight =>
        obtain ⟨isContent, rfl⟩ := Flight.Final.tail final
        exact ⟨isContent, rfl⟩
    | dropped flight => exact final.elim
  have start : Owned (fun flight : Dropping Flight => flight.phase.owns)
      state.singleFlightLock (calls.map fun call => .live (Flight.initial call)) := by
    apply owned_start fresh
    intro phase member
    obtain ⟨call, called, rfl⟩ := List.mem_map.mp member
    obtain ⟨cType, cId, rfl⟩ := contents call called
    rfl
  apply Run.phases
    (fun _ phases (state : ValidatorState) =>
      Owned (fun flight : Dropping Flight => flight.phase.owns) state.singleFlightLock phases)
    bodies tails contents run start
  intro before event after phases phase next spawned _ _ _ at_phase permitted handled owned
  cases phase with
  | dropped flight => exact permitted.elim
  | live flight =>
      obtain ⟨rfl, move⟩ := Dropping.lockMove permitted handled
      refine ⟨rfl, ?_, owned.move at_phase move⟩
      cases event.res <;> exact trivial

/-- A key that is held when its call is dropped stays with the dropped call. -/
theorem flightAfter_dropped {call : ValidatorCall} {before after : List
    (Event (droppableValidator setting))} {event : Event (droppableValidator setting)}
    (unanswered : event.res = none) :
    flightAfter call event.thread (before ++ event :: after) =
      .dropped (flightAfter call event.thread before).phase := by
  rw [List.append_cons, flightAfter, controlAfter_append]
  apply Dropping.dropped_stays
  rw [controlAfter_concat_self, unanswered, ← flightAfter]
  cases flightAfter call event.thread before with
  | live flight => rfl
  | dropped flight => rfl

/-- A call that owns a key is live, where none is dropped while it holds one. -/
theorem live_of_owns {i : Nat} {thread : Thread (droppableValidator setting)} {key : String}
    (run : Run (M := droppableValidator setting) (Pool.start state calls) trace last)
    (condition : NoneDroppedHolding trace) (at_i : last.threads[i]? = some thread)
    (ended : ∀ reply, thread.rest = .ret (.inr reply) →
      Dropping.Final (M := validatorService setting) Flight.Final
        (flightAfter thread.call i trace) (.inr reply))
    (owning : (flightAfter thread.call i trace).phase.owns = some key) :
    ¬ thread.Returned := by
  rintro ⟨reply, returned⟩
  have final := ended reply returned
  cases stands : flightAfter thread.call i trace with
  | live flight =>
      rw [stands] at final owning
      cases reply with
      | none => exact final
      | some reply =>
          obtain ⟨result, here, _⟩ := final
          simp [Dropping.phase, Flight.owns, here] at owning
  | dropped flight =>
      obtain ⟨before, event, after, split, rfl, unanswered, standing⟩ :=
        Dropping.dropped_origin stands
      obtain ⟨other, at_other, sameCall⟩ := run.event_thread event (by simp [split])
      obtain rfl := Option.some.inj (at_i.symm.trans at_other)
      have nothing := condition before event after split unanswered
      rw [heldAfter, flightAfter, ← sameCall, standing] at nothing
      rw [stands] at owning
      exact Option.some_ne_none key (owning.symm.trans nothing)

/-- The keys in the lock are those of live calls, and other keys can be taken, as long as no
call is dropped between its insert and its remove.  Where one is, its key stays in the lock
with no one to remove it. -/
theorem locks_have_holders_iff (contents : ∀ call ∈ calls, call.IsContent)
    (fresh : ∀ key, state.singleFlightLock key = false)
    (run : Run (M := droppableValidator setting) (Pool.start state calls) trace last) :
    LocksHaveHolders trace last ↔ NoneDroppedHolding trace := by
  obtain ⟨phases, phased, led, owned⟩ := flights_own_locks contents fresh run
  constructor
  · intro holders before event after split unanswered
    by_contra holding
    obtain ⟨key, held⟩ := Option.ne_none_iff_exists'.mp holding
    obtain ⟨thread, at_thread, sameCall⟩ := run.event_thread event (by simp [split])
    have here := (led event.thread thread at_thread).2
    rw [sameCall, split, flightAfter_dropped unanswered] at here
    have locked := owned.locked event.thread _ key here held
    obtain ⟨j, other, at_other, live, heldToo⟩ := holders.held key locked
    have there := (led j other at_other).2
    -- no two calls own the key, so the live holder is the dropped call itself
    obtain rfl := owned.unique event.thread j _ _ key here there held heldToo
    obtain rfl := Option.some.inj (at_thread.symm.trans at_other)
    apply live
    exact ⟨none, Dropping.returned_of_dropped (phased.obeys _ _ _ at_thread here)⟩
  · intro condition
    have held : ∀ key, last.state.singleFlightLock key = true →
        HeldByLive key trace last := by
      intro key locked
      obtain ⟨i, phase, at_phase, owning⟩ := owned.owner key locked
      have bound : i < last.threads.length :=
        phased.length_eq ▸ (List.getElem?_eq_some_iff.mp at_phase).1
      have at_i := List.getElem?_eq_getElem bound
      have reached := (led i _ at_i).2
      obtain rfl := Option.some.inj (at_phase.symm.trans reached)
      exact ⟨i, _, at_i, live_of_owns run condition at_i
        (fun _ returned => phased.returned at_i at_phase returned) owning, owning⟩
    refine ⟨held, ?_⟩
    intro key unheld env
    apply ValidatorState.handle_free
    rw [← Bool.not_eq_true]
    exact fun locked => unheld (held key locked)

end Runs

/-- One call waits while another fetches the same content, and is dropped: the key stays
with the call that put it there. -/
theorem locks_have_holders_waiting_dropped :
    ∃ trace last,
      Run (M := droppableValidator .reference)
        (Pool.start (.new 5 30 .empty 0)
          (List.replicate 2 (.validateContent ⟨"post"⟩ ⟨1⟩))) trace last ∧
      (∃ event ∈ trace, event.res = none) ∧
      last.state.singleFlightLock (contentKey ⟨"post"⟩ ⟨1⟩) = true ∧
      LocksHaveHolders trace last := by
  obtain ⟨trace, last, run, passed⟩ := Run.exists_of_exec
    (M := droppableValidator .reference)
    [(0, .answered, .calm), (0, .answered, .calm), (1, .answered, .calm),
      (1, .answered, .calm), (1, .droppedBefore, .calm)]
    (Pool.start (.new 5 30 .empty 0) (List.replicate 2 (.validateContent ⟨"post"⟩ ⟨1⟩)))
    (fun trace last => trace.any (fun event => event.res.isNone) &&
      last.state.singleFlightLock (contentKey ⟨"post"⟩ ⟨1⟩) && NoneDroppedHolding trace)
    (by decide +kernel)
  simp only [Bool.and_eq_true, List.any_eq_true, Option.isNone_iff_eq_none,
    decide_eq_true_eq] at passed
  obtain ⟨⟨dropped, locked⟩, condition⟩ := passed
  refine ⟨trace, last, run, dropped, locked, ?_⟩
  apply (locks_have_holders_iff _ _ run).mpr condition
  · intro call called
    exact ⟨_, _, List.eq_of_mem_replicate called⟩
  · intro key
    rfl

/-- A client leaves while its content is being fetched: its key stays in the lock and no
call is left. -/
theorem lock_outlives_holder :
    ∃ trace last,
      Run (M := droppableValidator .reference)
        (Pool.start (.new 5 30 .empty 0) [.validateContent ⟨"post"⟩ ⟨1⟩]) trace last ∧
      last.Done ∧ last.state.singleFlightLock (contentKey ⟨"post"⟩ ⟨1⟩) = true ∧
      ¬ LocksHaveHolders trace last := by
  obtain ⟨trace, last, run, passed⟩ := Run.exists_of_exec
    (M := droppableValidator .reference)
    [(0, .answered, .calm), (0, .answered, .calm), (0, .answered, .calm),
      (0, .droppedBefore, .calm)]
    (Pool.start (.new 5 30 .empty 0) [.validateContent ⟨"post"⟩ ⟨1⟩])
    (fun _ last => last.done? && last.state.singleFlightLock (contentKey ⟨"post"⟩ ⟨1⟩))
    (by decide +kernel)
  obtain ⟨ended, locked⟩ := (Bool.and_eq_true _ _).mp passed
  have done := Pool.done_of_done? ended
  refine ⟨trace, last, run, done, locked, ?_⟩
  intro holders
  obtain ⟨i, thread, at_i, live, _⟩ := holders.held _ locked
  exact live (done thread (List.mem_of_getElem? at_i))

end SocialApi
