/-
Module: SocialApi.Infrastructure.BreakerCalls
Purpose: CircuitBreaker::call as a program over its steps, the system of overlapping
  calls of one breaker, and the history of what they do to its cells.
Trusted boundary: human-reviewed model of CircuitBreaker::call in
  clients/circuit_breaker.rs; what the future of a call comes to and the passing of
  time are contributed by the surroundings
Main exports:
  BreakerOp, CircuitBreaker.call, BreakerWorld, BreakerEnv, breakerService,
  BreakerStep, CircuitBreaker.followAll, outcomes
-/
import SocialApi.Domain.Model
import SocialApi.Infrastructure.CircuitBreaker
import SocialApi.Ledger.Streaks
import SocialApi.Process.Phases

namespace SocialApi

open Process
open Ledger (Attempt streak lastFailure)

/-! ### One call -/

/-- The steps of a call: the three operations on the cells, and the future it was
given. -/
inductive BreakerOp where
  | checkState
  | awaitFuture
  | reset
  | recordFailure
deriving DecidableEq, Repr

/-- What each step answers, for futures that come to a `T`. -/
@[reducible] def BreakerOp.Res (T : Type) : BreakerOp → Type
  | .checkState => BreakerState
  | .awaitFuture => Except DomainError T
  | .reset => Unit
  | .recordFailure => Unit

/-- The body of a call. -/
abbrev BreakerCall (T : Type) := Program BreakerOp (BreakerOp.Res T)

/-- Take one step of a call. -/
abbrev BreakerOp.take {T : Type} (op : BreakerOp) : BreakerCall T (op.Res T) :=
  Program.request op

/-- The end of `CircuitBreaker::call`, once the future has come to a result. -/
def CircuitBreaker.recordOutcome {T : Type} :
    Except DomainError T → BreakerCall T (Except DomainError T)
  | .ok data => do
      BreakerOp.reset.take
      return .ok data
  | .error (.dependencyUnavailable service) => do
      BreakerOp.recordFailure.take
      return .error (.dependencyUnavailable service)
  | .error err => return .error err

/-- `CircuitBreaker::call` -/
def CircuitBreaker.call (T : Type) : BreakerCall T (Except DomainError T) := do
  match ← BreakerOp.checkState.take with
  | .opened => return .error (.dependencyUnavailable "todo")
  | .closed | .halfOpen =>
      let result ← BreakerOp.awaitFuture.take
      CircuitBreaker.recordOutcome result

/-! ### Overlapping calls -/

/-- The breaker, and the clock of the process in seconds. -/
structure BreakerWorld where
  breaker : CircuitBreaker
  clock : Int
deriving DecidableEq, Repr

def BreakerWorld.new (threshold : Nat) (timeout clock : Int) : BreakerWorld where
  breaker := .fromEnv threshold timeout
  clock := clock

/-- What the surroundings contribute to one step: the time that passes before it, and
what the future comes to.  The clock does not go backwards. -/
structure BreakerEnv (T : Type) where
  elapse : Nat
  result : Except DomainError T

/-- The effect and the answer of one step; no call is started by another. -/
def BreakerWorld.handle {T : Type} (env : BreakerEnv T) (op : BreakerOp)
    (world : BreakerWorld) : Option (op.Res T × BreakerWorld × List Unit) :=
  let now := world.clock + env.elapse
  match op with
  | .checkState =>
      let (state, breaker) := world.breaker.checkState now
      some (state, ⟨breaker, now⟩, [])
  | .awaitFuture => some (env.result, ⟨world.breaker, now⟩, [])
  | .reset => some ((), ⟨world.breaker.reset, now⟩, [])
  | .recordFailure => some ((), ⟨world.breaker.recordFailure now, now⟩, [])

/-- Overlapping calls of one breaker as a system. -/
@[reducible] def breakerService (T : Type) : System where
  Op := BreakerOp
  Res := BreakerOp.Res T
  State := BreakerWorld
  Env := BreakerEnv T
  Call := Unit
  Reply := Except DomainError T
  body := fun _ => do return .inr (← CircuitBreaker.call T)
  handle := BreakerWorld.handle

/-! ### What calls do to the cells -/

/-- An operation on the cells, with the time it was made at where that matters. -/
inductive BreakerStep where
  | checkState (now : Int)
  | reset
  | recordFailure (now : Int)
deriving DecidableEq, Repr

def CircuitBreaker.follow (breaker : CircuitBreaker) : BreakerStep → CircuitBreaker
  | .checkState now => (breaker.checkState now).2
  | .reset => breaker.reset
  | .recordFailure now => breaker.recordFailure now

def CircuitBreaker.followAll (breaker : CircuitBreaker) (steps : List BreakerStep) :
    CircuitBreaker :=
  steps.foldl follow breaker

/-- The outcome that is recorded by a step. -/
def BreakerStep.outcome? : BreakerStep → Option (Attempt Int)
  | .checkState _ => none
  | .reset => some .succeeded
  | .recordFailure now => some (.failed now)

/-- The outcomes recorded so far. -/
def outcomes (steps : List BreakerStep) : List (Attempt Int) :=
  steps.filterMap BreakerStep.outcome?

@[simp] theorem CircuitBreaker.followAll_nil (breaker : CircuitBreaker) :
    breaker.followAll [] = breaker := rfl

@[simp] theorem CircuitBreaker.followAll_concat (breaker : CircuitBreaker)
    (steps : List BreakerStep) (step : BreakerStep) :
    breaker.followAll (steps ++ [step]) = (breaker.followAll steps).follow step := by
  simp [followAll]

@[simp] theorem outcomes_nil : outcomes [] = [] := rfl

@[simp] theorem outcomes_concat_checkState (steps : List BreakerStep) (now : Int) :
    outcomes (steps ++ [.checkState now]) = outcomes steps := by
  simp [outcomes, BreakerStep.outcome?]

@[simp] theorem outcomes_concat_reset (steps : List BreakerStep) :
    outcomes (steps ++ [.reset]) = outcomes steps ++ [.succeeded] := by
  simp [outcomes, BreakerStep.outcome?]

@[simp] theorem outcomes_concat_recordFailure (steps : List BreakerStep) (now : Int) :
    outcomes (steps ++ [.recordFailure now]) = outcomes steps ++ [.failed now] := by
  simp [outcomes, BreakerStep.outcome?]

/-- The time on the clock at an event. -/
def breakerTime {T : Type} (event : Event (breakerService T)) : Int :=
  event.before.clock + event.env.elapse

/-- The operation on the cells at an event. -/
def BreakerStep.ofEvent {T : Type} (event : Event (breakerService T)) :
    Option BreakerStep :=
  match event.op with
  | .checkState => some (.checkState (breakerTime event))
  | .awaitFuture => none
  | .reset => some .reset
  | .recordFailure => some (.recordFailure (breakerTime event))

/-- The operations on the cells in a trace. -/
def breakerSteps {T : Type} (trace : List (Event (breakerService T))) :
    List BreakerStep :=
  trace.filterMap BreakerStep.ofEvent

theorem breakerSteps_concat {T : Type} (trace : List (Event (breakerService T)))
    (event : Event (breakerService T)) :
    breakerSteps (trace ++ [event]) =
      breakerSteps trace ++ (BreakerStep.ofEvent event).toList := by
  rw [breakerSteps, List.filterMap_append]
  rfl

/-- The cells after a run are what its operations have made of them. -/
theorem followAll_breakerSteps {T : Type} {first last : BreakerWorld}
    {trace : List (Event (breakerService T))} (replays : Replays first trace last) :
    last.breaker = first.breaker.followAll (breakerSteps trace) := by
  apply replays.history fun before (world : BreakerWorld) =>
    world.breaker = first.breaker.followAll (breakerSteps before)
  · intro before event after spawned _ handled holds
    rw [breakerSteps_concat]
    obtain ⟨thread, call, env, op, res, world⟩ := event
    cases op <;>
    · simp only [BreakerWorld.handle, Option.some.injEq, Prod.mk.injEq] at handled
      obtain ⟨-, rfl, -⟩ := handled
      simp only at holds
      simp [BreakerStep.ofEvent, breakerTime, CircuitBreaker.follow, holds]
  · rfl

end SocialApi
