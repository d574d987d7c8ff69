/-
Module: SocialApi.Proofs.BreakerIsolation
Purpose: The one breaker that the calls to all external APIs share: when the calls to one
  API are decided by that API alone.
Trusted boundary: none
Main exports:
  HttpExternalValidator.call_eq_implement, Dependency, CallStep, callsTo, SameCalls,
  DecideAlike, OthersQuiet, decisions_are_own, calls_decided_alone
-/
import SocialApi.Proofs.BreakerAnswers
import SocialApi.Proofs.BreakerHistory

namespace SocialApi

open Process

/-! ### Calls of the validator as calls of the breaker -/

/-- The steps of a breaker call on the state of the validator, around a future. -/
def BreakerOp.code {T : Type} (f : Validator (Except DomainError T)) :
    (op : BreakerOp) → Validator (op.Res T)
  | .checkState => perform .checkState
  | .awaitFuture => f
  | .reset => perform .reset
  | .recordFailure => perform .recordFailure

/-- `call` of the validator is `CircuitBreaker::call` on the shared breaker. -/
theorem HttpExternalValidator.call_eq_implement {T : Type}
    (f : Validator (Except DomainError T)) :
    HttpExternalValidator.call f =
      (CircuitBreaker.call T).implement (BreakerOp.code f) := by
  have outcome : (fun result => HttpExternalValidator.recordOutcome result) =
      fun result : Except DomainError T =>
        (CircuitBreaker.recordOutcome result).implement (BreakerOp.code f) := by
    funext result
    cases result with
    | ok data => rfl
    | error err => cases err <;> rfl
  unfold HttpExternalValidator.call
  simp only [outcome]
  refine congrArg _ (funext fun state => ?_)
  cases state <;> rfl

/-! ### What a run does to one API -/

/-- An API that calls go to. -/
inductive Dependency where
  | profileApi
  | contentApi (baseUrl : String)
deriving DecidableEq, Repr

/-- The API a call depends on; contents of an unknown type have none. -/
def ValidatorCall.dependency (setting : ValidatorSetting) :
    ValidatorCall → Option Dependency
  | .validateUser _ | .authMiddleware _ => some .profileApi
  | .validateContent cType _ => (setting.contentApis cType.asStr).map .contentApi

/-- A step that a call makes on the breaker, and whether it was refused there. -/
structure CallStep where
  call : ValidatorCall
  step : BreakerStep
  refused : Bool
deriving DecidableEq

section Views

variable {setting : ValidatorSetting}

/-- The step on the breaker at an event. -/
def CallStep.ofEvent (event : Event (validatorService setting)) : Option CallStep :=
  match event.op with
  | .checkState =>
      some ⟨event.call, .checkState event.env.now, refuses event.op event.res⟩
  | .reset => some ⟨event.call, .reset, false⟩
  | .recordFailure => some ⟨event.call, .recordFailure event.env.now, false⟩
  | _ => none

/-- What calls to the API make of the breaker in a trace: when they start and which are
refused, and how the others end and when. -/
def callsTo (dependency : Dependency) (trace : List (Event (validatorService setting))) :
    List CallStep :=
  trace.filterMap fun event =>
    if event.call.dependency setting = some dependency then CallStep.ofEvent event else none

/-- The calls are the same, at the same times and with the same outcomes, for as long as the
breaker has decided alike about those before. -/
def SameCalls : List CallStep → List CallStep → Prop
  | left :: one, right :: two =>
      left.call = right.call ∧ left.step = right.step ∧
        (left.refused = right.refused → SameCalls one two)
  | _, _ => True

/-- The breaker lets through and refuses the same calls, as far as both lists go. -/
def DecideAlike : List CallStep → List CallStep → Prop
  | left :: one, right :: two => left.refused = right.refused ∧ DecideAlike one two
  | _, _ => True

/-- A step on the breaker that leaves its cells as they are. -/
def LeavesCells (now : Int) (breaker : CircuitBreaker) : ValidatorOp → Prop
  | .checkState => breaker.state = breaker.finalState now
  | .reset => breaker.failures = 0
  | .recordFailure => False
  | _ => True

instance (now : Int) (breaker : CircuitBreaker) :
    (op : ValidatorOp) → Decidable (LeavesCells now breaker op)
  | .checkState => inferInstanceAs (Decidable (breaker.state = breaker.finalState now))
  | .reset => inferInstanceAs (Decidable (breaker.failures = 0))
  | .recordFailure => .isFalse id
  | .getString _ | .setString _ _ _ | .getProfile _ _ | .getContent _ | .sleep _
  | .singleFlightInsert _ | .singleFlightRemove _ | .nextRun _ => .isTrue trivial

/-- Calls to other APIs leave the cells as they are. -/
def OthersQuiet (dependency : Dependency)
    (trace : List (Event (validatorService setting))) : Prop :=
  ∀ event ∈ trace, event.call.dependency setting ≠ some dependency →
    LeavesCells event.env.now event.before.breaker event.op

/-! ### Decisions -/

/-- Whether a step is refused by a breaker with these cells. -/
def CircuitBreaker.refuses (breaker : CircuitBreaker) : BreakerStep → Bool
  | .checkState now => breaker.finalState now = .opened
  | _ => false

/-- The steps follow each other on a breaker with these cells at first. -/
def DecidedBy : CircuitBreaker → List CallStep → Prop
  | _, [] => True
  | breaker, entry :: rest =>
      entry.refused = breaker.refuses entry.step ∧ DecidedBy (breaker.follow entry.step) rest

/-- Calls that are the same are decided alike by breakers that start alike. -/
theorem DecidedBy.alike {breaker : CircuitBreaker} {one two : List CallStep}
    (left : DecidedBy breaker one) (right : DecidedBy breaker two)
    (same : SameCalls one two) : DecideAlike one two := by
  induction one generalizing breaker two with
  | nil => exact trivial
  | cons entry one inductionHypothesis =>
      cases two with
      | nil => exact trivial
      | cons other two =>
          obtain ⟨_, sameStep, later⟩ := same
          obtain ⟨decided, left⟩ := left
          obtain ⟨otherDecided, right⟩ := right
          have alike : entry.refused = other.refused := by
            rw [decided, otherDecided, sameStep]
          rw [← sameStep] at right
          exact ⟨alike, inductionHypothesis left right (later alike)⟩

/-- A step that leaves the cells as they are leaves them so. -/
theorem LeavesCells.breakerAfter {env : ValidatorEnv} {breaker : CircuitBreaker}
    {op : ValidatorOp} (leaves : LeavesCells env.now breaker op) :
    ValidatorState.breakerAfter env breaker op = breaker := by
  cases op with
  | checkState =>
      have same : breaker.state = breaker.finalState env.now := leaves
      simp only [ValidatorState.breakerAfter, CircuitBreaker.checkState]
      rw [if_neg (not_not.mpr same)]
  | reset =>
      have none : breaker.failures = 0 := leaves
      simp only [ValidatorState.breakerAfter, CircuitBreaker.reset]
      rw [← none]
  | recordFailure => exact leaves.elim
  | _ => rfl

/-- Steps that are not on the breaker leave its cells as they are. -/
theorem breakerAfter_of_ofEvent_none {event : Event (validatorService setting)}
    (other : CallStep.ofEvent event = none) :
    ValidatorState.breakerAfter event.env event.before.breaker event.op =
      event.before.breaker := by
  obtain ⟨thread, call, env, op, res, before⟩ := event
  cases op with
  | checkState => cases other
  | reset => cases other
  | recordFailure => cases other
  | _ => rfl

theorem ofEvent_decided {event : Event (validatorService setting)} {entry : CallStep}
    {after : ValidatorState} {spawned : List ValidatorCall}
    (is : CallStep.ofEvent event = some entry)
    (handled : ValidatorState.handle event.env event.op event.before =
      some (event.res, after, spawned)) :
    entry.refused = event.before.breaker.refuses entry.step ∧
      after.breaker = event.before.breaker.follow entry.step := by
  rw [ValidatorState.handle_breaker handled]
  obtain ⟨thread, call, env, op, res, before⟩ := event
  cases op with
  | checkState =>
      obtain rfl := Option.some.inj is
      rw [ValidatorState.handle_checkState handled]
      refine ⟨?_, rfl⟩
      simp only [SocialApi.refuses, CircuitBreaker.refuses, CircuitBreaker.checkState_fst]
  | reset =>
      obtain rfl := Option.some.inj is
      exact ⟨rfl, rfl⟩
  | recordFailure =>
      obtain rfl := Option.some.inj is
      exact ⟨rfl, rfl⟩
  | _ => cases is

/-- As long as the others are quiet, the calls to one API are decided by the cells that
these calls alone have made. -/
theorem decisions_are_own {dependency : Dependency} {first last : ValidatorState}
    {trace : List (Event (validatorService setting))}
    (quiet : OthersQuiet dependency trace) (replays : Replays first trace last) :
    DecidedBy first.breaker (callsTo dependency trace) := by
  induction trace generalizing first with
  | nil => trivial
  | cons event trace inductionHypothesis =>
      obtain ⟨rfl, after, spawned, handled, rest⟩ := replays
      have later := inductionHypothesis (fun other member => quiet other (by simp [member])) rest
      have cells := ValidatorState.handle_breaker handled
      by_cases own : event.call.dependency setting = some dependency
      · cases is : CallStep.ofEvent event with
        | none =>
            rw [breakerAfter_of_ofEvent_none is] at cells
            rw [callsTo, List.filterMap_cons_none (by rw [if_pos own, is]), ← cells]
            exact later
        | some entry =>
            obtain ⟨decided, followed⟩ := ofEvent_decided is handled
            rw [callsTo, List.filterMap_cons_some (by rw [if_pos own, is])]
            exact ⟨decided, followed ▸ later⟩
      · rw [(quiet event (by simp) own).breakerAfter] at cells
        rw [callsTo, List.filterMap_cons_none (by rw [if_neg own]), ← cells]
        exact later

/-- In any two runs in which the calls to other APIs leave the cells alone, the same calls
to one API are let through and refused. -/
theorem calls_decided_alone {threshold : Nat} {timeout : Int} {dependency : Dependency}
    {redis otherRedis : Redis} {clock otherClock : Int} {calls otherCalls : List ValidatorCall}
    {trace otherTrace : List (Event (validatorService setting))}
    {last otherLast : Pool (validatorService setting)}
    (run : Run (M := validatorService setting)
      (Pool.start (.new threshold timeout redis clock) calls) trace last)
    (otherRun : Run (M := validatorService setting)
      (Pool.start (.new threshold timeout otherRedis otherClock) otherCalls) otherTrace
        otherLast)
    (quiet : OthersQuiet dependency trace) (otherQuiet : OthersQuiet dependency otherTrace)
    (same : SameCalls (callsTo dependency trace) (callsTo dependency otherTrace)) :
    DecideAlike (callsTo dependency trace) (callsTo dependency otherTrace) := by
  have decided := decisions_are_own quiet run.replays
  have otherDecided := decisions_are_own otherQuiet otherRun.replays
  exact DecidedBy.alike decided otherDecided same

end Views

instance SameCalls.decidable : (one two : List CallStep) → Decidable (SameCalls one two)
  | [], _ => .isTrue trivial
  | _ :: _, [] => .isTrue trivial
  | left :: one, right :: two =>
      have := SameCalls.decidable one two
      inferInstanceAs (Decidable (left.call = right.call ∧ left.step = right.step ∧
        (left.refused = right.refused → SameCalls one two)))

instance DecideAlike.decidable : (one two : List CallStep) → Decidable (DecideAlike one two)
  | [], _ => .isTrue trivial
  | _ :: _, [] => .isTrue trivial
  | left :: one, right :: two =>
      have := DecideAlike.decidable one two
      inferInstanceAs (Decidable (left.refused = right.refused ∧ DecideAlike one two))

/-- A user is validated, and nothing else happens. -/
def userAlone : List ValidatorCall := [.validateUser ⟨1⟩]

/-- A user is validated after five attempts at a content. -/
def userAfterContents : List ValidatorCall :=
  List.replicate 5 (.validateContent ⟨"post"⟩ ⟨1⟩) ++ userAlone

/-- The Profile API vouches for the user. -/
def profileAnswers : ValidatorEnv :=
  { ValidatorEnv.calm with
    profile := .answered 200 (some { userId := 7, displayName := "A", valid := true }) }

/-- What becomes of the user where the breaker lets the call through. -/
def userLetThrough : List CallStep :=
  [⟨.validateUser ⟨1⟩, .checkState 0, false⟩, ⟨.validateUser ⟨1⟩, .reset, false⟩]

/-- A user is validated with a content that cannot be found beside it: the answer is no
failure, and the user is let through as it would be alone. -/
theorem calls_decided_alone_not_found :
    ∃ trace last otherTrace otherLast,
      Run (M := validatorService .reference)
        (Pool.start (.new 5 30 .empty 0) userAlone) trace last ∧
      Run (M := validatorService .reference)
        (Pool.start (.new 5 30 .empty 0)
          (.validateContent ⟨"post"⟩ ⟨1⟩ :: userAlone)) otherTrace otherLast ∧
      callsTo .profileApi trace = userLetThrough ∧
      DecideAlike (callsTo .profileApi trace) (callsTo .profileApi otherTrace) := by
  obtain ⟨trace, last, run, passed⟩ := Run.exists_of_exec (M := validatorService .reference)
    (List.replicate 5 (0, profileAnswers)) (Pool.start (.new 5 30 .empty 0) userAlone)
    (fun trace _ => callsTo .profileApi trace = userLetThrough &&
      trace.all fun event => event.call.dependency .reference = some .profileApi)
    (by decide +kernel)
  obtain ⟨otherTrace, otherLast, otherRun, otherPassed⟩ :=
    Run.exists_of_exec (M := validatorService .reference)
      (List.replicate 6 (0, { ValidatorEnv.calm with content := .answered 404 none }) ++
        List.replicate 5 (1, profileAnswers))
      (Pool.start (.new 5 30 .empty 0) (.validateContent ⟨"post"⟩ ⟨1⟩ :: userAlone))
      (fun trace _ => callsTo .profileApi trace = userLetThrough &&
        trace.all fun event =>
          LeavesCells event.env.now event.before.breaker event.op)
      (by decide +kernel)
  simp only [Bool.and_eq_true, decide_eq_true_eq, List.all_eq_true] at passed otherPassed
  obtain ⟨view, own⟩ := passed
  obtain ⟨otherView, leaves⟩ := otherPassed
  refine ⟨trace, last, otherTrace, otherLast, run, otherRun, view, ?_⟩
  apply calls_decided_alone run otherRun
  · intro event member foreign
    exact absurd (own event member) foreign
  · intro event member _
    exact leaves event member
  · rw [view, otherView]
    decide

/-- Five contents fail, and the user is refused who would have been let through. -/
theorem call_refused_for_others :
    ∃ trace last otherTrace otherLast,
      Run (M := validatorService .reference)
        (Pool.start (.new 5 30 .empty 0) userAlone) trace last ∧
      Run (M := validatorService .reference)
        (Pool.start (.new 5 30 .empty 0) userAfterContents) otherTrace otherLast ∧
      SameCalls (callsTo .profileApi trace) (callsTo .profileApi otherTrace) ∧
      ¬ DecideAlike (callsTo .profileApi trace) (callsTo .profileApi otherTrace) := by
  obtain ⟨trace, last, run, passed⟩ := Run.exists_of_exec (M := validatorService .reference)
    (List.replicate 5 (0, profileAnswers)) (Pool.start (.new 5 30 .empty 0) userAlone)
    (fun trace _ => callsTo .profileApi trace = userLetThrough)
    (by decide +kernel)
  obtain ⟨otherTrace, otherLast, otherRun, otherPassed⟩ :=
    Run.exists_of_exec (M := validatorService .reference)
      ((List.range 5).flatMap (fun i => List.replicate 6 (i, ValidatorEnv.calm)) ++
        List.replicate 2 (5, profileAnswers))
      (Pool.start (.new 5 30 .empty 0) userAfterContents)
      (fun trace _ => callsTo .profileApi trace =
        [⟨.validateUser ⟨1⟩, .checkState 0, true⟩])
      (by decide +kernel)
  refine ⟨trace, last, otherTrace, otherLast, run, otherRun, ?_⟩
  rw [decide_eq_true_eq.mp passed, decide_eq_true_eq.mp otherPassed]
  decide

end SocialApi
