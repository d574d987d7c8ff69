/-
Module: SocialApi.Api.Middleware
Purpose: Bearer authentication in front of the protected handlers, and the validator
  with its requests as a system of interleaved calls.
Trusted boundary: human-reviewed model of auth_middleware in api/middleware.rs; uuid
  parsing is a parameter, and API answers, clocks, Redis failures and the keys that
  leave Redis are contributed by the surroundings at each step
Main exports:
  headerToStr, bearerToken, authMiddleware, ValidatorCall, ValidatorState,
  ValidatorEnv, ValidatorState.handle, validatorService
-/
import SocialApi.Infrastructure.HttpExternalValidator

namespace SocialApi

open Process
open HttpExternalValidator

/-! ### The bearer token -/

/-- `HeaderValue::to_str`: visible ASCII, blanks and tabs only. -/
def headerToStr (value : List UInt8) : Option String :=
  if value.all fun byte => byte = 9 ∨ (32 ≤ byte ∧ byte < 127) then
    some (String.ofList (value.map fun byte => Char.ofNat byte.toNat))
  else none

/-- The token of an `Authorization` header, if there is one and it can be parsed. -/
def bearerToken (setting : ValidatorSetting) (header : Option (List UInt8)) :
    Option UserId :=
  match header.bind headerToStr with
  | none => none
  | some authHeader =>
      if "Bearer ".toList.isPrefixOf authHeader.toList then
        let rawToken := String.ofList (authHeader.toList.drop 7)
        (setting.parseStr rawToken).map UserId.mk
      else none

/-- `auth_middleware`; the request goes on with the id that was validated. -/
def authMiddleware (setting : ValidatorSetting) (header : Option (List UInt8)) :
    Validator (Except DomainError Unit) :=
  match bearerToken setting header with
  | none => return .error .unauthorized
  | some token => do
      match ← validateUser setting token with
      | .error e => return .error e
      | .ok userId =>
          perform (.nextRun ⟨userId⟩)
          return .ok ()

/-! ### Calls -/

inductive ValidatorCall where
  | validateUser (token : UserId)
  | validateContent (cType : ContentType) (cId : ContentId)
  | authMiddleware (header : Option (List UInt8))
deriving DecidableEq

inductive ValidatorReply where
  | validateUser (result : Except DomainError Uuid)
  | validateContent (result : Except DomainError Uuid)
  | authMiddleware (result : Except DomainError Unit)

/-- What each call runs.  A content validation that found another one in flight
starts over. -/
def ValidatorCall.body (setting : ValidatorSetting) :
    ValidatorCall → Validator (ValidatorCall ⊕ ValidatorReply)
  | .validateUser token => do
      return .inr (.validateUser (← HttpExternalValidator.validateUser setting token))
  | .validateContent cType cId => do
      match ← HttpExternalValidator.validateContent setting cType cId with
      | none => return .inl (.validateContent cType cId)
      | some result => return .inr (.validateContent result)
  | .authMiddleware header => do
      return .inr (.authMiddleware (← SocialApi.authMiddleware setting header))

/-! ### Shared state -/

/-- Everything the calls share. -/
structure ValidatorState where
  redis : Redis
  /-- Unix seconds, as Redis counts time. -/
  clock : Int
  breaker : CircuitBreaker
  singleFlightLock : String → Bool

/-- `HttpExternalValidator::new` over a Redis that is already there. -/
def ValidatorState.new (threshold : Nat) (timeout : Int) (redis : Redis) (clock : Int) :
    ValidatorState where
  redis := redis
  clock := clock
  breaker := .fromEnv threshold timeout
  singleFlightLock := fun _ => false

/-- What the surroundings contribute to one step: the keys that leave Redis and the
time that passes before it, whether Redis fails, the time on the clock of the process,
and what the two APIs answer. -/
structure ValidatorEnv where
  expired : List String
  elapse : Nat
  fault : Option Fault
  now : Int
  profile : HttpReply UserDto
  content : HttpReply ContentDto

/-- Nothing fails and nothing expires, and no API is there. -/
def ValidatorEnv.calm : ValidatorEnv where
  expired := []
  elapse := 0
  fault := none
  now := 0
  profile := .unreachable
  content := .unreachable

/-- The state a step finds: time has passed and keys have left. -/
def ValidatorState.advance (env : ValidatorEnv) (state : ValidatorState) :
    ValidatorState :=
  { state with
    redis := state.redis.drop env.expired
    clock := state.clock + env.elapse }

/-- The effect and the answer of one step. -/
def ValidatorState.serve (env : ValidatorEnv) :
    (op : ValidatorOp) → ValidatorState → op.Res × ValidatorState
  | .getString key, state =>
      (RedisLikeRepository.getString env.fault key state.redis, state)
  | .setString key value ttl, state =>
      let (answer, redis) :=
        RedisLikeRepository.setString env.fault state.clock key value ttl state.redis
      (answer, { state with redis := redis })
  | .checkState, state =>
      let (answer, breaker) := state.breaker.checkState env.now
      (answer, { state with breaker := breaker })
  | .reset, state => ((), { state with breaker := state.breaker.reset })
  | .recordFailure, state =>
      ((), { state with breaker := state.breaker.recordFailure env.now })
  | .getProfile _ _, state => (env.profile, state)
  | .getContent _, state => (env.content, state)
  | .singleFlightInsert cacheKey, state =>
      (!state.singleFlightLock cacheKey,
        { state with
          singleFlightLock := Function.update state.singleFlightLock cacheKey true })
  | .singleFlightRemove cacheKey, state =>
      ((), { state with
        singleFlightLock := Function.update state.singleFlightLock cacheKey false })
  | .sleep _, state => ((), state)
  | .nextRun _, state => ((), state)

/-- One step, from the state the surroundings left; no call is started by another. -/
def ValidatorState.handle (env : ValidatorEnv) (op : ValidatorOp)
    (state : ValidatorState) : Option (op.Res × ValidatorState × List ValidatorCall) :=
  let (answer, after) := (state.advance env).serve env op
  some (answer, after, [])

/-- The validator as a system of interleaved calls. -/
@[reducible] def validatorService (setting : ValidatorSetting) : System where
  Op := ValidatorOp
  Res := ValidatorOp.Res
  State := ValidatorState
  Env := ValidatorEnv
  Call := ValidatorCall
  Reply := ValidatorReply
  body := ValidatorCall.body setting
  handle := ValidatorState.handle

/-! ### What one step changes -/

section Frame

variable {env : ValidatorEnv} {op : ValidatorOp} {state after : ValidatorState}
  {answer : op.Res} {spawned : List ValidatorCall}

/-- Keys that do not leave are found as they were. -/
theorem ValidatorState.advance_redis {key : String} (kept : key ∉ env.expired) :
    (state.advance env).redis key = state.redis key :=
  Redis.drop_of_not_mem _ kept

/-- The cells of the breaker after a step. -/
def ValidatorState.breakerAfter (env : ValidatorEnv) (breaker : CircuitBreaker) :
    ValidatorOp → CircuitBreaker
  | .checkState => (breaker.checkState env.now).2
  | .reset => breaker.reset
  | .recordFailure => breaker.recordFailure env.now
  | _ => breaker

theorem ValidatorState.handle_breaker
    (handled : ValidatorState.handle env op state = some (answer, after, spawned)) :
    after.breaker = ValidatorState.breakerAfter env state.breaker op := by
  cases op <;>
  · simp only [handle, serve, Option.some.injEq, Prod.mk.injEq] at handled
    obtain ⟨-, rfl, -⟩ := handled
    rfl

/-- The key space after a step, from the one the step finds. -/
def ValidatorState.redisAfter (env : ValidatorEnv) (now : Int) (store : Redis) :
    ValidatorOp → Redis
  | .setString key value ttl =>
      (RedisLikeRepository.setString env.fault now key value ttl store).2
  | _ => store

theorem ValidatorState.handle_redis
    (handled : ValidatorState.handle env op state = some (answer, after, spawned)) :
    after.redis = ValidatorState.redisAfter env (state.advance env).clock
        (state.advance env).redis op ∧
      after.clock = (state.advance env).clock := by
  cases op <;>
  · simp only [handle, serve, Option.some.injEq, Prod.mk.injEq] at handled
    obtain ⟨-, rfl, -⟩ := handled
    exact ⟨rfl, rfl⟩

/-- The single-flight lock after a step. -/
def ValidatorState.lockAfter (lock : String → Bool) : ValidatorOp → String → Bool
  | .singleFlightInsert cacheKey => Function.update lock cacheKey true
  | .singleFlightRemove cacheKey => Function.update lock cacheKey false
  | _ => lock

theorem ValidatorState.handle_lock
    (handled : ValidatorState.handle env op state = some (answer, after, spawned)) :
    spawned = [] ∧
      after.singleFlightLock = ValidatorState.lockAfter state.singleFlightLock op := by
  cases op <;>
  · simp only [handle, serve, Option.some.injEq, Prod.mk.injEq] at handled
    obtain ⟨-, rfl, rfl⟩ := handled
    exact ⟨rfl, rfl⟩

/-- An insert answers whether the key was free. -/
theorem ValidatorState.handle_insert {cacheKey : String} {inserted : Bool}
    (handled : ValidatorState.handle env (.singleFlightInsert cacheKey) state =
      some (inserted, after, spawned)) : inserted = !state.singleFlightLock cacheKey := by
  simp only [handle, serve, Option.some.injEq, Prod.mk.injEq] at handled
  exact handled.1.symm

/-- A free key can be taken. -/
theorem ValidatorState.handle_free {cacheKey : String}
    (free : state.singleFlightLock cacheKey = false) :
    ∃ next, ValidatorState.handle env (.singleFlightInsert cacheKey) state =
      some (true, next, []) := by
  have served : ValidatorState.handle env (.singleFlightInsert cacheKey) state =
      some (!state.singleFlightLock cacheKey, _, []) := rfl
  rw [free] at served
  exact ⟨_, served⟩

/-- A read answers what the step finds under the key. -/
theorem ValidatorState.handle_getString {key : String}
    {read : Except DomainError (Option String)}
    (handled : ValidatorState.handle env (.getString key) state =
      some (read, after, spawned)) :
    read = RedisLikeRepository.getString env.fault key (state.advance env).redis := by
  simp only [handle, serve, Option.some.injEq, Prod.mk.injEq] at handled
  exact handled.1.symm

/-- The content API answers what the surroundings contribute. -/
theorem ValidatorState.handle_getContent {url : String} {reply : HttpReply ContentDto}
    (handled : ValidatorState.handle env (.getContent url) state =
      some (reply, after, spawned)) : reply = env.content := by
  simp only [handle, serve, Option.some.injEq, Prod.mk.injEq] at handled
  exact handled.1.symm

/-- A check answers what the cells of the breaker say. -/
theorem ValidatorState.handle_checkState {verdict : BreakerState}
    (handled : ValidatorState.handle env .checkState state =
      some (verdict, after, spawned)) :
    verdict = (state.breaker.checkState env.now).1 := by
  simp only [handle, serve, Option.some.injEq, Prod.mk.injEq] at handled
  exact handled.1.symm

end Frame

end SocialApi
