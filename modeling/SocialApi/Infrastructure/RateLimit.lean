/-
Module: SocialApi.Infrastructure.RateLimit
Purpose: The token bucket script in Redis, the limiter that calls it and the layer in front
  of the handlers, and requests from several replicas as a system.
Trusted boundary: human-reviewed model of redis/rate_limit.lua, of check_limit in
  redis/like_repository.rs and of rate_limit_layer in api/middleware.rs; numbers are exact
  rationals, and the clocks of the replicas, failures and expiry are contributed by the
  surroundings
Main exports:
  TokenBucket, rateLimitScript, RateLimitStatus, checkLimit, rateLimitLayer, LimiterState,
  LimiterEnv, limiterService
-/
import SocialApi.Infrastructure.Redis
import SocialApi.Ledger.TokenBucket
import SocialApi.Process.System

namespace SocialApi

open Process

/-! ### The script -/

/-- The hash under a rate limit key, with the second it is due to expire at. -/
structure TokenBucket where
  tokens : ℚ
  lastUpdate : ℚ
  deadline : Int
deriving DecidableEq

/-- The rate limit keys of Redis. -/
abbrev TokenBuckets := String → Option TokenBucket

/-- `rate_limit.lua`, at the second `clock` of the Redis server.  The reply is the number of
whole tokens left, the seconds until the bucket is full, and whether the request can be
processed. -/
def rateLimitScript (clock : Int) (capacity fillRate now cost : ℚ)
    (bucket : Option TokenBucket) : (Int × Int × Bool) × Option TokenBucket :=
  let lastTokens := (bucket.map TokenBucket.tokens).getD capacity
  let lastUpdate := (bucket.map TokenBucket.lastUpdate).getD now
  let delta := max 0 (now - lastUpdate)
  let currentTokens := min capacity (lastTokens + delta * fillRate)
  let reply := fun (tokens : ℚ) (allowed : Bool) =>
    (⌊tokens⌋, ⌈(capacity - tokens) / fillRate⌉, allowed)
  if cost ≤ currentTokens then
    (reply (currentTokens - cost) true,
      some { tokens := currentTokens - cost, lastUpdate := now, deadline := clock + 3600 })
  else (reply currentTokens false, bucket)

structure RateLimitStatus where
  allowed : Bool
  remaining : Nat
  limit : Nat
  resetAfter : Nat
deriving DecidableEq, Repr

/-- `as u64` -/
def castU64 (n : Int) : Nat := (n % 2 ^ 64).toNat

/-- `check_limit`; `now` is the clock of the replica that asks. -/
def checkLimit (fault : Option Fault) (clock : Int) (now : Nat) (key : String)
    (limit windowSecs : Nat) (buckets : TokenBuckets) :
    Except DomainError RateLimitStatus × TokenBuckets :=
  match fault with
  | some e => (.error (RedisLikeRepository.faultError e), buckets)
  | none =>
      let fillRate := (limit : ℚ) / windowSecs
      let (result, bucket) := rateLimitScript clock limit fillRate now 1 (buckets key)
      (.ok
        { allowed := result.2.2
          remaining := castU64 result.1
          limit := limit
          resetAfter := castU64 result.2.1 },
        Function.update buckets key bucket)

/-! ### The layer -/

/-- What `rate_limit_layer` reads of a request, and the limit of its route. -/
structure LimitedRequest where
  userId : Option UserId
  ip : Option String
  limit : Nat
  window : Nat
deriving DecidableEq, Repr

def extractKey (req : LimitedRequest) : String :=
  match req.userId, req.ip with
  | some userId, _ => "rl:user:" ++ userId.uuid.text
  | none, some ip => "rl:ip:" ++ ip
  | none, none => "rl:unknown"

/-- The headers that the layer inserts. -/
structure RateLimitHeaders where
  limit : Nat
  remaining : Nat
  reset : Nat
  retryAfter : Option Nat
deriving DecidableEq, Repr

/-- A response that comes from the handlers, or is 429. -/
structure LimitedResponse where
  tooManyRequests : Bool
  headers : Option RateLimitHeaders
deriving DecidableEq, Repr

/-- The steps that other requests can come between. -/
inductive LimiterOp where
  | checkLimit (key : String) (limit windowSecs : Nat)
  | nextRun
deriving DecidableEq, Repr

/-- What each step answers. -/
@[reducible] def LimiterOp.Res : LimiterOp → Type
  | .checkLimit .. => Except DomainError RateLimitStatus
  | .nextRun => Unit

/-- Take one step. -/
abbrev LimiterOp.take (op : LimiterOp) : Program LimiterOp LimiterOp.Res op.Res :=
  Program.request op

/-- `rate_limit_layer`; where the limiter fails, the request goes through. -/
def rateLimitLayer (req : LimitedRequest) :
    Program LimiterOp LimiterOp.Res LimitedResponse := do
  let key := extractKey req
  match ← (LimiterOp.checkLimit key req.limit req.window).take with
  | .error _ =>
      LimiterOp.nextRun.take
      return { tooManyRequests := false, headers := none }
  | .ok status =>
      if !status.allowed then
        return {
          tooManyRequests := true
          headers := some
            { limit := req.limit
              remaining := status.remaining
              reset := status.resetAfter
              retryAfter := some status.resetAfter } }
      else
        LimiterOp.nextRun.take
        return {
          tooManyRequests := false
          headers := some
            { limit := req.limit
              remaining := status.remaining
              reset := status.resetAfter
              retryAfter := none } }

/-! ### Requests from several replicas -/

/-- What the replicas share. -/
structure LimiterState where
  buckets : TokenBuckets
  /-- Unix seconds on the Redis server. -/
  clock : Int

/-- What the surroundings contribute to one step: the keys that leave Redis and the time
that passes before it, whether Redis fails, and the clock of the replica. -/
structure LimiterEnv where
  expired : List String
  elapse : Nat
  fault : Option Fault
  now : Nat

/-- The state a step finds. -/
def LimiterState.advance (env : LimiterEnv) (state : LimiterState) : LimiterState where
  buckets := fun key => if key ∈ env.expired then none else state.buckets key
  clock := state.clock + env.elapse

/-- The effect and the answer of one step; no request is started by another. -/
def LimiterState.handle (env : LimiterEnv) (op : LimiterOp) (state : LimiterState) :
    Option (op.Res × LimiterState × List LimitedRequest) :=
  let found := state.advance env
  match op with
  | .checkLimit key limit windowSecs =>
      let (answer, buckets) :=
        SocialApi.checkLimit env.fault found.clock env.now key limit windowSecs found.buckets
      some (answer, { found with buckets := buckets }, [])
  | .nextRun => some ((), found, [])

/-- Limited requests as a system. -/
@[reducible] def limiterService : System where
  Op := LimiterOp
  Res := LimiterOp.Res
  State := LimiterState
  Env := LimiterEnv
  Call := LimitedRequest
  Reply := LimitedResponse
  body := fun req => do return .inr (← rateLimitLayer req)
  handle := LimiterState.handle

end SocialApi
