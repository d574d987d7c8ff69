/-
Module: SocialApi.Api.App
Purpose: The whole application: requests through authentication and rate limits to the
  handlers, with the validator, the limiter and the tasks of the service on one Redis.
Trusted boundary: human-reviewed model of create_app in lib.rs, of auth_middleware and
  rate_limit_layer in api/middleware.rs around the handlers, of api/health.rs and of
  full_health_check; failures, clocks, API answers and keys that leave Redis are contributed
  by the surroundings at each step
Main exports:
  AppSetting, HttpRequest, AppOp, AppProgram, runService, authenticated, rateLimited,
  HttpRequest.serve, AppCall, AppState, AppEnv, application
-/
import SocialApi.Api.Handlers

namespace SocialApi

open Process

/-! ### Requests -/

/-- The parameters of a deployment, and the limits of `Config`. -/
structure AppSetting where
  service : Setting
  validator : ValidatorSetting
  rateLimitReadPerMinute : Nat
  rateLimitWritePerMinute : Nat

/-- The default limits. -/
noncomputable def AppSetting.reference : AppSetting where
  service := .reference
  validator := .reference
  rateLimitReadPerMinute := 1000
  rateLimitWritePerMinute := 30

inductive Route where
  | guarded (route : ProtectedRoute)
  | free (route : PublicRoute)
  | live
  | ready

/-- A request with the value that `SetRequestIdLayer` has given its id. -/
structure HttpRequest where
  authorization : Option (List UInt8)
  ip : Option String
  requestId : List UInt8
  route : Route

def HttpRequest.ctx (req : HttpRequest) : ReqCtx := .fromRequestParts req.requestId

/-- What `full_health_check` asks. -/
inductive CheckedDependency where
  | db
  | cache
  | profileApi
deriving DecidableEq, Repr

/-- The steps that other calls can come between; `validated` hands a verdict to the service
that has asked for it. -/
inductive AppOp where
  | like (op : LikeOp)
  | validator (op : ValidatorOp)
  | limiter (op : LimiterOp)
  | validated (cType : ContentType) (cId : ContentId) (verdict : Except DomainError Uuid)
  | healthCheck (dependency : CheckedDependency)

/-- What each step answers. -/
@[reducible] def AppOp.Res : AppOp → Type
  | .like op => op.Res
  | .validator op => op.Res
  | .limiter op => op.Res
  | .validated .. => Unit
  | .healthCheck _ => Except DomainError Unit

abbrev AppProgram := Program AppOp AppOp.Res

/-- Take one step. -/
abbrev AppOp.take (op : AppOp) : AppProgram op.Res := Program.request op

/-- A request from outside, a request whose handler waits for a content validation that
starts over, or a task. -/
inductive AppCall where
  | request (req : HttpRequest)
  | validating (cType : ContentType) (cId : ContentId)
      (next : Except DomainError Uuid → Service AppReply)
  | task (call : LikeCall)

/-! ### The service behind the handlers -/

/-- The steps of the validator, among those of the application. -/
def inValidator {α : Type} (program : Validator α) : AppProgram α :=
  program.implement fun op => (AppOp.validator op).take

/-- The steps of the limiter, among those of the application. -/
def inLimiter {α : Type} (program : Program LimiterOp LimiterOp.Res α) : AppProgram α :=
  program.implement fun op => (AppOp.limiter op).take

/-- A program of the service, with the validator in place of `extern_repo`. -/
def runService (setting : ValidatorSetting) : Service AppReply → AppProgram (AppCall ⊕ AppReply)
  | .ret reply => return .inr reply
  | .perform (.validateContent cType cId) next => do
      match ← inValidator (HttpExternalValidator.validateContent setting cType cId) with
      | none => return .inl (.validating cType cId next)
      | some verdict =>
          AppOp.take (.validated cType cId verdict)
          runService setting (next verdict)
  | .perform op next => .perform (.like op) fun answer => runService setting (next answer)

/-! ### Layers -/

/-- `auth_middleware`, with what it gives the validated user id to. -/
def authenticated (setting : ValidatorSetting) (req : HttpRequest)
    (next : UserId → AppProgram (AppCall ⊕ AppReply)) : AppProgram (AppCall ⊕ AppReply) :=
  let refuse := fun e => AppReply.response (ApiError.intoResponse ⟨e, req.ctx.id⟩)
  match bearerToken setting req.authorization with
  | none => return .inr (refuse .unauthorized)
  | some token => do
      match ← inValidator (HttpExternalValidator.validateUser setting token) with
      | .error e => return .inr (refuse e)
      | .ok userId =>
          inValidator (perform (.nextRun ⟨userId⟩))
          next ⟨userId⟩

/-- A response with the headers of the layer. -/
def HttpResponse.limitedBy (headers : Option RateLimitHeaders) (response : HttpResponse) :
    HttpResponse :=
  { response with rateLimit := headers }

def AppReply.limitedBy (headers : Option RateLimitHeaders) : AppReply → AppReply
  | .response sent => .response (sent.limitedBy headers)
  | reply => reply

def tooManyRequests : HttpResponse := .json 429 (.text "Rate limit exceeded")

/-- `rate_limit_layer` around a handler. -/
def rateLimited (setting : ValidatorSetting) (req : LimitedRequest)
    (handler : Service AppReply) : AppProgram (AppCall ⊕ AppReply) := do
  let limited ← inLimiter (rateLimitLayer req)
  if limited.tooManyRequests then
    return .inr (.response (tooManyRequests.limitedBy limited.headers))
  else
    runService setting do
      let reply ← handler
      return reply.limitedBy limited.headers

/-- What the layer reads of a request that is counted for a user or an address. -/
def HttpRequest.limited (req : HttpRequest) (userId : Option UserId) (limit : Nat) :
    LimitedRequest where
  userId := userId
  ip := req.ip
  limit := limit
  window := 60

def liveness : HttpResponse := .json 200 (.text "\x7b\"status\":\"up\"\x7d")

/-- `full_health_check` -/
def fullHealthCheck : AppProgram (Except DomainError Unit) := do
  match ← (AppOp.healthCheck .db).take with
  | .error e => return .error e
  | .ok () =>
  match ← (AppOp.healthCheck .cache).take with
  | .error e => return .error e
  | .ok () =>
  match ← (AppOp.healthCheck .profileApi).take with
  | .error e => return .error e
  | .ok () => return .ok ()

/-- `create_app`: the layers of each route, outermost first, and its handler. -/
def HttpRequest.serve (setting : AppSetting) (req : HttpRequest) :
    AppProgram (AppCall ⊕ AppReply) :=
  match req.route with
  | .guarded route =>
      authenticated setting.validator req fun userId =>
        rateLimited setting.validator
          (req.limited (some userId) setting.rateLimitWritePerMinute)
          (route.handler setting.service req.ctx userId)
  | .free route =>
      rateLimited setting.validator (req.limited none setting.rateLimitReadPerMinute)
        (route.handler req.ctx)
  | .live => return .inr (.response liveness)
  | .ready => do
      let res ← fullHealthCheck
      return .inr (req.ctx.respond (fun _ => .json 200 (.text "")) res)

/-- What each call runs. -/
def AppCall.body (setting : AppSetting) : AppCall → AppProgram (AppCall ⊕ AppReply)
  | .request req => req.serve setting
  | .validating cType cId next =>
      runService setting.validator (.perform (.validateContent cType cId) next)
  | .task call => runService setting.validator do
      return .task (← call.body setting.service)

/-! ### Shared state -/

/-- Everything the calls share; the rate limits are kept in the same Redis. -/
structure AppState where
  world : World
  breaker : CircuitBreaker
  singleFlightLock : String → Bool
  buckets : TokenBuckets

/-- `create_app` over stores that are already there, with a validator of its own. -/
def AppState.new (world : World) (threshold : Nat) (timeout : Int) : AppState where
  world := world
  breaker := .fromEnv threshold timeout
  singleFlightLock := fun _ => false
  buckets := fun _ => none

/-- What the surroundings contribute to one step: the keys that leave Redis and the time
that passes before it, whether what it asks fails, the clock of the process, and the answers
that come from elsewhere. -/
structure AppEnv where
  expired : List String
  elapse : Nat
  fault : Option Fault
  now : DateTime
  newId : Uuid
  order : List Nat
  profile : HttpReply UserDto
  content : HttpReply ContentDto

/-- Nothing fails, nothing expires and no time passes, and no API is there. -/
def AppEnv.calm : AppEnv where
  expired := []
  elapse := 0
  fault := none
  now := 0
  newId := 0
  order := []
  profile := .unreachable
  content := .unreachable

namespace AppEnv

/-- The clock of the process in whole seconds. -/
def seconds (env : AppEnv) : Int := env.now / 1000000000

/-- What a step of the service sees.  No step of it asks for a verdict: that is handed over
by a step of its own. -/
def surroundings (env : AppEnv) (verdict : Except DomainError Uuid) : Surroundings where
  expired := env.expired
  elapse := env.elapse
  fault := env.fault
  verdict := verdict
  now := env.now
  newId := env.newId
  order := env.order

def validator (env : AppEnv) : ValidatorEnv where
  expired := env.expired
  elapse := env.elapse
  fault := env.fault
  now := env.seconds
  profile := env.profile
  content := env.content

end AppEnv

namespace AppState

/-- What the validator sees. -/
def validator (state : AppState) : ValidatorState where
  redis := state.world.redis
  clock := state.world.clock
  breaker := state.breaker
  singleFlightLock := state.singleFlightLock

def withValidator (state : AppState) (validator : ValidatorState) : AppState :=
  { state with
    world := { state.world with redis := validator.redis, clock := validator.clock }
    breaker := validator.breaker
    singleFlightLock := validator.singleFlightLock }

/-- The state a step finds: time has passed and keys have left. -/
def advance (env : AppEnv) (state : AppState) : AppState :=
  { state with
    world := state.world.advance (env.surroundings (.error .cacheMiss))
    buckets := fun key => if key ∈ env.expired then none else state.buckets key }

/-- The error of a dependency that is not well. -/
def healthError (fault : Fault) : CheckedDependency → DomainError
  | .db => .databaseHealthError fault.display
  | .cache => match fault with
      | .noConnection => .cacheOffline
      | .failed display _ => .cacheHealthError display
  | .profileApi => .dependencyHealtError fault.display

/-- The effect and the answer of one step, and the tasks it starts. -/
def answer (setting : AppSetting) (env : AppEnv) :
    (op : AppOp) → AppState → Option (op.Res × AppState × List AppCall)
  | .like op, state =>
      match World.serve setting.service (env.surroundings (.error .cacheMiss)) op
        state.world with
      | none => none
      | some (answer, world, spawned) =>
          some (answer, { state with world := world }, spawned.map .task)
  | .validator op, state =>
      let (answer, validator) := state.validator.serve env.validator op
      some (answer, state.withValidator validator, [])
  | .limiter (.checkLimit key limit windowSecs), state =>
      let (answer, buckets) := checkLimit env.fault state.world.clock env.seconds.toNat key
        limit windowSecs state.buckets
      some (answer, { state with buckets := buckets }, [])
  | .limiter .nextRun, state => some ((), state, [])
  | .validated _ _ _, state => some ((), state, [])
  | .healthCheck dependency, state =>
      some (match env.fault with
        | none => .ok ()
        | some fault => .error (healthError fault dependency), state, [])

/-- One step, from the state the surroundings left. -/
def handle (setting : AppSetting) (env : AppEnv) (op : AppOp) (state : AppState) :
    Option (op.Res × AppState × List AppCall) :=
  (state.advance env).answer setting env op

end AppState

/-- The application as a system of interleaved calls. -/
@[reducible] def application (setting : AppSetting) : System where
  Op := AppOp
  Res := AppOp.Res
  State := AppState
  Env := AppEnv
  Call := AppCall
  Reply := AppReply
  body := AppCall.body setting
  handle := AppState.handle setting

end SocialApi
