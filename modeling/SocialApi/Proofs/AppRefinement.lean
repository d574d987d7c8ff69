/-
Module: SocialApi.Proofs.AppRefinement
Purpose: The application with its layers, its validator and its limiter, step by step, is the
  service: what holds of every run of the service holds behind every request.
Trusted boundary: none
Main exports:
  ProtectedRoute.call, PublicRoute.call, ReqCtx.answer, Refusal, serviceProjection,
  serviceProjection_lawful, ServedBy, application_run_serves, http_refines_service
-/
import SocialApi.Api.App
import SocialApi.Process.Refinement
import SocialApi.Proofs.ConcurrentCounts
import SocialApi.Proofs.ServedStore

namespace SocialApi

open Process

/-! ### Requests and calls -/

/-- The call of the service that a handler makes for a user. -/
def ProtectedRoute.call (userId : UserId) : ProtectedRoute → Option LikeCall
  | .postLike (.ok payload) => some (.addLike (.ofRequest userId payload))
  | .deleteUnlike (.ok path) => some (.removeLike userId path.1 path.2)
  | .getStatus (.ok path) => some (.getLikeStatus userId path.1 path.2)
  | .getUserLikes (.ok query) => some (.getUserLikedItems userId query.contentType query.cursor
      ((query.limit.map Fin.val).getD 20))
  | .getStatusBatch (.ok items) => some (.getBatchStatus userId items)
  | _ => none

def PublicRoute.call : PublicRoute → Option LikeCall
  | .getCountBatch (.ok items) => some (.getLikesCountBatch items)
  | .getCount (.ok path) => some (.getLikeCount path.1 path.2)
  | .getTopLikes (.ok query) => some (.getTopLikes ⟨query.contentType.getD "all"⟩ query.window
      (query.limit.getD 10))
  | _ => none

/-- A request can make the call, for some user where its route is guarded. -/
def HttpRequest.Makes (req : HttpRequest) (call : LikeCall) : Prop :=
  match req.route with
  | .guarded route => ∃ userId, route.call userId = some call
  | .free route => route.call = some call
  | _ => False

/-- What a handler makes of what its call comes back with. -/
def ReqCtx.answer (ctx : ReqCtx) : LikeReply → AppReply
  | .addLike result => ctx.respond (fun value => .json 201 (.like (.ofResult value))) result
  | .removeLike result => ctx.respond (fun value => .json 200 (.unlike value)) result
  | .getLikeCount result => ctx.respond (fun value => .json 200 (.count value)) result
  | .getLikeStatus result => ctx.respond (fun value => .json 200 (.status value)) result
  | .getLikesCountBatch result => ctx.respond (fun value => .json 200 (.counts value)) result
  | .getBatchStatus result => ctx.respond (fun value => .json 200 (.statuses value)) result
  | .getUserLikedItems (.panicked message) => .aborted message
  | .getUserLikedItems (.done result) =>
      ctx.respond (fun value => .json 200 (.userLikes value)) result
  | .getTopLikes result => ctx.respond (fun value => .json 200 (.topLikes value)) result
  | reply => .task (.inr reply)

/-- Why an extractor cannot read a request. -/
def Extracted.rejection {α : Type} : Extracted α → Option Rejection
  | .error rejection => some rejection
  | .ok _ => none

def ProtectedRoute.rejection : ProtectedRoute → Option Rejection
  | .postLike payload => payload.rejection
  | .deleteUnlike path => path.rejection
  | .getStatus path => path.rejection
  | .getUserLikes query => query.rejection
  | .getStatusBatch payload => payload.rejection

def PublicRoute.rejection : PublicRoute → Option Rejection
  | .getCountBatch payload => payload.rejection
  | .getCount path => path.rejection
  | .getTopLikes query => query.rejection
  | .sseStream query => query.rejection

def Route.rejection : Route → Option Rejection
  | .guarded route => route.rejection
  | .free route => route.rejection
  | _ => none

/-- The answered operations of a request. -/
abbrev AppAnswers := List ((op : AppOp) × op.Res)

/-- Answered operations of the validator, among those of the application. -/
def ofValidator (asked : List ((op : ValidatorOp) × op.Res)) : AppAnswers :=
  asked.map fun step => ⟨.validator step.1, step.2⟩

/-- Answered operations of the limiter, among those of the application. -/
def ofLimiter (asked : List ((op : LimiterOp) × op.Res)) : AppAnswers :=
  asked.map fun step => ⟨.limiter step.1, step.2⟩

/-- The last thing that the request has done is to ask the limiter, for its user or address. -/
def CountedLast (req : HttpRequest) (answers : AppAnswers) (limited : LimitedResponse) : Prop :=
  ∃ userId limit front asked, answers = front ++ ofLimiter asked ∧
    (rateLimitLayer (req.limited userId limit)).Leads limited asked

/-- How a request is answered without the service, by what it has been answered so far: it
brings no token, or one that the validator has refused; the limiter has counted too many; its
extractor cannot read it; or it asks for nothing that the service does. -/
inductive Refusal (setting : AppSetting) (req : HttpRequest) (answers : AppAnswers) :
    AppReply → Prop where
  | noToken (route : ProtectedRoute) (guarded : req.route = .guarded route)
      (absent : bearerToken setting.validator req.authorization = none) (first : answers = []) :
      Refusal setting req answers
        (.response (ApiError.intoResponse ⟨.unauthorized, req.ctx.id⟩))
  | unauthenticated (route : ProtectedRoute) (guarded : req.route = .guarded route)
      (token : UserId) (present : bearerToken setting.validator req.authorization = some token)
      (asked : List ((op : ValidatorOp) × op.Res)) (only : answers = ofValidator asked)
      (e : DomainError)
      (verdict : (HttpExternalValidator.validateUser setting.validator token).Leads (.error e)
        asked) :
      Refusal setting req answers (.response (ApiError.intoResponse ⟨e, req.ctx.id⟩))
  | limited (limited : LimitedResponse) (counted : CountedLast req answers limited)
      (tooMany : limited.tooManyRequests = true) :
      Refusal setting req answers (.response (tooManyRequests.limitedBy limited.headers))
  | rejected (limited : LimitedResponse) (counted : CountedLast req answers limited)
      (allowed : limited.tooManyRequests = false) (rejection : Rejection)
      (extracted : req.route.rejection = some rejection) :
      Refusal setting req answers
        (.response (rejection.intoResponse.limitedBy limited.headers))
  | stream (limited : LimitedResponse) (counted : CountedLast req answers limited)
      (allowed : limited.tooManyRequests = false) (query : StreamQuery)
      (free : req.route = .free (.sseStream (.ok query))) :
      Refusal setting req answers (.response
        ((HttpResponse.json 200 (.stream query.contentType query.contentId)).limitedBy
          limited.headers))
  | live (route : req.route = .live) : Refusal setting req answers (.response liveness)
  | ready (route : req.route = .ready) (result : Except DomainError Unit)
      (checked : fullHealthCheck.Leads result answers) :
      Refusal setting req answers (req.ctx.respond (fun _ => .json 200 (.text "")) result)

/-! ### Programs of the service that run side by side -/

/-- Two programs take the same steps and come back with values that belong together. -/
def Parallel (Related : AppReply → LikeReply → Prop) :
    Service AppReply → Service (LikeCall ⊕ LikeReply) → Prop
  | .ret reply, rest => ∃ likeReply, rest = .ret (.inr likeReply) ∧ Related reply likeReply
  | .perform op next, rest => ∃ next', rest = .perform op next' ∧
      ∀ answer, Parallel Related (next answer) (next' answer)

section Parallel

variable {Related Wider : AppReply → LikeReply → Prop}

/-- What is made of one result on both sides. -/
theorem parallel_pure {α : Type} (code : Service α) {finish : α → AppReply}
    {wrap : α → LikeReply} (related : ∀ value, Related (finish value) (wrap value)) :
    Parallel Related (code >>= fun value => pure (finish value))
      (code >>= fun value => pure (.inr (wrap value))) := by
  induction code with
  | ret value => exact ⟨wrap value, rfl, related value⟩
  | perform op next inductionHypothesis => exact ⟨_, rfl, inductionHypothesis⟩

/-- What is made of the result afterwards. -/
theorem Parallel.map {service : Service AppReply} {rest : Service (LikeCall ⊕ LikeReply)}
    (parallel : Parallel Related service rest) {change : AppReply → AppReply}
    (widens : ∀ reply likeReply, Related reply likeReply → Wider (change reply) likeReply) :
    Parallel Wider (service >>= fun reply => pure (change reply)) rest := by
  induction service generalizing rest with
  | ret reply =>
      obtain ⟨likeReply, rfl, related⟩ := parallel
      exact ⟨likeReply, rfl, widens _ _ related⟩
  | perform op next inductionHypothesis =>
      obtain ⟨next', rfl, parallels⟩ := parallel
      exact ⟨next', rfl, fun answer => inductionHypothesis answer (parallels answer)⟩

/-- What is made of a result in two steps. -/
theorem pure_bind_pure {α β γ : Type} (code : Service α) (first : α → β) (later : β → γ) :
    (code >>= fun value => pure (first value)) >>= (fun value => pure (later value)) =
      code >>= fun value => pure (later (first value)) := by
  induction code with
  | ret value => rfl
  | perform op next inductionHypothesis => exact congrArg _ (funext inductionHypothesis)

/-- Every call does what it does and wraps the result up. -/
theorem LikeCall.body_shape (setting : Setting) (call : LikeCall) :
    ∃ (α : Type) (code : Service α) (wrap : α → LikeReply),
      call.body setting = code >>= fun value => pure (.inr (wrap value)) := by
  cases call <;> exact ⟨_, _, _, rfl⟩

variable (setting : Setting) (ctx : ReqCtx)

/-- A guarded handler runs the call that it makes. -/
theorem guarded_parallel {route : ProtectedRoute} {userId : UserId} {call : LikeCall}
    (makes : route.call userId = some call) :
    Parallel (fun reply likeReply => reply = ctx.answer likeReply)
      (route.handler setting ctx userId) (call.body setting) := by
  cases route with
  | getUserLikes query =>
      cases query with
      | error rejection => cases makes
      | ok query =>
          obtain rfl := Option.some.inj makes
          apply parallel_pure
          intro outcome
          cases outcome <;> rfl
  | _ extracted =>
      cases extracted with
      | error rejection => cases makes
      | ok value =>
          obtain rfl := Option.some.inj makes
          exact parallel_pure _ fun _ => rfl

/-- A handler that anyone may ask runs the call that it makes. -/
theorem free_parallel {route : PublicRoute} {call : LikeCall} (makes : route.call = some call) :
    Parallel (fun reply likeReply => reply = ctx.answer likeReply) (route.handler ctx)
      (call.body setting) := by
  cases route with
  | sseStream query => cases query <;> cases makes
  | _ extracted =>
      cases extracted with
      | error rejection => cases makes
      | ok value =>
          obtain rfl := Option.some.inj makes
          exact parallel_pure _ fun _ => rfl

end Parallel

/-! ### The steps of the validator -/

/-- A validation writes only under the keys of the validator, and lets no request through by
itself. -/
def ValidatorOp.KeepsApart : ValidatorOp → Prop
  | .setString key _ _ => IsVerdictKey key
  | .nextRun _ => False
  | _ => True

/-- A step that writes at most a verdict. -/
def ValidatorOp.WritesVerdicts (op : ValidatorOp) : Prop :=
  ∀ key value ttl, op = .setString key value ttl → IsVerdictKey key

theorem ValidatorOp.KeepsApart.writesVerdicts {op : ValidatorOp} (keeps : op.KeepsApart) :
    op.WritesVerdicts := by
  rintro key value ttl rfl
  exact keeps

section Validator

open HttpExternalValidator

variable (setting : ValidatorSetting)

theorem userKey_isVerdictKey (token : UserId) : IsVerdictKey (userKey token) := by
  unfold IsVerdictKey userKey
  rw [String.toList_append]
  rfl

theorem contentKey_isVerdictKey (cType : ContentType) (cId : ContentId) :
    IsVerdictKey (contentKey cType cId) := by
  unfold IsVerdictKey contentKey
  rw [String.toList_append, String.toList_append, String.toList_append]
  rfl

theorem getCachedValidation_keepsApart (key : String) :
    (getCachedValidation setting key).Performs ValidatorOp.KeepsApart := by
  refine ⟨trivial, fun read => ?_⟩
  match read with
  | .error e => trivial
  | .ok none => trivial
  | .ok (some s) => trivial

theorem setCachedValidation_keepsApart {key : String} (verdict : IsVerdictKey key)
    (result : ValidationResult) (ttl : Nat) :
    (setCachedValidation setting key result ttl).Performs ValidatorOp.KeepsApart :=
  ⟨verdict, fun _ => trivial⟩

/-- A request behind the breaker. -/
theorem call_keepsApart {α : Type} {f : Validator (Except DomainError α)}
    (keeps : f.Performs ValidatorOp.KeepsApart) :
    (call f).Performs ValidatorOp.KeepsApart := by
  have outcome : ∀ result : Except DomainError α,
      (recordOutcome result).Performs ValidatorOp.KeepsApart := by
    intro result
    cases result with
    | ok data => exact ⟨trivial, fun _ => trivial⟩
    | error err => cases err <;> first | trivial | exact ⟨trivial, fun _ => trivial⟩
  refine ⟨trivial, fun verdict => ?_⟩
  cases verdict with
  | opened => trivial
  | closed => exact keeps.bind outcome
  | halfOpen => exact keeps.bind outcome

theorem validateUser_keepsApart (token : UserId) :
    (validateUser setting token).Performs ValidatorOp.KeepsApart := by
  have calls : (callProfileApi setting token).Performs ValidatorOp.KeepsApart :=
    call_keepsApart ⟨trivial, fun _ => trivial⟩
  have fetches : (fetchUser setting token).Performs ValidatorOp.KeepsApart := by
    refine calls.bind fun result => ?_
    cases result with
    | error e => trivial
    | ok userId =>
        exact (setCachedValidation_keepsApart setting (userKey_isVerdictKey token) _ _).bind
          fun _ => trivial
  refine (getCachedValidation_keepsApart setting _).bind fun cached => ?_
  match cached with
  | some (.valid userId) => trivial
  | some .notFound => exact fetches
  | none => exact fetches

theorem validateContent_keepsApart (cType : ContentType) (cId : ContentId) :
    (validateContent setting cType cId).Performs ValidatorOp.KeepsApart := by
  have calls : (callContentApi setting cType cId).Performs ValidatorOp.KeepsApart := by
    unfold callContentApi
    split
    · trivial
    · exact call_keepsApart ⟨trivial, fun _ => trivial⟩
  have keeps : ∀ result : Except DomainError Uuid,
      (cacheVerdict setting (contentKey cType cId) result).Performs
        ValidatorOp.KeepsApart := by
    intro result
    match result with
    | .ok uuid => exact setCachedValidation_keepsApart setting (contentKey_isVerdictKey _ _) _ _
    | .error err =>
        cases err <;> first
          | trivial
          | exact setCachedValidation_keepsApart setting (contentKey_isVerdictKey _ _) _ _
  have fetches : (fetchContent setting cType cId).Performs ValidatorOp.KeepsApart :=
    calls.bind fun result => (keeps result).bind fun _ => ⟨trivial, fun _ => trivial⟩
  refine (getCachedValidation_keepsApart setting _).bind fun cached => ?_
  match cached with
  | some (.valid uuid) => trivial
  | some .notFound => trivial
  | none =>
      refine ⟨trivial, fun inserted => ?_⟩
      cases inserted with
      | false => exact ⟨trivial, fun _ => trivial⟩
      | true =>
          show (fetchContent setting cType cId >>= fun result => pure (some result)).Performs _
          exact fetches.bind fun _ => trivial

end Validator

/-! ### The application as the service -/

/-- The step of the service that a step of the application is; a verdict handed over is the
answer that the service gets. -/
def likeShare : (op : AppOp) → op.Res → Option ((op : LikeOp) × op.Res)
  | .like op, answer => some ⟨op, answer⟩
  | .validated cType cId verdict, _ => some ⟨.validateContent cType cId, verdict⟩
  | _, _ => none

/-- The service asks for verdicts elsewhere, and the validator writes only its own keys. -/
def AppOp.KeepsApart : AppOp → Prop
  | .like op => ∀ cType cId, op ≠ .validateContent cType cId
  | .validator op => op.WritesVerdicts
  | _ => True

/-- The world of the application is that of the service after a wait, but for the verdicts. -/
def ServesWorld (state : AppState) (world : World) : Prop :=
  ∃ (expired : List String) (elapse : Nat), state.world.served =
    { world with redis := world.redis.drop expired, clock := world.clock + elapse }

/-- The response to a request is what its handler makes of the reply to its call. -/
def RequestAnswers : AppCall → LikeCall → AppReply → LikeReply → Prop
  | .request req, call, reply, likeReply => req.Makes call ∧
      ∃ headers, reply = (req.ctx.answer likeReply).limitedBy headers
  | .task task, call, reply, likeReply => call = task ∧ reply = .task (.inr likeReply)
  | .validating .., _, _, _ => False

/-- Behind a validation that starts over stands the service at the same point. -/
def Resumes (origin : AppCall) (counterpart : LikeCall) :
    AppCall → Service (LikeCall ⊕ LikeReply) → Prop
  | .validating cType cId next, rest =>
      Parallel (RequestAnswers origin counterpart) (.perform (.validateContent cType cId) next) rest
  | _, _ => False

def serviceProjection (setting : AppSetting) :
    Projection (application setting) (likeService setting.service) where
  share := likeShare
  Allowed := AppOp.KeepsApart
  Matches := ServesWorld
  Tail := Resumes
  Reply := RequestAnswers
  Refused := fun origin answers reply => match origin with
    | .request req => Refusal setting req answers reply
    | _ => False

section Projected

variable {setting : AppSetting}

open Projection

/-- Steps of the validator come between those of the service. -/
theorem tracks_inValidator {α : Type} {origin : AppCall} {counterpart : LikeCall}
    {program : Validator α} {next : α → AppProgram (AppCall ⊕ AppReply)}
    {rest : Service (LikeCall ⊕ LikeReply)} (keeps : program.Performs ValidatorOp.KeepsApart)
    (tracks : ∀ value, (serviceProjection setting).Tracks origin counterpart (next value) rest) :
    (serviceProjection setting).Tracks origin counterpart (inValidator program >>= next) rest := by
  induction program with
  | ret value => exact tracks value
  | perform op continuation inductionHypothesis =>
      exact ⟨keeps.1.writesVerdicts, fun answer => inductionHypothesis answer (keeps.2 answer)⟩

/-- The service behind the handlers takes the steps of the service. -/
theorem runService_tracks {origin : AppCall} {counterpart : LikeCall}
    {service : Service AppReply} {rest : Service (LikeCall ⊕ LikeReply)}
    (parallel : Parallel (RequestAnswers origin counterpart) service rest) :
    (serviceProjection setting).Tracks origin counterpart
      (runService setting.validator service) rest := by
  induction service generalizing rest with
  | ret reply => exact parallel
  | perform op next inductionHypothesis =>
      obtain ⟨next', rfl, parallels⟩ := parallel
      cases op with
      | validateContent cType cId =>
          rw [runService]
          apply tracks_inValidator (validateContent_keepsApart setting.validator cType cId)
          intro result
          cases result with
          | none => exact ⟨next', rfl, parallels⟩
          | some verdict =>
              have kept := inductionHypothesis verdict (parallels verdict)
              exact ⟨trivial, fun _ => ⟨next', rfl, kept⟩⟩
      | _ =>
          refine ⟨fun _ _ => nofun, fun answer => ⟨next', rfl, ?_⟩⟩
          exact inductionHypothesis answer (parallels answer)

/-- A task runs as a task of the service. -/
theorem task_tracks (task : LikeCall) :
    (serviceProjection setting).Tracks (.task task) task
      (AppCall.body setting (.task task)) (task.body setting.service) := by
  apply runService_tracks
  obtain ⟨α, code, wrap, shape⟩ := task.body_shape setting.service
  rw [shape, pure_bind_pure]
  exact parallel_pure code fun _ => ⟨rfl, rfl⟩

/-! ### The steps of the application -/

section Steps

variable {env : AppEnv} {state after : AppState} {world : World}

/-- While it waits for the service, the world of the application may go on. -/
theorem ServesWorld.advance (env : AppEnv) (serves : ServesWorld state world) :
    ServesWorld (state.advance env) world := by
  obtain ⟨expired, elapse, same⟩ := serves
  refine ⟨expired ++ env.expired, elapse + env.elapse, ?_⟩
  show (state.world.advance _).served = _
  rw [World.advance_served, same]
  simp only [World.advance, AppEnv.surroundings, Redis.drop_drop, Nat.cast_add, add_assoc]

/-- A step that leaves the world of the service alone. -/
theorem ServesWorld.kept (env : AppEnv) (serves : ServesWorld state world)
    (kept : after.world.served = (state.advance env).world.served) : ServesWorld after world := by
  obtain ⟨expired, elapse, same⟩ := serves.advance env
  exact ⟨expired, elapse, kept.trans same⟩

/-- The validator leaves the rest of Redis alone. -/
theorem ValidatorState.serve_served {op : ValidatorOp} (keeps : op.WritesVerdicts)
    (validatorEnv : ValidatorEnv) (validator : ValidatorState) :
    (validator.serve validatorEnv op).2.redis.served = validator.redis.served ∧
      (validator.serve validatorEnv op).2.clock = validator.clock := by
  cases op with
  | setString key value ttl =>
      refine ⟨?_, rfl⟩
      show (RedisLikeRepository.setString validatorEnv.fault validator.clock key value ttl
        validator.redis).2.served = _
      cases validatorEnv.fault with
      | some e => rfl
      | none => exact Redis.served_put (keeps key value ttl rfl) _
  | _ => exact ⟨rfl, rfl⟩

/-- A step that is none of the service. -/
theorem application_silent {op : AppOp} {answer : op.Res} {spawned : List AppCall}
    (keeps : op.KeepsApart) (silent : likeShare op answer = none)
    (handled : AppState.handle setting env op state = some (answer, after, spawned))
    (serves : ServesWorld state world) : spawned = [] ∧ ServesWorld after world := by
  cases op with
  | like op => cases silent
  | validated cType cId verdict => cases silent
  | validator op =>
      simp only [AppState.handle, AppState.answer, Option.some.injEq, Prod.mk.injEq] at handled
      obtain ⟨-, rfl, rfl⟩ := handled
      obtain ⟨redis, clock⟩ := ValidatorState.serve_served keeps env.validator
        (state.advance env).validator
      refine ⟨rfl, serves.kept env ?_⟩
      simp only [AppState.withValidator, World.served, redis, clock]
      rfl
  | limiter op =>
      cases op with
      | checkLimit key limit windowSecs =>
          simp only [AppState.handle, AppState.answer, Option.some.injEq,
            Prod.mk.injEq] at handled
          obtain ⟨-, rfl, rfl⟩ := handled
          exact ⟨rfl, serves.kept env rfl⟩
      | nextRun =>
          simp only [AppState.handle, AppState.answer, Option.some.injEq,
            Prod.mk.injEq] at handled
          obtain ⟨-, rfl, rfl⟩ := handled
          exact ⟨rfl, serves.kept env rfl⟩
  | healthCheck dependency =>
      simp only [AppState.handle, AppState.answer, Option.some.injEq, Prod.mk.injEq] at handled
      obtain ⟨-, rfl, rfl⟩ := handled
      exact ⟨rfl, serves.kept env rfl⟩

/-- What the surroundings contribute to a step of the service after a wait. -/
theorem ServesWorld.found (env : AppEnv) (serves : ServesWorld state world)
    (verdict : Except DomainError Uuid) :
    ∃ expired elapse, world.advance { env.surroundings verdict with
      expired := expired, elapse := elapse } = (state.advance env).world.served := by
  obtain ⟨expired, elapse, same⟩ := serves.advance env
  exact ⟨expired, elapse, same.symm⟩

/-- A step of the service. -/
theorem application_shares {op : AppOp} {answer : op.Res} {spawned : List AppCall}
    {step : (op : LikeOp) × op.Res} (shares : likeShare op answer = some step)
    (handled : AppState.handle setting env op state = some (answer, after, spawned))
    (serves : ServesWorld state world) :
    ∃ env' after' spawned', World.handle setting.service env' step.1 world =
        some (step.2, after', spawned') ∧ ServesWorld after after' ∧
      spawned = spawned'.map .task := by
  cases op with
  | like op =>
      obtain rfl := Option.some.inj shares
      obtain ⟨expired, elapse, found⟩ := serves.found env (.error .cacheMiss)
      simp only [AppState.handle, AppState.answer] at handled
      cases served : World.serve setting.service (env.surroundings (.error .cacheMiss)) op
          (state.advance env).world with
      | none =>
          rw [served] at handled
          cases handled
      | some result =>
          obtain ⟨value, next, started⟩ := result
          rw [served] at handled
          simp only [Option.some.injEq, Prod.mk.injEq] at handled
          obtain ⟨rfl, rfl, rfl⟩ := handled
          refine ⟨{ env.surroundings (.error .cacheMiss) with
              expired := expired
              elapse := elapse }, next.served, started, ?_, ⟨[], 0, by simp⟩, rfl⟩
          rw [World.handle, found, World.serve_waited]
          exact World.serve_served served
  | validated cType cId verdict =>
      obtain rfl := Option.some.inj shares
      obtain ⟨expired, elapse, found⟩ := serves.found env verdict
      simp only [AppState.handle, AppState.answer, Option.some.injEq, Prod.mk.injEq] at handled
      obtain ⟨-, rfl, rfl⟩ := handled
      refine ⟨{ env.surroundings verdict with expired := expired, elapse := elapse },
        (state.advance env).world.served, [], ?_, ⟨[], 0, by simp⟩, rfl⟩
      rw [World.handle, found]
      rfl
  | _ => cases shares

theorem serviceProjection_lawful : (serviceProjection setting).Lawful where
  tail := by
    intro origin counterpart call rest resumes
    cases call with
    | validating cType cId next => exact runService_tracks resumes
    | _ => exact resumes.elim
  silent := fun keeps silent handled serves => application_silent keeps silent handled serves
  shares := by
    intro env op answer state after spawned step world _ shares handled serves
    obtain ⟨env', after', spawned', taken, later, rfl⟩ :=
      application_shares shares handled serves
    refine ⟨env', after', spawned', taken, later, ?_⟩
    rw [List.forall₂_map_left_iff]
    exact List.forall₂_same.mpr fun task _ => task_tracks task

end Steps

/-! ### Requests on the way to their handlers -/

section Waiting

variable {req : HttpRequest}

/-- The request takes no step of the service, or goes on with its call. -/
def Settles (setting : AppSetting) (req : HttpRequest) (answers : AppAnswers)
    (program : AppProgram (AppCall ⊕ AppReply)) : Prop :=
  (serviceProjection setting).Waits (.request req) answers program ∨ ∃ call,
    (serviceProjection setting).Tracks (.request req) call program (call.body setting.service)

theorem settles_inValidator {α : Type} {program : Validator α} {front : AppAnswers}
    {next : α → AppProgram (AppCall ⊕ AppReply)} (keeps : program.Performs ValidatorOp.KeepsApart)
    (settles : ∀ asked value, program.Leads value asked →
      Settles setting req (front ++ ofValidator asked) (next value)) :
    Settles setting req front (inValidator program >>= next) := by
  induction program generalizing front with
  | ret value =>
      have ended := settles [] value ⟨rfl, rfl⟩
      rwa [ofValidator, List.map_nil, List.append_nil] at ended
  | perform op continuation inductionHypothesis =>
      refine .inl ⟨keeps.1.writesVerdicts, fun answer => ⟨rfl, ?_⟩⟩
      apply inductionHypothesis answer (keeps.2 answer)
      intro asked value leads
      have ended := settles (⟨op, answer⟩ :: asked) value ⟨answer, asked, rfl, leads⟩
      rwa [ofValidator, List.map_cons, List.append_cons] at ended

theorem settles_inLimiter {α : Type} {program : Program LimiterOp LimiterOp.Res α}
    {front : AppAnswers} {next : α → AppProgram (AppCall ⊕ AppReply)}
    (settles : ∀ asked value, program.Leads value asked →
      Settles setting req (front ++ ofLimiter asked) (next value)) :
    Settles setting req front (inLimiter program >>= next) := by
  induction program generalizing front with
  | ret value =>
      have ended := settles [] value ⟨rfl, rfl⟩
      rwa [ofLimiter, List.map_nil, List.append_nil] at ended
  | perform op continuation inductionHypothesis =>
      refine .inl ⟨trivial, fun answer => ⟨rfl, ?_⟩⟩
      apply inductionHypothesis answer
      intro asked value leads
      have ended := settles (⟨op, answer⟩ :: asked) value ⟨answer, asked, rfl, leads⟩
      rwa [ofLimiter, List.map_cons, List.append_cons] at ended

variable {answers : AppAnswers} {limited : LimitedResponse}

/-- A handler that makes a call runs it, and its response gets the headers of the layer. -/
theorem settles_handler {handler : Service AppReply} {call : LikeCall}
    (makes : req.Makes call) (headers : Option RateLimitHeaders)
    (parallel : Parallel (fun reply likeReply => reply = req.ctx.answer likeReply) handler
      (call.body setting.service)) :
    Settles setting req answers (runService setting.validator
      (handler >>= fun reply => pure (reply.limitedBy headers))) := by
  refine .inr ⟨call, runService_tracks (parallel.map ?_)⟩
  rintro reply likeReply rfl
  exact ⟨makes, headers, rfl⟩

theorem guarded_settles {route : ProtectedRoute} (guarded : req.route = .guarded route)
    (userId : UserId) (counted : CountedLast req answers limited)
    (allowed : limited.tooManyRequests = false) :
    Settles setting req answers (runService setting.validator
      (route.handler setting.service req.ctx userId >>= fun reply =>
        pure (reply.limitedBy limited.headers))) := by
  cases makes : route.call userId with
  | some call =>
      have made : req.Makes call := by
        unfold HttpRequest.Makes
        rw [guarded]
        exact ⟨userId, makes⟩
      exact settles_handler made limited.headers (guarded_parallel _ _ makes)
  | none =>
      cases route with
      | _ extracted =>
          cases extracted with
          | error rejection =>
              exact .inl (.rejected limited counted allowed rejection (by rw [guarded]; rfl))
          | ok value => cases makes

theorem free_settles {route : PublicRoute} (free : req.route = .free route)
    (counted : CountedLast req answers limited) (allowed : limited.tooManyRequests = false) :
    Settles setting req answers (runService setting.validator
      (route.handler req.ctx >>= fun reply => pure (reply.limitedBy limited.headers))) := by
  cases makes : route.call with
  | some call =>
      have made : req.Makes call := by
        unfold HttpRequest.Makes
        rw [free]
        exact makes
      exact settles_handler made limited.headers (free_parallel _ _ makes)
  | none =>
      cases route with
      | sseStream query =>
          cases query with
          | error rejection =>
              exact .inl (.rejected limited counted allowed rejection (by rw [free]; rfl))
          | ok query => exact .inl (.stream limited counted allowed query free)
      | _ extracted =>
          cases extracted with
          | error rejection =>
              exact .inl (.rejected limited counted allowed rejection (by rw [free]; rfl))
          | ok value => cases makes

/-- What comes after the limiter. -/
theorem limited_settles {handler : Service AppReply} (counted : CountedLast req answers limited)
    (settles : limited.tooManyRequests = false →
      Settles setting req answers (runService setting.validator
        (handler >>= fun reply => pure (reply.limitedBy limited.headers)))) :
    Settles setting req answers (if limited.tooManyRequests then
        return .inr (.response (tooManyRequests.limitedBy limited.headers))
      else runService setting.validator
        (handler >>= fun reply => pure (reply.limitedBy limited.headers))) := by
  cases tooMany : limited.tooManyRequests with
  | true => exact .inl (.limited limited counted tooMany)
  | false => exact settles tooMany

/-- The limiter and what comes after it, in a request that has been answered so far as
given. -/
theorem rateLimited_settles {handler : Service AppReply} {front : AppAnswers}
    (userId : Option UserId) (limit : Nat)
    (settles : ∀ answers limited, CountedLast req answers limited →
      limited.tooManyRequests = false →
        Settles setting req answers (runService setting.validator
          (handler >>= fun reply => pure (reply.limitedBy limited.headers)))) :
    (serviceProjection setting).Waits (.request req) front
      (rateLimited setting.validator (req.limited userId limit) handler) := by
  refine ⟨trivial, fun answer => ⟨rfl, ?_⟩⟩
  apply settles_inLimiter
  intro asked limited leads
  have counted : CountedLast req (front ++ ofLimiter
      (⟨.checkLimit (extractKey (req.limited userId limit)) limit 60, answer⟩ :: asked)) limited :=
    ⟨userId, limit, front, _, rfl, answer, asked, rfl, leads⟩
  rw [ofLimiter, List.map_cons, List.append_cons] at counted
  exact limited_settles counted (settles _ limited counted)

/-- Every request waits before it finds its call. -/
theorem request_waits (req : HttpRequest) :
    (serviceProjection setting).Waits (.request req) []
      (AppCall.body setting (.request req)) := by
  show (serviceProjection setting).Waits (.request req) [] (req.serve setting)
  unfold HttpRequest.serve
  cases route : req.route with
  | guarded guardedRoute =>
      dsimp only
      unfold authenticated
      cases header : bearerToken setting.validator req.authorization with
      | none => exact .noToken guardedRoute route header rfl
      | some token =>
          have keeps := validateUser_keepsApart setting.validator token
          refine ⟨keeps.1.writesVerdicts, fun answer => ⟨rfl, ?_⟩⟩
          apply settles_inValidator (keeps.2 answer)
          intro asked result leads
          cases result with
          | error e =>
              exact .inl (.unauthenticated guardedRoute route token header
                (⟨.getString (HttpExternalValidator.userKey token), answer⟩ :: asked) rfl e
                ⟨answer, asked, rfl, leads⟩)
          | ok userId =>
              refine .inl ⟨nofun, fun _ => ⟨rfl, .inl ?_⟩⟩
              apply rateLimited_settles
              intro answers limited counted allowed
              exact guarded_settles route ⟨userId⟩ counted allowed
  | free publicRoute =>
      apply rateLimited_settles
      intro answers limited counted allowed
      exact free_settles route counted allowed
  | live => exact .live route
  | ready =>
      refine ⟨trivial, fun first => ⟨rfl, .inl ?_⟩⟩
      cases first with
      | error e => exact .ready route (.error e) ⟨_, _, rfl, rfl, rfl⟩
      | ok _ =>
          refine ⟨trivial, fun second => ⟨rfl, .inl ?_⟩⟩
          cases second with
          | error e => exact .ready route (.error e) ⟨_, _, rfl, _, _, rfl, rfl, rfl⟩
          | ok _ =>
              refine ⟨trivial, fun third => ⟨rfl, .inl ?_⟩⟩
              cases third with
              | error e => exact .ready route (.error e) ⟨_, _, rfl, _, _, rfl, _, _, rfl, rfl, rfl⟩
              | ok _ => exact .ready route (.ok ()) ⟨_, _, rfl, _, _, rfl, _, _, rfl, rfl, rfl⟩

end Waiting

end Projected


/-! ### Runs of the application -/

/-- What a run of the service is behind a run of the application: it takes the same steps,
ends with the same rows and messages, and every response is what the handler makes of the
reply to its call, or is given without a step of the service, for what the steps of the request
itself have been answered. -/
structure ServedBy (setting : AppSetting) (trace : List (Event (application setting)))
    (last : Pool (application setting)) (trace' : List (Event (likeService setting.service)))
    (last' : Pool (likeService setting.service)) : Prop where
  steps : trace'.map Event.step = trace.filterMap (serviceProjection setting).shared
  rows : last'.state.likes = last.state.world.likes
  told : last'.state.published = last.state.world.published
  answered : ∀ i req reply, last.threads[i]? = some ⟨.request req, .ret (.inr reply)⟩ →
    (∃ call likeReply headers, last'.threads[i]? = some ⟨call, .ret (.inr likeReply)⟩ ∧
        req.Makes call ∧ reply = (req.ctx.answer likeReply).limitedBy headers) ∨
      (Refusal setting req (answersOf i trace) reply ∧ ∀ event ∈ trace', event.thread ≠ i)

section Runs

variable {setting : AppSetting} {state : AppState} {requests : List HttpRequest}
  {trace : List (Event (application setting))} {last : Pool (application setting)}

/-- The projection of a run, with how each thread stands. -/
theorem application_run_serves
    (run : Run (M := application setting) (Pool.start state (requests.map .request)) trace last) :
    ∃ calls trace' last', calls.length = requests.length ∧
      Run (M := likeService setting.service) (Pool.start state.world.served calls) trace' last' ∧
      (serviceProjection setting).Refines trace last trace' last' := by
  have matched : (serviceProjection setting).Matches state state.world.served :=
    ⟨[], 0, by simp⟩
  obtain ⟨calls, trace', last', length, run', refines⟩ :=
    run.refines serviceProjection_lawful matched (by
      intro call member
      obtain ⟨req, _, rfl⟩ := List.mem_map.mp member
      exact request_waits req) (.getLikesCountBatch [])
  exact ⟨calls, trace', last', length.trans (List.length_map _), run', refines⟩

/-- Through all its layers, the application does what the service does: every run of it, with
requests of all kinds, is a run of the service step by step, and every response is what the
reply to the call says, or is one that no step of the service stands behind. -/
theorem http_refines_service (setting : AppSetting) (state : AppState)
    (requests : List HttpRequest) (trace : List (Event (application setting)))
    (last : Pool (application setting))
    (run : Run (M := application setting) (Pool.start state (requests.map .request)) trace last) :
    ∃ calls trace' last', calls.length = requests.length ∧
      Run (M := likeService setting.service) (Pool.start state.world.served calls) trace' last' ∧
      ServedBy setting trace last trace' last' := by
  obtain ⟨calls, trace', last', length, run', refines⟩ := application_run_serves run
  refine ⟨calls, trace', last', length, run', refines.steps, ?_, ?_, ?_⟩
  · obtain ⟨expired, elapse, same⟩ := refines.state
    exact (congrArg World.likes same).symm
  · obtain ⟨expired, elapse, same⟩ := refines.state
    exact (congrArg World.published same).symm
  · intro i req reply at_i
    obtain ⟨⟨call, rest⟩, at_i', tracks | ⟨refused, idle⟩⟩ := refines.beside i _ at_i
    · obtain ⟨likeReply, rfl, made, headers, same⟩ := tracks
      exact .inl ⟨call, likeReply, headers, at_i', made, same⟩
    · exact .inr ⟨refused, idle⟩

end Runs

/-! ### A like over HTTP -/

/-- The header of a token. -/
def bearer (token : Uuid) : List UInt8 := utf8 ("Bearer " ++ token.text)

/-- A request with a token, from one address. -/
def HttpRequest.from (token : Option Uuid) (route : Route) : HttpRequest where
  authorization := token.map bearer
  ip := some "10.0.0.1"
  requestId := utf8 "r"
  route := route

/-- The status of the response that a thread has come back with. -/
def statusOf {setting : AppSetting} (last : Pool (application setting)) (i : Nat) :
    Option Nat :=
  last.threads[i]?.bind fun thread => match thread.rest with
    | .ret (.inr (.response response)) => some response.status
    | _ => none

/-- The APIs know the user and the content. -/
def AppEnv.knowing (userId content : Uuid) : AppEnv :=
  { AppEnv.calm with
    newId := 7
    profile := .answered 200 (some { userId := userId, displayName := "A", valid := true })
    content := .answered 200 (some { id := content, contentType := "post" }) }

/-- The third user likes the post; a request without a token comes in between. -/
theorem http_refines_service_like :
    ∃ trace last, Run (M := application .reference)
        (Pool.start (.new twoLikes 5 30)
          ([.from (some 3) (.guarded (.postLike (.ok ⟨postType, postId⟩))),
            .from none (.guarded (.deleteUnlike (.ok (postType, postId))))].map .request))
        trace last ∧
      statusOf last 0 = some 201 ∧ statusOf last 1 = some 401 ∧
      ∃ calls trace' last', calls.length = 2 ∧
        Run (M := likeService .reference) (Pool.start twoLikes.served calls) trace' last' ∧
        ServedBy .reference trace last trace' last' := by
  obtain ⟨trace, last, run, passed⟩ := Run.exists_of_exec (M := application .reference)
    (List.replicate 21 (0, .knowing 3 9) ++ [(2, .calm)])
    (Pool.start (.new twoLikes 5 30)
      ([.from (some 3) (.guarded (.postLike (.ok ⟨postType, postId⟩))),
        .from none (.guarded (.deleteUnlike (.ok (postType, postId))))].map .request))
    (fun _ last => statusOf last 0 = some 201 && statusOf last 1 = some 401) (by decide +kernel)
  simp only [Bool.and_eq_true, decide_eq_true_eq] at passed
  exact ⟨trace, last, run, passed.1, passed.2, http_refines_service _ _ _ _ _ run⟩

end SocialApi
