/-
Module: SocialApi.Proofs.AppAuthorization
Purpose: For whom the steps of the application are taken: what concerns the likes of a user
  is done only for requests whose token has been validated to that user.
Trusted boundary: none
Main exports:
  LikeOp.subject, LikeOp.ActsFor, AppTrack, AppProtocol, VouchedBy, application_obeys,
  acts_for_authenticated_users
-/
import SocialApi.Proofs.AppRefinement
import SocialApi.Proofs.AuthSoundness
import SocialApi.Proofs.CallTracks

namespace SocialApi

open Process

/-! ### Whose likes a step is about -/

/-- The user whose likes a step reads, writes or tells of. -/
def LikeOp.subject : LikeOp → Option UserId
  | .dbSave like => some like.userId
  | .dbGetLike userId _ _ => some userId
  | .dbGetLikesByPairs userId _ => some userId
  | .dbRemove userId _ _ => some userId
  | .dbGetUserLikes userId _ _ _ => some userId
  | .spawn (.publishLikeEvent event) => event.userId
  | .cachePublishLikeEvent event => event.userId
  | _ => none

def AppOp.subject : AppOp → Option UserId
  | .like op => op.subject
  | _ => none

/-- A step about no other user than the given one, which starts tasks only. -/
def LikeOp.ActsFor (user : Option UserId) (op : LikeOp) : Prop :=
  (∀ userId, op.subject = some userId → user = some userId) ∧
    ∀ task, op = .spawn task → task.Background

theorem LikeOp.actsFor_of_none {user : Option UserId} {op : LikeOp} (nobody : op.subject = none)
    (starts : ∀ task, op = .spawn task → task.Background) : op.ActsFor user := by
  refine ⟨?_, starts⟩
  intro userId about
  rw [nobody] at about
  cases about

/-- The task that a step starts. -/
def LikeOp.task : LikeOp → Option LikeCall
  | .spawn task => some task
  | _ => none

theorem LikeOp.ne_spawn {op : LikeOp} (alone : op.task = none) (task : LikeCall) :
    op ≠ .spawn task := by
  intro is
  rw [is] at alone
  cases alone

/-- A step about nobody that starts no task. -/
theorem LikeOp.actsFor_plain {user : Option UserId} {op : LikeOp} (nobody : op.subject = none)
    (alone : op.task = none) : op.ActsFor user :=
  actsFor_of_none nobody fun task is => absurd is (ne_spawn alone task)

/-- A step that starts no task, for the user that it is about. -/
theorem LikeOp.actsFor_own {user : Option UserId} {op : LikeOp} (own : op.subject = user)
    (alone : op.task = none) : op.ActsFor user := by
  refine ⟨?_, fun task is => absurd is (ne_spawn alone task)⟩
  intro other about
  exact own.symm.trans about

/-- The user that a call is made for. -/
def LikeCall.subject : LikeCall → Option UserId
  | .addLike likeCmd => some likeCmd.userId
  | .removeLike userId _ _ => some userId
  | .getLikeStatus userId _ _ => some userId
  | .getBatchStatus userId _ => some userId
  | .getUserLikedItems userId _ _ _ => some userId
  | .publishLikeEvent event => event.userId
  | _ => none

section Programs

open LikeService
open LikeOp (actsFor_plain actsFor_own actsFor_of_none)

variable {user : Option UserId} (userId : UserId) (contentType : ContentType)
  (contentId : ContentId)

theorem getLikeCountWithFallback_actsFor :
    (getLikeCountWithFallback contentType contentId).Performs (LikeOp.ActsFor user) := by
  simp only [getLikeCountWithFallback, getCacheLikeCount_bind, Program.performs_perform]
  refine ⟨actsFor_plain rfl rfl, fun first => ?_⟩
  cases cachedCount first with
  | ok count => trivial
  | error miss =>
  simp only [Program.request_bind, Program.performs_perform]
  refine ⟨actsFor_plain rfl rfl, fun lock => ⟨actsFor_plain rfl rfl, fun _ => ?_⟩⟩
  refine ⟨actsFor_plain rfl rfl, fun second => ?_⟩
  cases cachedCount second with
  | ok count =>
      exact ⟨actsFor_plain rfl rfl, fun _ => ⟨actsFor_plain rfl rfl, fun _ => trivial⟩⟩
  | error miss =>
  refine ⟨actsFor_plain rfl rfl, fun counted => ?_⟩
  cases counted with
  | error e => exact ⟨actsFor_plain rfl rfl, fun _ => trivial⟩
  | ok count =>
      refine ⟨actsFor_plain rfl rfl, fun _ => ⟨actsFor_plain rfl rfl, fun _ => ?_⟩⟩
      exact ⟨actsFor_plain rfl rfl, fun _ => trivial⟩

theorem sendSseEvent_actsFor (count : Nat) (eType : SseEventType) :
    (sendSseEvent contentId contentType userId count eType).Performs
      (LikeOp.ActsFor (some userId)) := by
  refine ⟨actsFor_plain rfl rfl, fun now => ⟨⟨?_, ?_⟩, fun _ => trivial⟩⟩
  · exact fun _ about => about
  · rintro task ⟨⟩
    trivial

theorem addLike_actsFor (likeCmd : AddLikeCommand) :
    (addLike likeCmd).Performs (LikeOp.ActsFor (some likeCmd.userId)) := by
  have added : ∀ count createdAt existed, (likeAdded likeCmd count createdAt existed).Performs
      (LikeOp.ActsFor (some likeCmd.userId)) := fun _ _ _ =>
    (sendSseEvent_actsFor _ _ _ _ _).bind fun _ => trivial
  simp only [LikeService.addLike, Program.request_bind, Program.performs_perform]
  refine ⟨actsFor_plain rfl rfl, fun validated => ?_⟩
  cases validated with
  | error e => trivial
  | ok id =>
  refine ⟨actsFor_plain rfl rfl, fun createdAt => ⟨actsFor_own rfl rfl, fun saved => ?_⟩⟩
  cases saved with
  | error e => trivial
  | ok existed =>
  cases existed with
  | true =>
      apply (getLikeCountWithFallback_actsFor _ _).bind
      intro counted
      cases counted with
      | error e => trivial
      | ok count =>
          refine ⟨actsFor_own rfl rfl, fun found => ?_⟩
          cases found with
          | error e => trivial
          | ok existedLike => exact added _ _ _
  | false =>
      refine ⟨actsFor_plain rfl rfl, fun counted => ?_⟩
      cases counted with
      | ok newCount => exact added _ _ _
      | error e =>
          refine ⟨actsFor_plain rfl rfl, fun recounted => ?_⟩
          cases recounted with
          | error e => trivial
          | ok count => exact added _ _ _

theorem removeLike_actsFor :
    (removeLike userId contentType contentId).Performs (LikeOp.ActsFor (some userId)) := by
  have removed : ∀ count, (likeRemoved userId contentType contentId count).Performs
      (LikeOp.ActsFor (some userId)) := fun _ =>
    (sendSseEvent_actsFor _ _ _ _ _).bind fun _ => trivial
  simp only [LikeService.removeLike, Program.request_bind, Program.performs_perform]
  refine ⟨actsFor_plain rfl rfl, fun validated => ?_⟩
  cases validated with
  | error e => trivial
  | ok id =>
  refine ⟨actsFor_own rfl rfl, fun deleted => ?_⟩
  cases deleted with
  | error e => trivial
  | ok wasLiked =>
  apply (getLikeCountWithFallback_actsFor _ _).bind
  intro counted
  cases counted with
  | error e => trivial
  | ok currCount =>
      dsimp only
      split
      · split
        · refine ⟨actsFor_plain rfl rfl, fun decremented => ?_⟩
          cases decremented with
          | ok newCount => exact removed _
          | error e =>
              refine ⟨actsFor_plain rfl rfl, fun recounted => ?_⟩
              cases recounted with
              | error e => trivial
              | ok count => exact removed _
        · exact removed _
      · trivial

theorem lockMissing_actsFor (missingItems : List ContentItem) (lockedKeys : List String)
    (toFetchFromDb : List ContentItem) :
    (lockMissing missingItems lockedKeys toFetchFromDb).Performs (LikeOp.ActsFor user) := by
  induction missingItems generalizing lockedKeys toFetchFromDb with
  | nil => trivial
  | cons item missingItems inductionHypothesis =>
      simp only [lockMissing, Program.request_bind, Program.performs_perform]
      refine ⟨actsFor_plain rfl rfl, fun isNone => ?_⟩
      split
      · exact inductionHypothesis _ _
      · exact inductionHypothesis _ _

theorem getLikesCountBatch_actsFor (items : List ContentItem) :
    (getLikesCountBatch items).Performs (LikeOp.ActsFor user) := by
  unfold getLikesCountBatch
  split
  · trivial
  simp only [Program.request_bind, Program.performs_perform]
  refine ⟨actsFor_plain rfl rfl, fun answer => ?_⟩
  split
  · trivial
  apply (lockMissing_actsFor _ _ _).bind
  intro locked
  split
  · trivial
  refine ⟨actsFor_plain rfl rfl, fun fetched => ?_⟩
  cases fetched with
  | error e => trivial
  | ok dbCounts =>
      refine ⟨actsFor_plain rfl rfl, fun _ => ⟨actsFor_of_none rfl ?_, fun _ => trivial⟩⟩
      rintro task ⟨⟩
      trivial

theorem getUserLikedItems_actsFor (setting : Setting) (contentType cursorStr : Option String)
    (limit : Nat) : (getUserLikedItems setting userId contentType cursorStr limit).Performs
      (LikeOp.ActsFor (some userId)) := by
  unfold getUserLikedItems
  cases PaginationCursor.decodeOpt setting.cursorJson cursorStr with
  | error e => trivial
  | ok cursor =>
  cases addOne setting limit with
  | panicked message => trivial
  | done probe =>
  simp only [Program.request_bind, Program.performs_perform]
  refine ⟨actsFor_own rfl rfl, fun answer => ?_⟩
  cases answer with
  | error e => trivial
  | ok items =>
      dsimp only
      split
      · cases lastKept setting items limit <;> trivial
      · trivial

theorem getTopLikes_actsFor (windowStr : String) (limit : Int) :
    (getTopLikes contentType windowStr limit).Performs (LikeOp.ActsFor user) := by
  simp only [getTopLikes, Program.request_bind, Program.performs_perform]
  refine ⟨actsFor_plain rfl rfl, fun now => ?_⟩
  cases windowStart now windowStr with
  | none => trivial
  | some since =>
  refine ⟨actsFor_plain rfl rfl, fun answer => ?_⟩
  dsimp only
  cases (unwrapOr (none, false) answer).1 with
  | some items =>
      dsimp only
      split
      · trivial
      · refine ⟨actsFor_plain rfl rfl, fun lock => ?_⟩
        dsimp only
        split
        · refine ⟨actsFor_of_none rfl ?_, fun _ => trivial⟩
          rintro task ⟨⟩
          trivial
        · trivial
  | none =>
      refine ⟨actsFor_plain rfl rfl, fun fetched => ?_⟩
      cases fetched with
      | error e => trivial
      | ok items => exact ⟨actsFor_plain rfl rfl, fun _ => trivial⟩

/-- Every call acts for the user that it is made for. -/
theorem body_actsFor (setting : Setting) (call : LikeCall) :
    (call.body setting).Performs (LikeOp.ActsFor call.subject) := by
  cases call with
  | addLike likeCmd => exact (addLike_actsFor likeCmd).bind fun _ => trivial
  | removeLike userId contentType contentId =>
      exact (removeLike_actsFor userId contentType contentId).bind fun _ => trivial
  | getLikeCount contentType contentId =>
      have counts : (getLikeCount contentType contentId).Performs (LikeOp.ActsFor none) := by
        apply (getLikeCountWithFallback_actsFor contentType contentId).bind
        intro counted
        cases counted <;> trivial
      exact counts.bind fun _ => trivial
  | getLikesCountBatch items => exact (getLikesCountBatch_actsFor items).bind fun _ => trivial
  | getLikeStatus userId contentType contentId =>
      have reads : (getLikeStatus userId contentType contentId).Performs
          (LikeOp.ActsFor (some userId)) := by
        refine ⟨actsFor_own rfl rfl, fun found => ?_⟩
        cases found <;> trivial
      exact reads.bind fun _ => trivial
  | getBatchStatus userId items =>
      have reads : (getBatchStatus userId items).Performs (LikeOp.ActsFor (some userId)) := by
        unfold getBatchStatus
        split
        · trivial
        · refine ⟨actsFor_own rfl rfl, fun found => ?_⟩
          cases found <;> trivial
      exact reads.bind fun _ => trivial
  | getUserLikedItems userId contentType cursorStr limit =>
      exact (getUserLikedItems_actsFor userId setting contentType cursorStr limit).bind
        fun _ => trivial
  | getTopLikes contentType windowStr limit =>
      exact (getTopLikes_actsFor contentType windowStr limit).bind fun _ => trivial
  | publishLikeEvent event => exact ⟨actsFor_own rfl rfl, fun _ => trivial⟩
  | rehydrate dbCounts lockedKeys rehydrationSet =>
      exact ⟨actsFor_plain rfl rfl, fun _ => trivial⟩
  | refreshLeaderboard window contentType since limit =>
      refine ⟨actsFor_plain rfl rfl, fun fetched => ?_⟩
      cases fetched with
      | error e => trivial
      | ok newItems => exact ⟨actsFor_plain rfl rfl, fun _ => trivial⟩

/-- What runs side by side performs the same steps. -/
theorem Parallel.performs {Related : AppReply → LikeReply → Prop} {allowed : LikeOp → Prop}
    {service : Service AppReply} {rest : Service (LikeCall ⊕ LikeReply)}
    (parallel : Parallel Related service rest) (performs : rest.Performs allowed) :
    service.Performs allowed := by
  induction service generalizing rest with
  | ret reply => trivial
  | perform op next inductionHypothesis =>
      obtain ⟨next', rfl, parallels⟩ := parallel
      exact ⟨performs.1, fun answer =>
        inductionHypothesis answer (parallels answer) (performs.2 answer)⟩

/-- A guarded handler acts for the user it has been given. -/
theorem guarded_actsFor (setting : Setting) (ctx : ReqCtx) (route : ProtectedRoute) :
    (route.handler setting ctx userId).Performs (LikeOp.ActsFor (some userId)) := by
  cases makes : route.call userId with
  | some call =>
      have own : call.subject = some userId := by
        cases route with
        | _ extracted =>
            cases extracted with
            | error rejection => cases makes
            | ok value =>
                obtain rfl := Option.some.inj makes
                rfl
      have acts := body_actsFor setting call
      rw [own] at acts
      exact (guarded_parallel setting ctx makes).performs acts
  | none =>
      cases route with
      | _ extracted =>
          cases extracted with
          | error rejection => trivial
          | ok value => cases makes

/-- A handler that anyone may ask acts for nobody. -/
theorem free_actsFor (setting : Setting) (ctx : ReqCtx) (route : PublicRoute) :
    (route.handler ctx).Performs (LikeOp.ActsFor none) := by
  cases makes : route.call with
  | some call =>
      have nobody : call.subject = none := by
        cases route with
        | sseStream query => cases query <;> cases makes
        | _ extracted =>
            cases extracted with
            | error rejection => cases makes
            | ok value =>
                obtain rfl := Option.some.inj makes
                rfl
      have acts := body_actsFor setting call
      rw [nobody] at acts
      exact (free_parallel setting ctx makes).performs acts
  | none =>
      cases route with
      | sseStream query => cases query <;> trivial
      | _ extracted =>
          cases extracted with
          | error rejection => trivial
          | ok value => cases makes

end Programs

/-! ### What vouches for a user -/

/-- The token asked about and the body, where the step is an answer of the Profile API that
accepts it. -/
def profileAnswer : (op : AppOp) → op.Res → Option (UserId × UserDto)
  | .validator op, answer => acceptedBody op answer
  | _, _ => none

/-- The key and the user id, where the step reads a verdict that a user is valid. -/
def tokenVerdict (setting : ValidatorSetting) : (op : AppOp) → op.Res → Option (String × Uuid)
  | .validator op, answer => cachedVerdict setting op answer
  | _, _ => none

/-- A token is taken for a user because the Profile API has answered so before, or because a
verdict that says so was there from the start. -/
inductive VouchedBy {setting : AppSetting} (start : AppState)
    (before : List (Event (application setting))) (token userId : UserId) : Prop where
  | answered {answer : Event (application setting)} {body : UserDto} (earlier : answer ∈ before)
      (accepted : profileAnswer answer.op answer.res = some (token, body))
      (names : body.userId = userId.uuid)
  | kept {text : String}
      (stands : RedisLikeRepository.getString none (HttpExternalValidator.userKey token)
        start.world.redis = .ok (some text))
      (valid : setting.validator.verdictJson.fromText text = some (.valid userId.uuid))

/-! ### The protocol

The control state of a call holds how far its validation has come, and the user that its
handler has been given. -/

/-- The header of a request; nothing else has one. -/
def AppCall.header : AppCall → Option (List UInt8)
  | .request req => req.authorization
  | _ => none

/-- A task can be told of a user. -/
def AppCall.subject : AppCall → Option UserId
  | .task call => call.subject
  | _ => none

/-- A request, or a task of the service. -/
def AppCall.Starts : AppCall → Prop
  | .request _ => True
  | .task call => call.Background
  | .validating .. => False

structure AppTrack where
  auth : AuthTrack
  user : Option UserId

namespace AppProtocol

variable (setting : AppSetting)

def initial (call : AppCall) : AppTrack :=
  ⟨AuthProtocol.initial (.authMiddleware call.header), call.subject⟩

def advance (track : AppTrack) : (op : AppOp) → op.Res → AppTrack
  | .validator (.nextRun userId), _ => { track with user := some userId }
  | .validator op, answer =>
      { track with auth := AuthProtocol.advance setting.validator track.auth op answer }
  | _, _ => track

/-- The service acts for the user of the request; the validator keeps its own protocol. -/
def permitted (track : AppTrack) : AppOp → Prop
  | .like op => op.ActsFor track.user
  | .validator op => AuthProtocol.permitted setting.validator track.auth op
  | _ => True

def possible (_ : AppTrack) (op : AppOp) (_ : op.Res) : Prop := True

/-- A handler that waits for a verdict still acts for its user. -/
def final (track : AppTrack) : AppCall ⊕ AppReply → Prop
  | .inl (.validating _ _ next) => ∀ verdict, (next verdict).Performs (LikeOp.ActsFor track.user)
  | .inl _ => False
  | .inr _ => True

/-- The program keeps the protocol, and ends as stated. -/
abbrev Tracks {α : Type} (final : AppTrack → α → Prop) (program : AppProgram α)
    (track : AppTrack) : Prop :=
  program.Obeys (advance setting) (permitted setting) possible final track

variable {setting}

theorem advance_auth_call (track : AppTrack) (op : AppOp) (answer : op.Res) :
    (advance setting track op answer).auth.call = track.auth.call := by
  cases op with
  | validator op =>
      cases op with
      | nextRun userId => rfl
      | _ => exact AuthProtocol.advance_call setting.validator track.auth _ _
  | _ => rfl

/-- A validation keeps its protocol wherever it runs, and the user stays the same. -/
theorem inValidator_tracks {α : Type} {program : Validator α} {track : AppTrack}
    {ends : AuthTrack → α → Prop}
    (tracks : AuthProtocol.Tracks setting.validator ends program track.auth)
    (keeps : program.Performs ValidatorOp.KeepsApart) :
    Tracks setting (fun reached value => reached.user = track.user ∧ ends reached.auth value)
      (inValidator program) track := by
  unfold inValidator
  refine Program.Obeys.weaken (Program.Obeys.implement
    (fun (reached : AppTrack) auth => reached.auth = auth ∧ reached.user = track.user)
    (tracks.performing keeps) ⟨rfl, rfl⟩ ?_) ?_
  · rintro reached auth op ⟨rfl, same⟩ ⟨permits, apart⟩
    refine ⟨permits, fun answer _ => ⟨trivial, ?_⟩⟩
    cases op with
    | nextRun userId => exact apart.elim
    | _ => exact ⟨rfl, same⟩
  · rintro reached value ⟨auth, ⟨rfl, same⟩, ended⟩
    exact ⟨same, ended⟩

/-- The limiter knows nothing of users. -/
theorem inLimiter_tracks {α : Type} (program : Program LimiterOp LimiterOp.Res α)
    (track : AppTrack) :
    Tracks setting (fun reached _ => reached = track) (inLimiter program) track := by
  induction program with
  | ret value => rfl
  | perform op next inductionHypothesis =>
      exact ⟨trivial, fun answer _ => inductionHypothesis answer⟩

/-- A content validation keeps the protocol of users wherever it stands. -/
theorem validateContent_tracks (cType : ContentType) (cId : ContentId) (auth : AuthTrack) :
    AuthProtocol.Tracks setting.validator (fun _ _ => True)
      (HttpExternalValidator.validateContent setting.validator cType cId) auth := by
  apply (AuthProtocol.getCachedValidation_tracks _ auth).bind
  intro reached verdict _
  match verdict with
  | some (.valid uuid) => trivial
  | some .notFound => trivial
  | none =>
      refine ⟨trivial, fun entered _ => ?_⟩
      cases entered with
      | false => exact ⟨trivial, fun _ _ => trivial⟩
      | true =>
          apply (AuthProtocol.Aside.tracks
            (AuthProtocol.fetchContent_aside setting.validator cType cId)).bind
          intro _ _ _
          trivial

/-- A program of the service acts for the user that it acted for before. -/
theorem runService_tracks {service : Service AppReply} {track : AppTrack}
    (acts : service.Performs (LikeOp.ActsFor track.user)) :
    Tracks setting final (runService setting.validator service) track := by
  induction service generalizing track with
  | ret reply => trivial
  | perform op next inductionHypothesis =>
      cases op with
      | validateContent cType cId =>
          rw [runService]
          apply (inValidator_tracks (validateContent_tracks cType cId track.auth)
            (validateContent_keepsApart setting.validator cType cId)).bind
          rintro reached result ⟨same, _⟩
          cases result with
          | none =>
              intro verdict
              rw [same]
              exact acts.2 verdict
          | some verdict =>
              refine ⟨trivial, fun _ _ => inductionHypothesis verdict ?_⟩
              show (next verdict).Performs (LikeOp.ActsFor reached.user)
              rw [same]
              exact acts.2 verdict
      | _ => exact ⟨acts.1, fun answer _ => inductionHypothesis answer (acts.2 answer)⟩

/-- So does a handler behind the limiter. -/
theorem rateLimited_tracks {handler : Service AppReply} {track : AppTrack}
    (acts : handler.Performs (LikeOp.ActsFor track.user)) (req : LimitedRequest) :
    Tracks setting final (rateLimited setting.validator req handler) track := by
  apply (inLimiter_tracks (rateLimitLayer req) track).bind
  rintro reached limited rfl
  split
  · trivial
  · exact runService_tracks (acts.bind fun _ => trivial)

/-- A request acts for nobody but the user that its token is validated to. -/
theorem serve_tracks (req : HttpRequest) :
    Tracks setting final (req.serve setting) (initial (.request req)) := by
  unfold HttpRequest.serve
  split
  · next route _ =>
    unfold authenticated
    cases parsed : bearerToken setting.validator req.authorization with
    | none => trivial
    | some token =>
        apply (inValidator_tracks (AuthProtocol.validateUser_tracks token _)
          (validateUser_keepsApart setting.validator token)).bind
        rintro reached result ⟨_, called, stands⟩
        cases result with
        | error e => trivial
        | ok userId =>
            refine ⟨⟨req.authorization, token, called, parsed, stands userId rfl⟩, ?_⟩
            intro _ _
            exact rateLimited_tracks (guarded_actsFor ⟨userId⟩ setting.service req.ctx route) _
  · next route _ =>
    exact rateLimited_tracks (free_actsFor setting.service req.ctx route) _
  · trivial
  · refine ⟨trivial, fun first _ => ?_⟩
    cases first with
    | error e => trivial
    | ok _ =>
        refine ⟨trivial, fun second _ => ?_⟩
        cases second with
        | error e => trivial
        | ok _ =>
            refine ⟨trivial, fun third _ => ?_⟩
            cases third <;> trivial

/-- Every call that starts keeps the protocol. -/
theorem body_tracks (call : AppCall) (starts : call.Starts) :
    Tracks setting final (call.body setting) (initial call) := by
  cases call with
  | request req => exact serve_tracks req
  | validating cType cId next => exact starts.elim
  | task task =>
      have acts := body_actsFor setting.service task
      exact runService_tracks (acts.bind fun _ => trivial)

/-- So does a handler that has waited for a verdict. -/
theorem tail_tracks (track : AppTrack) (target : AppCall) (ended : final track (.inl target)) :
    Tracks setting final (target.body setting) track := by
  cases target with
  | validating cType cId next =>
      apply runService_tracks
      exact ⟨LikeOp.actsFor_plain rfl rfl, ended⟩
  | _ => exact ended.elim

end AppProtocol

/-! ### Runs -/

section Runs

variable {setting : AppSetting} {start : AppState} {requests : List HttpRequest}
  {trace before after : List (Event (application setting))} {last : Pool (application setting)}
  {event : Event (application setting)}

/-- Only the service starts tasks, by its spawns. -/
theorem AppState.handle_spawned {env : AppEnv} {op : AppOp} {state next : AppState}
    {answer : op.Res} {spawned : List AppCall} {call : AppCall}
    (handled : AppState.handle setting env op state = some (answer, next, spawned))
    (started : call ∈ spawned) : ∃ task, op = .like (.spawn task) ∧ call = .task task := by
  cases op with
  | like op =>
      simp only [AppState.handle, AppState.answer] at handled
      split at handled
      · cases handled
      · next value world tasks served =>
        obtain ⟨-, -, rfl⟩ := by simpa only [Option.some.injEq, Prod.mk.injEq] using handled
        obtain ⟨task, among, rfl⟩ := List.mem_map.mp started
        obtain rfl := World.handle_spawned (World.handle_of_serve served) among
        exact ⟨task, rfl, rfl⟩
  | limiter op =>
      cases op <;>
      · obtain ⟨-, -, rfl⟩ := by
          simpa only [AppState.handle, AppState.answer, Option.some.injEq, Prod.mk.injEq]
            using handled
        cases started
  | _ =>
      obtain ⟨-, -, rfl⟩ := by
        simpa only [AppState.handle, AppState.answer, Option.some.injEq, Prod.mk.injEq]
          using handled
      cases started

/-- The run law of the protocol. -/
theorem application_obeys
    (run : Run (M := application setting) (Pool.start start (requests.map .request)) trace last)
    (split : trace = before ++ event :: after) :
    AppProtocol.permitted setting (controlAfter (AppProtocol.advance setting) event.thread
      (AppProtocol.initial event.call) before) event.op := by
  have among : ∀ call ∈ requests.map AppCall.request, call.Starts := by
    intro call member
    obtain ⟨req, _, rfl⟩ := List.mem_map.mp member
    trivial
  refine (Run.obeys_among (M := application setting) AppProtocol.body_tracks
    AppProtocol.tail_tracks ?_ among run (fun _ _ _ _ => trivial)).2 before event after split
  intro earlier performed later next spawned _ permits handled call started
  obtain ⟨task, is, rfl⟩ := AppState.handle_spawned handled started
  rw [is] at permits
  exact permits.2 task rfl

/-- The user that a thread acts for is that of its call, or has been validated for it. -/
theorem user_origin {thread : Nat} {call : AppCall} {userId : UserId}
    (acts : (controlAfter (AppProtocol.advance setting) thread (AppProtocol.initial call)
      before).user = some userId) :
    call.subject = some userId ∨ ∃ front validated back, before = front ++ validated :: back ∧
      validated.thread = thread ∧ validated.op = .validator (.nextRun userId) := by
  by_cases own : call.subject = some userId
  · exact .inl own
  · right
    apply controlAfter_origin (M := application setting)
      (fun track : AppTrack => if track.user = call.subject then none else track.user)
      (fun op _ userId => op = .validator (.nextRun userId)) _ (if_pos rfl)
      (by rw [if_neg (by rw [acts]; exact Ne.symm own), acts])
    intro reached op answer value seen
    cases op with
    | validator op =>
        cases op with
        | nextRun validatedId =>
            have gives : (if some validatedId = call.subject then none else some validatedId) =
              some value := seen
            split at gives
            · cases gives
            · obtain rfl := Option.some.inj gives
              exact .inr rfl
        | _ => exact .inl seen
    | _ => exact .inl seen

/-- The answer a thread has accepted last is one of the events before. -/
theorem answered_among {thread : Nat} {call : AppCall} {token : UserId} {body : UserDto}
    (answered : (controlAfter (AppProtocol.advance setting) thread (AppProtocol.initial call)
      before).auth.answered = some (token, body)) :
    ∃ answer ∈ before, profileAnswer answer.op answer.res = some (token, body) := by
  obtain ⟨front, answer, back, rfl, _, accepted⟩ := controlAfter_origin
    (M := application setting) (fun track : AppTrack => track.auth.answered)
    (fun (op : AppOp) (answer : op.Res) value => profileAnswer op answer = some value)
    (by
      intro reached op answer value seen
      cases op with
      | validator op =>
          cases op with
          | getProfile url token => exact .inr seen
          | _ => exact .inl seen
      | _ => exact .inl seen) rfl answered
  exact ⟨answer, by simp, accepted⟩

/-- The verdict a thread has read last has been read in one of the events before. -/
theorem cached_among {thread : Nat} {call : AppCall} {key : String} {userId : Uuid}
    (cached : (controlAfter (AppProtocol.advance setting) thread (AppProtocol.initial call)
      before).auth.cached = some (key, userId)) :
    ∃ front read back, before = front ++ read :: back ∧
      tokenVerdict setting.validator read.op read.res = some (key, userId) := by
  obtain ⟨front, read, back, split, _, reads⟩ := controlAfter_origin
    (M := application setting) (fun track : AppTrack => track.auth.cached)
    (fun (op : AppOp) (answer : op.Res) value =>
      tokenVerdict setting.validator op answer = some value)
    (by
      intro reached op answer value seen
      cases op with
      | validator op =>
          cases op with
          | getString key => exact .inr seen
          | _ => exact .inl seen
      | _ => exact .inl seen) rfl cached
  exact ⟨front, read, back, split, reads⟩

/-- Every verdict in Redis was there from the start, or has been written by one of the
events. -/
def VerdictsKnown (start : AppState) (before : List (Event (application setting)))
    (state : AppState) : Prop :=
  ∀ token entry, state.world.redis (HttpExternalValidator.userKey token) = some entry →
    start.world.redis (HttpExternalValidator.userKey token) = some entry ∨
      ∃ front write back text ttl, before = front ++ write :: back ∧
        write.op = .validator (.setString (HttpExternalValidator.userKey token) text ttl) ∧
        entry.value = .text text

theorem VerdictsKnown.step {next : AppState} {spawned : List AppCall}
    (handled : AppState.handle setting event.env event.op event.before =
      some (event.res, next, spawned))
    (known : VerdictsKnown start before event.before) :
    VerdictsKnown start (before ++ [event]) next := by
  have old : ∀ token entry, event.before.world.redis (HttpExternalValidator.userKey token) =
      some entry → start.world.redis (HttpExternalValidator.userKey token) = some entry ∨
        ∃ front write back text ttl, before ++ [event] = front ++ write :: back ∧
          write.op = .validator (.setString (HttpExternalValidator.userKey token) text ttl) ∧
          entry.value = .text text := by
    intro token entry present
    rcases known token entry present with stood | ⟨front, write, back, text, ttl, split, rest⟩
    · exact .inl stood
    · exact .inr ⟨front, write, back ++ [event], text, ttl, by simp [split], rest⟩
  obtain ⟨thread, call, env, op, res, state⟩ := event
  intro token entry present
  cases op with
  | like op =>
      simp only [AppState.handle, AppState.answer] at handled
      split at handled
      · cases handled
      · next value world tasks served =>
        obtain ⟨-, rfl, -⟩ := by simpa only [Option.some.injEq, Prod.mk.injEq] using handled
        rw [World.serve_verdict (userKey_isVerdictKey token) served] at present
        exact old token entry (Redis.drop_some present)
  | validator op =>
      obtain ⟨-, rfl, -⟩ := by
        simpa only [AppState.handle, AppState.answer, Option.some.injEq, Prod.mk.injEq]
          using handled
      cases op with
      | setString key text ttl =>
          rcases RedisLikeRepository.setString_present present with found | ⟨rfl, rfl⟩
          · exact old token entry (Redis.drop_some found)
          · exact .inr ⟨before, _, [], text, ttl, rfl, rfl, rfl⟩
      | _ => exact old token entry (Redis.drop_some present)
  | limiter op =>
      cases op <;>
      · obtain ⟨-, rfl, -⟩ := by
          simpa only [AppState.handle, AppState.answer, Option.some.injEq, Prod.mk.injEq]
            using handled
        exact old token entry (Redis.drop_some present)
  | _ =>
      obtain ⟨-, rfl, -⟩ := by
        simpa only [AppState.handle, AppState.answer, Option.some.injEq, Prod.mk.injEq]
          using handled
      exact old token entry (Redis.drop_some present)

theorem verdicts_known
    (run : Run (M := application setting) (Pool.start start (requests.map .request)) trace last)
    (split : trace = before ++ event :: after) :
    VerdictsKnown start before event.before := by
  subst split
  apply run.replays.until_event.1.history (VerdictsKnown start)
  · intro earlier step next spawned _ handled known
    exact known.step handled
  · exact fun token entry present => .inl present

/-- A verdict that is read stands in Redis as a text that says so. -/
theorem tokenVerdict_found {next : AppState} {spawned : List AppCall} {key : String}
    {userId : Uuid}
    (handled : AppState.handle setting event.env event.op event.before =
      some (event.res, next, spawned))
    (reads : tokenVerdict setting.validator event.op event.res = some (key, userId)) :
    ∃ text, RedisLikeRepository.getString none key (event.before.world.redis.drop
        event.env.expired) = .ok (some text) ∧
      setting.validator.verdictJson.fromText text = some (.valid userId) := by
  obtain ⟨thread, call, env, op, res, state⟩ := event
  cases op with
  | validator op =>
      cases op with
      | getString asked =>
          obtain ⟨rfl, text, answer, verdict⟩ := cachedVerdict_getString reads
          obtain ⟨found, -⟩ := by
            simpa only [AppState.handle, AppState.answer, Option.some.injEq, Prod.mk.injEq]
              using handled
          have got : RedisLikeRepository.getString env.fault asked
            (state.world.redis.drop env.expired) = .ok (some text) := found.trans answer
          refine ⟨text, ?_, verdict⟩
          cases fault : env.fault with
          | some e =>
              rw [fault] at got
              cases got
          | none =>
              rw [fault] at got
              exact got
      | _ => cases reads
  | _ => cases reads

/-- A verdict that has been read was there from the start, or has been written because of an
answer. -/
theorem verdict_vouched
    (run : Run (M := application setting) (Pool.start start (requests.map .request)) trace last)
    (split : trace = before ++ event :: after) {token : UserId} {userId : UserId}
    (reads : tokenVerdict setting.validator event.op event.res =
      some (HttpExternalValidator.userKey token, userId.uuid)) :
    VouchedBy start before token userId := by
  have replays := run.replays
  rw [split] at replays
  obtain ⟨_, next, spawned, handled⟩ := replays.until_event
  obtain ⟨text, stands, valid⟩ := tokenVerdict_found handled reads
  obtain ⟨entry, present, same⟩ := RedisLikeRepository.getString_some stands
  rcases verdicts_known run split token entry (Redis.drop_some present) with
    stood | ⟨front, write, back, written, ttl, splitBefore, writes, stored⟩
  · refine .kept ?_ valid
    rw [RedisLikeRepository.getString, present] at stands
    rw [RedisLikeRepository.getString, stood]
    exact stands
  · have splitWrite : trace = front ++ write :: (back ++ event :: after) := by
      simp [split, splitBefore]
    have allowed := application_obeys run splitWrite
    rw [writes] at allowed
    obtain ⟨body, answered, rfl, _⟩ := allowed token rfl
    obtain ⟨answer, among, accepted⟩ := answered_among answered
    rw [← same _ stored, setting.validator.verdictJson.readBack] at valid
    exact .answered (by simp [splitBefore, among]) accepted
      (ValidationResult.valid.inj (Option.some.inj valid))

/-- A request gets through with the user that its token has been taken for. -/
theorem validated_vouched
    (run : Run (M := application setting) (Pool.start start (requests.map .request)) trace last)
    (split : trace = before ++ event :: after) {userId : UserId}
    (validated : event.op = .validator (.nextRun userId)) :
    ∃ req token, event.call = .request req ∧
      bearerToken setting.validator req.authorization = some token ∧
      VouchedBy start before token userId := by
  have allowed := application_obeys run split
  rw [validated] at allowed
  obtain ⟨header, token, called, parsed, stands⟩ := allowed
  have own : (controlAfter (AppProtocol.advance setting) event.thread
      (AppProtocol.initial event.call) before).auth.call =
        .authMiddleware event.call.header := by
    apply controlAfter_preserves
      (fun track : AppTrack => track.auth.call = .authMiddleware event.call.header) _ rfl
    intro other _ reached same
    rw [AppProtocol.advance_auth_call, same]
  rw [called] at own
  obtain rfl := ValidatorCall.authMiddleware.inj own
  cases call : event.call with
  | request req =>
      rw [call] at parsed
      refine ⟨req, token, rfl, parsed, ?_⟩
      rcases stands with ⟨body, answered, names⟩ | cached
      · obtain ⟨answer, among, accepted⟩ := answered_among answered
        exact .answered among accepted names
      · obtain ⟨front, read, back, splitBefore, reads⟩ := cached_among cached
        have splitRead : trace = front ++ read :: (back ++ event :: after) := by
          simp [split, splitBefore]
        cases verdict_vouched run splitRead reads with
        | answered earlier accepted names =>
            exact .answered (by simp [splitBefore, earlier]) accepted names
        | kept stands valid => exact .kept stands valid
  | _ =>
      rw [call] at parsed
      cases parsed

theorem VouchedBy.mono {token userId : UserId} {later : List (Event (application setting))}
    (vouched : VouchedBy start before token userId) (grows : ∀ event ∈ before, event ∈ later) :
    VouchedBy start later token userId := by
  cases vouched with
  | answered earlier accepted names => exact .answered (grows _ earlier) accepted names
  | kept stands valid => exact .kept stands valid

/-- A step for a request, or for a task that tells of a like. -/
def ActsIn (call : AppCall) (req : HttpRequest) : Prop :=
  call = .request req ∨ ∃ told, call = .task (.publishLikeEvent told)

/-- In every run, whatever is done about the likes of a user, down to what is published of
them, is done for a request whose token has been taken for that user before. -/
theorem acts_for_authenticated_users
    (run : Run (M := application setting) (Pool.start start (requests.map .request)) trace last)
    (split : trace = before ++ event :: after) {userId : UserId}
    (about : event.op.subject = some userId) :
    ∃ req ∈ requests, ActsIn event.call req ∧ ∃ token,
      bearerToken setting.validator req.authorization = some token ∧
        VouchedBy start before token userId := by
  induction length : before.length using Nat.strong_induction_on
    generalizing before event after with
  | _ n inductionHypothesis =>
  subst length
  have acts : ∀ op, event.op = .like op →
      op.ActsFor (controlAfter (AppProtocol.advance setting) event.thread
        (AppProtocol.initial event.call) before).user := by
    intro op steps
    have allowed := application_obeys run split
    rw [steps] at allowed
    exact allowed
  obtain ⟨op, steps, tells⟩ : ∃ op, event.op = .like op ∧ op.subject = some userId := by
    cases steps : event.op with
    | like op =>
        rw [steps] at about
        exact ⟨op, rfl, about⟩
    | _ =>
        rw [steps] at about
        cases about
  rcases user_origin ((acts op steps).1 userId tells) with
    told | ⟨front, validated, back, splitBefore, own, validates⟩
  · -- only a task is told of a user, by the step that has started it
    cases call : event.call with
    | task task =>
        rw [call] at told
        have mine := run.event_origin before event after split
        rcases mine with outside | ⟨starter, among, next, spawned, handled, started⟩
        · obtain ⟨req, _, is⟩ := List.mem_map.mp outside
          rw [call] at is
          cases is
        · obtain ⟨sent, spawns, is⟩ := AppState.handle_spawned handled started
          rw [call] at is
          obtain rfl := AppCall.task.inj is
          obtain ⟨front, back, splitBefore⟩ := List.append_of_mem among
          have splitStarter : trace = front ++ starter :: (back ++ event :: after) := by
            simp [split, splitBefore]
          have starts := application_obeys run splitStarter
          rw [spawns] at starts
          have background := starts.2 task rfl
          cases task with
          | publishLikeEvent event =>
              obtain ⟨req, member, _, token, parsed, vouched⟩ := inductionHypothesis front.length
                (by simp [splitBefore]) splitStarter (by rw [spawns]; exact told) rfl
              refine ⟨req, member, .inr ⟨event, rfl⟩, token, parsed, ?_⟩
              exact vouched.mono fun earlier early => by simp [splitBefore, early]
          | _ => first | exact background.elim | cases told
    | _ =>
        rw [call] at told
        cases told
  · have splitValidated : trace = front ++ validated :: (back ++ event :: after) := by
      simp [split, splitBefore]
    obtain ⟨req, token, call, parsed, vouched⟩ :=
      validated_vouched run splitValidated validates
    rw [run.same_call (by simp [splitValidated]) (by simp [split]) own] at call
    refine ⟨req, ?_, .inl call, token, parsed, ?_⟩
    · rcases run.event_origin before event after split with
        outside | ⟨starter, among, next, spawned, handled, started⟩
      · obtain ⟨other, member, is⟩ := List.mem_map.mp outside
        rw [call] at is
        obtain rfl := AppCall.request.inj is
        exact member
      · obtain ⟨sent, spawns, is⟩ := AppState.handle_spawned handled started
        rw [call] at is
        cases is
    · exact vouched.mono fun earlier early => by simp [splitBefore, early]

end Runs

/-- The profile service takes the token of a request for the fifth user, who likes the post. -/
theorem acts_for_authenticated_users_like :
    ∃ trace last, Run (M := application .reference)
        (Pool.start (.new twoLikes 5 30)
          ([.from (some 3) (.guarded (.postLike (.ok ⟨postType, postId⟩)))].map .request))
        trace last ∧
      ∃ before event after, trace = before ++ event :: after ∧ event.op.subject = some ⟨5⟩ ∧
        ∃ req ∈ [.from (some 3) (.guarded (.postLike (.ok ⟨postType, postId⟩)))],
          ActsIn event.call req ∧ ∃ token,
            bearerToken AppSetting.reference.validator req.authorization = some token ∧
              VouchedBy (.new twoLikes 5 30) before token ⟨5⟩ := by
  obtain ⟨trace, last, run, passed⟩ := Run.exists_of_exec (M := application .reference)
    (List.replicate 18 (0, .knowing 5 9))
    (Pool.start (.new twoLikes 5 30)
      ([.from (some 3) (.guarded (.postLike (.ok ⟨postType, postId⟩)))].map .request))
    (fun trace _ => trace.any fun event => event.op.subject = some ⟨5⟩) (by decide +kernel)
  obtain ⟨event, member, about⟩ := List.any_eq_true.mp passed
  obtain ⟨before, after, split⟩ := List.append_of_mem member
  have tells := of_decide_eq_true about
  exact ⟨trace, last, run, before, event, after, split, tells,
    acts_for_authenticated_users run split tells⟩

end SocialApi
