/-
Module: SocialApi.Api.Handlers
Purpose: The routes with what their extractors make of a request, the responses, and the
  handlers as programs over the steps of the service.
Trusted boundary: human-reviewed model of api/handlers.rs, api/request_id.rs, of the
  requests and responses in api/dto.rs and of application/commands.rs; how axum reads a
  path, a query or a body is part of the request
Main exports:
  Rejection, Extracted, ProtectedRoute, PublicRoute, HttpResponse, AppReply, ReqCtx,
  ApiError.intoResponse, postLike, deleteUnlike, getCount, getStatus, getCountBatch,
  getStatusBatch, getUserLikes, getTopLikes, sseStream, ProtectedRoute.handler,
  PublicRoute.handler
-/
import SocialApi.Api.Errors
import SocialApi.Api.Middleware
import SocialApi.Api.Query
import SocialApi.Application.LikeService
import SocialApi.Infrastructure.RateLimit

namespace SocialApi

open Process

/-! ### Requests -/

/-- How axum answers a request that an extractor cannot read. -/
inductive Rejection where
  | badRequest
  | payloadTooLarge
  | unsupportedMediaType
  | unprocessableEntity
deriving DecidableEq, Repr

def Rejection.status : Rejection → Nat
  | .badRequest => 400
  | .payloadTooLarge => 413
  | .unsupportedMediaType => 415
  | .unprocessableEntity => 422

/-- What an extractor makes of a request. -/
abbrev Extracted := Except Rejection

structure LikeRequest where
  contentType : ContentType
  contentId : ContentId
deriving DecidableEq, Repr

structure TopLikesQuery where
  contentType : Option String
  window : String
  limit : Option Int
deriving DecidableEq, Repr

structure StreamQuery where
  contentType : ContentType
  contentId : ContentId
deriving DecidableEq, Repr

/-- The routes behind `auth_middleware`. -/
inductive ProtectedRoute where
  | postLike (payload : Extracted LikeRequest)
  | deleteUnlike (path : Extracted (ContentType × ContentId))
  | getStatus (path : Extracted (ContentType × ContentId))
  | getUserLikes (query : Extracted UserLikesQuery)
  | getStatusBatch (payload : Extracted (List ContentItem))

/-- The routes that anyone may ask. -/
inductive PublicRoute where
  | getCountBatch (payload : Extracted (List ContentItem))
  | getCount (path : Extracted (ContentType × ContentId))
  | getTopLikes (query : Extracted TopLikesQuery)
  | sseStream (query : Extracted StreamQuery)

/-- What the handlers know of a request besides what they extract. -/
structure ReqCtx where
  id : String
deriving DecidableEq, Repr

/-- `ReqCtx::from_request_parts`, given the value of the request id. -/
def ReqCtx.fromRequestParts (requestId : List UInt8) : ReqCtx :=
  ⟨(headerToStr requestId).getD "unknown"⟩

/-! ### Responses -/

structure LikeResponse where
  liked : Bool
  alreadyExisted : Bool
  count : Nat
  likedAt : DateTime
deriving DecidableEq, Repr

/-- `impl From<AddLikeCommandResult> for LikeResponse` -/
def LikeResponse.ofResult (value : AddLikeCommandResult) : LikeResponse where
  liked := value.liked
  alreadyExisted := value.alreadyExisted
  count := value.count
  likedAt := value.likedAt

inductive ResponseBody where
  | like (response : LikeResponse)
  | unlike (response : UnlikeResponse)
  | count (response : CountResponse)
  | status (response : StatusResponse)
  | counts (results : List ContentCount)
  | statuses (results : List ContentStatus)
  | userLikes (response : UserLikesResponse)
  | topLikes (response : TopLikesResponse)
  | stream (contentType : ContentType) (contentId : ContentId)
  | text (text : String)
  | error (detail : ErrorDetail)
  | rejected

structure HttpResponse where
  status : Nat
  rateLimit : Option RateLimitHeaders
  body : ResponseBody

/-- What a call comes back with: the response to a request, the message of the panic that
ended it without one, or the end of a task. -/
inductive AppReply where
  | response (response : HttpResponse)
  | aborted (message : String)
  | task (ended : LikeCall ⊕ LikeReply)

/-- A response with the body that a handler has made. -/
def HttpResponse.json (status : Nat) (body : ResponseBody) : HttpResponse where
  status := status
  rateLimit := none
  body := body

def ApiError.intoResponse (error : ApiError) : HttpResponse :=
  .json error.status (.error error.detail)

def Rejection.intoResponse (rejection : Rejection) : HttpResponse :=
  .json rejection.status .rejected

/-- The response to what a method has come to. -/
def ReqCtx.respond {α : Type} (ctx : ReqCtx) (created : α → HttpResponse) :
    Except DomainError α → AppReply
  | .error e => .response (ApiError.intoResponse ⟨e, ctx.id⟩)
  | .ok value => .response (created value)

/-- A handler runs on what its extractor has read. -/
def Extracted.handle {α : Type} (extracted : Extracted α) (handler : α → Service AppReply) :
    Service AppReply :=
  match extracted with
  | .error rejection => return .response rejection.intoResponse
  | .ok value => handler value

/-! ### Handlers -/

/-- `impl From<(UserId, LikeRequest)> for AddLikeCommand` -/
def AddLikeCommand.ofRequest (userId : UserId) (req : LikeRequest) : AddLikeCommand where
  userId := userId
  contentId := req.contentId
  contentType := req.contentType

namespace Handlers

variable (setting : Setting) (ctx : ReqCtx) (userId : UserId)

def postLike (payload : LikeRequest) : Service AppReply := do
  let res ← LikeService.addLike (.ofRequest userId payload)
  return ctx.respond (fun value => .json 201 (.like (.ofResult value))) res

def deleteUnlike (path : ContentType × ContentId) : Service AppReply := do
  let res ← LikeService.removeLike userId path.1 path.2
  return ctx.respond (fun value => .json 200 (.unlike value)) res

def getCount (path : ContentType × ContentId) : Service AppReply := do
  let res ← LikeService.getLikeCount path.1 path.2
  return ctx.respond (fun value => .json 200 (.count value)) res

def getStatus (path : ContentType × ContentId) : Service AppReply := do
  let res ← LikeService.getLikeStatus userId path.1 path.2
  return ctx.respond (fun value => .json 200 (.status value)) res

def getCountBatch (items : List ContentItem) : Service AppReply := do
  let res ← LikeService.getLikesCountBatch items
  return ctx.respond (fun value => .json 200 (.counts value)) res

def getStatusBatch (items : List ContentItem) : Service AppReply := do
  let res ← LikeService.getBatchStatus userId items
  return ctx.respond (fun value => .json 200 (.statuses value)) res

/-- Twenty items where the query names no limit; a panic ends the connection. -/
def getUserLikes (query : UserLikesQuery) : Service AppReply := do
  let limit := (query.limit.map Fin.val).getD 20
  let outcome ←
    LikeService.getUserLikedItems setting userId query.contentType query.cursor limit
  return match outcome with
    | .panicked message => .aborted message
    | .done res => ctx.respond (fun value => .json 200 (.userLikes value)) res

/-- Ten items of all types where the query does not say. -/
def getTopLikes (query : TopLikesQuery) : Service AppReply := do
  let limit := query.limit.getD 10
  let cType : ContentType := ⟨query.contentType.getD "all"⟩
  let res ← LikeService.getTopLikes cType query.window limit
  return ctx.respond (fun value => .json 200 (.topLikes value)) res

/-- The stream itself is a system of its own. -/
def sseStream (query : StreamQuery) : Service AppReply :=
  return .response (.json 200 (.stream query.contentType query.contentId))

end Handlers

def ProtectedRoute.handler (setting : Setting) (ctx : ReqCtx) (userId : UserId) :
    ProtectedRoute → Service AppReply
  | .postLike payload => payload.handle (Handlers.postLike ctx userId)
  | .deleteUnlike path => path.handle (Handlers.deleteUnlike ctx userId)
  | .getStatus path => path.handle (Handlers.getStatus ctx userId)
  | .getUserLikes query => query.handle (Handlers.getUserLikes setting ctx userId)
  | .getStatusBatch payload => payload.handle (Handlers.getStatusBatch ctx userId)

def PublicRoute.handler (ctx : ReqCtx) : PublicRoute → Service AppReply
  | .getCountBatch payload => payload.handle (Handlers.getCountBatch ctx)
  | .getCount path => path.handle (Handlers.getCount ctx)
  | .getTopLikes query => query.handle (Handlers.getTopLikes ctx)
  | .sseStream query => query.handle Handlers.sseStream

end SocialApi
