/-
Module: SocialApi.Application.LikeService
Purpose: The methods of LikeService and the tasks they spawn, as programs over
  the steps they take on Postgres, Redis and the in-flight locks.
Trusted boundary: human-reviewed model of application/like_service.rs; the
  content validator, both clocks, generated ids, store failures and the keys
  that leave Redis are contributed by the surroundings at each step
Main exports:
  LikeOp, World, Surroundings, Setting, LikeCall, LikeReply, addLike, removeLike,
  getLikeCountWithFallback, getLikesCountBatch, getUserLikedItems, getTopLikes,
  likeService
-/
import SocialApi.Infrastructure.Redis
import SocialApi.Process.System

namespace SocialApi

open Process
open RedisLikeRepository (CountsById)

/-- `DashMap<String, Arc<Mutex<()>>>`, with the mutexes numbered. -/
abbrev FlightLocks := String → Option Nat

/-! ### Calls and steps -/

/-- The public methods, and the tasks they hand to `tokio::spawn` with what the
tasks captured. -/
inductive LikeCall where
  | addLike (likeCmd : AddLikeCommand)
  | removeLike (userId : UserId) (contentType : ContentType) (contentId : ContentId)
  | getLikeCount (contentType : ContentType) (contentId : ContentId)
  | getLikeStatus (userId : UserId) (contentType : ContentType)
      (contentId : ContentId)
  | getLikesCountBatch (items : List ContentItem)
  | getBatchStatus (userId : UserId) (items : List ContentItem)
  | getUserLikedItems (userId : UserId) (contentType cursorStr : Option String)
      (limit : Nat)
  | getTopLikes (contentType : ContentType) (windowStr : String) (limit : Int)
  | publishLikeEvent (event : SseLikeEvent)
  | rehydrate (dbCounts : List ContentCount) (lockedKeys : List String)
      (rehydrationSet : FlightLocks)
  | refreshLeaderboard (window : String) (contentType : ContentType)
      (since : Option DateTime) (limit : Int)

/-- A value, or the message of the panic that ended the call. -/
inductive Outcome (α : Type) where
  | done (value : α)
  | panicked (message : String)

/-- What a call comes back with. -/
inductive LikeReply where
  | addLike (result : Except DomainError AddLikeCommandResult)
  | removeLike (result : Except DomainError UnlikeResponse)
  | getLikeCount (result : Except DomainError CountResponse)
  | getLikeStatus (result : Except DomainError StatusResponse)
  | getLikesCountBatch (result : Except DomainError (List ContentCount))
  | getBatchStatus (result : Except DomainError (List ContentStatus))
  | getUserLikedItems (result : Outcome (Except DomainError UserLikesResponse))
  | getTopLikes (result : Except DomainError TopLikesResponse)
  | publishLikeEvent (result : Except DomainError Unit)
  | rehydrate (rehydrationSet : FlightLocks)
  | refreshLeaderboard

/-- The steps that other calls can come between. -/
inductive LikeOp where
  | validateContent (contentType : ContentType) (contentId : ContentId)
  | utcNow
  | dbSave (like : Like)
  | dbGetLike (userId : UserId) (contentType : ContentType) (contentId : ContentId)
  | dbGetLikesByPairs (userId : UserId) (items : List ContentItem)
  | dbRemove (userId : UserId) (contentType : ContentType) (contentId : ContentId)
  | dbGetLikesCount (contentType : ContentType) (contentId : ContentId)
  | dbGetCountsBatch (items : List ContentItem)
  | dbGetUserLikes (userId : UserId) (contentType : Option String)
      (cursor : Option PaginationCursor) (limit : Nat)
  | dbGetTopLikes (contentType : Option String) (since : Option DateTime)
      (limit : Int)
  | cacheIncrement (contentType : ContentType) (contentId : ContentId)
  | cacheDecrement (contentType : ContentType) (contentId : ContentId)
  | cacheSetValue (contentType : ContentType) (contentId : ContentId) (value : Nat)
  | cacheGetCount (contentType : ContentType) (contentId : ContentId)
  | cacheGetCountsBatch (items : List ContentItem)
  | cacheSetCountsBatch (counts : List ContentCount)
  | cacheGetLeaderboardWithCanary (window : String) (contentType : ContentType)
  | cacheSetLeaderboardWithCanary (window : String) (contentType : ContentType)
      (items : List TopLikeItem) (canaryTtl : Nat)
  | cacheAcquireRefreshLock (window : String) (contentType : ContentType)
  | cachePublishLikeEvent (event : SseLikeEvent)
  | flightInsert (lockKey : String)
  | flightEntry (lockKey : String)
  | flightRemove (lockKey : String)
  | flightClone
  | mutexLock (lock : Nat)
  | mutexUnlock (lock : Nat)
  | spawn (task : LikeCall)

/-- What each step answers. -/
@[reducible] def LikeOp.Res : LikeOp → Type
  | .validateContent .. => Except DomainError Uuid
  | .utcNow => DateTime
  | .dbSave .. => Except DomainError Bool
  | .dbGetLike .. => Except DomainError Like
  | .dbGetLikesByPairs .. => Except DomainError (List Like)
  | .dbRemove .. => Except DomainError Bool
  | .dbGetLikesCount .. => Except DomainError Nat
  | .dbGetCountsBatch .. => Except DomainError (List ContentCount)
  | .dbGetUserLikes .. => Except DomainError (List Like)
  | .dbGetTopLikes .. => Except DomainError (List TopLikeItem)
  | .cacheIncrement .. => Except DomainError Nat
  | .cacheDecrement .. => Except DomainError Nat
  | .cacheSetValue .. => Except DomainError Unit
  | .cacheGetCount .. => Except DomainError (Option Nat)
  | .cacheGetCountsBatch .. => Except DomainError CountsById
  | .cacheSetCountsBatch .. => Except DomainError Unit
  | .cacheGetLeaderboardWithCanary .. =>
      Except DomainError (Option (List TopLikeItem) × Bool)
  | .cacheSetLeaderboardWithCanary .. => Except DomainError Unit
  | .cacheAcquireRefreshLock .. => Except DomainError Bool
  | .cachePublishLikeEvent .. => Except DomainError Unit
  | .flightInsert .. => Bool
  | .flightEntry .. => Nat
  | .flightRemove .. => Unit
  | .flightClone => FlightLocks
  | .mutexLock .. => Unit
  | .mutexUnlock .. => Unit
  | .spawn .. => Unit

/-- A method body. -/
abbrev Service := Program LikeOp LikeOp.Res

/-- Take one step. -/
abbrev await (op : LikeOp) : Service op.Res := Program.request op

/-- The parameters of a deployment. -/
structure Setting where
  config : Config
  overflowChecks : Bool
  cursorJson : CursorJson
  itemsJson : JsonText (List TopLikeItem)
  eventText : SseLikeEvent → String

/-- An instance of the assumptions: the default times to live, a release build,
and texts that are right for names without special characters. -/
noncomputable def Setting.reference : Setting where
  config := { cacheTtlLikeCountsSecs := 300, cacheTtlContentValidationSecs := 3600 }
  overflowChecks := false
  cursorJson := .reference
  itemsJson := .reference _
  eventText := SseLikeEvent.plainJson unaryInstant

/-! ### Methods -/

namespace LikeService

/-- `unwrap_or` -/
def unwrapOr {α : Type} (default : α) : Except DomainError α → α
  | .error _ => default
  | .ok value => value

/-- `format_lock_key` for `RefreshType::Count` -/
def formatLockKey (contentType : ContentType) (contentId : ContentId) : String :=
  "lock:count:" ++ contentType.asStr ++ ":" ++ contentId.uuid.text

def getCacheLikeCount (contentType : ContentType) (contentId : ContentId) :
    Service (Except DomainError Nat) := do
  match ← await (.cacheGetCount contentType contentId) with
  | .error e => return .error e
  | .ok none => return .error .cacheMiss
  | .ok (some count) => return .ok count

/-- A lock key names one content. -/
theorem formatLockKey_inj {contentType otherType : ContentType}
    {contentId otherId : ContentId}
    (same : formatLockKey contentType contentId = formatLockKey otherType otherId) :
    contentType = otherType ∧ contentId = otherId :=
  ContentId.key_inj "lock:count:" same

/-- The cached count in an answer of Redis; a miss is an error. -/
def cachedCount : Except DomainError (Option Nat) → Except DomainError Nat
  | .error e => .error e
  | .ok none => .error .cacheMiss
  | .ok (some count) => .ok count

@[simp] theorem getCacheLikeCount_bind {α : Type} (contentType : ContentType)
    (contentId : ContentId) (next : Except DomainError Nat → Service α) :
    (getCacheLikeCount contentType contentId >>= next) =
      .perform (.cacheGetCount contentType contentId) fun answer =>
        next (cachedCount answer) := by
  simp only [getCacheLikeCount, Program.request_bind, Program.bind_perform]
  refine congrArg _ (funext fun answer => ?_)
  rcases answer with e | _ | count <;> rfl

/-- Fails only if cache and database fail.  The guard of the lock is dropped on
every way out; the key is removed on two of the three. -/
def getLikeCountWithFallback (contentType : ContentType) (contentId : ContentId) :
    Service (Except DomainError Nat) := do
  match ← getCacheLikeCount contentType contentId with
  | .ok count => return .ok count
  | .error _ =>
  let lockKey := formatLockKey contentType contentId
  let lock ← await (.flightEntry lockKey)
  await (.mutexLock lock)
  match ← getCacheLikeCount contentType contentId with
  | .ok count =>
      await (.flightRemove lockKey)
      await (.mutexUnlock lock)
      return .ok count
  | .error _ =>
  match ← await (.dbGetLikesCount contentType contentId) with
  | .error e =>
      -- the `?` of the query leaves the key in the map
      await (.mutexUnlock lock)
      return .error e
  | .ok count =>
      let _ ← await (.cacheSetValue contentType contentId count)
      await (.flightRemove lockKey)
      await (.mutexUnlock lock)
      return .ok count

def sendSseEvent (contentId : ContentId) (contentType : ContentType)
    (userId : UserId) (count : Nat) (eType : SseEventType) : Service Unit := do
  let timestamp ← await .utcNow
  await (.spawn (.publishLikeEvent
    { event := eType
      contentType := some contentType
      contentId := some contentId
      userId := some userId
      count := some count
      timestamp := timestamp }))

/-- The end of `add_like`, once the count is known. -/
def likeAdded (likeCmd : AddLikeCommand) (count : Nat) (createdAt : DateTime)
    (alreadyExists : Bool) : Service (Except DomainError AddLikeCommandResult) := do
  sendSseEvent likeCmd.contentId likeCmd.contentType likeCmd.userId count .like
  return .ok
    { liked := true
      alreadyExisted := alreadyExists
      count := count
      likedAt := createdAt }

/-- `add_like` after an insert that found the row there. -/
def addExistingLike (likeCmd : AddLikeCommand) :
    Service (Except DomainError AddLikeCommandResult) := do
  match ← getLikeCountWithFallback likeCmd.contentType likeCmd.contentId with
  | .error e => return .error e
  | .ok count =>
  match ← await (.dbGetLike likeCmd.userId likeCmd.contentType likeCmd.contentId) with
  | .error e => return .error e
  | .ok existedLike => likeAdded likeCmd count existedLike.createdAt true

/-- `add_like` after an insert that stored a row. -/
def addNewLike (likeCmd : AddLikeCommand) (createdAt : DateTime) :
    Service (Except DomainError AddLikeCommandResult) := do
  match ← await (.cacheIncrement likeCmd.contentType likeCmd.contentId) with
  | .ok newCount => likeAdded likeCmd newCount createdAt false
  | .error _ =>
  match ← await (.dbGetLikesCount likeCmd.contentType likeCmd.contentId) with
  | .error e => return .error e
  | .ok count => likeAdded likeCmd count createdAt false

def addLike (likeCmd : AddLikeCommand) :
    Service (Except DomainError AddLikeCommandResult) := do
  match ← await (.validateContent likeCmd.contentType likeCmd.contentId) with
  | .error e => return .error e
  | .ok _ =>
  let createdAt ← await .utcNow
  let like : Like :=
    { id := 0
      userId := likeCmd.userId
      contentType := likeCmd.contentType
      contentId := likeCmd.contentId
      createdAt := createdAt }
  match ← await (.dbSave like) with
  | .error e => return .error e
  | .ok true => addExistingLike likeCmd
  | .ok false => addNewLike likeCmd createdAt

/-- The end of `remove_like` for a like that was there. -/
def likeRemoved (userId : UserId) (contentType : ContentType)
    (contentId : ContentId) (currCount : Nat) :
    Service (Except DomainError UnlikeResponse) := do
  sendSseEvent contentId contentType userId currCount .unlike
  return .ok { liked := false, wasLiked := true, count := currCount }

/-- `remove_like` where it counts down. -/
def removeCountedLike (userId : UserId) (contentType : ContentType)
    (contentId : ContentId) : Service (Except DomainError UnlikeResponse) := do
  match ← await (.cacheDecrement contentType contentId) with
  | .ok newCount => likeRemoved userId contentType contentId newCount
  | .error _ =>
  match ← await (.dbGetLikesCount contentType contentId) with
  | .error e => return .error e
  | .ok count => likeRemoved userId contentType contentId count

def removeLike (userId : UserId) (contentType : ContentType)
    (contentId : ContentId) : Service (Except DomainError UnlikeResponse) := do
  match ← await (.validateContent contentType contentId) with
  | .error e => return .error e
  | .ok _ =>
  match ← await (.dbRemove userId contentType contentId) with
  | .error e => return .error e
  | .ok wasLiked =>
  match ← getLikeCountWithFallback contentType contentId with
  | .error e => return .error e
  | .ok currCount =>
  if wasLiked then
    -- a decrement must not take the count to -1
    if currCount ≠ 0 then removeCountedLike userId contentType contentId
    else likeRemoved userId contentType contentId currCount
  else
    return .ok { liked := false, wasLiked := false, count := currCount }

def getLikeCount (contentType : ContentType) (contentId : ContentId) :
    Service (Except DomainError CountResponse) := do
  match ← getLikeCountWithFallback contentType contentId with
  | .error e => return .error e
  | .ok count =>
      return .ok
        { contentType := contentType.name
          contentId := contentId.uuid.text
          count := count }

def getLikeStatus (userId : UserId) (contentType : ContentType)
    (contentId : ContentId) : Service (Except DomainError StatusResponse) := do
  match ← await (.dbGetLike userId contentType contentId) with
  | .error _ => return .ok { liked := false, likedAt := none }
  | .ok existingLike =>
      return .ok { liked := true, likedAt := some existingLike.createdAt }

/-- The results the first loop of `get_likes_count_batch` collects: an item whose
id has a cached count gets that count. -/
def cachedResults (cachedCounts : CountsById) (items : List ContentItem) :
    List ContentCount :=
  items.filterMap fun item =>
    (cachedCounts item.contentId).map fun count =>
      { contentType := item.contentType
        contentId := item.contentId
        count := count }

/-- The missing items the first loop collects. -/
def missingFrom (cachedCounts : CountsById) (items : List ContentItem) :
    List ContentItem :=
  items.filter fun item => (cachedCounts item.contentId).isNone

/-- What the second loop collects. -/
structure LockedItems where
  lockedKeys : List String
  toFetchFromDb : List ContentItem

/-- The second loop: the items whose lock key was not in flight are to be
fetched. -/
def lockMissing : List ContentItem → List String → List ContentItem →
    Service LockedItems
  | [], lockedKeys, toFetchFromDb => return ⟨lockedKeys, toFetchFromDb⟩
  | item :: missingItems, lockedKeys, toFetchFromDb => do
      let lockKey := formatLockKey item.contentType item.contentId
      if ← await (.flightInsert lockKey) then
        lockMissing missingItems (lockedKeys ++ [lockKey]) (toFetchFromDb ++ [item])
      else
        lockMissing missingItems lockedKeys toFetchFromDb

def getLikesCountBatch (items : List ContentItem) :
    Service (Except DomainError (List ContentCount)) := do
  if 100 < items.length then
    return .error (.batchTooLarge items.length)
  else
  let answer ← await (.cacheGetCountsBatch items)
  let cachedCounts : CountsById := unwrapOr (fun _ => none) answer
  let results := cachedResults cachedCounts items
  let missingItems := missingFrom cachedCounts items
  if missingItems.isEmpty then
    return .ok results
  else
  let locked ← lockMissing missingItems [] []
  if locked.toFetchFromDb.isEmpty then
    return .ok results
  else
  match ← await (.dbGetCountsBatch locked.toFetchFromDb) with
  | .error e => return .error e
  | .ok dbCounts =>
      -- `DashMap::clone` copies the map: the task below removes from the copy
      let rehydrationSet ← await .flightClone
      await (.spawn (.rehydrate dbCounts locked.lockedKeys rehydrationSet))
      return .ok (results ++ dbCounts)

/-- The task spawned by `get_likes_count_batch`; it drops its map at the end. -/
def rehydrate (dbCounts : List ContentCount) (lockedKeys : List String)
    (rehydrationSet : FlightLocks) : Service FlightLocks := do
  let _ ← await (.cacheSetCountsBatch dbCounts)
  return fun key => if key ∈ lockedKeys then none else rehydrationSet key

def getBatchStatus (userId : UserId) (items : List ContentItem) :
    Service (Except DomainError (List ContentStatus)) := do
  if 100 < items.length then
    return .error (.batchTooLarge items.length)
  else
  match ← await (.dbGetLikesByPairs userId items) with
  | .error e => return .error e
  | .ok dbLikes =>
      let likedMap : ContentItem → Option DateTime := dbLikes.foldl
        (fun liked record => Function.update liked
          ⟨record.contentType, record.contentId⟩ (some record.createdAt))
        fun _ => none
      return .ok (items.map fun item =>
        { contentType := item.contentType
          contentId := item.contentId
          liked := (likedMap item).isSome
          likedAt := likedMap item })

/-- `limit + 1` on a `usize`. -/
def addOne (setting : Setting) (limit : Nat) : Outcome Nat :=
  if limit + 1 < 2 ^ 64 then .done (limit + 1)
  else if setting.overflowChecks then .panicked "attempt to add with overflow"
  else .done ((limit + 1) % 2 ^ 64)

/-- `&items[limit - 1]` -/
def lastKept (setting : Setting) (items : List Like) (limit : Nat) : Outcome Like :=
  if limit = 0 ∧ setting.overflowChecks then
    .panicked "attempt to subtract with overflow"
  else
    let index := if limit = 0 then 2 ^ 64 - 1 else limit - 1
    match items[index]? with
    | some item => .done item
    | none => .panicked "index out of bounds"

def getUserLikedItems (setting : Setting) (userId : UserId)
    (contentType cursorStr : Option String) (limit : Nat) :
    Service (Outcome (Except DomainError UserLikesResponse)) := do
  match PaginationCursor.decodeOpt setting.cursorJson cursorStr with
  | .error e => return .done (.error e)
  | .ok cursor =>
  match addOne setting limit with
  | .panicked message => return .panicked message
  | .done probe =>
  match ← await (.dbGetUserLikes userId contentType cursor probe) with
  | .error e => return .done (.error e)
  | .ok items =>
  if limit < items.length then
    match lastKept setting items limit with
    | .panicked message => return .panicked message
    | .done lastItem =>
        let nextCursor := PaginationCursor.encode setting.cursorJson
          { t := lastItem.createdAt, id := lastItem.id }
        return .done (.ok
          { items := (items.take limit).map .ofLike
            nextCursor := some nextCursor })
  else
    return .done (.ok { items := items.map .ofLike, nextCursor := none })

/-- The start of a named window, `none` for all time. -/
def windowStart (now : DateTime) : String → Option (Option DateTime)
  | "24h" => some (some (now - 24 * 3600 * 1000000000))
  | "7d" => some (some (now - 7 * 24 * 3600 * 1000000000))
  | "30d" => some (some (now - 30 * 24 * 3600 * 1000000000))
  | "all" => some none
  | _ => none

def getTopLikes (contentType : ContentType) (windowStr : String) (limit : Int) :
    Service (Except DomainError TopLikesResponse) := do
  let limit := min limit 50
  let now ← await .utcNow
  match windowStart now windowStr with
  | none => return .error (.validationError "Invalid window")
  | some since =>
  let answer ← await (.cacheGetLeaderboardWithCanary windowStr contentType)
  let stored := unwrapOr (none, false) answer
  match stored.1 with
  | some items =>
      if stored.2 then
        return .ok { window := windowStr, contentType := contentType, items := items }
      else
      let lock ← await (.cacheAcquireRefreshLock windowStr contentType)
      if unwrapOr false lock then
        await (.spawn (.refreshLeaderboard windowStr contentType since limit))
        return .ok { window := windowStr, contentType := contentType, items := items }
      else
        return .ok { window := windowStr, contentType := contentType, items := items }
  | none =>
  match ← await (.dbGetTopLikes contentType.asOpt since limit) with
  | .error e => return .error e
  | .ok items =>
      let _ ← await (.cacheSetLeaderboardWithCanary windowStr contentType items 30)
      return .ok { window := windowStr, contentType := contentType, items := items }

/-- The background refresh spawned by `get_top_likes`. -/
def refreshLeaderboard (window : String) (contentType : ContentType)
    (since : Option DateTime) (limit : Int) : Service Unit := do
  match ← await (.dbGetTopLikes contentType.asOpt since limit) with
  | .error _ => return ()
  | .ok newItems =>
      let canaryTtl := if window = "24h" then 30 else 300
      let _ ← await
        (.cacheSetLeaderboardWithCanary window contentType newItems canaryTtl)
      return ()

end LikeService

/-- What each call runs. -/
def LikeCall.body (setting : Setting) : LikeCall → Service (LikeCall ⊕ LikeReply)
  | .addLike likeCmd => do return .inr (.addLike (← LikeService.addLike likeCmd))
  | .removeLike userId contentType contentId => do
      return .inr (.removeLike (← LikeService.removeLike userId contentType contentId))
  | .getLikeCount contentType contentId => do
      return .inr (.getLikeCount (← LikeService.getLikeCount contentType contentId))
  | .getLikeStatus userId contentType contentId => do
      return .inr (.getLikeStatus
        (← LikeService.getLikeStatus userId contentType contentId))
  | .getLikesCountBatch items => do
      return .inr (.getLikesCountBatch (← LikeService.getLikesCountBatch items))
  | .getBatchStatus userId items => do
      return .inr (.getBatchStatus (← LikeService.getBatchStatus userId items))
  | .getUserLikedItems userId contentType cursorStr limit => do
      return .inr (.getUserLikedItems
        (← LikeService.getUserLikedItems setting userId contentType cursorStr limit))
  | .getTopLikes contentType windowStr limit => do
      return .inr (.getTopLikes (← LikeService.getTopLikes contentType windowStr limit))
  | .publishLikeEvent event => do
      return .inr (.publishLikeEvent (← await (.cachePublishLikeEvent event)))
  | .rehydrate dbCounts lockedKeys rehydrationSet => do
      return .inr (.rehydrate
        (← LikeService.rehydrate dbCounts lockedKeys rehydrationSet))
  | .refreshLeaderboard window contentType since limit => do
      LikeService.refreshLeaderboard window contentType since limit
      return .inr .refreshLeaderboard

/-! ### Steps without effect on locks and counts -/

/-- A step that changes no row, no count and no lock, and starts no task that
does. -/
def LikeOp.Quiet : LikeOp → Prop
  | .dbSave _ | .dbRemove _ _ _ | .dbGetLikesCount _ _ | .dbGetCountsBatch _ => False
  | .cacheIncrement _ _ | .cacheDecrement _ _ => False
  | .cacheSetValue _ _ _ | .cacheSetCountsBatch _ => False
  | .flightInsert _ | .flightEntry _ | .flightRemove _ => False
  | .mutexLock _ | .mutexUnlock _ => False
  | .spawn (.publishLikeEvent _) | .spawn (.refreshLeaderboard _ _ _ _) => True
  | .spawn _ => False
  | _ => True

/-- A step that changes no row and no count. -/
def LikeOp.KeepsCounts : LikeOp → Prop
  | .dbSave _ | .dbRemove _ _ _ => False
  | .cacheIncrement _ _ | .cacheDecrement _ _ => False
  | .cacheSetValue _ _ _ | .cacheSetCountsBatch _ => False
  | _ => True

theorem LikeOp.Quiet.keepsCounts {op : LikeOp} (quiet : op.Quiet) : op.KeepsCounts := by
  cases op <;> trivial

namespace LikeService

theorem sendSseEvent_quiet (contentId : ContentId) (contentType : ContentType)
    (userId : UserId) (count : Nat) (eType : SseEventType) :
    (sendSseEvent contentId contentType userId count eType).Performs LikeOp.Quiet := by
  simp [sendSseEvent, LikeOp.Quiet, Program.request]

theorem likeAdded_quiet (likeCmd : AddLikeCommand) (count : Nat)
    (createdAt : DateTime) (alreadyExists : Bool) :
    (likeAdded likeCmd count createdAt alreadyExists).Performs LikeOp.Quiet :=
  (sendSseEvent_quiet _ _ _ _ _).bind fun _ => trivial

theorem likeRemoved_quiet (userId : UserId) (contentType : ContentType)
    (contentId : ContentId) (currCount : Nat) :
    (likeRemoved userId contentType contentId currCount).Performs LikeOp.Quiet :=
  (sendSseEvent_quiet _ _ _ _ _).bind fun _ => trivial

theorem getLikeStatus_quiet (userId : UserId) (contentType : ContentType)
    (contentId : ContentId) :
    (getLikeStatus userId contentType contentId).Performs LikeOp.Quiet := by
  refine ⟨trivial, fun answer => ?_⟩
  cases answer <;> trivial

theorem getBatchStatus_quiet (userId : UserId) (items : List ContentItem) :
    (getBatchStatus userId items).Performs LikeOp.Quiet := by
  unfold getBatchStatus
  split
  · trivial
  · refine ⟨trivial, fun answer => ?_⟩
    cases answer <;> trivial

theorem getUserLikedItems_quiet (setting : Setting) (userId : UserId)
    (contentType cursorStr : Option String) (limit : Nat) :
    (getUserLikedItems setting userId contentType cursorStr limit).Performs
      LikeOp.Quiet := by
  unfold getUserLikedItems
  cases PaginationCursor.decodeOpt setting.cursorJson cursorStr with
  | error e => trivial
  | ok cursor =>
  cases addOne setting limit with
  | panicked message => trivial
  | done probe =>
  simp only [Program.request_bind, Program.performs_perform]
  refine ⟨trivial, fun answer => ?_⟩
  cases answer with
  | error e => trivial
  | ok items =>
      simp only
      split
      · cases lastKept setting items limit <;> trivial
      · trivial

theorem getTopLikes_quiet (contentType : ContentType) (windowStr : String)
    (limit : Int) : (getTopLikes contentType windowStr limit).Performs LikeOp.Quiet := by
  simp only [getTopLikes, Program.request_bind, Program.performs_perform]
  refine ⟨trivial, fun now => ?_⟩
  cases windowStart now windowStr with
  | none => trivial
  | some since =>
  refine ⟨trivial, fun answer => ?_⟩
  dsimp only
  cases (unwrapOr (none, false) answer).1 with
  | some items =>
      dsimp only
      split
      · trivial
      · refine ⟨trivial, fun lock => ?_⟩
        dsimp only
        split
        · exact ⟨trivial, fun _ => trivial⟩
        · trivial
  | none =>
      refine ⟨trivial, fun fetched => ?_⟩
      cases fetched with
      | error e => trivial
      | ok items => exact ⟨trivial, fun _ => trivial⟩

theorem refreshLeaderboard_quiet (window : String) (contentType : ContentType)
    (since : Option DateTime) (limit : Int) :
    (refreshLeaderboard window contentType since limit).Performs LikeOp.Quiet := by
  refine ⟨trivial, fun answer => ?_⟩
  cases answer with
  | error e => trivial
  | ok newItems => exact ⟨trivial, fun _ => trivial⟩

end LikeService

/-! ### Shared state -/

/-- Everything the calls share. -/
structure World where
  likes : LikesTable
  redis : Redis
  /-- Unix seconds, as Redis counts time. -/
  clock : Int
  flightLocks : FlightLocks
  held : Nat → Bool
  nextMutex : Nat
  published : List (String × String)

/-- `LikeService::new` over stores that are already there. -/
def World.new (likes : LikesTable) (redis : Redis) (clock : Int) : World where
  likes := likes
  redis := redis
  clock := clock
  flightLocks := fun _ => none
  held := fun _ => false
  nextMutex := 0
  published := []

/-- What the surroundings contribute to one step: the keys that leave Redis and
the time that passes before it, whether its store fails, and the answers that
come from elsewhere. -/
structure Surroundings where
  expired : List String
  elapse : Nat
  fault : Option Fault
  verdict : Except DomainError Uuid
  now : DateTime
  newId : Uuid
  order : List Nat

/-- Nothing fails, nothing expires and no time passes. -/
def Surroundings.calm : Surroundings where
  expired := []
  elapse := 0
  fault := none
  verdict := .ok 0
  now := 0
  newId := 0
  order := []

/-- The world a step finds: time has passed and keys have left. -/
def World.advance (env : Surroundings) (world : World) : World :=
  { world with
    redis := world.redis.drop env.expired
    clock := world.clock + env.elapse }

open PostgresLikeRepository RedisLikeRepository in
/-- The effect and the answer of one step. -/
def World.serve (setting : Setting) (env : Surroundings) :
    (op : LikeOp) → World → Option (op.Res × World × List LikeCall)
  | .validateContent _ _, world => some (env.verdict, world, [])
  | .utcNow, world => some (env.now, world, [])
  | .dbSave like, world =>
      let (answer, likes) := save env.fault env.newId like world.likes
      some (answer, { world with likes := likes }, [])
  | .dbGetLike userId contentType contentId, world =>
      some (getLike env.fault userId contentType contentId world.likes, world, [])
  | .dbGetLikesByPairs userId items, world =>
      some (getLikesByPairs env.fault env.order userId items world.likes, world, [])
  | .dbRemove userId contentType contentId, world =>
      let (answer, likes) := remove env.fault userId contentType contentId world.likes
      some (answer, { world with likes := likes }, [])
  | .dbGetLikesCount contentType contentId, world =>
      some (getLikesCount env.fault contentType contentId world.likes, world, [])
  | .dbGetCountsBatch items, world =>
      some (PostgresLikeRepository.getCountsBatch env.fault env.order items world.likes,
        world, [])
  | .dbGetUserLikes userId contentType cursor limit, world =>
      some (getUserLikes env.fault userId contentType cursor limit world.likes,
        world, [])
  | .dbGetTopLikes contentType since limit, world =>
      some (PostgresLikeRepository.getTopLikes env.fault env.order contentType since
        limit world.likes, world, [])
  | .cacheIncrement contentType contentId, world =>
      let (answer, redis) := increment setting.config env.fault world.clock contentType
        contentId world.redis
      some (answer, { world with redis := redis }, [])
  | .cacheDecrement contentType contentId, world =>
      let (answer, redis) := decrement setting.config env.fault world.clock contentType
        contentId world.redis
      some (answer, { world with redis := redis }, [])
  | .cacheSetValue contentType contentId value, world =>
      let (answer, redis) := setValue setting.config env.fault world.clock contentType
        contentId value world.redis
      some (answer, { world with redis := redis }, [])
  | .cacheGetCount contentType contentId, world =>
      some (getCount env.fault contentType contentId world.redis, world, [])
  | .cacheGetCountsBatch items, world =>
      some (RedisLikeRepository.getCountsBatch env.fault items world.redis, world, [])
  | .cacheSetCountsBatch counts, world =>
      let (answer, redis) := setCountsBatch env.fault world.clock counts world.redis
      some (answer, { world with redis := redis }, [])
  | .cacheGetLeaderboardWithCanary window contentType, world =>
      some (getLeaderboardWithCanary setting.itemsJson env.fault window contentType
        world.redis, world, [])
  | .cacheSetLeaderboardWithCanary window contentType items canaryTtl, world =>
      let (answer, redis) := setLeaderboardWithCanary setting.itemsJson env.fault
        world.clock window contentType items canaryTtl world.redis
      some (answer, { world with redis := redis }, [])
  | .cacheAcquireRefreshLock window contentType, world =>
      let (answer, redis) := acquireRefreshLock env.fault world.clock window contentType
        world.redis
      some (answer, { world with redis := redis }, [])
  | .cachePublishLikeEvent event, world =>
      match publishLikeEvent setting.eventText env.fault event with
      | .error e => some (.error e, world, [])
      | .ok sent =>
          some (.ok (), { world with published := world.published ++ [sent] }, [])
  | .flightInsert lockKey, world =>
      some ((world.flightLocks lockKey).isNone,
        { world with
          flightLocks := Function.update world.flightLocks lockKey
            (some world.nextMutex)
          nextMutex := world.nextMutex + 1 }, [])
  | .flightEntry lockKey, world =>
      match world.flightLocks lockKey with
      | some lock => some (lock, world, [])
      | none =>
          some (world.nextMutex,
            { world with
              flightLocks := Function.update world.flightLocks lockKey
                (some world.nextMutex)
              nextMutex := world.nextMutex + 1 }, [])
  | .flightRemove lockKey, world =>
      some ((), { world with
        flightLocks := Function.update world.flightLocks lockKey none }, [])
  | .flightClone, world => some (world.flightLocks, world, [])
  | .mutexLock lock, world =>
      if world.held lock then none
      else some ((), { world with held := Function.update world.held lock true }, [])
  | .mutexUnlock lock, world =>
      some ((), { world with held := Function.update world.held lock false }, [])
  | .spawn task, world => some ((), world, [task])

/-- One step, from the world the surroundings left. -/
def World.handle (setting : Setting) (env : Surroundings) (op : LikeOp)
    (world : World) : Option (op.Res × World × List LikeCall) :=
  (world.advance env).serve setting env op

/-! ### What one step changes -/

/-- The lock map after a step. -/
def World.flightLocksAfter (world : World) : LikeOp → FlightLocks
  | .flightInsert lockKey =>
      Function.update world.flightLocks lockKey (some world.nextMutex)
  | .flightEntry lockKey =>
      match world.flightLocks lockKey with
      | some _ => world.flightLocks
      | none => Function.update world.flightLocks lockKey (some world.nextMutex)
  | .flightRemove lockKey => Function.update world.flightLocks lockKey none
  | _ => world.flightLocks

/-- The table after a step. -/
def World.likesAfter (env : Surroundings) (world : World) : LikeOp → LikesTable
  | .dbSave like =>
      (PostgresLikeRepository.save env.fault env.newId like world.likes).2
  | .dbRemove userId contentType contentId =>
      (PostgresLikeRepository.remove env.fault userId contentType contentId
        world.likes).2
  | _ => world.likes

open RedisLikeRepository in
/-- The key space after a step, from the one the step finds. -/
def World.redisAfter (setting : Setting) (env : Surroundings) (now : Int)
    (store : Redis) : LikeOp → Redis
  | .cacheIncrement contentType contentId =>
      (increment setting.config env.fault now contentType contentId store).2
  | .cacheDecrement contentType contentId =>
      (decrement setting.config env.fault now contentType contentId store).2
  | .cacheSetValue contentType contentId value =>
      (setValue setting.config env.fault now contentType contentId value store).2
  | .cacheSetCountsBatch counts => (setCountsBatch env.fault now counts store).2
  | .cacheSetLeaderboardWithCanary window contentType items canaryTtl =>
      (setLeaderboardWithCanary setting.itemsJson env.fault now window contentType
        items canaryTtl store).2
  | .cacheAcquireRefreshLock window contentType =>
      (acquireRefreshLock env.fault now window contentType store).2
  | _ => store

/-- The mutexes after a step. -/
def World.heldAfter (held : Nat → Bool) : LikeOp → Nat → Bool
  | .mutexLock lock => Function.update held lock true
  | .mutexUnlock lock => Function.update held lock false
  | _ => held

/-- The tasks a step starts. -/
def LikeOp.started : LikeOp → List LikeCall
  | .spawn task => [task]
  | _ => []

section Frame

variable {setting : Setting} {env : Surroundings} {op : LikeOp} {world after : World}
  {answer : op.Res} {spawned : List LikeCall}

/-- What one step does, for every operation. -/
private theorem World.handle_step
    (handled : World.handle setting env op world = some (answer, after, spawned)) :
    (after.flightLocks = world.flightLocksAfter op ∧
      after.likes = world.likesAfter env op ∧
      after.redis = World.redisAfter setting env (world.clock + env.elapse)
        (world.redis.drop env.expired) op ∧
      after.clock = world.clock + env.elapse) ∧
    after.held = World.heldAfter world.held op ∧ spawned = op.started := by
  cases op with
  | cachePublishLikeEvent event =>
      simp only [handle, serve] at handled
      split at handled <;>
      · simp only [Option.some.injEq, Prod.mk.injEq] at handled
        obtain ⟨-, rfl, rfl⟩ := handled
        exact ⟨⟨rfl, rfl, rfl, rfl⟩, rfl, rfl⟩
  | flightEntry lockKey =>
      simp only [handle, serve] at handled
      split at handled <;>
      · simp only [Option.some.injEq, Prod.mk.injEq] at handled
        obtain ⟨-, rfl, rfl⟩ := handled
        exact ⟨⟨by simp_all [flightLocksAfter, advance], rfl, rfl, rfl⟩, rfl, rfl⟩
  | mutexLock lock =>
      simp only [handle, serve] at handled
      split at handled
      · cases handled
      · simp only [Option.some.injEq, Prod.mk.injEq] at handled
        obtain ⟨-, rfl, rfl⟩ := handled
        exact ⟨⟨rfl, rfl, rfl, rfl⟩, rfl, rfl⟩
  | _ =>
      simp only [handle, serve, Option.some.injEq, Prod.mk.injEq] at handled
      obtain ⟨-, rfl, rfl⟩ := handled
      exact ⟨⟨rfl, rfl, rfl, rfl⟩, rfl, rfl⟩

/-- One step changes the shared state as its operation says. -/
theorem World.handle_after
    (handled : World.handle setting env op world = some (answer, after, spawned)) :
    after.flightLocks = world.flightLocksAfter op ∧
      after.likes = world.likesAfter env op ∧
      after.redis = World.redisAfter setting env (world.clock + env.elapse)
        (world.redis.drop env.expired) op ∧
      after.clock = world.clock + env.elapse :=
  (World.handle_step handled).1

theorem World.handle_held
    (handled : World.handle setting env op world = some (answer, after, spawned)) :
    after.held = World.heldAfter world.held op :=
  (World.handle_step handled).2.1

theorem World.handle_started
    (handled : World.handle setting env op world = some (answer, after, spawned)) :
    spawned = op.started :=
  (World.handle_step handled).2.2

/-- Only a spawn starts a task. -/
theorem World.handle_spawned {task : LikeCall}
    (handled : World.handle setting env op world = some (answer, after, spawned))
    (started : task ∈ spawned) : op = .spawn task := by
  rw [World.handle_started handled] at started
  cases op with
  | spawn target =>
      obtain rfl := List.mem_singleton.mp started
      rfl
  | _ => cases started

/-- A mutex that is taken was free. -/
theorem World.handle_mutexLock {lock : Nat} {locked : Unit}
    (handled : World.handle setting env (.mutexLock lock) world =
      some (locked, after, spawned)) : world.held lock = false := by
  simp only [handle, serve] at handled
  split at handled
  · cases handled
  · next free => exact Bool.eq_false_iff.mpr free

/-- A call that enters a key gets the mutex under it, a new one if there was none. -/
theorem World.handle_flightEntry {lockKey : String} {lock : Nat}
    (handled : World.handle setting env (.flightEntry lockKey) world =
      some (lock, after, spawned)) :
    after.flightLocks lockKey = some lock ∧
      ∀ old, world.flightLocks lockKey = some old → old = lock := by
  simp only [handle, serve] at handled
  split at handled
  · next present found =>
      simp only [Option.some.injEq, Prod.mk.injEq] at handled
      obtain ⟨rfl, rfl, -⟩ := handled
      exact ⟨found, fun old same => Option.some.inj (same.symm.trans found)⟩
  · next absent =>
      simp only [Option.some.injEq, Prod.mk.injEq] at handled
      obtain ⟨rfl, rfl, -⟩ := handled
      refine ⟨Function.update_self _ _ _, fun old same => ?_⟩
      rw [World.advance, same] at absent
      cases absent

/-- Such a step changes no row, and a count only by its expiry. -/
theorem World.handle_keepsCounts (keeps : op.KeepsCounts)
    (handled : World.handle setting env op world = some (answer, after, spawned)) :
    after.likes = world.likes ∧ ∀ contentType contentId,
      after.redis (RedisLikeRepository.formatCountKey contentType contentId) =
        world.redis.drop env.expired
          (RedisLikeRepository.formatCountKey contentType contentId) := by
  obtain ⟨_, likes, redis, _⟩ := World.handle_after handled
  rw [likes, redis]
  cases op with
  | cacheSetLeaderboardWithCanary window leadType items canaryTtl =>
      exact ⟨rfl, RedisLikeRepository.setLeaderboardWithCanary_count _ _ _ _ _ _ _ _⟩
  | cacheAcquireRefreshLock window leadType =>
      exact ⟨rfl, RedisLikeRepository.acquireRefreshLock_count _ _ _ _ _⟩
  | dbSave like => exact keeps.elim
  | dbRemove userId contentType contentId => exact keeps.elim
  | cacheIncrement contentType contentId => exact keeps.elim
  | cacheDecrement contentType contentId => exact keeps.elim
  | cacheSetValue contentType contentId value => exact keeps.elim
  | cacheSetCountsBatch counts => exact keeps.elim
  | _ => exact ⟨rfl, fun _ _ => rfl⟩

/-- Such a step leaves a count that does not expire as it was. -/
theorem World.handle_countKept {contentType : ContentType} {contentId : ContentId}
    (keeps : op.KeepsCounts)
    (kept : RedisLikeRepository.formatCountKey contentType contentId ∉ env.expired)
    (handled : World.handle setting env op world = some (answer, after, spawned)) :
    after.redis (RedisLikeRepository.formatCountKey contentType contentId) =
      world.redis (RedisLikeRepository.formatCountKey contentType contentId) := by
  rw [(World.handle_keepsCounts keeps handled).2, Redis.drop_of_not_mem _ kept]

end Frame

section Answers

open RedisLikeRepository

variable {setting : Setting} {env : Surroundings} {world after : World}
  {contentType : ContentType} {contentId : ContentId} {spawned : List LikeCall}

/-- A healthy Redis answers a count read from the key space the step leaves. -/
theorem World.handle_getCount {answer : Except DomainError (Option Nat)}
    (healthy : env.fault = none)
    (handled : World.handle setting env (.cacheGetCount contentType contentId) world =
      some (answer, after, spawned)) :
    answer = getCount none contentType contentId after.redis := by
  simp only [handle, serve, Option.some.injEq, Prod.mk.injEq] at handled
  rw [← handled.1, ← handled.2.1, healthy]

/-- A healthy Postgres counts the rows. -/
theorem World.handle_getLikesCount {answer : Except DomainError Nat}
    (healthy : env.fault = none)
    (handled : World.handle setting env (.dbGetLikesCount contentType contentId) world =
      some (answer, after, spawned)) :
    answer = .ok (world.likes.countOf contentType contentId) := by
  simp only [handle, serve, Option.some.injEq, Prod.mk.injEq] at handled
  rw [← handled.1, healthy]
  rfl

/-- A query of the count that is answered has counted the rows. -/
theorem World.handle_counted {count : Nat}
    (handled : World.handle setting env (.dbGetLikesCount contentType contentId) world =
      some (.ok count, after, spawned)) :
    world.likes.countOf contentType contentId = count := by
  cases healthy : env.fault with
  | none => exact (Except.ok.inj (World.handle_getLikesCount healthy handled)).symm
  | some fault =>
      simp only [handle, serve, advance, PostgresLikeRepository.getLikesCount, healthy,
        Option.some.injEq, Prod.mk.injEq, reduceCtorEq, false_and] at handled

/-- A count that Redis answers is the number of an entry. -/
theorem World.handle_cachedCount {count : Nat}
    (handled : World.handle setting env (.cacheGetCount contentType contentId) world =
      some (.ok (some count), after, spawned)) :
    ∃ entry, world.redis.drop env.expired (formatCountKey contentType contentId) = some entry ∧
      entry.value = .int count := by
  simp only [handle, serve, advance, Option.some.injEq, Prod.mk.injEq] at handled
  have answered := handled.1
  cases healthy : env.fault with
  | some fault =>
      rw [healthy] at answered
      cases answered
  | none =>
      rw [healthy] at answered
      simp only [getCount] at answered
      exact asOptionU64_some answered

/-- A healthy Redis stores the value. -/
theorem World.handle_setValue {value : Nat} {answer : Except DomainError Unit}
    (healthy : env.fault = none) (positive : 0 < setting.config.cacheTtlLikeCountsSecs)
    (handled : World.handle setting env (.cacheSetValue contentType contentId value)
      world = some (answer, after, spawned)) :
    after.likes = world.likes ∧ ∃ deadline,
      after.redis = (world.redis.drop env.expired).put
        (formatCountKey contentType contentId) ⟨.int value, deadline⟩ := by
  simp only [handle, serve, World.advance, healthy, setValue_eq positive,
    Option.some.injEq, Prod.mk.injEq] at handled
  obtain ⟨_, rfl, _⟩ := handled
  exact ⟨rfl, _, rfl⟩

/-- A healthy Redis counts up from the number there, or from zero. -/
theorem World.handle_increment {answer : Except DomainError Nat}
    (healthy : env.fault = none) (positive : 0 < setting.config.cacheTtlLikeCountsSecs)
    (numeric : (world.redis.drop env.expired).Numeric
      (formatCountKey contentType contentId))
    (handled : World.handle setting env (.cacheIncrement contentType contentId) world =
      some (answer, after, spawned)) :
    answer = .ok (replyAsU64 (((world.redis.drop env.expired).number
        (formatCountKey contentType contentId)).getD 0 + 1)) ∧
      after.likes = world.likes ∧ ∃ deadline,
        after.redis = (world.redis.drop env.expired).put
          (formatCountKey contentType contentId)
          ⟨.int (((world.redis.drop env.expired).number
            (formatCountKey contentType contentId)).getD 0 + 1), deadline⟩ := by
  simp only [handle, serve, World.advance, increment, healthy,
    changeCount_eq positive numeric, Option.some.injEq, Prod.mk.injEq] at handled
  obtain ⟨rfl, rfl, _⟩ := handled
  exact ⟨rfl, rfl, _, rfl⟩

/-- A healthy Redis counts down from the number there, or from zero. -/
theorem World.handle_decrement {answer : Except DomainError Nat}
    (healthy : env.fault = none) (positive : 0 < setting.config.cacheTtlLikeCountsSecs)
    (numeric : (world.redis.drop env.expired).Numeric
      (formatCountKey contentType contentId))
    (handled : World.handle setting env (.cacheDecrement contentType contentId) world =
      some (answer, after, spawned)) :
    answer = .ok (replyAsU64 (((world.redis.drop env.expired).number
        (formatCountKey contentType contentId)).getD 0 + -1)) ∧
      after.likes = world.likes ∧ ∃ deadline,
        after.redis = (world.redis.drop env.expired).put
          (formatCountKey contentType contentId)
          ⟨.int (((world.redis.drop env.expired).number
            (formatCountKey contentType contentId)).getD 0 + -1), deadline⟩ := by
  simp only [handle, serve, World.advance, decrement, healthy,
    changeCount_eq positive numeric, Option.some.injEq, Prod.mk.injEq] at handled
  obtain ⟨rfl, rfl, _⟩ := handled
  exact ⟨rfl, rfl, _, rfl⟩

/-- What an insert can answer, and the table it leaves. -/
theorem World.handle_save {like : Like} {answer : Except DomainError Bool}
    (handled : World.handle setting env (.dbSave like) world =
      some (answer, after, spawned)) :
    after.redis = world.redis.drop env.expired ∧
      ((∃ e, answer = .error e ∧ after.likes = world.likes ∧
          (env.fault = none → env.newId ∈ world.likes.rows.map Like.id)) ∨
        (answer = .ok true ∧ (world.likes.find like.key).isSome ∧
          after.likes = world.likes) ∨
        (answer = .ok false ∧ world.likes.find like.key = none ∧
          ∃ newKey freshId,
            after.likes = world.likes.insert like env.newId newKey freshId)) := by
  simp only [handle, serve, World.advance, Option.some.injEq, Prod.mk.injEq] at handled
  obtain ⟨rfl, rfl, _⟩ := handled
  refine ⟨rfl, ?_⟩
  rcases PostgresLikeRepository.save_cases env.fault env.newId like world.likes with
    ⟨text, failed, cause⟩ | ⟨_, found, kept⟩ | ⟨_, newKey, freshId, inserted⟩
  · exact .inl ⟨_, by rw [failed], by rw [failed], cause⟩
  · exact .inr (.inl ⟨by rw [kept], LikesTable.find_isSome_iff.mpr found, by rw [kept]⟩)
  · refine .inr (.inr ⟨by rw [inserted], ?_, newKey, freshId, by rw [inserted]⟩)
    rw [← Option.not_isSome_iff_eq_none, LikesTable.find_isSome_iff]
    exact newKey

/-- What a delete answers, and the table it leaves. -/
theorem World.handle_remove {userId : UserId} {answer : Except DomainError Bool}
    (handled : World.handle setting env (.dbRemove userId contentType contentId) world =
      some (answer, after, spawned)) :
    after.redis = world.redis.drop env.expired ∧
      ((∃ e, answer = .error e ∧ env.fault ≠ none ∧ after.likes = world.likes) ∨
        (answer = .ok (world.likes.find (userId, contentType, contentId)).isSome ∧
          after.likes = world.likes.erase (userId, contentType, contentId))) := by
  simp only [handle, serve, World.advance, Option.some.injEq, Prod.mk.injEq] at handled
  obtain ⟨rfl, rfl, _⟩ := handled
  refine ⟨rfl, ?_⟩
  cases fault : env.fault with
  | some e => exact .inl ⟨_, rfl, by simp, rfl⟩
  | none => exact .inr ⟨rfl, rfl⟩

end Answers

/-- LikeService as a system of interleaved calls. -/
@[reducible] def likeService (setting : Setting) : System where
  Op := LikeOp
  Res := LikeOp.Res
  State := World
  Env := Surroundings
  Call := LikeCall
  Reply := LikeReply
  body := LikeCall.body setting
  handle := World.handle setting

end SocialApi
