/-
Module: SocialApi.Proofs.Leaderboard
Purpose: Which limit the answers of get_top_likes are for, while requests and background
  refreshes share the cached leaderboards.
Trusted boundary: none
Main exports:
  TopQuery, Board, Board.body_boards, Dated, Listed, lastLimit, Serves, Boarded, boarded_step,
  top_likes_answer_limit
-/
import SocialApi.Application.LikeService
import SocialApi.Process.Phases

namespace SocialApi

open Process
open LikeService
open RedisLikeRepository (formatLeadKey)

/-! ### Calls that keep off the leaderboard -/

/-- A step that neither reads nor writes a leaderboard, and starts no refresh of one. -/
def LikeOp.OffBoard : LikeOp → Prop
  | .cacheGetLeaderboardWithCanary _ _ | .cacheSetLeaderboardWithCanary _ _ _ _
  | .spawn (.refreshLeaderboard _ _ _ _) => False
  | _ => True

section OffBoard

variable (userId : UserId) (contentType : ContentType) (contentId : ContentId)

theorem getLikeCountWithFallback_offBoard :
    (getLikeCountWithFallback contentType contentId).Performs LikeOp.OffBoard := by
  simp only [getLikeCountWithFallback, getCacheLikeCount_bind, Program.performs_perform]
  refine ⟨trivial, fun first => ?_⟩
  cases cachedCount first with
  | ok count => trivial
  | error miss =>
  refine ⟨trivial, fun lock => ⟨trivial, fun _ => ⟨trivial, fun second => ?_⟩⟩⟩
  dsimp only
  cases cachedCount second with
  | ok count => exact ⟨trivial, fun _ => ⟨trivial, fun _ => trivial⟩⟩
  | error miss =>
  refine ⟨trivial, fun counted => ?_⟩
  cases counted with
  | error e => exact ⟨trivial, fun _ => trivial⟩
  | ok count => exact ⟨trivial, fun _ => ⟨trivial, fun _ => ⟨trivial, fun _ => trivial⟩⟩⟩

theorem sendSseEvent_offBoard (count : Nat) (eType : SseEventType) :
    (sendSseEvent contentId contentType userId count eType).Performs LikeOp.OffBoard :=
  ⟨trivial, fun _ => ⟨trivial, fun _ => trivial⟩⟩

theorem likeAdded_offBoard (likeCmd : AddLikeCommand) (count : Nat) (createdAt : DateTime)
    (alreadyExists : Bool) :
    (likeAdded likeCmd count createdAt alreadyExists).Performs LikeOp.OffBoard :=
  (sendSseEvent_offBoard _ _ _ _ _).bind fun _ => trivial

theorem addLike_offBoard (likeCmd : AddLikeCommand) :
    (addLike likeCmd).Performs LikeOp.OffBoard := by
  refine ⟨trivial, fun verdict => ?_⟩
  cases verdict with
  | error e => trivial
  | ok content =>
  refine ⟨trivial, fun createdAt => ⟨trivial, fun saved => ?_⟩⟩
  cases saved with
  | error e => trivial
  | ok existed =>
  cases existed with
  | true =>
      apply (getLikeCountWithFallback_offBoard _ _).bind
      intro result
      cases result with
      | error e => trivial
      | ok count =>
          refine ⟨trivial, fun found => ?_⟩
          cases found with
          | error e => trivial
          | ok existedLike => exact likeAdded_offBoard _ _ _ _
  | false =>
      refine ⟨trivial, fun incremented => ?_⟩
      cases incremented with
      | ok newCount => exact likeAdded_offBoard _ _ _ _
      | error failure =>
          refine ⟨trivial, fun counted => ?_⟩
          cases counted with
          | error e => trivial
          | ok count => exact likeAdded_offBoard _ _ _ _

theorem likeRemoved_offBoard (currCount : Nat) :
    (likeRemoved userId contentType contentId currCount).Performs LikeOp.OffBoard :=
  (sendSseEvent_offBoard _ _ _ _ _).bind fun _ => trivial

theorem removeLike_offBoard :
    (removeLike userId contentType contentId).Performs LikeOp.OffBoard := by
  refine ⟨trivial, fun verdict => ?_⟩
  cases verdict with
  | error e => trivial
  | ok content =>
  refine ⟨trivial, fun removed => ?_⟩
  cases removed with
  | error e => trivial
  | ok wasLiked =>
  apply (getLikeCountWithFallback_offBoard _ _).bind
  intro result
  cases result with
  | error e => trivial
  | ok currCount =>
  dsimp only
  split
  · split
    · refine ⟨trivial, fun decremented => ?_⟩
      cases decremented with
      | ok newCount => exact likeRemoved_offBoard _ _ _ _
      | error failure =>
          refine ⟨trivial, fun counted => ?_⟩
          cases counted with
          | error e => trivial
          | ok count => exact likeRemoved_offBoard _ _ _ _
    · exact likeRemoved_offBoard _ _ _ _
  · trivial

theorem getLikeCount_offBoard :
    (getLikeCount contentType contentId).Performs LikeOp.OffBoard := by
  apply (getLikeCountWithFallback_offBoard _ _).bind
  intro result
  cases result <;> trivial

theorem lockMissing_offBoard (missingItems : List ContentItem) (lockedKeys : List String)
    (toFetchFromDb : List ContentItem) :
    (lockMissing missingItems lockedKeys toFetchFromDb).Performs LikeOp.OffBoard := by
  induction missingItems generalizing lockedKeys toFetchFromDb with
  | nil => trivial
  | cons item missingItems inductionHypothesis =>
      simp only [lockMissing, Program.request_bind, Program.performs_perform]
      refine ⟨trivial, fun inserted => ?_⟩
      split
      · exact inductionHypothesis _ _
      · exact inductionHypothesis _ _

theorem getLikesCountBatch_offBoard (items : List ContentItem) :
    (getLikesCountBatch items).Performs LikeOp.OffBoard := by
  unfold getLikesCountBatch
  split
  · trivial
  · simp only [Program.request_bind, Program.performs_perform]
    refine ⟨trivial, fun answer => ?_⟩
    split
    · trivial
    · apply (lockMissing_offBoard _ _ _).bind
      intro locked
      split
      · trivial
      · refine ⟨trivial, fun counted => ?_⟩
        cases counted with
        | error e => trivial
        | ok dbCounts => exact ⟨trivial, fun _ => ⟨trivial, fun _ => trivial⟩⟩

theorem getLikeStatus_offBoard :
    (getLikeStatus userId contentType contentId).Performs LikeOp.OffBoard := by
  refine ⟨trivial, fun answer => ?_⟩
  cases answer <;> trivial

theorem getBatchStatus_offBoard (items : List ContentItem) :
    (getBatchStatus userId items).Performs LikeOp.OffBoard := by
  unfold getBatchStatus
  split
  · trivial
  · refine ⟨trivial, fun answer => ?_⟩
    cases answer <;> trivial

theorem getUserLikedItems_offBoard (setting : Setting)
    (contentTypeName cursorStr : Option String) (limit : Nat) :
    (getUserLikedItems setting userId contentTypeName cursorStr limit).Performs
      LikeOp.OffBoard := by
  unfold getUserLikedItems
  cases PaginationCursor.decodeOpt setting.cursorJson cursorStr with
  | error e => trivial
  | ok cursor =>
  cases addOne setting limit with
  | panicked message => trivial
  | done probe =>
  simp only [Program.request_bind, Program.performs_perform]
  refine ⟨trivial, fun answer => ?_⟩
  cases answer with
  | error e => trivial
  | ok items =>
  dsimp only
  split
  · cases lastKept setting items limit <;> trivial
  · trivial

end OffBoard

/-! ### The protocol of the leaderboard -/

/-- The query that a call makes or answers for, with the limit it passes on. -/
structure TopQuery where
  contentType : ContentType
  window : String
  limit : Int
deriving DecidableEq

/-- The query of a request, or of a refresh. -/
def LikeCall.topQuery : LikeCall → Option TopQuery
  | .getTopLikes contentType windowStr limit => some ⟨contentType, windowStr, min limit 50⟩
  | .refreshLeaderboard window contentType _ limit => some ⟨contentType, window, limit⟩
  | _ => none

/-- Where a call stands: it has nothing to do with leaderboards, or it is on its way to a
list from the cache or from the table. -/
inductive Board where
  | aside
  | asked (query : TopQuery)
  | dated (query : TopQuery) (since : Option DateTime)
  | shown (query : TopQuery) (since : Option DateTime) (items : List TopLikeItem)
  | missed (query : TopQuery) (since : Option DateTime)
  | fetched (query : TopQuery) (items : List TopLikeItem)

namespace Board

def start : LikeCall → Board
  | .getTopLikes contentType windowStr limit => .asked ⟨contentType, windowStr, min limit 50⟩
  | .refreshLeaderboard window contentType since limit =>
      .missed ⟨contentType, window, limit⟩ since
  | _ => .aside

def query : Board → Option TopQuery
  | .aside => none
  | .asked query | .dated query _ | .shown query _ _ | .missed query _ | .fetched query _ =>
      some query

/-- The start of the window, once a request knows it. -/
def since : Board → Option (TopQuery × Option DateTime)
  | .dated query since | .shown query since _ | .missed query since => some (query, since)
  | .aside | .asked _ | .fetched _ _ => none

/-- The list, once a call has one. -/
def list : Board → Option (TopQuery × List TopLikeItem)
  | .shown query _ items | .fetched query items => some (query, items)
  | .aside | .asked _ | .dated _ _ | .missed _ _ => none

def advance : Board → (op : LikeOp) → op.Res → Board
  | .asked query, .utcNow, now =>
      match windowStart now query.window with
      | none => .aside
      | some since => .dated query since
  | .dated query since, .cacheGetLeaderboardWithCanary _ _, answer =>
      match (unwrapOr (none, false) answer).1 with
      | some items => .shown query since items
      | none => .missed query since
  | .missed query _, .dbGetTopLikes _ _ _, .ok items => .fetched query items
  | .missed _ _, .dbGetTopLikes _ _ _, .error _ => .aside
  | board, _, _ => board

def Permitted : Board → LikeOp → Prop
  | .aside, op => op.OffBoard
  | .asked _, op => op = .utcNow
  | .dated query _, op => op = .cacheGetLeaderboardWithCanary query.window query.contentType
  | .shown query since _, op =>
      op = .cacheAcquireRefreshLock query.window query.contentType ∨
        op = .spawn (.refreshLeaderboard query.window query.contentType since query.limit)
  | .missed query since, op =>
      op = .dbGetTopLikes query.contentType.asOpt since query.limit
  | .fetched query items, op => ∃ canaryTtl,
      op = .cacheSetLeaderboardWithCanary query.window query.contentType items canaryTtl

/-- A request that succeeds answers with the list it has. -/
def Final (board : Board) : LikeCall ⊕ LikeReply → Prop
  | .inl _ => False
  | .inr (.getTopLikes (.ok response)) => ∃ limit,
      board.list = some (⟨response.contentType, response.window, limit⟩, response.items)
  | .inr _ => True

/-- The program keeps to the protocol, and ends as stated. -/
abbrev Boards {α : Type} (final : Board → α → Prop) (program : Service α) (board : Board) :
    Prop :=
  program.Obeys advance Permitted (fun _ _ _ => True) final board

/-- A call that keeps off the leaderboard stays aside. -/
theorem aside_of_offBoard {α : Type} {program : Service α} {reply : α → LikeReply}
    (off : program.Performs LikeOp.OffBoard)
    (other : ∀ value response, reply value ≠ .getTopLikes (.ok response)) :
    Boards Final (do return .inr (reply (← program))) .aside := by
  have aside : Boards (fun reached _ => reached = .aside) program .aside := by
    apply off.obeys
    intro op keeps
    refine ⟨keeps, fun answer => ?_⟩
    cases op <;> rfl
  apply aside.bind
  rintro _ value rfl
  have ends : Final .aside (.inr (reply value)) := by
    cases is : reply value with
    | getTopLikes result =>
        cases result with
        | error e => trivial
        | ok response => exact absurd is (other value response)
    | _ => trivial
  exact ends

theorem getTopLikes_boards (contentType : ContentType) (windowStr : String) (limit : Int) :
    Boards (fun board result => Final board (.inr (.getTopLikes result)))
      (getTopLikes contentType windowStr limit)
      (.asked ⟨contentType, windowStr, min limit 50⟩) := by
  simp only [getTopLikes, Program.request_bind, Boards, Program.obeys_perform]
  refine ⟨rfl, fun now _ => ?_⟩
  simp only [advance]
  cases windowStart now windowStr with
  | none => trivial
  | some since =>
  refine ⟨rfl, fun answer _ => ?_⟩
  simp only [advance]
  cases (unwrapOr (none, false) answer).1 with
  | some items =>
      dsimp only
      split
      · exact ⟨_, rfl⟩
      · refine ⟨.inl rfl, fun lock _ => ?_⟩
        dsimp only
        split
        · exact ⟨.inr rfl, fun _ _ => ⟨_, rfl⟩⟩
        · exact ⟨_, rfl⟩
  | none =>
      refine ⟨rfl, fun listed _ => ?_⟩
      cases listed with
      | error e => trivial
      | ok items => exact ⟨⟨30, rfl⟩, fun _ _ => ⟨_, rfl⟩⟩

theorem refreshLeaderboard_boards (window : String) (contentType : ContentType)
    (since : Option DateTime) (limit : Int) :
    Boards (fun _ _ => True) (refreshLeaderboard window contentType since limit)
      (.missed ⟨contentType, window, limit⟩ since) := by
  refine ⟨rfl, fun listed _ => ?_⟩
  cases listed with
  | error e => trivial
  | ok newItems => exact ⟨⟨_, rfl⟩, fun _ _ => trivial⟩

/-- Every call keeps to the protocol. -/
theorem body_boards (setting : Setting) (call : LikeCall) :
    Boards Final (call.body setting) (start call) := by
  cases call with
  | addLike likeCmd => exact aside_of_offBoard (addLike_offBoard _) (by simp)
  | removeLike userId contentType contentId =>
      exact aside_of_offBoard (removeLike_offBoard _ _ _) (by simp)
  | getLikeCount contentType contentId =>
      exact aside_of_offBoard (getLikeCount_offBoard _ _) (by simp)
  | getLikeStatus userId contentType contentId =>
      exact aside_of_offBoard (getLikeStatus_offBoard _ _ _) (by simp)
  | getLikesCountBatch items =>
      exact aside_of_offBoard (getLikesCountBatch_offBoard _) (by simp)
  | getBatchStatus userId items =>
      exact aside_of_offBoard (getBatchStatus_offBoard _ _) (by simp)
  | getUserLikedItems userId contentType cursorStr limit =>
      exact aside_of_offBoard (getUserLikedItems_offBoard _ _ _ _ _) (by simp)
  | getTopLikes contentType windowStr limit =>
      apply (getTopLikes_boards contentType windowStr limit).bind
      intro board result final
      exact final
  | publishLikeEvent event => exact ⟨trivial, fun _ _ => trivial⟩
  | rehydrate dbCounts lockedKeys rehydrationSet =>
      exact ⟨trivial, fun _ _ => trivial⟩
  | refreshLeaderboard window contentType since limit =>
      apply (refreshLeaderboard_boards window contentType since limit).bind
      intro _ _ _
      trivial

end Board

/-! ### Lists and where they come from -/

section Runs

variable {setting : Setting}

/-- A call for the type and the window has read from the clock when its window starts. -/
def Dated (trace : List (Event (likeService setting))) (query : TopQuery)
    (since : Option DateTime) : Prop :=
  ∃ i call env now world limit,
    (⟨i, call, env, .utcNow, now, world⟩ : Event (likeService setting)) ∈ trace ∧
      call.topQuery = some { query with limit := limit } ∧
      windowStart now query.window = some since

/-- The list is a result of the query at an instant of the run, for a window that was
dated before. -/
def Listed (trace : List (Event (likeService setting))) (query : TopQuery)
    (items : List TopLikeItem) : Prop :=
  ∃ before event after since, trace = before ++ event :: after ∧
    Dated before query since ∧ ∃ order,
      PostgresLikeRepository.getTopLikes none order query.contentType.asOpt since
        query.limit event.before.likes = .ok items

/-- The limit for which an effective write of a leaderboard was made. -/
def writtenLimit (window : String) (contentType : ContentType)
    (event : Event (likeService setting)) : Option Int :=
  match event.op with
  | .cacheSetLeaderboardWithCanary written writtenType _ _ =>
      if event.env.fault = none ∧ written = window ∧ writtenType = contentType then
        event.call.topQuery.map TopQuery.limit
      else none
  | _ => none

/-- The limit for which the leaderboard was last written. -/
def lastLimit (window : String) (contentType : ContentType)
    (trace : List (Event (likeService setting))) : Option Int :=
  (trace.filterMap (writtenLimit window contentType)).getLast?

/-- A request that finds a list in the cache finds one that was written for its own limit,
or one that is shorter than the limit it was written for and within its own. -/
def Serves (before : List (Event (likeService setting)))
    (event : Event (likeService setting)) : Prop :=
  ∀ query items deadline written, event.call.topQuery = some query →
    event.op = .cacheGetLeaderboardWithCanary query.window query.contentType →
    event.env.fault = none →
    event.before.redis.drop event.env.expired
        (formatLeadKey .data query.window query.contentType) =
      some ⟨.text (setting.itemsJson.toText items), deadline⟩ →
    lastLimit query.window query.contentType before = some written →
      written = query.limit ∨
        (items.length : Int) < written ∧ (items.length : Int) ≤ query.limit

variable {trace : List (Event (likeService setting))} {query : TopQuery}
  {since : Option DateTime} {items : List TopLikeItem}

theorem Dated.append (dated : Dated trace query since)
    (event : Event (likeService setting)) : Dated (trace ++ [event]) query since := by
  obtain ⟨i, call, env, now, world, limit, member, rest⟩ := dated
  exact ⟨i, call, env, now, world, limit, List.mem_append_left _ member, rest⟩

theorem Listed.append (listed : Listed trace query items)
    (event : Event (likeService setting)) : Listed (trace ++ [event]) query items := by
  obtain ⟨before, instant, after, since, rfl, rest⟩ := listed
  exact ⟨before, instant, after ++ [event], since, by simp, rest⟩

/-- The windows that have a start are named without a colon. -/
theorem colon_notMem_of_windowStart {now : DateTime} {window : String}
    (valid : windowStart now window = some since) : ':' ∉ window.toList := by
  unfold windowStart at valid
  split at valid
  · decide
  · decide
  · decide
  · decide
  · cases valid

theorem Listed.plain (listed : Listed trace query items) : ':' ∉ query.window.toList := by
  obtain ⟨_, _, _, _, _, ⟨_, _, _, _, _, _, _, _, valid⟩, _⟩ := listed
  exact colon_notMem_of_windowStart valid

/-- A list that is shorter than its limit is a result for every limit that it keeps. -/
theorem Listed.relimit {limit : Int} (listed : Listed trace query items)
    (serves : query.limit = limit ∨
      (items.length : Int) < query.limit ∧ (items.length : Int) ≤ limit) :
    Listed trace { query with limit := limit } items := by
  rcases serves with rfl | ⟨whole, within⟩
  · exact listed
  · obtain ⟨before, event, after, since, split, dated, order, result⟩ := listed
    exact ⟨before, event, after, since, split, dated, order,
      PostgresLikeRepository.getTopLikes_relimit result whole within⟩

theorem lastLimit_append (window : String) (contentType : ContentType)
    (event : Event (likeService setting)) :
    lastLimit window contentType (trace ++ [event]) =
      match writtenLimit window contentType event with
      | some limit => some limit
      | none => lastLimit window contentType trace := by
  unfold lastLimit
  rw [List.filterMap_append]
  cases is : writtenLimit window contentType event with
  | none => simp [is]
  | some limit => simp [is]

/-! ### One step -/

/-- The start of its window that a call knows was read from the clock. -/
def Board.DatedIn (trace : List (Event (likeService setting))) (board : Board) : Prop :=
  ∀ query since, board.since = some (query, since) → Dated trace query since

/-- What a call has got so far is true: the start of its window was read from the clock, and
its list is a result of its query. -/
structure Told (trace : List (Event (likeService setting))) (board : Board) : Prop where
  dated : board.DatedIn trace
  listed : ∀ query items, board.list = some (query, items) → Listed trace query items

/-- Every list in the cache is a result of the query it was last written for. -/
def CacheListed (trace : List (Event (likeService setting))) (redis : Redis) : Prop :=
  ∀ window contentType entry, ':' ∉ window.toList →
    redis (formatLeadKey .data window contentType) = some entry →
      ∃ limit items, lastLimit window contentType trace = some limit ∧
        entry.value = .text (setting.itemsJson.toText items) ∧
        Listed trace ⟨contentType, window, limit⟩ items

/-- All calls and the cache are truthful. -/
structure Boarded (trace : List (Event (likeService setting))) (phases : List Board)
    (world : World) : Prop where
  told : ∀ board ∈ phases, Told trace board
  cached : CacheListed trace world.redis

theorem Board.DatedIn.append {board : Board} (dated : board.DatedIn trace)
    (event : Event (likeService setting)) : board.DatedIn (trace ++ [event]) :=
  fun query since is => (dated query since is).append event

theorem Told.append {board : Board} (told : Told trace board)
    (event : Event (likeService setting)) : Told (trace ++ [event]) board where
  dated := told.dated.append event
  listed := fun query items is => (told.listed query items is).append event

/-- Only a leaderboard that is written, or a lock that is taken, changes under its keys. -/
theorem World.redisAfter_lead {env : Surroundings} {now : Int} {store : Redis} {op : LikeOp}
    (keeps : ∀ window contentType items canaryTtl,
      op ≠ .cacheSetLeaderboardWithCanary window contentType items canaryTtl)
    {kind : RedisLikeRepository.LeadKeyType}
    (notLock : ∀ window contentType, op = .cacheAcquireRefreshLock window contentType →
      kind ≠ .lock) (window : String) (contentType : ContentType) :
    World.redisAfter setting env now store op (formatLeadKey kind window contentType) =
      store (formatLeadKey kind window contentType) := by
  have key := RedisLikeRepository.formatLeadKey_ne_formatCountKey kind window contentType
  cases op with
  | cacheIncrement countType contentId =>
      exact RedisLikeRepository.changeCount_other (key countType contentId)
  | cacheDecrement countType contentId =>
      exact RedisLikeRepository.changeCount_other (key countType contentId)
  | cacheSetValue countType contentId value =>
      exact RedisLikeRepository.setValue_other (key countType contentId)
  | cacheSetCountsBatch counts => exact RedisLikeRepository.setCountsBatch_other key
  | cacheSetLeaderboardWithCanary written writtenType items canaryTtl =>
      exact absurd rfl (keeps written writtenType items canaryTtl)
  | cacheAcquireRefreshLock locked lockedType =>
      exact RedisLikeRepository.acquireRefreshLock_other _ _ _ _ _ _ _ (notLock _ _ rfl)
  | _ => rfl

section Step

variable {event : Event (likeService setting)} {after : World} {spawned : List LikeCall}
  {board : Board}

/-- A list that is read from the cache is a result of the reader's own query. -/
theorem CacheListed.listed {i : Nat} {call : LikeCall} {env : Surroundings} {world : World}
    {answer : Except DomainError (Option (List TopLikeItem) × Bool)}
    (cached : CacheListed trace world.redis)
    (serves : Serves trace ⟨i, call, env,
      .cacheGetLeaderboardWithCanary query.window query.contentType, answer, world⟩)
    (own : call.topQuery = some query) (plain : ':' ∉ query.window.toList)
    (handled : World.handle setting env
      (.cacheGetLeaderboardWithCanary query.window query.contentType) world =
        some (answer, after, spawned))
    (found : (unwrapOr (none, false) answer).1 = some items) :
    Listed trace query items := by
  simp only [World.handle, World.serve, World.advance, Option.some.injEq,
    Prod.mk.injEq] at handled
  obtain ⟨read, _, _⟩ := handled
  cases answer with
  | error e => cases found
  | ok pair =>
      obtain ⟨stored, fresh⟩ := pair
      obtain ⟨up, there⟩ := RedisLikeRepository.getLeaderboardWithCanary_items read
      obtain ⟨text, deadline, present, parsed⟩ := there items found
      obtain ⟨limit, list, last, value, listed⟩ :=
        cached query.window query.contentType _ plain (Redis.drop_some present)
      obtain rfl : text = setting.itemsJson.toText list := RedisValue.text.inj value
      rw [setting.itemsJson.readBack] at parsed
      obtain rfl := Option.some.inj parsed
      exact listed.relimit (serves query list deadline limit own rfl up present last)

/-- A call that goes on knows the start of its window from the clock. -/
theorem Board.DatedIn.advance (dated : board.DatedIn trace)
    (own : ∀ query, board.query = some query → event.call.topQuery = some query)
    (permitted : board.Permitted event.op) :
    (board.advance event.op event.res).DatedIn (trace ++ [event]) := by
  have kept := dated.append event
  obtain ⟨i, call, env, op, answer, world⟩ := event
  cases board with
  | aside =>
      have stays : Board.advance .aside op answer = .aside := by cases op <;> rfl
      rw [stays]
      exact kept
  | asked query =>
      obtain rfl : op = .utcNow := permitted
      simp only [Board.advance]
      split
      · rintro _ _ ⟨⟩
      · next since valid =>
          intro other start is
          cases is
          exact ⟨i, call, env, answer, world, query.limit,
            List.mem_append_right _ (List.mem_singleton_self _), own query rfl, valid⟩
  | dated query since =>
      obtain rfl : op = .cacheGetLeaderboardWithCanary query.window query.contentType :=
        permitted
      simp only [Board.advance]
      split
      · exact kept
      · exact kept
  | shown query since items =>
      rcases permitted with rfl | rfl
      · exact kept
      · exact kept
  | missed query since =>
      obtain rfl : op = .dbGetTopLikes query.contentType.asOpt since query.limit := permitted
      cases answer <;> rintro _ _ ⟨⟩
  | fetched query items =>
      obtain ⟨canaryTtl, rfl⟩ := permitted
      exact kept

/-- The tasks of a call know the start of their windows from the clock. -/
theorem Board.DatedIn.tasks (dated : board.DatedIn trace) (permitted : board.Permitted event.op)
    (handled : World.handle setting event.env event.op event.before =
      some (event.res, after, spawned)) :
    ∀ task ∈ spawned, (Board.start task).DatedIn trace ∧ (Board.start task).list = none := by
  intro task started
  have is := World.handle_spawned handled started
  rw [is] at permitted
  cases board with
  | aside =>
      cases task with
      | refreshLeaderboard window contentType since limit => exact permitted.elim
      | _ => exact ⟨by rintro _ _ ⟨⟩, rfl⟩
  | shown query since items =>
      rcases permitted with lock | refresh
      · cases lock
      · cases refresh
        refine ⟨?_, rfl⟩
        intro other start same
        cases same
        exact dated query since rfl
  | fetched query items =>
      obtain ⟨_, write⟩ := permitted
      cases write
  | _ => cases permitted

/-- A query that answers is a query of the table. -/
theorem World.handle_topLikes {env : Surroundings} {world : World} {filter : Option String}
    {since : Option DateTime} {limit : Int}
    (handled : World.handle setting env (.dbGetTopLikes filter since limit) world =
      some (.ok items, after, spawned)) :
    PostgresLikeRepository.getTopLikes none env.order filter since limit world.likes =
      .ok items := by
  simp only [World.handle, World.serve, World.advance, Option.some.injEq,
    Prod.mk.injEq] at handled
  obtain ⟨result, _, _⟩ := handled
  cases fault : env.fault with
  | none =>
      rw [fault] at result
      exact result
  | some e =>
      rw [fault] at result
      cases result

/-- The step of a call keeps it truthful. -/
theorem Told.advance (told : Told trace board) (cached : CacheListed trace event.before.redis)
    (serves : Serves trace event)
    (own : ∀ query, board.query = some query → event.call.topQuery = some query)
    (permitted : board.Permitted event.op)
    (handled : World.handle setting event.env event.op event.before =
      some (event.res, after, spawned)) :
    Told (trace ++ [event]) (board.advance event.op event.res) := by
  refine ⟨told.dated.advance own permitted, ?_⟩
  have kept := (told.append event).listed
  obtain ⟨i, call, env, op, answer, world⟩ := event
  replace handled : World.handle setting env op world = some (answer, after, spawned) :=
    handled
  cases board with
  | aside =>
      have stays : Board.advance .aside op answer = .aside := by cases op <;> rfl
      rw [stays]
      exact kept
  | asked query =>
      obtain rfl : op = .utcNow := permitted
      simp only [Board.advance]
      split <;> rintro _ _ ⟨⟩
  | dated query since =>
      obtain rfl : op = .cacheGetLeaderboardWithCanary query.window query.contentType :=
        permitted
      simp only [Board.advance]
      split
      · next items found =>
          intro other list is
          cases is
          have plain : ':' ∉ query.window.toList := by
            obtain ⟨_, _, _, _, _, _, _, _, valid⟩ := told.dated query since rfl
            exact colon_notMem_of_windowStart valid
          exact (cached.listed serves (own query rfl) plain handled found).append _
      · rintro _ _ ⟨⟩
  | shown query since items =>
      rcases permitted with rfl | rfl
      · exact kept
      · exact kept
  | missed query since =>
      obtain rfl : op = .dbGetTopLikes query.contentType.asOpt since query.limit := permitted
      cases answer with
      | error e => rintro _ _ ⟨⟩
      | ok items =>
          intro other list is
          cases is
          exact ⟨trace, _, [], since, rfl, told.dated query since rfl, env.order,
            World.handle_topLikes handled⟩
  | fetched query items =>
      obtain ⟨canaryTtl, rfl⟩ := permitted
      exact kept

/-- The tasks of a truthful call start truthfully. -/
theorem Told.tasks (told : Told trace board) (permitted : board.Permitted event.op)
    (handled : World.handle setting event.env event.op event.before =
      some (event.res, after, spawned)) :
    ∀ task ∈ spawned, Told trace (Board.start task) := by
  intro task started
  obtain ⟨dated, unlisted⟩ := told.dated.tasks permitted handled task started
  refine ⟨dated, ?_⟩
  intro query items is
  rw [unlisted] at is
  cases is

/-- A list that a step leaves in the cache is still a result of its query. -/
theorem CacheListed.keep (cached : CacheListed trace event.before.redis) {window : String}
    {contentType : ContentType} {entry : RedisEntry} (plain : ':' ∉ window.toList)
    (unwritten : writtenLimit window contentType event = none)
    (present : event.before.redis.drop event.env.expired
      (formatLeadKey .data window contentType) = some entry) :
    ∃ limit items, lastLimit window contentType (trace ++ [event]) = some limit ∧
      entry.value = .text (setting.itemsJson.toText items) ∧
      Listed (trace ++ [event]) ⟨contentType, window, limit⟩ items := by
  obtain ⟨limit, items, last, value, listed⟩ :=
    cached window contentType entry plain (Redis.drop_some present)
  refine ⟨limit, items, ?_, value, listed.append event⟩
  rw [lastLimit_append, unwritten]
  exact last

/-- A step keeps the cache truthful: only a call that has a list writes it there. -/
theorem CacheListed.step (cached : CacheListed trace event.before.redis)
    (told : Told trace board)
    (own : ∀ query, board.query = some query → event.call.topQuery = some query)
    (permitted : board.Permitted event.op)
    (handled : World.handle setting event.env event.op event.before =
      some (event.res, after, spawned)) :
    CacheListed (trace ++ [event]) after.redis := by
  intro window contentType entry plain present
  rw [(World.handle_after handled).2.2.1] at present
  by_cases keeps : ∀ written writtenType items canaryTtl,
      event.op ≠ .cacheSetLeaderboardWithCanary written writtenType items canaryTtl
  · rw [World.redisAfter_lead keeps (fun _ _ _ => by decide)] at present
    apply cached.keep plain _ present
    unfold writtenLimit
    split
    · next is => exact absurd is (keeps _ _ _ _)
    · rfl
  · push Not at keeps
    obtain ⟨written, writtenType, items, canaryTtl, is⟩ := keeps
    rw [is] at permitted
    cases board with
    | aside => exact permitted.elim
    | shown query since list => rcases permitted with lock | refresh <;> contradiction
    | fetched query list =>
        obtain ⟨_, same⟩ := permitted
        cases same
        have wrote : writtenLimit window contentType event =
            if event.env.fault = none ∧ query.window = window ∧
                query.contentType = contentType then some query.limit else none := by
          simp only [writtenLimit, is, own query rfl, Option.map_some]
        simp only [is, World.redisAfter] at present
        cases fault : event.env.fault with
        | some e =>
            rw [fault] at present wrote
            exact cached.keep plain (by simpa using wrote) present
        | none =>
            rw [fault] at present wrote
            rw [RedisLikeRepository.setLeaderboardWithCanary_data _ _ _ _ _
              (told.listed query items rfl).plain plain] at present
            split at present
            · next same =>
                obtain ⟨rfl, rfl⟩ := same
                cases present
                refine ⟨query.limit, items, ?_, rfl,
                  (told.listed query items rfl).append event⟩
                rw [lastLimit_append, wrote]
                simp
            · next other => exact cached.keep plain (by simpa [other] using wrote) present
    | _ => cases permitted

/-- The step law: whatever call takes the next step, calls and cache stay truthful. -/
theorem boarded_step {phases : List Board} (boarded : Boarded trace phases event.before)
    (serves : Serves trace event) (at_i : phases[event.thread]? = some board)
    (own : ∀ query, board.query = some query → event.call.topQuery = some query)
    (permitted : board.Permitted event.op)
    (handled : World.handle setting event.env event.op event.before =
      some (event.res, after, spawned)) :
    Boarded (trace ++ [event])
      (phases.set event.thread (board.advance event.op event.res) ++
        spawned.map Board.start) after := by
  have told := boarded.told board (List.mem_of_getElem? at_i)
  constructor
  · intro other member
    rcases List.mem_append.mp member with old | new
    · rcases List.mem_or_eq_of_mem_set old with kept | rfl
      · exact (boarded.told other kept).append event
      · exact told.advance boarded.cached serves own permitted handled
    · obtain ⟨task, started, rfl⟩ := List.mem_map.mp new
      exact (told.tasks permitted handled task started).append event
  · exact boarded.cached.step told own permitted handled

end Step

/-! ### Runs -/

theorem Board.query_of_advance {board : Board} {op : LikeOp} {answer : op.Res}
    (is : (board.advance op answer).query = some query) : board.query = some query := by
  unfold Board.advance at is
  split at is
  · split at is
    · cases is
    · exact is
  · split at is
    · exact is
    · exact is
  · exact is
  · cases is
  · exact is

theorem Board.query_of_list {board : Board} (is : board.list = some (query, items)) :
    board.query = some query := by
  cases board with
  | shown own since list =>
      cases is
      rfl
  | fetched own list =>
      cases is
      rfl
  | _ => cases is

/-- A call goes on with the query it started with. -/
theorem Board.own_query {i : Nat} {call : LikeCall}
    (is : (controlAfter (M := likeService setting) Board.advance i (Board.start call)
      trace).query = some query) : call.topQuery = some query := by
  have kept : ∀ query, (controlAfter (M := likeService setting) Board.advance i
      (Board.start call) trace).query = some query → call.topQuery = some query := by
    apply controlAfter_preserves (M := likeService setting)
      (fun board : Board => ∀ query, board.query = some query → call.topQuery = some query)
    · intro event _ board earlier query later
      exact earlier query (Board.query_of_advance later)
    · intro query starts
      cases call with
      | getTopLikes contentType windowStr limit => exact starts
      | refreshLeaderboard window contentType since limit => exact starts
      | _ => cases starts
  exact kept query is

variable {calls : List LikeCall} {world : World} {last : Pool (likeService setting)}

/-- The run law: from a cache without leaderboards, all lists are results of their
queries. -/
theorem boarded_run
    (uncached : ∀ window contentType,
      world.redis (formatLeadKey .data window contentType) = none)
    (requests : ∀ window contentType since limit,
      .refreshLeaderboard window contentType since limit ∉ calls)
    (run : Run (M := likeService setting) (Pool.start world calls) trace last)
    (serves : ∀ before event after, trace = before ++ event :: after →
      Serves before event) :
    ∃ phases, Phased (M := likeService setting) Board.advance Board.Permitted
        (fun _ _ _ => True) Board.Final phases last ∧
      (∀ (i : Nat) (thread : Thread (likeService setting)), last.threads[i]? = some thread →
        phases[i]? = some (controlAfter (M := likeService setting) Board.advance i
          (Board.start thread.call) trace)) ∧
      Boarded trace phases last.state := by
  have tails : ∀ (board : Board) (target : LikeCall), board.Final (.inl target) →
      True ∧ board = Board.start target :=
    fun _ _ tail => tail.elim
  have start : Boarded ([] : List (Event (likeService setting))) (calls.map Board.start)
      world := by
    constructor
    · intro board member
      obtain ⟨call, called, rfl⟩ := List.mem_map.mp member
      cases call with
      | refreshLeaderboard window contentType since limit =>
          exact absurd called (requests window contentType since limit)
      | _ => exact ⟨nofun, nofun⟩
    · intro window contentType entry _ present
      rw [uncached window contentType] at present
      cases present
  apply Run.phases_spawning (M := likeService setting) Boarded
    (fun call _ => Board.body_boards setting call) tails (fun _ _ => trivial) run start
  intro before event after phases board next spawned split led at_i permitted handled boarded
  refine ⟨fun _ _ => trivial, trivial, ?_⟩
  apply boarded_step boarded (serves before event after split) at_i _ permitted handled
  intro query is
  rw [led] at is
  exact Board.own_query is

/-- Every response to a request is a result of the query for its type and window, with its
limit capped at 50, at an instant of the run, as long as every list that is found in the
cache serves the limit of the request that finds it. -/
theorem top_likes_answer_limit
    (uncached : ∀ window contentType,
      world.redis (formatLeadKey .data window contentType) = none)
    (requests : ∀ window contentType since limit,
      .refreshLeaderboard window contentType since limit ∉ calls)
    (run : Run (M := likeService setting) (Pool.start world calls) trace last)
    (serves : ∀ before event after, trace = before ++ event :: after →
      Serves before event) :
    ∀ thread ∈ last.threads, ∀ contentType window limit response,
      thread.call = .getTopLikes contentType window limit →
      thread.rest = .ret (.inr (.getTopLikes (.ok response))) →
        response.window = window ∧ response.contentType = contentType ∧
        ∃ before event after since, trace = before ++ event :: after ∧
          Dated before ⟨contentType, window, min limit 50⟩ since ∧
          (∃ order, PostgresLikeRepository.getTopLikes none order contentType.asOpt since
            (min limit 50) event.before.likes = .ok response.items) ∧
          response.items.length = min (min limit 50).toNat
            (PostgresLikeRepository.likedItems contentType.asOpt since
              event.before.likes).length := by
  obtain ⟨phases, phased, led, boarded⟩ := boarded_run uncached requests run serves
  intro thread member contentType window limit response called ended
  obtain ⟨i, at_i⟩ := List.getElem?_of_mem member
  have at_phase := led i thread at_i
  obtain ⟨shown, is⟩ := phased.returned at_i at_phase ended
  have own := Board.own_query (Board.query_of_list is)
  rw [called] at own
  cases own
  obtain ⟨before, event, after, since, split, dated, order, result⟩ :=
    (boarded.told _ (List.mem_of_getElem? at_phase)).listed _ _ is
  exact ⟨rfl, rfl, before, event, after, since, split, dated, ⟨order, result⟩,
    PostgresLikeRepository.getTopLikes_length result⟩

end Runs

/-! ### Two posts -/

/-- Two likes of one post and one of another. -/
def twoPosts : World := World.new
  { rows :=
      [{ id := 1, userId := ⟨1⟩, contentType := ⟨"post"⟩, contentId := ⟨9⟩, createdAt := 0 },
       { id := 2, userId := ⟨2⟩, contentType := ⟨"post"⟩, contentId := ⟨9⟩, createdAt := 0 },
       { id := 3, userId := ⟨1⟩, contentType := ⟨"post"⟩, contentId := ⟨8⟩, createdAt := 0 }]
    uniqueUserContentLike := by decide
    primaryKey := by decide
    timestamps := by decide } .empty 0

/-- The ranking of the two posts. -/
def twoRanked : List TopLikeItem :=
  [⟨"post", (9 : Uuid).text, 2⟩, ⟨"post", (8 : Uuid).text, 1⟩]

/-- A setting in which the text of this leaderboard can be read. -/
noncomputable def showing (items : List TopLikeItem) : Setting :=
  { Setting.reference with itemsJson := .showing items }

/-- The items that a request has come back with. -/
def answered {setting : Setting} (thread : Thread (likeService setting)) :
    Option (List TopLikeItem) :=
  match thread.rest with
  | .ret (.inr (.getTopLikes (.ok response))) => some response.items
  | _ => none

/-- The window and the content type of the leaderboard that a step reads. -/
def LikeOp.readsBoard : LikeOp → Option (String × ContentType)
  | .cacheGetLeaderboardWithCanary window contentType => some (window, contentType)
  | _ => none

/-- Whatever leaderboard the step reads was last written for its own limit. -/
def ReadsOwn {setting : Setting} (before : List (Event (likeService setting)))
    (event : Event (likeService setting)) : Prop :=
  ∀ board ∈ event.op.readsBoard, ∀ written ∈ lastLimit board.1 board.2 before,
    event.call.topQuery.map TopQuery.limit = some written

instance {setting : Setting} (before : List (Event (likeService setting)))
    (event : Event (likeService setting)) : Decidable (ReadsOwn before event) :=
  inferInstanceAs (Decidable (∀ board ∈ event.op.readsBoard, ∀ written ∈ _, _ = _))

theorem ReadsOwn.serves {setting : Setting} {before : List (Event (likeService setting))}
    {event : Event (likeService setting)} (reads : ReadsOwn before event) :
    Serves before event := by
  intro query items deadline written own is _ _ wrote
  have same := reads (query.window, query.contentType) (by rw [is]; rfl) written wrote
  rw [own] at same
  exact .inl (Option.some.inj same).symm

/-- Three requests with one capped limit: the first fills the cache, the second finds the
canary gone and starts a refresh, and the third finds what the refresh has written. -/
theorem top_likes_answer_limit_capped :
    ∃ trace last,
      Run (M := likeService (showing twoRanked))
        (Pool.start twoPosts [.getTopLikes ⟨"post"⟩ "all" 50, .getTopLikes ⟨"post"⟩ "all" 60,
          .getTopLikes ⟨"post"⟩ "all" 9999]) trace last ∧
      last.Done ∧
      ∀ thread ∈ last.threads, ∀ contentType window limit response,
        thread.call = .getTopLikes contentType window limit →
        thread.rest = .ret (.inr (.getTopLikes (.ok response))) →
          response.window = window ∧ response.contentType = contentType ∧
          ∃ before event after since, trace = before ++ event :: after ∧
            Dated before ⟨contentType, window, min limit 50⟩ since ∧
            (∃ order, PostgresLikeRepository.getTopLikes none order contentType.asOpt since
              (min limit 50) event.before.likes = .ok response.items) ∧
            response.items.length = min (min limit 50).toNat
              (PostgresLikeRepository.likedItems contentType.asOpt since
                event.before.likes).length := by
  obtain ⟨trace, last, run, passed⟩ := Run.exists_of_exec
    (M := likeService (showing twoRanked))
    ([0, 0, 0, 0, 1].map (fun i => (i, Surroundings.calm)) ++
      [(1, { Surroundings.calm with expired := [formatLeadKey .canary "all" ⟨"post"⟩] })] ++
      [1, 1, 3, 3, 2, 2].map fun i => (i, Surroundings.calm))
    (Pool.start twoPosts [.getTopLikes ⟨"post"⟩ "all" 50, .getTopLikes ⟨"post"⟩ "all" 60,
      .getTopLikes ⟨"post"⟩ "all" 9999])
    (fun events last => last.done? && (List.range events.length).all fun n =>
      ∀ event ∈ events[n]?, ReadsOwn (events.take n) event)
    (by decide +kernel)
  simp only [Bool.and_eq_true, List.all_eq_true, decide_eq_true_eq] at passed
  obtain ⟨ended, own⟩ := passed
  refine ⟨trace, last, run, Pool.done_of_done? ended, ?_⟩
  apply top_likes_answer_limit _ _ run
  · rintro before event after rfl
    have reads := own before.length (by simp) event (by simp)
    rw [List.take_left] at reads
    exact reads.serves
  · intro window contentType
    rfl
  · intro window contentType since limit
    simp

/-- A request for fifty items behind a request for one: both posts had likes all the time,
and it gets one item. -/
theorem top_likes_answer_other_limit :
    ∃ trace last,
      Run (M := likeService (showing [⟨"post", (9 : Uuid).text, 2⟩]))
        (Pool.start twoPosts [.getTopLikes ⟨"post"⟩ "all" 1, .getTopLikes ⟨"post"⟩ "all" 50])
        trace last ∧
      last.Done ∧ (∀ event ∈ trace, event.env.fault = none) ∧
      ∃ thread ∈ last.threads, thread.call = .getTopLikes ⟨"post"⟩ "all" 50 ∧
        ∃ response, thread.rest = .ret (.inr (.getTopLikes (.ok response))) ∧
          response.items = [⟨"post", (9 : Uuid).text, 2⟩] ∧
          ¬ Listed trace ⟨⟨"post"⟩, "all", 50⟩ response.items := by
  obtain ⟨trace, last, run, passed⟩ := Run.exists_of_exec
    (M := likeService (showing [⟨"post", (9 : Uuid).text, 2⟩]))
    ([0, 0, 0, 0, 1, 1].map fun i => (i, Surroundings.calm))
    (Pool.start twoPosts [.getTopLikes ⟨"post"⟩ "all" 1, .getTopLikes ⟨"post"⟩ "all" 50])
    (fun trace last => last.done? &&
      (trace.all fun event =>
        event.env.fault = none && event.before.likes = twoPosts.likes) &&
      last.threads.any fun thread => match thread.call with
        | .getTopLikes contentType window limit =>
            (contentType, window, limit) = (⟨"post"⟩, "all", 50) &&
              answered thread = some [⟨"post", (9 : Uuid).text, 2⟩]
        | _ => false)
    (by decide +kernel)
  simp only [Bool.and_eq_true, decide_eq_true_eq, List.all_eq_true, List.any_eq_true]
    at passed
  obtain ⟨⟨ended, calm⟩, thread, member, passed⟩ := passed
  refine ⟨trace, last, run, Pool.done_of_done? ended, fun event among => (calm event among).1,
    thread, member, ?_⟩
  split at passed
  · next contentType window limit called =>
      simp only [Bool.and_eq_true, decide_eq_true_eq, Prod.mk.injEq] at passed
      obtain ⟨⟨rfl, rfl, rfl⟩, list⟩ := passed
      refine ⟨called, ?_⟩
      unfold answered at list
      split at list
      · next response is =>
          have items := Option.some.inj list
          refine ⟨response, is, items, ?_⟩
          intro listed
          obtain ⟨before, event, after, since, split, dated, order, result⟩ := listed
          obtain ⟨_, _, _, now, _, _, _, _, valid⟩ := dated
          obtain rfl : none = since := Option.some.inj valid
          have table : event.before.likes = twoPosts.likes :=
            (calm event (by simp [split])).2
          rw [table] at result
          have length := PostgresLikeRepository.getTopLikes_length result
          rw [items] at length
          exact absurd length (by decide +kernel)
      · cases list
  · cases passed

end SocialApi
