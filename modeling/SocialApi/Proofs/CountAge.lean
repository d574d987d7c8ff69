/-
Module: SocialApi.Proofs.CountAge
Purpose: How old the counts are that get_like_count serves from the cache.
Trusted boundary: none
Main exports:
  Serving, body_serves, takeTurns, RightlyRenewed, HonoursCountTtl, Aged, served_count_fresh
-/
import SocialApi.Proofs.ConcurrentCounts
import SocialApi.Proofs.Instants
import SocialApi.Proofs.OfflineCounts

namespace SocialApi

open Process
open LikeService
open RedisLikeRepository (formatCountKey)

/-! ### A protocol of counts -/

/-- The count that a call has queried since its last write to the table, and the last count
that it has read in the cache. -/
structure Serving where
  queried : Option Nat
  hit : Option Nat

namespace Serving

def start : Serving := ⟨none, none⟩

def advance (serving : Serving) : (op : LikeOp) → op.Res → Serving
  | .dbSave _, _ => { serving with queried := none }
  | .dbRemove _ _ _, _ => { serving with queried := none }
  | .dbGetLikesCount _ _, .ok count => { serving with queried := some count }
  | .cacheGetCount _ _, .ok (some count) => { serving with hit := some count }
  | _, _ => serving

variable (contentType : ContentType) (contentId : ContentId)

/-- A call reads the count of the item alone, and fills in what it has queried. -/
def Permitted (serving : Serving) : LikeOp → Prop
  | .dbGetLikesCount otherType otherId => otherType = contentType ∧ otherId = contentId
  | .cacheGetCount otherType otherId => otherType = contentType ∧ otherId = contentId
  | .cacheSetValue otherType otherId value =>
      otherType = contentType ∧ otherId = contentId ∧ serving.queried = some value
  | .cacheSetCountsBatch _ => False
  | _ => True

/-- The program keeps to the protocol, and ends as stated. -/
abbrev Supplies {α : Type} (final : Serving → α → Prop) (program : Service α)
    (serving : Serving) : Prop :=
  program.Obeys advance (Permitted contentType contentId) (fun _ _ _ => True) final serving

/-- The count is one that the call has queried or read in the cache. -/
def Has (serving : Serving) (count : Nat) : Prop :=
  serving.queried = some count ∨ serving.hit = some count

end Serving

section Supplies

open Serving

variable {contentType : ContentType} {contentId : ContentId} {serving : Serving}

theorem getLikeCountWithFallback_serves :
    Supplies contentType contentId
      (fun reached result => ∀ count, result = .ok count → reached.Has count)
      (getLikeCountWithFallback contentType contentId) serving := by
  have hit : ∀ {reached : Serving} {answer : Except DomainError (Option Nat)} {count : Nat},
      cachedCount answer = .ok count →
        (reached.advance (.cacheGetCount contentType contentId) answer).Has count := by
    intro reached answer count cached
    rcases answer with e | _ | stored
    · cases cached
    · cases cached
    · exact .inr (congrArg some (Except.ok.inj cached))
  simp only [getLikeCountWithFallback, getCacheLikeCount_bind, Supplies, Program.obeys_perform]
  refine ⟨⟨rfl, rfl⟩, fun first _ => ?_⟩
  cases cached : cachedCount first with
  | ok count =>
      rintro _ ⟨⟩
      exact hit cached
  | error miss =>
  simp only [Program.request_bind, Program.obeys_perform]
  refine ⟨trivial, fun lock _ => ⟨trivial, fun _ _ => ⟨⟨rfl, rfl⟩, fun second _ => ?_⟩⟩⟩
  cases cached : cachedCount second with
  | ok count =>
      refine ⟨trivial, fun _ _ => ⟨trivial, fun _ _ => ?_⟩⟩
      rintro _ ⟨⟩
      exact hit cached
  | error miss =>
  refine ⟨⟨rfl, rfl⟩, fun counted _ => ?_⟩
  cases counted with
  | error e =>
      refine ⟨trivial, fun _ _ => ?_⟩
      rintro _ ⟨⟩
  | ok count =>
      refine ⟨⟨rfl, rfl, rfl⟩, fun _ _ => ⟨trivial, fun _ _ => ⟨trivial, fun _ _ => ?_⟩⟩⟩
      rintro _ ⟨⟩
      exact .inl rfl

theorem getLikeCount_serves :
    Supplies contentType contentId
      (fun reached result => ∀ response, result = .ok response → reached.Has response.count)
      (getLikeCount contentType contentId) serving := by
  apply getLikeCountWithFallback_serves.bind
  intro reached result has
  cases result with
  | error e =>
      rintro _ ⟨⟩
  | ok count =>
      rintro _ ⟨⟩
      exact has count rfl

theorem sendSseEvent_serves (userId : UserId) (count : Nat) (eType : SseEventType) :
    Supplies contentType contentId (fun _ _ => True)
      (sendSseEvent contentId contentType userId count eType) serving :=
  ⟨trivial, fun _ _ => ⟨trivial, fun _ _ => trivial⟩⟩

theorem addLike_serves (likeCmd : AddLikeCommand) :
    Supplies likeCmd.contentType likeCmd.contentId (fun _ _ => True) (addLike likeCmd) serving := by
  have told : ∀ {count createdAt alreadyExists} {reached : Serving},
      Supplies likeCmd.contentType likeCmd.contentId (fun _ _ => True)
        (likeAdded likeCmd count createdAt alreadyExists) reached :=
    (sendSseEvent_serves _ _ _).bind fun _ _ _ => trivial
  simp only [addLike, Supplies, Program.request_bind, Program.obeys_perform]
  refine ⟨trivial, fun validated _ => ?_⟩
  cases validated with
  | error e => trivial
  | ok verdict =>
  refine ⟨trivial, fun createdAt _ => ⟨trivial, fun saved _ => ?_⟩⟩
  rcases saved with e | (_ | _)
  · trivial
  · refine ⟨trivial, fun counted _ => ?_⟩
    cases counted with
    | ok newCount => exact told
    | error e =>
    refine ⟨⟨rfl, rfl⟩, fun recounted _ => ?_⟩
    cases recounted with
    | error e => trivial
    | ok count => exact told
  · apply getLikeCountWithFallback_serves.bind
    intro reached result _
    cases result with
    | error e => trivial
    | ok count =>
    refine ⟨trivial, fun existed _ => ?_⟩
    cases existed with
    | error e => trivial
    | ok existedLike => exact told

theorem removeLike_serves (userId : UserId) :
    Supplies contentType contentId (fun _ _ => True)
      (removeLike userId contentType contentId) serving := by
  have told : ∀ {count} {reached : Serving},
      Supplies contentType contentId (fun _ _ => True)
        (likeRemoved userId contentType contentId count) reached :=
    (sendSseEvent_serves _ _ _).bind fun _ _ _ => trivial
  simp only [removeLike, Supplies, Program.request_bind, Program.obeys_perform]
  refine ⟨trivial, fun validated _ => ?_⟩
  cases validated with
  | error e => trivial
  | ok verdict =>
  refine ⟨trivial, fun removed _ => ?_⟩
  cases removed with
  | error e => trivial
  | ok wasLiked =>
  apply getLikeCountWithFallback_serves.bind
  intro reached result _
  cases result with
  | error e => trivial
  | ok currCount =>
  dsimp only
  split
  · split
    · refine ⟨trivial, fun counted _ => ?_⟩
      cases counted with
      | ok newCount => exact told
      | error e =>
      refine ⟨⟨rfl, rfl⟩, fun recounted _ => ?_⟩
      cases recounted with
      | error e => trivial
      | ok count => exact told
    · exact told
  · trivial

/-- Every call about the item keeps to the protocol. -/
theorem body_serves (setting : Setting) {call : LikeCall}
    (about : call.reportsOn = some (contentType, contentId)) :
    Supplies contentType contentId (fun _ _ => True) (call.body setting) serving := by
  cases call with
  | addLike likeCmd =>
      obtain ⟨rfl, rfl⟩ := Prod.mk.inj (Option.some.inj about)
      exact (addLike_serves likeCmd).bind fun _ _ _ => trivial
  | removeLike userId otherType otherId =>
      obtain ⟨rfl, rfl⟩ := Prod.mk.inj (Option.some.inj about)
      exact (removeLike_serves userId).bind fun _ _ _ => trivial
  | getLikeCount otherType otherId =>
      obtain ⟨rfl, rfl⟩ := Prod.mk.inj (Option.some.inj about)
      exact getLikeCount_serves.bind fun _ _ _ => trivial
  | _ => cases about

end Supplies

/-! ### Timed histories -/

section Histories

variable (setting : Setting) (contentType : ContentType) (contentId : ContentId)

/-- The steps of calls that follow one another, and the world that they lead to; `none` when
one of them never comes back. -/
def takeTurns : List (LikeCall × (Nat → Surroundings)) → World →
    Option (List LikeMoment × World)
  | [], world => some ([], world)
  | (call, environment) :: requests, world =>
      match (call.body setting).run (World.handle setting) environment world with
      | none => none
      | some (_, after, _) =>
          (takeTurns requests after).map fun later =>
            ((call.body setting).moments (World.handle setting) environment world ++ later.1,
              later.2)

/-- The time of a step. -/
def stepTime (moment : LikeMoment) : Int := moment.state.clock + moment.env.elapse

/-- The world that a step finds, and how long it stayed. -/
def stayOf (moment : LikeMoment) : Stay := (moment.state, moment.env.elapse)

/-- Redis hands out no count after its time to live. -/
def HonoursCountTtl (moment : LikeMoment) : Prop :=
  ∀ entry deadline,
    (moment.state.redis.drop moment.env.expired) (formatCountKey contentType contentId) =
      some entry → entry.deadline = some deadline → stepTime moment ≤ deadline

/-- An `INCR` or a `DECR` that succeeds finds the count that the item had before the row that
it counts came or went. -/
def RightlyRenewed (moment : LikeMoment) : Prop :=
  moment.env.fault = none →
    (moment.op = .cacheIncrement contentType contentId →
      (moment.state.redis.drop moment.env.expired).number
        (formatCountKey contentType contentId) =
          some ((moment.state.likes.countOf contentType contentId : Int) - 1)) ∧
    (moment.op = .cacheDecrement contentType contentId →
      (moment.state.redis.drop moment.env.expired).number
        (formatCountKey contentType contentId) =
          some ((moment.state.likes.countOf contentType contentId : Int) + 1))

/-- The item has that many rows. -/
def HasRows (count : Nat) (world : World) : Prop :=
  world.likes.countOf contentType contentId = count

/-- The cached count, if there is one, is right and expires within the time to live. -/
def FreshlyCached (world : World) : Prop :=
  ∀ entry, world.redis (formatCountKey contentType contentId) = some entry →
    entry.value = .int (world.likes.countOf contentType contentId) ∧
      ∃ deadline, entry.deadline = some deadline ∧
        deadline ≤ world.clock + setting.config.cacheTtlLikeCountsSecs

/-- The cached count was right at an instant from which it lives on for the time to live at
most. -/
def CachedOnce (stays : List Stay) (world : World) : Prop :=
  ∀ entry, world.redis (formatCountKey contentType contentId) = some entry →
    ∃ (count : Nat) (deadline instant : Int), entry.value = .int count ∧
      entry.deadline = some deadline ∧
      deadline ≤ instant + setting.config.cacheTtlLikeCountsSecs ∧
      HoldsAt (HasRows contentType contentId count) stays world instant

/-- The count that a call has queried is the count of the rows, and the one that it has read
in the cache was at most a time to live old. -/
structure Aged (earlier own : List LikeMoment) (serving : Serving) (world : World) : Prop where
  ordered : InOrder ((earlier ++ own).map stayOf) world
  cached : CachedOnce setting contentType contentId ((earlier ++ own).map stayOf) world
  asked : serving.queried ≠ none → own ≠ []
  queried : ∀ count, serving.queried = some count → HasRows contentType contentId count world
  hit : ∀ count, serving.hit = some count → ∃ read ∈ own, ∃ instant,
    stepTime read - setting.config.cacheTtlLikeCountsSecs ≤ instant ∧
      HoldsAt (HasRows contentType contentId count) ((earlier ++ own).map stayOf) world instant

end Histories

/-! ### One step -/

section Step

variable {setting : Setting} {contentType : ContentType} {contentId : ContentId}
  {earlier own : List LikeMoment} {moment : LikeMoment} {serving : Serving} {after : World}
  {stays : List Stay} {spawned : List LikeCall}

/-- A step that leaves the count, or lets it expire. -/
theorem CachedOnce.keep
    (cached : CachedOnce setting contentType contentId stays moment.state)
    (kept : after.redis (formatCountKey contentType contentId) =
      moment.state.redis.drop moment.env.expired (formatCountKey contentType contentId)) :
    CachedOnce setting contentType contentId (stays ++ [stayOf moment]) after := by
  intro entry present
  rw [kept] at present
  obtain ⟨count, deadline, instant, value, due, lives, held⟩ :=
    cached entry (Redis.drop_some present)
  exact ⟨count, deadline, instant, value, due, lives, held.step⟩

/-- A step that stores the count of the rows. -/
theorem CachedOnce.stored {count : Nat}
    (rows : HasRows contentType contentId count moment.state)
    (written : ∀ entry, after.redis (formatCountKey contentType contentId) = some entry →
      entry = ⟨.int count,
        some (stepTime moment + setting.config.cacheTtlLikeCountsSecs)⟩) :
    CachedOnce setting contentType contentId (stays ++ [stayOf moment]) after := by
  intro entry present
  obtain rfl := written entry present
  exact ⟨count, _, stepTime moment, rfl, rfl, le_rfl, holdsAt_step_time rows⟩

/-- A pipeline that counts up or down from the count before the row came or went. -/
theorem changeCount_stored {delta : Int} {count : Nat} {config : Config} {now : Int}
    {store : Redis} {entry : RedisEntry}
    (right : store.number (formatCountKey contentType contentId) = some (count - delta))
    (present : (RedisLikeRepository.changeCount delta config none now contentType contentId
      store).2 (formatCountKey contentType contentId) = some entry) :
    entry = ⟨.int count, some (now + config.cacheTtlLikeCountsSecs)⟩ := by
  by_cases positive : 0 < config.cacheTtlLikeCountsSecs
  · have numeric := Redis.numeric_of_number right
    rw [RedisLikeRepository.changeCount_eq positive numeric] at present
    simp only [Redis.put_self, right, Option.getD_some, Int.sub_add_cancel] at present
    exact (Option.some.inj present).symm
  · rw [RedisLikeRepository.changeCount_untimed positive] at present
    cases present

/-- A step that counts up or down, rightly where it counts for the item. -/
theorem CachedOnce.counted {delta : Int} {otherType : ContentType} {otherId : ContentId}
    (cached : CachedOnce setting contentType contentId stays moment.state)
    (redis : after.redis = (RedisLikeRepository.changeCount delta setting.config moment.env.fault
      (stepTime moment) otherType otherId (moment.state.redis.drop moment.env.expired)).2)
    (right : moment.env.fault = none → otherType = contentType ∧ otherId = contentId →
      (moment.state.redis.drop moment.env.expired).number
        (formatCountKey contentType contentId) =
          some ((moment.state.likes.countOf contentType contentId : Int) - delta)) :
    CachedOnce setting contentType contentId (stays ++ [stayOf moment]) after := by
  by_cases here : otherType = contentType ∧ otherId = contentId
  · cases healthy : moment.env.fault with
    | some fault =>
        rw [healthy] at redis
        apply cached.keep
        rw [redis]
        rfl
    | none =>
        rw [healthy] at redis
        apply CachedOnce.stored rfl
        intro entry present
        have counted := right healthy here
        obtain ⟨rfl, rfl⟩ := here
        rw [redis] at present
        exact changeCount_stored counted present
  · apply cached.keep
    rw [redis]
    exact RedisLikeRepository.changeCount_other (formatCountKey_ne here)

/-- The step law of the cached count. -/
theorem CachedOnce.step (permitted : serving.Permitted contentType contentId moment.op)
    (renewed : RightlyRenewed contentType contentId moment)
    (queried : ∀ count, serving.queried = some count →
      HasRows contentType contentId count moment.state)
    (handled : World.handle setting moment.env moment.op moment.state =
      some (moment.answer, after, spawned))
    (cached : CachedOnce setting contentType contentId stays moment.state) :
    CachedOnce setting contentType contentId (stays ++ [stayOf moment]) after := by
  obtain ⟨_, _, redis, _⟩ := World.handle_after handled
  obtain ⟨env, op, answer, world⟩ := moment
  cases op with
  | cacheIncrement otherType otherId =>
      apply cached.counted redis
      rintro healthy ⟨rfl, rfl⟩
      exact (renewed healthy).1 rfl
  | cacheDecrement otherType otherId =>
      apply cached.counted redis
      rintro healthy ⟨rfl, rfl⟩
      rw [Int.sub_neg]
      exact (renewed healthy).2 rfl
  | cacheSetValue otherType otherId value =>
      obtain ⟨rfl, rfl, read⟩ := permitted
      by_cases stores : env.fault = none ∧ 0 < setting.config.cacheTtlLikeCountsSecs
      · obtain ⟨healthy, positive⟩ := stores
        apply CachedOnce.stored (queried value read)
        intro entry present
        rw [redis] at present
        simp only [World.redisAfter, healthy, RedisLikeRepository.setValue_eq positive,
          Redis.put_self] at present
        exact (Option.some.inj present).symm
      · apply cached.keep
        rw [redis]
        simp only [World.redisAfter, RedisLikeRepository.setValue,
          RedisLikeRepository.getTtlForKey_count]
        cases healthy : env.fault with
        | some fault => rfl
        | none =>
            dsimp only
            rw [if_neg fun positive => stores ⟨healthy, positive⟩]
  | cacheSetCountsBatch counts => exact permitted.elim
  | dbSave like =>
      apply cached.keep
      rw [redis]
      rfl
  | dbRemove userId otherType otherId =>
      apply cached.keep
      rw [redis]
      rfl
  | _ =>
      apply cached.keep
      exact (World.handle_keepsCounts (by trivial) handled).2 _ _

/-- The step law: a call that takes a step goes on serving counts that are not too old. -/
theorem Aged.step (permitted : serving.Permitted contentType contentId moment.op)
    (honours : HonoursCountTtl contentType contentId moment)
    (renewed : RightlyRenewed contentType contentId moment)
    (handled : World.handle setting moment.env moment.op moment.state =
      some (moment.answer, after, spawned))
    (aged : Aged setting contentType contentId earlier own serving moment.state) :
    Aged setting contentType contentId earlier (own ++ [moment])
      (serving.advance moment.op moment.answer) after := by
  have stays : (earlier ++ (own ++ [moment])).map stayOf =
      (earlier ++ own).map stayOf ++ [stayOf moment] := by simp
  obtain ⟨_, likes, _, clock⟩ := World.handle_after handled
  have hits : ∀ count, serving.hit = some count → ∃ read ∈ own ++ [moment], ∃ instant,
      stepTime read - setting.config.cacheTtlLikeCountsSecs ≤ instant ∧
        HoldsAt (HasRows contentType contentId count)
          ((earlier ++ own).map stayOf ++ [stayOf moment]) after instant := by
    intro count there
    obtain ⟨read, member, instant, near, held⟩ := aged.hit count there
    exact ⟨read, List.mem_append_left _ member, instant, near, held.step⟩
  have queries : after.likes = moment.state.likes → ∀ count, serving.queried = some count →
      HasRows contentType contentId count after := by
    intro same count there
    unfold HasRows
    rw [same]
    exact aged.queried count there
  have cached := aged.cached.step permitted renewed aged.queried handled
  refine ⟨stays ▸ aged.ordered.step clock, stays ▸ cached, fun _ => by simp, ?_, ?_⟩
  · obtain ⟨env, op, answer, world⟩ := moment
    cases op with
    | dbSave like => nofun
    | dbRemove userId otherType otherId => nofun
    | dbGetLikesCount otherType otherId =>
        obtain ⟨rfl, rfl⟩ := permitted
        cases answer with
        | error e => exact queries likes
        | ok counted =>
            rintro _ ⟨⟩
            unfold HasRows
            rw [likes]
            exact World.handle_counted handled
    | cacheGetCount otherType otherId => rcases answer with _ | _ | _ <;> exact queries likes
    | _ => exact queries likes
  · rw [stays]
    obtain ⟨env, op, answer, world⟩ := moment
    cases op with
    | cacheGetCount otherType otherId =>
        obtain ⟨rfl, rfl⟩ := permitted
        rcases answer with e | _ | served
        · exact hits
        · exact hits
        · rintro _ ⟨⟩
          obtain ⟨entry, present, value⟩ := World.handle_cachedCount handled
          obtain ⟨count, deadline, instant, right, due, lives, held⟩ :=
            aged.cached entry (Redis.drop_some present)
          have inTime := honours entry deadline present due
          obtain rfl : served = count := by
            rw [value] at right
            exact Int.ofNat.inj (RedisValue.int.inj right)
          refine ⟨_, List.mem_append_right _ List.mem_cons_self, instant, ?_, held.step⟩
          omega
    | dbGetLikesCount otherType otherId => cases answer <;> exact hits
    | _ => exact hits

end Step

/-! ### Runs -/

section Runs

variable {setting : Setting} {contentType : ContentType} {contentId : ContentId}

theorem aged_start {earlier : List LikeMoment} {world : World}
    (ordered : InOrder (earlier.map stayOf) world)
    (cached : CachedOnce setting contentType contentId (earlier.map stayOf) world) :
    Aged setting contentType contentId earlier [] .start world where
  ordered := by simpa using ordered
  cached := by simpa using cached
  asked := fun asked => absurd rfl asked
  queried := nofun
  hit := nofun

/-- The cached count stays once right over calls about the item. -/
theorem takeTurns_cachedOnce {requests : List (LikeCall × (Nat → Surroundings))}
    (passed : List LikeMoment) {moments : List LikeMoment} {world reached : World}
    (about : ∀ request ∈ requests, request.1.reportsOn = some (contentType, contentId))
    (turns : takeTurns setting requests world = some (moments, reached))
    (honours : ∀ moment ∈ moments, HonoursCountTtl contentType contentId moment)
    (renewed : ∀ moment ∈ moments, RightlyRenewed contentType contentId moment)
    (ordered : InOrder (passed.map stayOf) world)
    (cached : CachedOnce setting contentType contentId (passed.map stayOf) world) :
    InOrder ((passed ++ moments).map stayOf) reached ∧
      CachedOnce setting contentType contentId ((passed ++ moments).map stayOf) reached := by
  induction requests generalizing passed world moments with
  | nil =>
      obtain ⟨rfl, rfl⟩ := Prod.mk.inj (Option.some.inj turns)
      simpa using And.intro ordered cached
  | cons request requests inductionHypothesis =>
      obtain ⟨call, environment⟩ := request
      unfold takeTurns at turns
      split at turns
      · cases turns
      · next outcome after spawned ran =>
          obtain ⟨⟨later, last⟩, rest, same⟩ := Option.map_eq_some_iff.mp turns
          obtain ⟨rfl, rfl⟩ := Prod.mk.inj same
          have serves : Serving.Supplies contentType contentId (fun _ _ => True)
              (call.body setting) .start := body_serves setting (about _ List.mem_cons_self)
          obtain ⟨_, _, aged⟩ := serves.run_keeps
            (fun serving own world => Aged setting contentType contentId passed own serving world)
            (by
              intro serving own moment after spawned member permitted handled aged
              have here := List.mem_append_left later member
              exact ⟨trivial,
                aged.step permitted (honours moment here) (renewed moment here) handled⟩)
            ran (aged_start ordered cached)
          rw [List.nil_append] at aged
          rw [← List.append_assoc]
          apply inductionHypothesis _ _ rest _ _ aged.ordered aged.cached
          · exact fun other member => about other (List.mem_cons_of_mem _ member)
          · exact fun moment member => honours moment (List.mem_append_right _ member)
          · exact fun moment member => renewed moment (List.mem_append_right _ member)

theorem FreshlyCached.once {world : World}
    (fresh : FreshlyCached setting contentType contentId world) :
    CachedOnce setting contentType contentId [] world := by
  intro entry present
  obtain ⟨value, deadline, due, lives⟩ := fresh entry present
  exact ⟨_, deadline, world.clock, value, due, lives, .inr ⟨rfl, rfl⟩⟩

/-- Over calls about one item, one after another, a count that `get_like_count` returns is the
number of rows at an instant that is at most the time to live before a step of the call, if no
`INCR` and no `DECR` renews a count that is not right. -/
theorem served_count_fresh (setting : Setting) (contentType : ContentType)
    (contentId : ContentId) (world middle after : World) (earlier : List LikeMoment)
    (environment : Nat → Surroundings) (response : CountResponse) (spawned : List LikeCall)
    (timeToLive : 0 ≤ setting.config.cacheTtlLikeCountsSecs)
    (fresh : FreshlyCached setting contentType contentId world)
    (requests : List (LikeCall × (Nat → Surroundings)))
    (about : ∀ request ∈ requests, request.1.reportsOn = some (contentType, contentId))
    (turns : takeTurns setting requests world = some (earlier, middle))
    (ran : (getLikeCount contentType contentId).run (World.handle setting) environment middle =
      some (.ok response, after, spawned))
    (own : List LikeMoment)
    (steps : own = (getLikeCount contentType contentId).moments (World.handle setting)
      environment middle)
    (honours : ∀ moment ∈ earlier ++ own, HonoursCountTtl contentType contentId moment)
    (renewed : ∀ moment ∈ earlier ++ own, RightlyRenewed contentType contentId moment) :
    ∃ step ∈ own, ∃ instant,
      stepTime step - setting.config.cacheTtlLikeCountsSecs ≤ instant ∧
        instant ≤ after.clock ∧
        HoldsAt (HasRows contentType contentId response.count)
          ((earlier ++ own).map stayOf) after instant := by
  subst steps
  obtain ⟨ordered, cached⟩ := takeTurns_cachedOnce [] about turns
    (fun moment member => honours moment (List.mem_append_left _ member))
    (fun moment member => renewed moment (List.mem_append_left _ member))
    (by simp [InOrder]) fresh.once
  obtain ⟨serving, has, aged⟩ := getLikeCount_serves.run_keeps
    (fun serving own world => Aged setting contentType contentId earlier own serving world)
    (by
      intro serving own moment after spawned member permitted handled aged
      exact ⟨trivial, aged.step permitted (honours moment (List.mem_append_right _ member))
        (renewed moment (List.mem_append_right _ member)) handled⟩)
    ran (aged_start ordered cached)
  rw [List.nil_append] at aged
  rcases has response rfl with queried | hit
  · have asked : serving.queried ≠ none := by
      rw [queried]
      exact Option.some_ne_none _
    obtain ⟨step, member⟩ := List.exists_mem_of_ne_nil _ (aged.asked asked)
    have passed : stepTime step ≤ after.clock :=
      aged.ordered (stayOf step) (List.mem_map_of_mem (List.mem_append_right _ member))
    have rows := aged.queried _ queried
    exact ⟨step, member, after.clock, by omega, le_rfl, .inr ⟨rows, rfl⟩⟩
  · obtain ⟨read, member, instant, near, held⟩ := aged.hit _ hit
    exact ⟨read, member, instant, near, held.le_clock aged.ordered, held⟩

/-- The executable form of `HonoursCountTtl`. -/
def honoursCountTtl? (contentType : ContentType) (contentId : ContentId)
    (moment : LikeMoment) : Bool :=
  (moment.state.redis.drop moment.env.expired (formatCountKey contentType contentId)).all
    fun entry => entry.deadline.all fun deadline => stepTime moment ≤ deadline

theorem HonoursCountTtl.of_check {moment : LikeMoment}
    (checked : honoursCountTtl? contentType contentId moment = true) :
    HonoursCountTtl contentType contentId moment := by
  intro entry deadline present due
  unfold honoursCountTtl? at checked
  rw [present, Option.all_some, due, Option.all_some] at checked
  exact of_decide_eq_true checked

/-- The executable form of `RightlyRenewed`. -/
def rightlyRenewed? (contentType : ContentType) (contentId : ContentId)
    (moment : LikeMoment) : Bool :=
  let found := (moment.state.redis.drop moment.env.expired).number
    (formatCountKey contentType contentId)
  let rows : Int := moment.state.likes.countOf contentType contentId
  moment.env.fault.isSome ||
    match moment.op with
    | .cacheIncrement _ _ => found == some (rows - 1)
    | .cacheDecrement _ _ => found == some (rows + 1)
    | _ => true

theorem RightlyRenewed.of_check {moment : LikeMoment}
    (checked : rightlyRenewed? contentType contentId moment = true) :
    RightlyRenewed contentType contentId moment := by
  intro healthy
  unfold rightlyRenewed? at checked
  rw [healthy, Option.isSome_none, Bool.false_or] at checked
  constructor
  · intro counts
    rw [counts] at checked
    exact eq_of_beq checked
  · intro counts
    rw [counts] at checked
    exact eq_of_beq checked

end Runs

/-- The steps of one call wait together, before the first of them, and one of them may find
Redis down. -/
def waiting (seconds : Nat) (down : Option Nat) (n : Nat) : Surroundings :=
  { Surroundings.calm with
    newId := 3
    elapse := if n = 0 then seconds else 0
    fault := if some n = down then some .noConnection else none }

/-- A third user likes the post, the first one takes the like back, and the count is read:
three calls in a row, with 200 seconds before each call but the first. -/
def thenUnlike (down : Option Nat) : List (LikeCall × (Nat → Surroundings)) :=
  [(.addLike ⟨⟨3⟩, postId, postType⟩, waiting 0 down),
    (.removeLike ⟨1⟩ postType postId, waiting 200 none)]

/-- The steps of a read of the count of the post after other calls, with its answer and the
world it leaves. -/
noncomputable def readAfter (requests : List (LikeCall × (Nat → Surroundings))) :
    Option (List LikeMoment × List LikeMoment × CountResponse × World) :=
  (takeTurns .reference requests twoCached).bind fun (earlier, middle) =>
    ((getLikeCount postType postId).run (World.handle .reference) (waiting 200 none)
      middle).bind fun (answer, after, _) =>
        answer.toOption.map fun response =>
          (earlier, (getLikeCount postType postId).moments (World.handle .reference)
            (waiting 200 none) middle, response, after)

theorem of_readAfter (requests : List (LikeCall × (Nat → Surroundings)))
    (check : List LikeMoment × List LikeMoment × CountResponse × World → Bool)
    (passed : (readAfter requests).any check = true) :
    ∃ earlier middle response after spawned,
      takeTurns .reference requests twoCached = some (earlier, middle) ∧
      (getLikeCount postType postId).run (World.handle .reference) (waiting 200 none) middle =
        some (.ok response, after, spawned) ∧
      check (earlier, (getLikeCount postType postId).moments (World.handle .reference)
        (waiting 200 none) middle, response, after) = true := by
  obtain ⟨_, reads, checked⟩ := (Option.any_eq_true _ _).mp passed
  obtain ⟨⟨earlier, middle⟩, turns, reads⟩ := Option.bind_eq_some_iff.mp reads
  obtain ⟨⟨answer, after, spawned⟩, ran, reads⟩ := Option.bind_eq_some_iff.mp reads
  obtain ⟨response, answered, rfl⟩ := Option.map_eq_some_iff.mp reads
  cases answer with
  | error e => cases answered
  | ok served =>
      obtain rfl := Option.some.inj answered
      exact ⟨earlier, middle, served, after, spawned, turns, ran, checked⟩

theorem twoCached_fresh : FreshlyCached .reference postType postId twoCached := by
  intro entry present
  have cached : twoCached.redis (formatCountKey postType postId) = some ⟨.int 2, some 300⟩ := by
    simp [twoCached]
  obtain rfl := Option.some.inj (cached.symm.trans present)
  exact ⟨by decide, 300, rfl, by decide⟩

/-- Every command gets through, and the count that is read is that of the rows. -/
theorem served_count_fresh_after_unlike :
    ∃ earlier middle response after spawned,
      takeTurns .reference (thenUnlike none) twoCached = some (earlier, middle) ∧
      (getLikeCount postType postId).run (World.handle .reference) (waiting 200 none) middle =
        some (.ok response, after, spawned) ∧
      ∃ step ∈ (getLikeCount postType postId).moments (World.handle .reference)
          (waiting 200 none) middle, ∃ instant,
        stepTime step - Setting.reference.config.cacheTtlLikeCountsSecs ≤ instant ∧
          instant ≤ after.clock ∧
          HoldsAt (HasRows postType postId response.count)
            ((earlier ++ (getLikeCount postType postId).moments (World.handle .reference)
              (waiting 200 none) middle).map stayOf) after instant := by
  obtain ⟨earlier, middle, response, after, spawned, turns, ran, checked⟩ := of_readAfter
    (thenUnlike none)
    (fun reads => (reads.1 ++ reads.2.1).all fun moment =>
      honoursCountTtl? postType postId moment && rightlyRenewed? postType postId moment)
    (by decide +kernel)
  have each := List.all_eq_true.mp checked
  refine ⟨earlier, middle, response, after, spawned, turns, ran, ?_⟩
  apply served_count_fresh .reference postType postId twoCached middle after earlier
    (waiting 200 none) response spawned (by decide) twoCached_fresh (thenUnlike none)
    (by simp [thenUnlike, LikeCall.reportsOn]) turns ran _ rfl
  · intro moment member
    exact .of_check (Bool.and_eq_true_iff.mp (each moment member)).1
  · intro moment member
    exact .of_check (Bool.and_eq_true_iff.mp (each moment member)).2

/-- Only a command that counts up fails, and a command that counts down finds the key. -/
def OnlyIncrementLost (contentType : ContentType) (contentId : ContentId)
    (moment : LikeMoment) : Prop :=
  (moment.env.fault ≠ none → moment.op = .cacheIncrement contentType contentId) ∧
    (moment.env.fault = none → moment.op = .cacheDecrement contentType contentId →
      (moment.state.redis.drop moment.env.expired).number
        (formatCountKey contentType contentId) ≠ none)

/-- The executable form of `OnlyIncrementLost`. -/
def onlyIncrementLost? (contentType : ContentType) (contentId : ContentId)
    (moment : LikeMoment) : Bool :=
  match moment.op with
  | .cacheIncrement otherType otherId =>
      moment.env.fault.isNone || (otherType == contentType && otherId == contentId)
  | .cacheDecrement _ _ =>
      moment.env.fault.isNone && ((moment.state.redis.drop moment.env.expired).number
        (formatCountKey contentType contentId)).isSome
  | _ => moment.env.fault.isNone

theorem OnlyIncrementLost.of_check {contentType : ContentType} {contentId : ContentId}
    {moment : LikeMoment}
    (checked : onlyIncrementLost? contentType contentId moment = true) :
    OnlyIncrementLost contentType contentId moment := by
  obtain ⟨env, op, answer, world⟩ := moment
  cases op with
  | cacheIncrement otherType otherId =>
      refine ⟨fun failed => ?_, fun _ => by rintro ⟨⟩⟩
      rcases Bool.or_eq_true_iff.mp checked with healthy | here
      · exact absurd (Option.isNone_iff_eq_none.mp healthy) failed
      · obtain ⟨same, also⟩ := Bool.and_eq_true_iff.mp here
        rw [eq_of_beq same, eq_of_beq also]
  | cacheDecrement otherType otherId =>
      obtain ⟨healthy, found⟩ := Bool.and_eq_true_iff.mp checked
      refine ⟨fun failed => absurd (Option.isNone_iff_eq_none.mp healthy) failed, fun _ _ => ?_⟩
      exact Option.isSome_iff_ne_none.mp found
  | _ =>
      have healthy : env.fault = none := Option.isNone_iff_eq_none.mp checked
      exact ⟨fun failed => absurd healthy failed, fun _ => by rintro ⟨⟩⟩

/-- The `INCR` of the new like is lost, the `DECR` of the unlike renews the expiry of the
count, and 200 seconds later a count is served that the post never had. -/
theorem served_count_stale :
    ∃ earlier middle response after spawned own,
      takeTurns .reference (thenUnlike (some 3)) twoCached = some (earlier, middle) ∧
      (getLikeCount postType postId).run (World.handle .reference) (waiting 200 none) middle =
        some (.ok response, after, spawned) ∧
      own = (getLikeCount postType postId).moments (World.handle .reference)
        (waiting 200 none) middle ∧
      FreshlyCached .reference postType postId twoCached ∧
      (∀ moment ∈ earlier ++ own, HonoursCountTtl postType postId moment ∧
        OnlyIncrementLost postType postId moment) ∧
      ¬ ∃ instant, after.clock - Setting.reference.config.cacheTtlLikeCountsSecs ≤ instant ∧
        HoldsAt (HasRows postType postId response.count) ((earlier ++ own).map stayOf) after
          instant := by
  obtain ⟨earlier, middle, response, after, spawned, turns, ran, checked⟩ := of_readAfter
    (thenUnlike (some 3))
    (fun reads =>
      ((reads.1 ++ reads.2.1).all fun moment =>
        (honoursCountTtl? postType postId moment && onlyIncrementLost? postType postId moment) &&
          moment.state.likes.countOf postType postId != reads.2.2.1.count) &&
      reads.2.2.2.likes.countOf postType postId != reads.2.2.1.count)
    (by decide +kernel)
  obtain ⟨each, last⟩ := Bool.and_eq_true_iff.mp checked
  refine ⟨earlier, middle, response, after, spawned, _, turns, ran, rfl, twoCached_fresh, ?_, ?_⟩
  · intro moment member
    obtain ⟨allowed, _⟩ := Bool.and_eq_true_iff.mp (List.all_eq_true.mp each moment member)
    obtain ⟨honours, lost⟩ := Bool.and_eq_true_iff.mp allowed
    exact ⟨.of_check honours, .of_check lost⟩
  · rintro ⟨instant, _, ⟨_, stayed, rows, _⟩ | ⟨rows, _⟩⟩
    · obtain ⟨moment, member, rfl⟩ := List.mem_map.mp stayed
      obtain ⟨_, others⟩ := Bool.and_eq_true_iff.mp (List.all_eq_true.mp each moment member)
      exact absurd rows (bne_iff_ne.mp others)
    · exact absurd rows (bne_iff_ne.mp last)

end SocialApi
