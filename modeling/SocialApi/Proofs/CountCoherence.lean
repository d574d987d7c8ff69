/-
Module: SocialApi.Proofs.CountCoherence
Purpose: When a like or an unlike that runs alone keeps the cached counts equal
  to the table.
Trusted boundary: none
Main exports:
  CountsMatch, CacheCoherent, getLikeCountWithFallback_run, addLike_coherent_iff,
  removeLike_coherent_iff
-/
import SocialApi.Application.LikeService

namespace SocialApi

open Process
open LikeService
open RedisLikeRepository (formatCountKey formatCountKey_inj)

/-- Every cached count is the number of rows of its item. -/
def CountsMatch (likes : LikesTable) (store : Redis) : Prop :=
  ∀ contentType contentId entry,
    store (formatCountKey contentType contentId) = some entry →
      entry.value = .int (likes.countOf contentType contentId)

/-- Cache and table agree. -/
def CacheCoherent (world : World) : Prop := CountsMatch world.likes world.redis

/-- Cache and table agree, and the table is the given one. -/
structure CoherentWith (likes : LikesTable) (world : World) : Prop where
  table : world.likes = likes
  counts : CountsMatch likes world.redis

/-- Postgres and Redis answer every request; Redis accepts the time to live. -/
structure StoresHealthy (setting : Setting) (environment : Nat → Surroundings) :
    Prop where
  noFault : ∀ n, (environment n).fault = none
  timeToLive : 0 < setting.config.cacheTtlLikeCountsSecs

theorem StoresHealthy.shift {setting : Setting} {environment : Nat → Surroundings}
    (healthy : StoresHealthy setting environment) (steps : Nat) :
    StoresHealthy setting fun n => environment (n + steps) :=
  ⟨fun n => healthy.noFault (n + steps), healthy.timeToLive⟩

theorem CoherentWith.coherent {likes : LikesTable} {world : World}
    (coherent : CoherentWith likes world) : CacheCoherent world := by
  unfold CacheCoherent
  rw [coherent.table]
  exact coherent.counts

/-! ### Matching counts -/

section Counts

variable {likes : LikesTable} {store : Redis}

/-- A key that leaves Redis leaves the others right. -/
theorem CountsMatch.drop (counts : CountsMatch likes store) (keys : List String) :
    CountsMatch likes (store.drop keys) :=
  fun contentType contentId entry present =>
    counts contentType contentId entry (Redis.drop_some present)

theorem CountsMatch.numeric (counts : CountsMatch likes store)
    (contentType : ContentType) (contentId : ContentId) :
    store.Numeric (formatCountKey contentType contentId) := by
  intro text deadline present
  cases counts contentType contentId _ present

/-- A matching count is absent or right. -/
theorem CountsMatch.number (counts : CountsMatch likes store)
    (contentType : ContentType) (contentId : ContentId) :
    store.number (formatCountKey contentType contentId) = none ∨
      store.number (formatCountKey contentType contentId) =
        some (likes.countOf contentType contentId : Int) := by
  unfold Redis.number
  cases present : store (formatCountKey contentType contentId) with
  | none => exact .inl rfl
  | some entry =>
      obtain ⟨value, deadline⟩ := entry
      have right : value = _ := counts contentType contentId _ present
      rw [right]
      exact .inr rfl

/-- Writing one count makes the counts match when it is right and the others
match already. -/
theorem CountsMatch.put {after : LikesTable} {contentType : ContentType}
    {contentId : ContentId} (counts : CountsMatch likes store)
    (others : ∀ otherType otherId, (otherType, otherId) ≠ (contentType, contentId) →
      after.countOf otherType otherId = likes.countOf otherType otherId)
    (deadline : Option Int) :
    CountsMatch after (store.put (formatCountKey contentType contentId)
      ⟨.int (after.countOf contentType contentId), deadline⟩) := by
  intro otherType otherId entry present
  by_cases same : formatCountKey otherType otherId = formatCountKey contentType contentId
  · obtain ⟨rfl, rfl⟩ := formatCountKey_inj same
    rw [Redis.put_self, Option.some.injEq] at present
    rw [← present]
  · rw [Redis.put_of_ne _ _ same] at present
    rw [others otherType otherId fun equal => same (by
      rw [(Prod.mk.inj equal).1, (Prod.mk.inj equal).2])]
    exact counts otherType otherId entry present

/-- A change of the table that only concerns an uncached count keeps the counts
right. -/
theorem CountsMatch.uncached {after : LikesTable} {contentType : ContentType}
    {contentId : ContentId} (counts : CountsMatch likes store)
    (others : ∀ otherType otherId, (otherType, otherId) ≠ (contentType, contentId) →
      after.countOf otherType otherId = likes.countOf otherType otherId)
    (absent : store.number (formatCountKey contentType contentId) = none ∨
      after.countOf contentType contentId = likes.countOf contentType contentId) :
    CountsMatch after store := by
  intro otherType otherId entry present
  by_cases same : (otherType, otherId) = (contentType, contentId)
  · obtain ⟨rfl, rfl⟩ := Prod.mk.inj same
    rcases absent with absent | unchanged
    · rw [(Redis.number_eq_none_iff (counts.numeric _ _)).mp absent] at present
      cases present
    · rw [unchanged]
      exact counts otherType otherId entry present
  · rw [others otherType otherId same]
    exact counts otherType otherId entry present

/-- Counting a right count by the change of the table keeps it right. -/
theorem CountsMatch.count {after : LikesTable} {contentType : ContentType}
    {contentId : ContentId} {delta : Int} (counts : CountsMatch likes store)
    (others : ∀ otherType otherId, (otherType, otherId) ≠ (contentType, contentId) →
      after.countOf otherType otherId = likes.countOf otherType otherId)
    (here : (after.countOf contentType contentId : Int) =
      likes.countOf contentType contentId + delta)
    (right : (store.number (formatCountKey contentType contentId)).getD 0 =
      likes.countOf contentType contentId)
    (deadline : Option Int) :
    CountsMatch after (store.put (formatCountKey contentType contentId)
      ⟨.int ((store.number (formatCountKey contentType contentId)).getD 0 + delta),
        deadline⟩) := by
  rw [right, ← here]
  exact counts.put others deadline

/-- A count read by its command is right, if it is there. -/
theorem CountsMatch.cachedCount (counts : CountsMatch likes store)
    (contentType : ContentType) (contentId : ContentId) :
    (store.number (formatCountKey contentType contentId) = none ∧
      LikeService.cachedCount (RedisLikeRepository.getCount none contentType contentId
        store) = .error .cacheMiss) ∨
    (store.number (formatCountKey contentType contentId) ≠ none ∧
      LikeService.cachedCount (RedisLikeRepository.getCount none contentType contentId
        store) = .ok (likes.countOf contentType contentId)) := by
  rw [RedisLikeRepository.getCount_eq (counts.numeric contentType contentId)]
  rcases counts.number contentType contentId with absent | present
  · rw [absent]
    exact .inl ⟨rfl, rfl⟩
  · rw [present]
    refine .inr ⟨by simp, ?_⟩
    simp [RedisLikeRepository.asU64, LikeService.cachedCount, Except.map]

end Counts

/-! ### Steps that keep the counts -/

section Steps

variable {setting : Setting} {env : Surroundings} {op : LikeOp} {world after : World}
  {answer : op.Res} {spawned : List LikeCall}

theorem CoherentWith.step {likes : LikesTable} (coherent : CoherentWith likes world)
    (keeps : op.KeepsCounts)
    (handled : World.handle setting env op world = some (answer, after, spawned)) :
    CoherentWith likes after := by
  obtain ⟨table, counts⟩ := World.handle_keepsCounts keeps handled
  constructor
  · rw [table, coherent.table]
  · intro contentType contentId entry present
    rw [counts] at present
    exact coherent.counts contentType contentId entry (Redis.drop_some present)

/-- What does not expire stays. -/
theorem number_step (keeps : op.KeepsCounts) (kept : env.expired = [])
    (handled : World.handle setting env op world = some (answer, after, spawned))
    (contentType : ContentType) (contentId : ContentId) :
    after.redis.number (formatCountKey contentType contentId) =
      world.redis.number (formatCountKey contentType contentId) := by
  have counts := (World.handle_keepsCounts keeps handled).2 contentType contentId
  rw [kept, Redis.drop_nil] at counts
  unfold Redis.number
  rw [counts]

/-- A quiet program leaves the table alone. -/
theorem likes_run_quiet {α : Type} {program : Service α}
    {environment : Nat → Surroundings} {value : α}
    (quiet : program.Performs LikeOp.Quiet)
    (ran : program.run (World.handle setting) environment world =
      some (value, after, spawned)) :
    after.likes = world.likes :=
  quiet.run_preserves (fun reached => reached.likes = world.likes)
    (fun _ _ _ _ _ _ isQuiet handled same =>
      (World.handle_keepsCounts isQuiet.keepsCounts handled).1.trans same) ran rfl

/-- A quiet program leaves the table and the agreement alone. -/
theorem CoherentWith.run_quiet {α : Type} {likes : LikesTable} {program : Service α}
    {environment : Nat → Surroundings} {value : α}
    (coherent : CoherentWith likes world) (quiet : program.Performs LikeOp.Quiet)
    (ran : program.run (World.handle setting) environment world =
      some (value, after, spawned)) :
    CoherentWith likes after :=
  quiet.run_preserves (CoherentWith likes)
    (fun _ _ _ _ _ _ isQuiet handled coherent =>
      coherent.step isQuiet.keepsCounts handled) ran coherent

end Steps

/-! ### Read-through -/

/-- Alone and with healthy stores, the read-through returns the number of rows,
keeps cache and table in agreement and, as long as nothing expires, leaves the
count in the cache. -/
theorem getLikeCountWithFallback_run {setting : Setting}
    {environment : Nat → Surroundings} {contentType : ContentType}
    {contentId : ContentId} {likes : LikesTable} {world after : World}
    {result : Except DomainError Nat} {spawned : List LikeCall}
    (healthy : StoresHealthy setting environment) (coherent : CoherentWith likes world)
    (ran : (getLikeCountWithFallback contentType contentId).run (World.handle setting)
      environment world = some (result, after, spawned)) :
    result = .ok (likes.countOf contentType contentId) ∧ CoherentWith likes after ∧
      ((∀ n, (environment n).expired = []) →
        after.redis.number (formatCountKey contentType contentId) ≠ none) := by
  simp only [getLikeCountWithFallback, getCacheLikeCount_bind] at ran
  obtain ⟨first, read, _, _, reading, ran, _⟩ := (Program.run_perform _).mp ran
  have coherentRead := coherent.step (by trivial) reading
  rw [World.handle_getCount (healthy.noFault 0) reading] at ran
  rcases coherentRead.counts.cachedCount contentType contentId with
    ⟨_, miss⟩ | ⟨present, hit⟩
  · rw [miss] at ran
    simp only [Program.request_bind] at ran
    obtain ⟨lock, entered, _, _, entering, ran, _⟩ := (Program.run_perform _).mp ran
    obtain ⟨_, locked, _, _, locking, ran, _⟩ := (Program.run_perform _).mp ran
    obtain ⟨second, reread, _, _, rereading, ran, _⟩ := (Program.run_perform _).mp ran
    have coherentReread := ((coherentRead.step (by trivial) entering).step (by trivial)
      locking).step (by trivial) rereading
    rw [World.handle_getCount (healthy.noFault _) rereading] at ran
    rcases coherentReread.counts.cachedCount contentType contentId with
      ⟨_, miss⟩ | ⟨present, hit⟩
    · rw [miss] at ran
      dsimp only at ran
      obtain ⟨counted, queried, _, _, querying, ran, _⟩ := (Program.run_perform _).mp ran
      have coherentQueried := coherentReread.step (by trivial) querying
      rw [World.handle_getLikesCount (healthy.noFault _) querying,
        coherentReread.table] at ran
      dsimp only at ran
      obtain ⟨_, filled, _, _, filling, ran, _⟩ := (Program.run_perform _).mp ran
      obtain ⟨_, removed, _, _, removing, ran, _⟩ := (Program.run_perform _).mp ran
      obtain ⟨_, unlocked, _, _, unlocking, ran, _⟩ := (Program.run_perform _).mp ran
      obtain ⟨rfl, rfl, _⟩ : Except.ok _ = result ∧ unlocked = after ∧ _ := by
        simpa using ran
      obtain ⟨table, deadline, store⟩ := World.handle_setValue (healthy.noFault _)
        healthy.timeToLive filling
      have coherentFilled : CoherentWith likes filled := by
        constructor
        · rw [table, coherentQueried.table]
        · rw [store]
          exact (coherentQueried.counts.drop _).put (fun _ _ _ => rfl) deadline
      refine ⟨rfl, (coherentFilled.step (by trivial) removing).step (by trivial)
        unlocking, fun kept => ?_⟩
      rw [number_step (by trivial) (kept _) unlocking,
        number_step (by trivial) (kept _) removing, store]
      simp [Redis.number]
    · rw [hit] at ran
      dsimp only at ran
      obtain ⟨_, removed, _, _, removing, ran, _⟩ := (Program.run_perform _).mp ran
      obtain ⟨_, unlocked, _, _, unlocking, ran, _⟩ := (Program.run_perform _).mp ran
      obtain ⟨rfl, rfl, _⟩ : Except.ok _ = result ∧ unlocked = after ∧ _ := by
        simpa using ran
      refine ⟨rfl, (coherentReread.step (by trivial) removing).step (by trivial)
        unlocking, fun kept => ?_⟩
      rw [number_step (by trivial) (kept _) unlocking,
        number_step (by trivial) (kept _) removing]
      exact present
  · rw [hit] at ran
    obtain ⟨rfl, rfl, _⟩ : Except.ok _ = result ∧ _ = after ∧ _ := by simpa using ran
    exact ⟨rfl, coherentRead, fun _ => present⟩

/-- A cached number is returned as it is. -/
theorem getLikeCountWithFallback_hit {setting : Setting}
    {environment : Nat → Surroundings} {contentType : ContentType}
    {contentId : ContentId} {world after : World} {result : Except DomainError Nat}
    {spawned : List LikeCall} {count : Nat}
    (healthy : StoresHealthy setting environment)
    (kept : ∀ n, (environment n).expired = [])
    (numeric : world.redis.Numeric (formatCountKey contentType contentId))
    (cached : world.redis.number (formatCountKey contentType contentId) =
      some (count : Int))
    (ran : (getLikeCountWithFallback contentType contentId).run (World.handle setting)
      environment world = some (result, after, spawned)) :
    result = .ok count ∧ after.likes = world.likes ∧ after.redis = world.redis := by
  simp only [getLikeCountWithFallback, getCacheLikeCount_bind] at ran
  obtain ⟨first, read, _, _, reading, ran, _⟩ := (Program.run_perform _).mp ran
  obtain ⟨_, table, store, _⟩ := World.handle_after reading
  have sameStore : read.redis = world.redis := by
    rw [store, kept, Redis.drop_nil]
    rfl
  rw [World.handle_getCount (healthy.noFault 0) reading, sameStore,
    RedisLikeRepository.getCount_eq numeric, cached] at ran
  simp only [RedisLikeRepository.asU64_natCast, Except.map, cachedCount] at ran
  obtain ⟨rfl, rfl, _⟩ : Except.ok count = result ∧ read = after ∧ _ := by
    simpa using ran
  exact ⟨rfl, table, sameStore⟩

/-! ### A like that runs alone -/

section Alone

variable {setting : Setting} {environment : Nat → Surroundings} {world after : World}
  {spawned : List LikeCall}

private theorem likeAdded_result {likeCmd : AddLikeCommand} {count : Nat}
    {createdAt : DateTime} {alreadyExists : Bool} {result : AddLikeCommandResult}
    (ran : (likeAdded likeCmd count createdAt alreadyExists).run (World.handle setting)
      environment world = some (.ok result, after, spawned)) :
    result.count = count := by
  obtain ⟨_, _, _, _, _, _, ran, _⟩ := Program.run_bind _ ran
  obtain ⟨rfl, _⟩ : _ = result ∧ _ := by simpa using ran
  rfl

private theorem likeRemoved_result {userId : UserId} {contentType : ContentType}
    {contentId : ContentId} {currCount : Nat} {result : UnlikeResponse}
    (ran : (likeRemoved userId contentType contentId currCount).run
      (World.handle setting) environment world = some (.ok result, after, spawned)) :
    result.count = currCount := by
  obtain ⟨_, _, _, _, _, _, ran, _⟩ := Program.run_bind _ ran
  obtain ⟨rfl, _⟩ : _ = result ∧ _ := by simpa using ran
  rfl

/-- A duplicate like returns the number of rows and keeps the agreement. -/
theorem addExistingLike_run {likeCmd : AddLikeCommand} {result : AddLikeCommandResult}
    {likes : LikesTable} (healthy : StoresHealthy setting environment)
    (coherent : CoherentWith likes world)
    (ran : (addExistingLike likeCmd).run (World.handle setting) environment world =
      some (.ok result, after, spawned)) :
    result.count = likes.countOf likeCmd.contentType likeCmd.contentId ∧
      CoherentWith likes after := by
  obtain ⟨counted, between, _, _, steps, reading, ran, _⟩ := Program.run_bind _ ran
  obtain ⟨rfl, coherentBetween, _⟩ :=
    getLikeCountWithFallback_run healthy coherent reading
  dsimp only at ran
  obtain ⟨existed, fetched, _, _, fetching, ran, _⟩ := (Program.run_perform _).mp ran
  cases existed with
  | error e => simp at ran
  | ok existedLike =>
  have coherentFetched := coherentBetween.step (by trivial) fetching
  exact ⟨likeAdded_result ran, coherentFetched.run_quiet (likeAdded_quiet _ _ _ _) ran⟩

/-- After its row has been stored, a new like leaves count and cache right exactly
when it was the item's first or its count is cached. -/
theorem addNewLike_run {likeCmd : AddLikeCommand} {createdAt : DateTime}
    {result : AddLikeCommandResult} {before : LikesTable}
    (healthy : StoresHealthy setting environment)
    (counts : CountsMatch before (world.redis.drop (environment 0).expired))
    (rows : world.likes.countOf likeCmd.contentType likeCmd.contentId =
      before.countOf likeCmd.contentType likeCmd.contentId + 1)
    (others : ∀ otherType otherId,
      (otherType, otherId) ≠ (likeCmd.contentType, likeCmd.contentId) →
        world.likes.countOf otherType otherId = before.countOf otherType otherId)
    (ran : (addNewLike likeCmd createdAt).run (World.handle setting) environment world =
      some (.ok result, after, spawned)) :
    (result.count = after.likes.countOf likeCmd.contentType likeCmd.contentId ∧
        CacheCoherent after) ↔
      before.countOf likeCmd.contentType likeCmd.contentId = 0 ∨
        (world.redis.drop (environment 0).expired).number
          (formatCountKey likeCmd.contentType likeCmd.contentId) ≠ none := by
  obtain ⟨counted, incremented, _, _, counting, ran, _⟩ := (Program.run_perform _).mp ran
  obtain ⟨rfl, table, deadline, store⟩ := World.handle_increment
    (healthy.noFault 0) healthy.timeToLive (counts.numeric _ _) counting
  have coherentIncremented :
      ((world.redis.drop (environment 0).expired).number (formatCountKey
          likeCmd.contentType likeCmd.contentId)).getD 0 =
        before.countOf likeCmd.contentType likeCmd.contentId →
      CoherentWith incremented.likes incremented := by
    intro right
    refine ⟨rfl, ?_⟩
    rw [store, table]
    exact counts.count others (by rw [rows]; rfl) right deadline
  have ends : ∀ n : Nat, RedisLikeRepository.replyAsU64
        (((world.redis.drop (environment 0).expired).number (formatCountKey
          likeCmd.contentType likeCmd.contentId)).getD 0 + 1) = n →
      result.count = n ∧ after.likes = incremented.likes ∧
        (CoherentWith incremented.likes incremented → CacheCoherent after) := by
    intro n answered
    rw [answered] at ran
    exact ⟨likeAdded_result ran, likes_run_quiet (likeAdded_quiet _ _ _ _) ran,
      fun coherent => (coherent.run_quiet (likeAdded_quiet _ _ _ _) ran).coherent⟩
  rcases counts.number likeCmd.contentType likeCmd.contentId with absent | present
  · -- counted up from zero
    obtain ⟨counted, tableAfter, coherentAfter⟩ := ends 1 (by rw [absent]; rfl)
    rw [counted, tableAfter, table, rows]
    constructor
    · intro holds
      exact .inl (by omega)
    · intro holds
      have noRows := holds.resolve_right fun present => present absent
      refine ⟨by omega, coherentAfter (coherentIncremented ?_)⟩
      rw [absent, noRows]
      rfl
  · -- counted up from the number of rows
    obtain ⟨counted, tableAfter, coherentAfter⟩ :=
      ends (before.countOf likeCmd.contentType likeCmd.contentId + 1)
        (by rw [present]; exact RedisLikeRepository.replyAsU64_natCast _)
    apply iff_of_true
    · exact ⟨by rw [counted, tableAfter, table, rows],
        coherentAfter (coherentIncremented (by rw [present]; rfl))⟩
    · exact .inr (by rw [present]; simp)

/-- The count key of the item is in the cache when the call starts and does not
expire up to its given step. -/
def CachedThrough (environment : Nat → Surroundings) (world : World)
    (contentType : ContentType) (contentId : ContentId) (step : Nat) : Prop :=
  world.redis (formatCountKey contentType contentId) ≠ none ∧
    ∀ n ≤ step, formatCountKey contentType contentId ∉ (environment n).expired

/-- After `add_like` has run alone, its count is the number of rows and the cache
is coherent exactly when the like was there before, or the item had no rows, or
its count was still cached when `increment`, the fourth step, reached Redis. -/
theorem addLike_coherent_iff {likeCmd : AddLikeCommand}
    {result : AddLikeCommandResult} (healthy : StoresHealthy setting environment)
    (coherent : CacheCoherent world)
    (ran : (addLike likeCmd).run (World.handle setting) environment world =
      some (.ok result, after, spawned)) :
    (result.count = after.likes.countOf likeCmd.contentType likeCmd.contentId ∧
        CacheCoherent after) ↔
      (world.likes.find
          (likeCmd.userId, likeCmd.contentType, likeCmd.contentId)).isSome ∨
        world.likes.countOf likeCmd.contentType likeCmd.contentId = 0 ∨
        CachedThrough environment world likeCmd.contentType likeCmd.contentId 3 := by
  simp only [addLike, Program.request_bind] at ran
  obtain ⟨validated, checked, _, _, checking, ran, _⟩ := (Program.run_perform _).mp ran
  have start : CoherentWith world.likes world := ⟨rfl, coherent⟩
  have coherentChecked := start.step (by trivial) checking
  cases validated with
  | error e => simp at ran
  | ok verdict =>
  obtain ⟨createdAt, stamped, _, _, stamping, ran, _⟩ := (Program.run_perform _).mp ran
  have coherentStamped := coherentChecked.step (by trivial) stamping
  obtain ⟨saved, written, _, _, saving, ran, _⟩ := (Program.run_perform _).mp ran
  obtain ⟨store, outcome⟩ := World.handle_save saving
  rw [coherentStamped.table] at outcome
  have healthyLater : StoresHealthy setting fun n => environment (n + 1 + 1 + 1) :=
    ⟨fun n => healthy.noFault _, healthy.timeToLive⟩
  rcases outcome with ⟨e, rfl, _⟩ | ⟨rfl, found, table⟩ |
    ⟨rfl, notFound, newKey, freshId, table⟩
  · simp at ran
  · -- the row was there: the count is read through
    have coherentWritten : CoherentWith world.likes written :=
      ⟨table, store ▸ coherentStamped.counts.drop _⟩
    obtain ⟨counted, coherentAfter⟩ := addExistingLike_run healthyLater coherentWritten ran
    apply iff_of_true
    · exact ⟨by rw [coherentAfter.table, counted], coherentAfter.coherent⟩
    · exact .inl found
  · -- the row is new: the count is counted up
    have counts : CountsMatch world.likes (written.redis.drop (environment 3).expired) :=
      (store ▸ coherentStamped.counts.drop _).drop _
    have cached : (written.redis.drop (environment 3).expired).number
          (formatCountKey likeCmd.contentType likeCmd.contentId) ≠ none ↔
        CachedThrough environment world likeCmd.contentType likeCmd.contentId 3 := by
      rw [ne_eq, Redis.number_eq_none_iff (counts.numeric _ _), store]
      have checkedKey := (World.handle_keepsCounts (by trivial) checking).2
        likeCmd.contentType likeCmd.contentId
      have stampedKey := (World.handle_keepsCounts (by trivial) stamping).2
        likeCmd.contentType likeCmd.contentId
      simp only [Redis.drop_eq_none_iff, stampedKey, checkedKey, not_or, CachedThrough]
      constructor
      · rintro ⟨third, second, first, zeroth, present⟩
        refine ⟨present, fun n small => ?_⟩
        interval_cases n <;> assumption
      · rintro ⟨present, kept⟩
        exact ⟨kept 3 (by decide), kept 2 (by decide), kept 1 (by decide),
          kept 0 (by decide), present⟩
    have notBefore : (world.likes.find (likeCmd.userId, likeCmd.contentType,
        likeCmd.contentId)).isSome = false := Option.isSome_eq_false_iff.mpr
      (Option.isNone_iff_eq_none.mpr notFound)
    rw [notBefore, ← cached]
    simp only [Bool.false_eq_true, false_or]
    refine addNewLike_run healthyLater counts ?_ ?_ ran
    · rw [table, LikesTable.countOf_insert]
      simp
    · intro otherType otherId other
      rw [table]
      exact LikesTable.countOf_insert_other _ _ _ _ _ other

/-- The stores of the examples: two users like one post, nothing is cached. -/
def twoLikes : World := World.new
  { rows :=
      [{ id := 1, userId := ⟨1⟩, contentType := ⟨"post"⟩, contentId := ⟨9⟩, createdAt := 0 },
       { id := 2, userId := ⟨2⟩, contentType := ⟨"post"⟩, contentId := ⟨9⟩, createdAt := 0 }]
    uniqueUserContentLike := by decide
    primaryKey := by decide
    timestamps := by decide } .empty 0

theorem twoLikes_coherent : CacheCoherent twoLikes := by
  intro contentType contentId entry present
  cases present

/-- Stores that answer, with a new id for an inserted row. -/
def calmWithId : Nat → Surroundings := fun _ => { Surroundings.calm with newId := 3 }

theorem calmWithId_healthy : StoresHealthy .reference calmWithId :=
  ⟨fun _ => rfl, by decide⟩

/-- Another like of the second user is a duplicate, and read through. -/
theorem addLike_coherent_duplicate :
    ∃ result after spawned, (addLike ⟨⟨2⟩, ⟨9⟩, ⟨"post"⟩⟩).run
        (World.handle .reference) calmWithId twoLikes = some (.ok result, after, spawned) ∧
      result.count = after.likes.countOf ⟨"post"⟩ ⟨9⟩ ∧ CacheCoherent after := by
  obtain ⟨⟨result, after, spawned⟩, ran, passed⟩ := (Option.any_eq_true
    (fun reached => match reached.1 with
      | .ok _ => true
      | .error _ => false)
    ((addLike ⟨⟨2⟩, ⟨9⟩, ⟨"post"⟩⟩).run (World.handle .reference) calmWithId
      twoLikes)).mp (by decide +kernel)
  cases result with
  | error e => cases passed
  | ok result =>
      exact ⟨result, after, spawned, ran, (addLike_coherent_iff calmWithId_healthy
        twoLikes_coherent ran).mpr (.inl (by decide))⟩

/-- A third user's like of the uncached post is counted from zero: it answers 1
where the table has 3 rows. -/
theorem addLike_counts_from_zero :
    ∃ result after spawned, StoresHealthy .reference calmWithId ∧
      CacheCoherent twoLikes ∧
      (addLike ⟨⟨3⟩, ⟨9⟩, ⟨"post"⟩⟩).run (World.handle .reference) calmWithId twoLikes =
        some (.ok result, after, spawned) ∧
      ¬ (result.count = after.likes.countOf ⟨"post"⟩ ⟨9⟩ ∧ CacheCoherent after) := by
  obtain ⟨⟨result, after, spawned⟩, ran, passed⟩ := (Option.any_eq_true
    (fun reached => match reached.1 with
      | .ok result => result.count = 1 ∧
          reached.2.1.likes.countOf ⟨"post"⟩ ⟨9⟩ = 3
      | .error _ => false)
    ((addLike ⟨⟨3⟩, ⟨9⟩, ⟨"post"⟩⟩).run (World.handle .reference) calmWithId
      twoLikes)).mp (by decide +kernel)
  cases result with
  | error e => cases passed
  | ok result =>
      obtain ⟨one, three⟩ := of_decide_eq_true passed
      refine ⟨result, after, spawned, calmWithId_healthy, twoLikes_coherent, ran, ?_⟩
      intro holds
      rw [one, three] at holds
      exact absurd holds.1 (by decide)

/-! ### An unlike that runs alone -/

/-- Counting down from a positive count. -/
theorem removeCountedLike_run {userId : UserId} {contentType : ContentType}
    {contentId : ContentId} {result : UnlikeResponse} {n : Nat}
    (healthy : StoresHealthy setting environment)
    (kept : ∀ n, (environment n).expired = [])
    (numeric : world.redis.Numeric (formatCountKey contentType contentId))
    (cached : world.redis.number (formatCountKey contentType contentId) =
      some ((n + 1 : Nat) : Int))
    (ran : (removeCountedLike userId contentType contentId).run (World.handle setting)
      environment world = some (.ok result, after, spawned)) :
    result.count = n ∧ after.likes = world.likes ∧
      ((∀ deadline, CountsMatch world.likes
          (world.redis.put (formatCountKey contentType contentId) ⟨.int n, deadline⟩)) →
        CacheCoherent after) := by
  obtain ⟨counted, decremented, _, _, counting, ran, _⟩ := (Program.run_perform _).mp ran
  obtain ⟨rfl, table, deadline, store⟩ := World.handle_decrement
    (healthy.noFault 0) healthy.timeToLive (by rwa [kept, Redis.drop_nil]) counting
  have below : (some ((n + 1 : Nat) : Int)).getD 0 + -1 = (n : Int) := by
    simp
  rw [kept, Redis.drop_nil, cached, below] at store ran
  rw [RedisLikeRepository.replyAsU64_natCast] at ran
  refine ⟨likeRemoved_result ran, ?_, fun counts => ?_⟩
  · rw [likes_run_quiet (likeRemoved_quiet _ _ _ _) ran, table]
  · have coherent : CoherentWith world.likes decremented :=
      ⟨table, store ▸ counts deadline⟩
    exact (coherent.run_quiet (likeRemoved_quiet _ _ _ _) ran).coherent

/-- When the reduced count has just been read and cached, counting down is right exactly when no row
is left. -/
theorem countedAgain_run {userId : UserId} {contentType : ContentType}
    {contentId : ContentId} {result : UnlikeResponse} {likes : LikesTable}
    (healthy : StoresHealthy setting environment)
    (kept : ∀ n, (environment n).expired = []) (coherent : CoherentWith likes world)
    (filled : world.redis.number (formatCountKey contentType contentId) ≠ none)
    (ran : (if likes.countOf contentType contentId ≠ 0
        then removeCountedLike userId contentType contentId
        else likeRemoved userId contentType contentId
          (likes.countOf contentType contentId)).run (World.handle setting)
      environment world = some (.ok result, after, spawned)) :
    (result.count = after.likes.countOf contentType contentId ∧ CacheCoherent after) ↔
      likes.countOf contentType contentId = 0 := by
  cases left : likes.countOf contentType contentId with
  | zero =>
      rw [if_neg (not_not.mpr left), left] at ran
      have coherentAfter := coherent.run_quiet (likeRemoved_quiet _ _ _ _) ran
      apply iff_of_true
      · exact ⟨by rw [coherentAfter.table, left, likeRemoved_result ran],
          coherentAfter.coherent⟩
      · rfl
  | succ rest =>
      rw [if_pos (by omega)] at ran
      have full := (coherent.counts.number contentType contentId).resolve_left filled
      rw [left] at full
      obtain ⟨counted, tableAfter, _⟩ :=
        removeCountedLike_run healthy kept (coherent.counts.numeric _ _) full ran
      apply iff_of_false
      · rw [counted, tableAfter, coherent.table, left]
        omega
      · omega

/-- When the cached count still includes the removed row, counting down is right. -/
theorem countedOnce_run {userId : UserId} {contentType : ContentType}
    {contentId : ContentId} {result : UnlikeResponse} {before : LikesTable}
    (healthy : StoresHealthy setting environment)
    (kept : ∀ n, (environment n).expired = [])
    (counts : CountsMatch before world.redis)
    (others : ∀ otherType otherId, (otherType, otherId) ≠ (contentType, contentId) →
      world.likes.countOf otherType otherId = before.countOf otherType otherId)
    (present : world.redis.number (formatCountKey contentType contentId) =
      some ((world.likes.countOf contentType contentId + 1 : Nat) : Int))
    (ran : (removeCountedLike userId contentType contentId).run (World.handle setting)
      environment world = some (.ok result, after, spawned)) :
    result.count = after.likes.countOf contentType contentId ∧ CacheCoherent after := by
  obtain ⟨counted, tableAfter, coherentAfter⟩ :=
    removeCountedLike_run healthy kept (counts.numeric _ _) present ran
  exact ⟨by rw [counted, tableAfter], coherentAfter (counts.put others)⟩

/-- After `remove_like` has run alone and without expiry, its count is the number
of rows and the cache is coherent exactly when the user had not liked the item, or
its count was cached, or the row was the item's only one. -/
theorem removeLike_coherent_iff {userId : UserId} {contentType : ContentType}
    {contentId : ContentId} {result : UnlikeResponse}
    (healthy : StoresHealthy setting environment)
    (kept : ∀ n, (environment n).expired = []) (coherent : CacheCoherent world)
    (ran : (removeLike userId contentType contentId).run (World.handle setting)
      environment world = some (.ok result, after, spawned)) :
    (result.count = after.likes.countOf contentType contentId ∧
        CacheCoherent after) ↔
      world.likes.find (userId, contentType, contentId) = none ∨
        world.redis (formatCountKey contentType contentId) ≠ none ∨
        world.likes.countOf contentType contentId = 1 := by
  simp only [removeLike, Program.request_bind] at ran
  obtain ⟨validated, checked, _, _, checking, ran, _⟩ := (Program.run_perform _).mp ran
  have start : CoherentWith world.likes world := ⟨rfl, coherent⟩
  have coherentChecked := start.step (by trivial) checking
  cases validated with
  | error e => simp at ran
  | ok verdict =>
  obtain ⟨wasLiked, removed, _, _, removing, ran, _⟩ := (Program.run_perform _).mp ran
  obtain ⟨store, outcome⟩ := World.handle_remove removing
  rw [coherentChecked.table] at outcome
  rcases outcome with ⟨e, rfl, _⟩ | ⟨rfl, table⟩
  · simp at ran
  have counts : CountsMatch world.likes removed.redis :=
    store ▸ coherentChecked.counts.drop _
  have others : ∀ otherType otherId, (otherType, otherId) ≠ (contentType, contentId) →
      removed.likes.countOf otherType otherId =
        world.likes.countOf otherType otherId := by
    intro otherType otherId other
    rw [table]
    exact LikesTable.countOf_erase_other _ _ other
  have rows := LikesTable.countOf_erase world.likes userId contentType contentId
  rw [← table] at rows
  have sameNumber : removed.redis.number (formatCountKey contentType contentId) =
      world.redis.number (formatCountKey contentType contentId) := by
    rw [store, kept, Redis.drop_nil, number_step (by trivial) (kept 0) checking]
  have absentIff := Redis.number_eq_none_iff (coherent.numeric contentType contentId)
  obtain ⟨counted, between, _, _, steps, reading, ran, _⟩ := Program.run_bind _ ran
  have healthyLater : ∀ k, StoresHealthy setting fun n => environment (n + k) :=
    healthy.shift
  cases liked : world.likes.find (userId, contentType, contentId) with
  | none =>
      rw [liked] at rows ran
      have coherentRemoved : CoherentWith removed.likes removed :=
        ⟨rfl, counts.uncached others (.inr (by simpa using rows.symm))⟩
      obtain ⟨rfl, coherentBetween, _⟩ :=
        getLikeCountWithFallback_run (healthyLater 2) coherentRemoved reading
      obtain ⟨rfl, rfl, _⟩ : _ = result ∧ between = after ∧ _ := by simpa using ran
      apply iff_of_true
      · exact ⟨by rw [coherentBetween.table], coherentBetween.coherent⟩
      · exact .inl rfl
  | some like =>
      rw [liked] at rows ran
      simp only [Option.isSome_some, if_true] at rows
      rcases counts.number contentType contentId with absent | present
      · -- the read-through fills the cache from the reduced table
        have coherentRemoved : CoherentWith removed.likes removed :=
          ⟨rfl, counts.uncached others (.inl absent)⟩
        obtain ⟨rfl, coherentBetween, filled⟩ :=
          getLikeCountWithFallback_run (healthyLater 2) coherentRemoved reading
        have uncached : ¬ world.redis (formatCountKey contentType contentId) ≠ none :=
          not_not.mpr (absentIff.mp (sameNumber ▸ absent))
        simp only [Option.isSome_some, if_true] at ran
        rw [countedAgain_run ⟨fun _ => healthy.noFault _, healthy.timeToLive⟩ (fun _ => kept _)
          coherentBetween (filled fun _ => kept _) ran]
        constructor
        · intro noRows
          exact .inr (.inr (by omega))
        · rintro (notLiked | cached | onlyRow)
          · cases notLiked
          · exact absurd cached uncached
          · omega
      · -- the cached count still includes the row
        obtain ⟨rfl, sameTable, sameStore⟩ := getLikeCountWithFallback_hit
          (healthyLater 2) (fun _ => kept _) (counts.numeric _ _) present reading
        simp only [Option.isSome_some, if_true] at ran
        rw [if_pos (by omega)] at ran
        rw [rows] at present
        apply iff_of_true
        · exact countedOnce_run ⟨fun _ => healthy.noFault _, healthy.timeToLive⟩ (fun _ => kept _)
            (sameStore ▸ counts) (sameTable ▸ others) (sameTable ▸ sameStore ▸ present) ran
        · refine .inr (.inl fun gone => ?_)
          rw [sameNumber, absentIff.mpr gone] at present
          cases present

/-- An unlike of somebody who had not liked the post is read through. -/
theorem removeLike_coherent_stranger :
    ∃ result after spawned, (removeLike ⟨7⟩ ⟨"post"⟩ ⟨9⟩).run
        (World.handle .reference) calmWithId twoLikes = some (.ok result, after, spawned) ∧
      result.count = after.likes.countOf ⟨"post"⟩ ⟨9⟩ ∧ CacheCoherent after := by
  obtain ⟨⟨result, after, spawned⟩, ran, passed⟩ := (Option.any_eq_true
    (fun reached => match reached.1 with
      | .ok _ => true
      | .error _ => false)
    ((removeLike ⟨7⟩ ⟨"post"⟩ ⟨9⟩).run (World.handle .reference) calmWithId
      twoLikes)).mp (by decide +kernel)
  cases result with
  | error e => cases passed
  | ok result =>
      exact ⟨result, after, spawned, ran, (removeLike_coherent_iff calmWithId_healthy
        (fun _ => rfl) twoLikes_coherent ran).mpr (.inl (by decide))⟩

/-- An unlike of the uncached post counts the row down twice: it answers 0 where
the table has 1 row left. -/
theorem removeLike_counts_twice :
    ∃ result after spawned, StoresHealthy .reference calmWithId ∧
      (∀ n, (calmWithId n).expired = []) ∧ CacheCoherent twoLikes ∧
      (removeLike ⟨2⟩ ⟨"post"⟩ ⟨9⟩).run (World.handle .reference) calmWithId twoLikes =
        some (.ok result, after, spawned) ∧
      ¬ (result.count = after.likes.countOf ⟨"post"⟩ ⟨9⟩ ∧ CacheCoherent after) := by
  obtain ⟨⟨result, after, spawned⟩, ran, passed⟩ := (Option.any_eq_true
    (fun reached => match reached.1 with
      | .ok result => result.count = 0 ∧
          reached.2.1.likes.countOf ⟨"post"⟩ ⟨9⟩ = 1
      | .error _ => false)
    ((removeLike ⟨2⟩ ⟨"post"⟩ ⟨9⟩).run (World.handle .reference) calmWithId
      twoLikes)).mp (by decide +kernel)
  cases result with
  | error e => cases passed
  | ok result =>
      obtain ⟨zero, one⟩ := of_decide_eq_true passed
      refine ⟨result, after, spawned, calmWithId_healthy, fun _ => rfl,
        twoLikes_coherent, ran, ?_⟩
      intro holds
      rw [zero, one] at holds
      exact absurd holds.1 (by decide)

end Alone

end SocialApi
