/-
Module: SocialApi.Proofs.CountSign
Purpose: When the number under a count key stays at zero or above.
Trusted boundary: none
Main exports:
  Redis.Counting, FoundAbove, World.handle_counting, NotBelowZero, World.handle_foundAbove,
  count_not_below_zero_iff
-/
import SocialApi.Proofs.ConcurrentCounts

namespace SocialApi

open Process
open RedisLikeRepository (formatCountKey)

/-! ### One key -/

namespace Redis

/-- The key is absent or holds a count. -/
def Counting (store : Redis) (key : String) : Prop :=
  ∀ entry, store key = some entry → ∃ n : Nat, entry.value = .int n

variable {store : Redis} {key : String}

theorem Counting.drop (counting : store.Counting key) (keys : List String) :
    (store.drop keys).Counting key := by
  intro entry present
  exact counting entry (drop_some present)

theorem Counting.same {other : Redis} (counting : store.Counting key)
    (same : other key = store key) : other.Counting key := by
  intro entry present
  exact counting entry (same ▸ present)

theorem Counting.numeric (counting : store.Counting key) : store.Numeric key := by
  intro text deadline present
  obtain ⟨n, value⟩ := counting _ present
  cases value

/-- The number of a count. -/
theorem Counting.number_nonneg (counting : store.Counting key) {n : Int}
    (found : store.number key = some n) : 0 ≤ n := by
  unfold number at found
  cases present : store key with
  | none =>
      rw [present] at found
      cases found
  | some entry =>
      obtain ⟨count, value⟩ := counting entry present
      obtain ⟨stored, deadline⟩ := entry
      obtain rfl : stored = .int count := value
      rw [present] at found
      obtain rfl := Option.some.inj found
      exact Int.natCast_nonneg count

theorem counting_put {entry : RedisEntry} {n : Nat} (value : entry.value = .int n) :
    (store.put key entry).Counting key := by
  intro other present
  rw [put_self] at present
  obtain rfl := Option.some.inj present
  exact ⟨n, value⟩

end Redis

open Redis

namespace RedisLikeRepository

variable {config : Config} {now : Int} {contentType : ContentType} {contentId : ContentId}
  {store : Redis}

/-- A pipeline leaves a count when it counts to zero or above; with no time to live it
deletes the key. -/
theorem changeCount_counting {delta : Int}
    (counting : store.Counting (formatCountKey contentType contentId))
    (enough : 0 < config.cacheTtlLikeCountsSecs →
      0 ≤ (store.number (formatCountKey contentType contentId)).getD 0 + delta) :
    (changeCount delta config none now contentType contentId store).2.Counting
      (formatCountKey contentType contentId) := by
  by_cases positive : 0 < config.cacheTtlLikeCountsSecs
  · rw [changeCount_eq positive counting.numeric]
    obtain ⟨n, counted⟩ := Int.eq_ofNat_of_zero_le (enough positive)
    exact counting_put (n := n) (congrArg RedisValue.int counted)
  · intro entry present
    rw [changeCount_untimed positive] at present
    cases present

theorem setValue_counting {value : Nat}
    (counting : store.Counting (formatCountKey contentType contentId)) :
    (setValue config none now contentType contentId value store).2.Counting
      (formatCountKey contentType contentId) := by
  by_cases positive : 0 < config.cacheTtlLikeCountsSecs
  · rw [setValue_eq positive]
    exact counting_put rfl
  · simpa only [setValue, getTtlForKey_count, if_neg positive] using counting

theorem setCountsBatch_counting {counts : List ContentCount}
    (counting : store.Counting (formatCountKey contentType contentId)) :
    (setCountsBatch none now counts store).2.Counting
      (formatCountKey contentType contentId) := by
  have written : (setCountsBatch none now counts store).2 =
      counts.foldl (putCount now) store := by
    cases counts <;> rfl
  have key := foldl_putCount now store counts contentType contentId
  rw [← written] at key
  split at key
  · exact counting.same key
  · next entry _ =>
      intro other present
      rw [key] at present
      obtain rfl := Option.some.inj present
      exact ⟨entry.count, rfl⟩

end RedisLikeRepository

/-! ### One step -/

section Step

variable {setting : Setting} {contentType : ContentType} {contentId : ContentId}

/-- A `DECR` of the count finds a number above zero; with no time to live the number it
leaves is deleted at once. -/
def FoundAbove (setting : Setting) (contentType : ContentType) (contentId : ContentId)
    (env : Surroundings) (op : LikeOp) (world : World) : Prop :=
  op = .cacheDecrement contentType contentId → 0 < setting.config.cacheTtlLikeCountsSecs →
    ∃ n, 0 < n ∧
      (world.redis.drop env.expired).number (formatCountKey contentType contentId) = some n

/-- A step leaves a count under the key when a `DECR` finds a number above zero there. -/
theorem World.handle_counting {env : Surroundings} {op : LikeOp} {world after : World}
    {answer : op.Res} {spawned : List LikeCall} (healthy : env.fault = none)
    (above : FoundAbove setting contentType contentId env op world)
    (handled : World.handle setting env op world = some (answer, after, spawned))
    (counting : world.redis.Counting (formatCountKey contentType contentId)) :
    after.redis.Counting (formatCountKey contentType contentId) := by
  obtain ⟨_, _, redis, _⟩ := World.handle_after handled
  have dropped := counting.drop env.expired
  cases op with
  | cacheIncrement otherType otherId =>
      simp only [World.redisAfter, healthy] at redis
      rw [redis]
      by_cases here : otherType = contentType ∧ otherId = contentId
      · obtain ⟨rfl, rfl⟩ := here
        apply RedisLikeRepository.changeCount_counting dropped
        intro _
        cases found : (world.redis.drop env.expired).number
            (formatCountKey otherType otherId) with
        | none => decide
        | some n =>
            have nonneg := dropped.number_nonneg found
            simp only [Option.getD_some]
            omega
      · exact dropped.same (RedisLikeRepository.changeCount_other (formatCountKey_ne here))
  | cacheDecrement otherType otherId =>
      simp only [World.redisAfter, healthy] at redis
      rw [redis]
      by_cases here : otherType = contentType ∧ otherId = contentId
      · obtain ⟨rfl, rfl⟩ := here
        apply RedisLikeRepository.changeCount_counting dropped
        intro positive
        obtain ⟨n, larger, found⟩ := above rfl positive
        rw [found, Option.getD_some]
        omega
      · exact dropped.same (RedisLikeRepository.changeCount_other (formatCountKey_ne here))
  | cacheSetValue otherType otherId value =>
      simp only [World.redisAfter, healthy] at redis
      rw [redis]
      by_cases here : otherType = contentType ∧ otherId = contentId
      · obtain ⟨rfl, rfl⟩ := here
        exact RedisLikeRepository.setValue_counting dropped
      · exact dropped.same (RedisLikeRepository.setValue_other (formatCountKey_ne here))
  | cacheSetCountsBatch counts =>
      simp only [World.redisAfter, healthy] at redis
      rw [redis]
      exact RedisLikeRepository.setCountsBatch_counting dropped
  | dbSave like =>
      rw [redis]
      exact dropped
  | dbRemove userId otherType otherId =>
      rw [redis]
      exact dropped
  | _ => exact dropped.same ((World.handle_keepsCounts (by trivial) handled).2 _ _)

/-- The number under the key, if there is one, is not below zero. -/
def NotBelowZero (contentType : ContentType) (contentId : ContentId) (world : World) : Prop :=
  ∀ n, world.redis.number (formatCountKey contentType contentId) = some n → 0 ≤ n

/-- A step that leaves no number below zero found a number above zero, if it was a `DECR`. -/
theorem World.handle_foundAbove {env : Surroundings} {op : LikeOp} {world after : World}
    {answer : op.Res} {spawned : List LikeCall} (healthy : env.fault = none)
    (handled : World.handle setting env op world = some (answer, after, spawned))
    (counting : world.redis.Counting (formatCountKey contentType contentId))
    (never : NotBelowZero contentType contentId after) :
    FoundAbove setting contentType contentId env op world := by
  rintro rfl positive
  have numeric := (counting.drop env.expired).numeric
  obtain ⟨_, _, deadline, left⟩ := World.handle_decrement healthy positive numeric handled
  have nonneg := never _ (by rw [left, Redis.number, Redis.put_self])
  cases found : (world.redis.drop env.expired).number
      (formatCountKey contentType contentId) with
  | none =>
      rw [found] at nonneg
      exact absurd nonneg (by decide)
  | some n =>
      rw [found, Option.getD_some] at nonneg
      exact ⟨n, by omega, rfl⟩

end Step

/-! ### Runs -/

/-- From an absent or right count, the number under the count key is never below zero exactly
when every `DECR` of it finds a number above zero. -/
theorem count_not_below_zero_iff (setting : Setting) (contentType : ContentType)
    (contentId : ContentId) (world : World) (calls : List LikeCall)
    (trace : List (Event (likeService setting))) (last : Pool (likeService setting))
    (run : Run (Pool.start world calls) trace last)
    (right : ∀ entry, world.redis (formatCountKey contentType contentId) = some entry →
      entry.value = .int (world.likes.countOf contentType contentId))
    (healthy : ∀ event ∈ trace, event.env.fault = none) :
    Throughout (NotBelowZero contentType contentId) trace last.state ↔
      ∀ event ∈ trace, FoundAbove setting contentType contentId event.env event.op
        event.before := by
  have start : world.redis.Counting (formatCountKey contentType contentId) :=
    fun entry present => ⟨_, right entry present⟩
  have replays : Replays world trace last.state := run.replays
  constructor
  · intro never
    have leaves : ∀ event ∈ trace, ∀ after spawned,
        World.handle setting event.env event.op event.before =
          some (event.res, after, spawned) → NotBelowZero contentType contentId after := by
      intro event member after spawned handled
      obtain ⟨next, tasks, again, above⟩ := never.after_event replays member
      obtain ⟨_, rfl, _⟩ : event.res = event.res ∧ next = after ∧ tasks = spawned := by
        simpa using again.symm.trans handled
      exact above
    have counting := replays.throughout
      (fun world : World => world.redis.Counting (formatCountKey contentType contentId))
      (by
        intro event member after spawned handled counting
        have above := World.handle_foundAbove (healthy event member) handled counting
          (leaves event member after spawned handled)
        exact World.handle_counting (healthy event member) above handled counting) start
    intro event member
    obtain ⟨next, spawned, handled, above⟩ := never.after_event replays member
    exact World.handle_foundAbove (healthy event member) handled (counting.1 event member) above
  · intro above
    have counting := replays.throughout
      (fun world : World => world.redis.Counting (formatCountKey contentType contentId))
      (fun event member _ _ handled =>
        World.handle_counting (healthy event member) (above event member) handled) start
    exact ⟨fun event member _ => (counting.1 event member).number_nonneg,
      fun _ => counting.2.number_nonneg⟩

/-- One user unlikes the post. -/
theorem count_not_below_zero_unlike :
    ∃ trace last, Run (M := likeService .reference) (Pool.start twoLikes
        [.removeLike ⟨1⟩ postType postId]) trace last ∧
      last.state.redis.number (formatCountKey postType postId) = some 0 ∧
      (Throughout (NotBelowZero postType postId) trace last.state ↔
        ∀ event ∈ trace, FoundAbove .reference postType postId event.env event.op
          event.before) := by
  obtain ⟨trace, last, run, passed⟩ := Run.exists_of_exec (M := likeService .reference)
    (turns 0 3 11) (Pool.start twoLikes [.removeLike ⟨1⟩ postType postId])
    (fun trace last => (trace.all fun event => event.env.fault.isNone) &&
      last.state.redis.number (formatCountKey postType postId) == some 0)
    (by decide +kernel)
  obtain ⟨healthy, counted⟩ := Bool.and_eq_true_iff.mp passed
  refine ⟨trace, last, run, eq_of_beq counted, ?_⟩
  apply count_not_below_zero_iff _ _ _ _ _ _ _ run
  · nofun
  · intro event member
    exact Option.isNone_iff_eq_none.mp (List.all_eq_true.mp healthy event member)

/-- Two users unlike the post.  Both rows go before either count does, the first unlike fills
in the count 1 that it reads, the second reads it too, and both count down. -/
theorem count_below_zero :
    ∃ trace last, Run (M := likeService .reference) (Pool.start twoLikes
        [.removeLike ⟨1⟩ postType postId, .removeLike ⟨2⟩ postType postId]) trace last ∧
      (∀ event ∈ trace, event.env.fault = none ∧ event.env.expired = []) ∧
      ¬ Throughout (NotBelowZero postType postId) trace last.state := by
  obtain ⟨trace, last, run, passed⟩ := Run.exists_of_exec (M := likeService .reference)
    (turns 0 3 10 ++ turns 1 3 3 ++ turns 0 3 1 ++ turns 1 3 1)
    (Pool.start twoLikes [.removeLike ⟨1⟩ postType postId, .removeLike ⟨2⟩ postType postId])
    (fun trace last =>
      (trace.all fun event => event.env.fault.isNone && event.env.expired.isEmpty) &&
      last.state.redis.number (formatCountKey postType postId) == some (-1))
    (by decide +kernel)
  obtain ⟨calm, counted⟩ := Bool.and_eq_true_iff.mp passed
  refine ⟨trace, last, run, ?_, ?_⟩
  · intro event member
    obtain ⟨healthy, kept⟩ := Bool.and_eq_true_iff.mp (List.all_eq_true.mp calm event member)
    exact ⟨Option.isNone_iff_eq_none.mp healthy, List.isEmpty_iff.mp kept⟩
  · intro never
    exact absurd (never.2 (-1) (eq_of_beq counted)) (by decide)

end SocialApi
