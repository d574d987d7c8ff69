/-
Module: SocialApi.Proofs.ColdCount
Purpose: How often a count that is not cached is fetched while its calls share the
  in-flight map, the mutexes and the cache.
Trusted boundary: none
Main exports:
  Fetch, Fetch.nextOp, Fetch.advance, getLikeCount_fetches, CountStory, ColdCount,
  cold_step, cold_count_fetched_once
-/
import SocialApi.Proofs.CountCoherence
import SocialApi.Process.Phases

namespace SocialApi

open Process
open LikeService
open RedisLikeRepository (formatCountKey)

/-! ### The stages of a count -/

/-- Where a call of `get_like_count` stands.  From `checking` to `leaving` it holds its
mutex. -/
inductive Fetch where
  | reading
  | missed
  | waiting (lock : Nat)
  | checking (lock : Nat)
  | querying (lock : Nat)
  | counted (lock count : Nat)
  | removing (lock count : Nat)
  | leaving (lock : Nat) (result : Except DomainError Nat)
  | returned (result : Except DomainError Nat)

namespace Fetch

variable (contentType : ContentType) (contentId : ContentId)

/-- The one operation that a call performs next. -/
def nextOp : Fetch → Option LikeOp
  | .reading | .checking _ => some (.cacheGetCount contentType contentId)
  | .missed => some (.flightEntry (formatLockKey contentType contentId))
  | .waiting lock => some (.mutexLock lock)
  | .querying _ => some (.dbGetLikesCount contentType contentId)
  | .counted _ count => some (.cacheSetValue contentType contentId count)
  | .removing _ _ => some (.flightRemove (formatLockKey contentType contentId))
  | .leaving lock _ => some (.mutexUnlock lock)
  | .returned _ => none

/-- The stage after an operation and its answer. -/
def advance : Fetch → (op : LikeOp) → op.Res → Fetch
  | .reading, .cacheGetCount _ _, answer =>
      match cachedCount answer with
      | .ok count => .returned (.ok count)
      | .error _ => .missed
  | .missed, .flightEntry _, lock => .waiting lock
  | .waiting lock, .mutexLock _, _ => .checking lock
  | .checking lock, .cacheGetCount _ _, answer =>
      match cachedCount answer with
      | .ok count => .removing lock count
      | .error _ => .querying lock
  | .querying lock, .dbGetLikesCount _ _, .ok count => .counted lock count
  | .querying lock, .dbGetLikesCount _ _, .error e => .leaving lock (.error e)
  | .counted lock count, .cacheSetValue _ _ _, _ => .removing lock count
  | .removing lock count, .flightRemove _, _ => .leaving lock (.ok count)
  | .leaving _ result, .mutexUnlock _, _ => .returned result
  | stage, _, _ => stage

def Permitted (fetch : Fetch) (op : LikeOp) : Prop :=
  fetch.nextOp contentType contentId = some op

/-- What `get_like_count` makes of the count. -/
def response : Except DomainError Nat → Except DomainError CountResponse
  | .error e => .error e
  | .ok count => .ok
      { contentType := contentType.name
        contentId := contentId.uuid.text
        count := count }

/-- A call comes back with its result. -/
def Final (fetch : Fetch) (outcome : LikeCall ⊕ LikeReply) : Prop :=
  ∃ result, fetch = .returned result ∧
    outcome = .inr (.getLikeCount (response contentType contentId result))

end Fetch

section Fetches

open Fetch

variable {contentType : ContentType} {contentId : ContentId}

theorem getLikeCountWithFallback_fetches :
    (getLikeCountWithFallback contentType contentId).Obeys advance
      (Permitted contentType contentId) (fun _ _ _ => True)
      (fun fetch result => fetch = .returned result) .reading := by
  simp only [getLikeCountWithFallback, getCacheLikeCount_bind, Program.obeys_perform]
  refine ⟨rfl, fun first _ => ?_⟩
  simp only [advance]
  cases cachedCount first with
  | ok count => rfl
  | error miss =>
  refine ⟨rfl, fun lock _ => ⟨rfl, fun _ _ => ⟨rfl, fun second _ => ?_⟩⟩⟩
  simp only [advance]
  cases cachedCount second with
  | ok count => exact ⟨rfl, fun _ _ => ⟨rfl, fun _ _ => rfl⟩⟩
  | error miss =>
  refine ⟨rfl, fun counted _ => ?_⟩
  cases counted with
  | error e => exact ⟨rfl, fun _ _ => rfl⟩
  | ok count => exact ⟨rfl, fun _ _ => ⟨rfl, fun _ _ => ⟨rfl, fun _ _ => rfl⟩⟩⟩

/-- A call of `get_like_count` goes through its stages. -/
theorem getLikeCount_fetches (setting : Setting) :
    (LikeCall.body setting (.getLikeCount contentType contentId)).Obeys advance
      (Permitted contentType contentId) (fun _ _ _ => True)
      (Final contentType contentId) .reading := by
  have through : (getLikeCount contentType contentId).Obeys advance
      (Permitted contentType contentId) (fun _ _ _ => True)
      (fun fetch reply => ∃ result, fetch = .returned result ∧
        reply = response contentType contentId result) .reading := by
    apply getLikeCountWithFallback_fetches.bind
    rintro _ result rfl
    cases result with
    | error e => exact ⟨_, rfl, rfl⟩
    | ok count => exact ⟨_, rfl, rfl⟩
  apply through.bind
  rintro _ reply ⟨result, rfl, rfl⟩
  exact ⟨result, rfl, rfl⟩

end Fetches

/-! ### The mutexes -/

/-- The mutex that a call has got from the map. -/
def Fetch.mutex : Fetch → Option Nat
  | .waiting lock | .checking lock | .querying lock | .counted lock _ | .removing lock _
  | .leaving lock _ => some lock
  | .reading | .missed | .returned _ => none

/-- The mutex that a call holds. -/
def Fetch.owns : Fetch → Option Nat
  | .checking lock | .querying lock | .counted lock _ | .removing lock _
  | .leaving lock _ => some lock
  | .reading | .missed | .waiting _ | .returned _ => none

theorem Fetch.mutex_of_owns {fetch : Fetch} {lock : Nat} (owning : fetch.owns = some lock) :
    fetch.mutex = some lock := by
  cases fetch with
  | reading | missed | returned result => cases owning
  | waiting lock => cases owning
  | _ => exact owning

section Locks

variable {setting : Setting} {contentType : ContentType} {contentId : ContentId}
  {env : Surroundings} {op : LikeOp} {answer : op.Res} {fetch : Fetch}
  {world after : World} {spawned : List LikeCall}

/-- A mutex is taken by a call that waits for it, and given back by the call that leaves. -/
theorem Fetch.lockMove (permitted : fetch.Permitted contentType contentId op)
    (handled : World.handle setting env op world = some (answer, after, spawned)) :
    LockMove fetch.owns (fetch.advance op answer).owns world.held after.held := by
  rw [World.handle_held handled]
  cases fetch with
  | reading =>
      obtain rfl := Option.some.inj permitted
      simp only [Fetch.advance]
      cases cachedCount answer <;> exact .keep
  | missed =>
      obtain rfl := Option.some.inj permitted
      exact .keep
  | waiting lock =>
      obtain rfl := Option.some.inj permitted
      exact .acquire (World.handle_mutexLock handled)
  | checking lock =>
      obtain rfl := Option.some.inj permitted
      simp only [Fetch.advance]
      cases cachedCount answer <;> exact .keep
  | querying lock =>
      obtain rfl := Option.some.inj permitted
      cases answer <;> exact .keep
  | counted lock count =>
      obtain rfl := Option.some.inj permitted
      exact .keep
  | removing lock count =>
      obtain rfl := Option.some.inj permitted
      exact .keep
  | leaving lock result =>
      obtain rfl := Option.some.inj permitted
      exact .release
  | returned result => cases permitted

/-- No stage starts a task. -/
theorem Fetch.spawned_eq_nil (permitted : fetch.Permitted contentType contentId op)
    (handled : World.handle setting env op world = some (answer, after, spawned)) :
    spawned = [] := by
  apply List.eq_nil_iff_forall_not_mem.mpr
  intro task started
  obtain rfl := World.handle_spawned handled started
  cases fetch with
  | returned result => cases permitted
  | _ => cases Option.some.inj permitted

end Locks

/-! ### The story of a count -/

section Runs

variable {setting : Setting}

/-- What the queries of the count have read, query by query. -/
def queried (trace : List (Event (likeService setting))) : List Nat :=
  trace.filterMap fun event => match event with
    | ⟨_, _, _, .dbGetLikesCount _ _, .ok count, _⟩ => some count
    | _ => none

/-- The steps that are commands to Redis. -/
def LikeOp.onRedis : LikeOp → Bool
  | .cacheIncrement _ _ | .cacheDecrement _ _ | .cacheSetValue _ _ _ | .cacheGetCount _ _
  | .cacheGetCountsBatch _ | .cacheSetCountsBatch _ | .cacheGetLeaderboardWithCanary _ _
  | .cacheSetLeaderboardWithCanary _ _ _ _ | .cacheAcquireRefreshLock _ _
  | .cachePublishLikeEvent _ => true
  | _ => false

/-- Redis is up, and the count stays in it once it is there. -/
structure KeepsCount (contentType : ContentType) (contentId : ContentId)
    (event : Event (likeService setting)) : Prop where
  up : event.op.onRedis = true → event.env.fault = none
  kept : formatCountKey contentType contentId ∉ event.env.expired

instance (contentType : ContentType) (contentId : ContentId)
    (event : Event (likeService setting)) :
    Decidable (KeepsCount contentType contentId event) :=
  decidable_of_iff ((event.op.onRedis = true → event.env.fault = none) ∧
      formatCountKey contentType contentId ∉ event.env.expired)
    ⟨fun ⟨up, kept⟩ => ⟨up, kept⟩, fun ⟨up, kept⟩ => ⟨up, kept⟩⟩

/-- How far a count has come: no query has succeeded, one has, or its count is cached. -/
inductive CountStory where
  | cold
  | fetched (count : Nat)
  | warm (count : Nat)

namespace CountStory

/-- The stages that calls can be in. -/
def Allows : CountStory → Fetch → Prop
  | _, .reading | _, .missed | _, .waiting _ | _, .returned (.error _) => True
  | .cold, .checking _ | .cold, .querying _ | .cold, .leaving _ (.error _) => True
  | .fetched count, .counted _ read => read = count
  | .warm _, .checking _ => True
  | .warm count, .removing _ read | .warm count, .leaving _ (.ok read)
  | .warm count, .returned (.ok read) => read = count
  | _, _ => False

/-- The cached count. -/
def cached : CountStory → Option Nat
  | .cold | .fetched _ => none
  | .warm count => some count

/-- What queries have read. -/
def reads : CountStory → List Nat
  | .cold => []
  | .fetched count | .warm count => [count]

end CountStory

/-- The calls for one count, map, mutexes and cache tell the same story.  Until the count is
cached, all calls go by one mutex. -/
structure ColdCount (contentType : ContentType) (contentId : ContentId) (story : CountStory)
    (trace : List (Event (likeService setting))) (phases : List Fetch) (world : World) :
    Prop where
  told : queried trace = story.reads
  cached : (world.redis (formatCountKey contentType contentId)).map RedisEntry.value =
    story.cached.map fun count : Nat => .int count
  allows : ∀ fetch ∈ phases, story.Allows fetch
  owned : Owned Fetch.owns world.held phases
  shared : story.cached = none → ∀ fetch ∈ phases, ∀ lock, fetch.mutex = some lock →
    world.flightLocks (formatLockKey contentType contentId) = some lock
  locked : ∀ count, story = .fetched count → ∃ lock,
    world.flightLocks (formatLockKey contentType contentId) = some lock ∧
      world.held lock = true

variable {contentType : ContentType} {contentId : ContentId} {story next : CountStory}
  {trace : List (Event (likeService setting))} {phases : List Fetch} {world after : World}

/-- Calls that hold no mutex may be where they are in any story. -/
theorem CountStory.Allows.change {fetch : Fetch} (allows : story.Allows fetch)
    (free : fetch.owns = none) (uncached : story.cached = none) : next.Allows fetch := by
  cases fetch with
  | reading | missed | waiting lock => cases next <;> exact trivial
  | returned result =>
      cases result with
      | error e => cases next <;> exact trivial
      | ok count =>
          cases story with
          | cold => exact allows.elim
          | fetched read => exact allows.elim
          | warm read => cases uncached
  | _ => cases free

/-- Until the count is cached, one call at most holds a mutex. -/
theorem ColdCount.owner_unique
    (cold : ColdCount contentType contentId story trace phases world)
    (uncached : story.cached = none) {i j : Nat} {fetch other : Fetch} {lock : Nat}
    (at_i : phases[i]? = some fetch) (owning : fetch.owns = some lock)
    (at_j : phases[j]? = some other) (elsewhere : i ≠ j) : other.owns = none := by
  cases owningToo : other.owns with
  | none => rfl
  | some held =>
      have one := cold.shared uncached fetch (List.mem_of_getElem? at_i) lock
        (Fetch.mutex_of_owns owning)
      have two := cold.shared uncached other (List.mem_of_getElem? at_j) held
        (Fetch.mutex_of_owns owningToo)
      obtain rfl := Option.some.inj (one.symm.trans two)
      exact absurd (cold.owned.unique i j fetch other _ at_i at_j owning owningToo) elsewhere

/-- The step of the one call that holds the mutex moves the story on for all. -/
theorem ColdCount.others (cold : ColdCount contentType contentId story trace phases world)
    (uncached : story.cached = none) {i : Nat} {fetch moved : Fetch} {lock : Nat}
    (at_i : phases[i]? = some fetch) (owning : fetch.owns = some lock)
    (allows : next.Allows moved) :
    ∀ other ∈ phases.set i moved, next.Allows other := by
  intro other member
  obtain ⟨j, at_j⟩ := List.getElem?_of_mem member
  rcases phase_of_set at_j with ⟨rfl, rfl⟩ | ⟨elsewhere, old_j⟩
  · exact allows
  · have stands := cold.allows other (List.mem_of_getElem? old_j)
    exact stands.change (cold.owner_unique uncached at_i owning old_j elsewhere) uncached

theorem queried_append (left right : List (Event (likeService setting))) :
    queried (left ++ right) = queried left ++ queried right :=
  List.filterMap_append

/-! ### One step -/

section Step

variable {i : Nat} {call : LikeCall} {env : Surroundings} {op : LikeOp} {answer : op.Res}
  {fetch : Fetch} {spawned : List LikeCall}

/-- A step that goes on with the same story. -/
theorem ColdCount.keep (call : LikeCall)
    (cold : ColdCount contentType contentId story trace phases world)
    (kept : formatCountKey contentType contentId ∉ env.expired)
    (at_i : phases[i]? = some fetch) (permitted : fetch.Permitted contentType contentId op)
    (handled : World.handle setting env op world = some (answer, after, spawned))
    (keeps : op.KeepsCounts)
    (unread : queried ([⟨i, call, env, op, answer, world⟩] :
      List (Event (likeService setting))) = [])
    (allows : story.Allows (fetch.advance op answer))
    (entry : story.cached = none →
      (∀ lock, (fetch.advance op answer).mutex = some lock →
        after.flightLocks (formatLockKey contentType contentId) = some lock) ∧
      ∀ lock, world.flightLocks (formatLockKey contentType contentId) = some lock →
        after.flightLocks (formatLockKey contentType contentId) = some lock)
    (holds : ∀ count, story = .fetched count → ∀ lock, world.held lock = true →
      after.held lock = true) :
    ColdCount contentType contentId story (trace ++ [⟨i, call, env, op, answer, world⟩])
      (phases.set i (fetch.advance op answer)) after where
  told := by
    rw [queried_append, unread, List.append_nil]
    exact cold.told
  cached := by
    rw [World.handle_countKept keeps kept handled]
    exact cold.cached
  allows := by
    intro other member
    rcases List.mem_or_eq_of_mem_set member with old | rfl
    · exact cold.allows other old
    · exact allows
  owned := cold.owned.move at_i (Fetch.lockMove permitted handled)
  shared := by
    intro uncached other member lock has
    obtain ⟨own, others⟩ := entry uncached
    rcases List.mem_or_eq_of_mem_set member with old | rfl
    · exact others lock (cold.shared uncached other old lock has)
    · exact own lock has
  locked := by
    intro count is
    obtain ⟨lock, there, held⟩ := cold.locked count is
    obtain ⟨_, others⟩ := entry (is ▸ rfl)
    exact ⟨lock, others lock there, holds count is lock held⟩

/-- What a call reads while Redis is up and keeps the count. -/
theorem ColdCount.read {read : Except DomainError (Option Nat)}
    (cold : ColdCount contentType contentId story trace phases world)
    (up : env.fault = none) (kept : formatCountKey contentType contentId ∉ env.expired)
    (handled : World.handle setting env (.cacheGetCount contentType contentId) world =
      some (read, after, spawned)) :
    cachedCount read = match story.cached with
      | none => .error .cacheMiss
      | some count => .ok count := by
  have keeps : LikeOp.KeepsCounts (.cacheGetCount contentType contentId) := trivial
  have holds := cold.cached
  rw [← World.handle_countKept keeps kept handled] at holds
  rw [World.handle_getCount up handled, RedisLikeRepository.getCount]
  cases found : after.redis (formatCountKey contentType contentId) with
  | none =>
      rw [found] at holds
      cases is : story.cached with
      | none => rfl
      | some count =>
          rw [is] at holds
          cases holds
  | some entry =>
      obtain ⟨value, deadline⟩ := entry
      rw [found] at holds
      cases is : story.cached with
      | none =>
          rw [is] at holds
          cases holds
      | some count =>
          rw [is] at holds
          obtain rfl : value = .int count := Option.some.inj holds
          simp [RedisLikeRepository.asOptionU64, cachedCount, Except.map]

/-- The map after a step that neither enters a key nor removes one. -/
theorem ColdCount.sameEntry
    (cold : ColdCount contentType contentId story trace phases world)
    (at_i : phases[i]? = some fetch) {moved : Fetch}
    (map : after.flightLocks = world.flightLocks)
    (mutex : moved.mutex = none ∨ moved.mutex = fetch.mutex) :
    story.cached = none →
      (∀ lock, moved.mutex = some lock →
        after.flightLocks (formatLockKey contentType contentId) = some lock) ∧
      ∀ lock, world.flightLocks (formatLockKey contentType contentId) = some lock →
        after.flightLocks (formatLockKey contentType contentId) = some lock := by
  intro uncached
  rw [map]
  refine ⟨?_, fun lock there => there⟩
  intro lock has
  rcases mutex with nothing | same
  · rw [nothing] at has
    cases has
  · exact cold.shared uncached fetch (List.mem_of_getElem? at_i) lock (same ▸ has)

/-- The query of the one call that holds the mutex succeeds. -/
theorem ColdCount.succeed {lock count : Nat}
    (cold : ColdCount contentType contentId .cold trace phases world)
    (kept : formatCountKey contentType contentId ∉ env.expired)
    (at_i : phases[i]? = some (.querying lock))
    (handled : World.handle setting env (.dbGetLikesCount contentType contentId) world =
      some (.ok count, after, spawned)) :
    ColdCount contentType contentId (.fetched count)
      (trace ++ [⟨i, call, env, .dbGetLikesCount contentType contentId, .ok count, world⟩])
      (phases.set i (.counted lock count)) after := by
  have map : after.flightLocks = world.flightLocks := (World.handle_after handled).1
  have mutexes : after.held = world.held := World.handle_held handled
  have there := cold.shared rfl _ (List.mem_of_getElem? at_i) lock rfl
  constructor
  · rw [queried_append, cold.told]
    rfl
  · have keeps : LikeOp.KeepsCounts (.dbGetLikesCount contentType contentId) := trivial
    rw [World.handle_countKept keeps kept handled]
    exact cold.cached
  · exact cold.others rfl at_i rfl rfl
  · rw [mutexes]
    exact cold.owned.keep at_i rfl
  · intro _ other member held has
    rw [map]
    rcases List.mem_or_eq_of_mem_set member with old | rfl
    · exact cold.shared rfl other old held has
    · obtain rfl := Option.some.inj has
      exact there
  · intro _ _
    rw [map, mutexes]
    exact ⟨lock, there, cold.owned.locked i _ lock at_i rfl⟩

/-- The count that was read is cached. -/
theorem ColdCount.store {lock count : Nat} {stored : Except DomainError Unit}
    (cold : ColdCount contentType contentId (.fetched count) trace phases world)
    (up : env.fault = none) (positive : 0 < setting.config.cacheTtlLikeCountsSecs)
    (at_i : phases[i]? = some (.counted lock count))
    (handled : World.handle setting env (.cacheSetValue contentType contentId count) world =
      some (stored, after, spawned)) :
    ColdCount contentType contentId (.warm count)
      (trace ++ [⟨i, call, env, .cacheSetValue contentType contentId count, stored, world⟩])
      (phases.set i (.removing lock count)) after := by
  have mutexes : after.held = world.held := World.handle_held handled
  obtain ⟨_, deadline, written⟩ := World.handle_setValue up positive handled
  constructor
  · rw [queried_append, cold.told]
    rfl
  · rw [written, Redis.put_self]
    rfl
  · exact cold.others rfl at_i rfl rfl
  · rw [mutexes]
    exact cold.owned.keep at_i rfl
  · intro cached
    cases cached
  · intro _ is
    cases is

/-- The step law: whatever call takes the next step, calls, map, mutexes and cache go on
telling one story. -/
theorem cold_step (positive : 0 < setting.config.cacheTtlLikeCountsSecs)
    (cold : ColdCount contentType contentId story trace phases world)
    (keeps : KeepsCount contentType contentId
      (⟨i, call, env, op, answer, world⟩ : Event (likeService setting)))
    (at_i : phases[i]? = some fetch) (permitted : fetch.Permitted contentType contentId op)
    (handled : World.handle setting env op world = some (answer, after, spawned)) :
    ∃ next, ColdCount contentType contentId next
      (trace ++ [⟨i, call, env, op, answer, world⟩])
      (phases.set i (fetch.advance op answer)) after := by
  have allows := cold.allows fetch (List.mem_of_getElem? at_i)
  have kept := keeps.kept
  have goOn := cold.keep call kept at_i permitted handled
  have mutexes := World.handle_held handled
  have map := (World.handle_after handled).1
  cases fetch with
  | reading =>
      obtain rfl := Option.some.inj permitted
      have read := cold.read (keeps.up rfl) kept handled
      apply Exists.intro story
      apply goOn trivial rfl
      · simp only [Fetch.advance, read]
        cases story <;> first | exact trivial | exact rfl
      · apply cold.sameEntry at_i map
        simp only [Fetch.advance]
        cases cachedCount answer <;> exact .inl rfl
      · intro _ _ lock held
        rwa [mutexes]
  | missed =>
      obtain rfl := Option.some.inj permitted
      obtain ⟨there, same⟩ := World.handle_flightEntry handled
      apply Exists.intro story
      apply goOn trivial rfl
      · cases story <;> exact trivial
      · intro _
        constructor
        · intro lock has
          obtain rfl := Option.some.inj has
          exact there
        · intro lock old
          rw [same lock old]
          exact there
      · intro _ _ lock held
        rwa [mutexes]
  | waiting lock =>
      obtain rfl := Option.some.inj permitted
      apply Exists.intro story
      apply goOn trivial rfl
      · cases story with
        | cold => exact trivial
        | warm count => exact trivial
        | fetched count =>
            -- the call that has fetched still holds the one mutex
            obtain ⟨held, there, taken⟩ := cold.locked count rfl
            have same := cold.shared rfl _ (List.mem_of_getElem? at_i) lock rfl
            obtain rfl := Option.some.inj (there.symm.trans same)
            rw [World.handle_mutexLock handled] at taken
            cases taken
      · exact cold.sameEntry at_i map (.inr rfl)
      · intro _ _ other held
        rw [mutexes, World.heldAfter, Function.update_apply, held, ite_self]
  | checking lock =>
      obtain rfl := Option.some.inj permitted
      have read := cold.read (keeps.up rfl) kept handled
      apply Exists.intro story
      apply goOn trivial rfl
      · simp only [Fetch.advance, read]
        cases story with
        | cold => exact trivial
        | fetched count => exact allows.elim
        | warm count => exact rfl
      · apply cold.sameEntry at_i map
        simp only [Fetch.advance]
        cases cachedCount answer <;> exact .inr rfl
      · intro _ _ other held
        rwa [mutexes]
  | querying lock =>
      obtain rfl := Option.some.inj permitted
      cases story with
      | fetched count => exact allows.elim
      | warm count => exact allows.elim
      | cold =>
          cases answer with
          | ok count => exact ⟨_, cold.succeed kept at_i handled⟩
          | error e =>
              apply Exists.intro .cold
              apply goOn trivial rfl
              · exact trivial
              · exact cold.sameEntry at_i map (.inr rfl)
              · intro _ is
                cases is
  | counted lock read =>
      obtain rfl := Option.some.inj permitted
      cases story with
      | cold => exact allows.elim
      | warm count => exact allows.elim
      | fetched count =>
          obtain rfl : read = count := allows
          exact ⟨_, cold.store (keeps.up rfl) positive at_i handled⟩
  | removing lock read =>
      obtain rfl := Option.some.inj permitted
      cases story with
      | cold => exact allows.elim
      | fetched count => exact allows.elim
      | warm count =>
          apply Exists.intro (.warm count)
          apply goOn trivial rfl
          · exact allows
          · intro uncached
            cases uncached
          · intro _ is
            cases is
  | leaving lock result =>
      obtain rfl := Option.some.inj permitted
      cases story with
      | fetched count => cases result <;> exact allows.elim
      | cold =>
          cases result with
          | ok read => exact allows.elim
          | error e =>
              apply Exists.intro .cold
              apply goOn trivial rfl
              · exact trivial
              · exact cold.sameEntry at_i map (.inl rfl)
              · intro _ is
                cases is
      | warm count =>
          apply Exists.intro (.warm count)
          apply goOn trivial rfl
          · cases result with
            | error e => exact trivial
            | ok read => exact allows
          · intro uncached
            cases uncached
          · intro _ is
            cases is
  | returned result => cases permitted

end Step

/-! ### Runs -/

variable {calls : List LikeCall} {last : Pool (likeService setting)}

/-- The run law: from a count that is not cached, one story is told to the end. -/
theorem fetched_once_run (positive : 0 < setting.config.cacheTtlLikeCountsSecs)
    (same : ∀ call ∈ calls, call = .getLikeCount contentType contentId)
    (uncached : world.redis (formatCountKey contentType contentId) = none)
    (free : ∀ lock, world.held lock = false)
    (run : Run (M := likeService setting) (Pool.start world calls) trace last)
    (keeps : ∀ event ∈ trace, KeepsCount contentType contentId event) :
    ∃ (phases : List Fetch) (story : CountStory),
      Phased (M := likeService setting) Fetch.advance
        (Fetch.Permitted contentType contentId) (fun _ _ _ => True)
        (Fetch.Final contentType contentId) phases last ∧
      ColdCount contentType contentId story trace phases last.state := by
  have bodies : ∀ call, call = .getLikeCount contentType contentId →
      ((likeService setting).body call).Obeys Fetch.advance
        (Fetch.Permitted contentType contentId) (fun _ _ _ => True)
        (Fetch.Final contentType contentId) .reading := by
    rintro _ rfl
    exact getLikeCount_fetches setting
  have tails : ∀ (fetch : Fetch) (target : LikeCall),
      fetch.Final contentType contentId (.inl target) →
        target = .getLikeCount contentType contentId ∧ fetch = .reading := by
    rintro fetch target ⟨_, _, returned⟩
    cases returned
  have start : ∃ story, ColdCount contentType contentId story
      ([] : List (Event (likeService setting))) (calls.map fun _ => Fetch.reading) world := by
    have reading : ∀ fetch ∈ calls.map fun _ => Fetch.reading, fetch = .reading := by
      intro fetch member
      obtain ⟨_, _, rfl⟩ := List.mem_map.mp member
      rfl
    apply Exists.intro .cold
    constructor
    · rfl
    · rw [uncached]
      rfl
    · intro fetch member
      rw [reading fetch member]
      exact trivial
    · apply owned_start free
      intro fetch member
      rw [reading fetch member]
      rfl
    · intro _ fetch member lock has
      rw [reading fetch member] at has
      cases has
    · intro count is
      cases is
  have law := Run.phases (M := likeService setting)
    (fun trace phases world => ∃ story,
      ColdCount contentType contentId story trace phases world)
    bodies tails same run start
  obtain ⟨phases, phased, _, story, cold⟩ := law (by
    intro before event after phases fetch next spawned split _ _ at_i permitted handled told
    obtain ⟨story, cold⟩ := told
    refine ⟨Fetch.spawned_eq_nil permitted handled, trivial, ?_⟩
    exact cold_step positive cold (keeps event (by simp [split])) at_i permitted handled)
  exact ⟨phases, story, phased, cold⟩

/-- The thread is at its query of the count. -/
def AtQuery (thread : Thread (likeService setting)) : Prop :=
  ∃ contentType contentId next,
    thread.rest = .perform (.dbGetLikesCount contentType contentId) next

/-- At most one query is in flight, at most one succeeds, and every call that comes back
with a count gives the one that was read. -/
theorem cold_count_fetched_once (positive : 0 < setting.config.cacheTtlLikeCountsSecs)
    (same : ∀ call ∈ calls, call = .getLikeCount contentType contentId)
    (uncached : world.redis (formatCountKey contentType contentId) = none)
    (free : ∀ lock, world.held lock = false)
    (run : Run (M := likeService setting) (Pool.start world calls) trace last)
    (keeps : ∀ event ∈ trace, KeepsCount contentType contentId event) :
    (∀ (i j : Nat) (one two : Thread (likeService setting)),
      last.threads[i]? = some one → last.threads[j]? = some two → AtQuery one → AtQuery two →
        i = j) ∧
      (queried trace).length ≤ 1 ∧
      ∀ thread ∈ last.threads, ∀ response,
        thread.rest = .ret (.inr (.getLikeCount (.ok response))) →
          queried trace = [response.count] := by
  obtain ⟨phases, story, phased, cold⟩ :=
    fetched_once_run positive same uncached free run keeps
  refine ⟨?_, ?_, ?_⟩
  · have querying : ∀ (i : Nat) (thread : Thread (likeService setting)),
        last.threads[i]? = some thread → AtQuery thread → ∃ lock,
          phases[i]? = some (.querying lock) ∧ story.Allows (.querying lock) := by
      intro i thread at_i asks
      obtain ⟨askedType, askedId, next, rest⟩ := asks
      obtain ⟨call, program⟩ := thread
      obtain rfl : program = .perform (.dbGetLikesCount askedType askedId) next := rest
      obtain ⟨fetch, at_phase, permitted⟩ := phased.performing at_i
      have allows := cold.allows fetch (List.mem_of_getElem? at_phase)
      cases fetch with
      | querying lock => exact ⟨lock, at_phase, allows⟩
      | returned result => cases permitted
      | _ => cases Option.some.inj permitted
    intro i j one two at_i at_j asks asksToo
    obtain ⟨lock, phase_i, allows⟩ := querying i one at_i asks
    obtain ⟨other, phase_j, _⟩ := querying j two at_j asksToo
    cases story with
    | fetched count => exact allows.elim
    | warm count => exact allows.elim
    | cold =>
        by_contra elsewhere
        have nothing := cold.owner_unique rfl phase_i rfl phase_j elsewhere
        cases nothing
  · rw [cold.told]
    cases story with
    | cold => exact Nat.zero_le 1
    | fetched count => exact Nat.le_refl 1
    | warm count => exact Nat.le_refl 1
  · intro thread member response ended
    obtain ⟨i, at_i⟩ := List.getElem?_of_mem member
    obtain ⟨fetch, at_phase⟩ := phased.exists_phase at_i
    obtain ⟨result, rfl, same⟩ := phased.returned at_i at_phase ended
    have allows := cold.allows _ (List.mem_of_getElem? at_phase)
    rw [cold.told]
    cases result with
    | error e => cases same
    | ok read =>
        cases same
        cases story with
        | cold => exact allows.elim
        | fetched count => exact allows.elim
        | warm count =>
            obtain rfl : read = count := allows
            rfl

end Runs

/-- Three calls for one count: the query of the first fails, the second fetches the count,
and the third finds it cached. -/
theorem cold_count_fetched_once_again :
    ∃ trace last,
      Run (M := likeService .reference)
        (Pool.start twoLikes (List.replicate 3 (.getLikeCount ⟨"post"⟩ ⟨9⟩))) trace last ∧
      last.Done ∧ queried trace = [2] ∧
      (∀ (i j : Nat) (one two : Thread (likeService .reference)),
        last.threads[i]? = some one → last.threads[j]? = some two → AtQuery one →
          AtQuery two → i = j) ∧
        (queried trace).length ≤ 1 ∧
        ∀ thread ∈ last.threads, ∀ response,
          thread.rest = .ret (.inr (.getLikeCount (.ok response))) →
            queried trace = [response.count] := by
  obtain ⟨trace, last, run, passed⟩ := Run.exists_of_exec (M := likeService .reference)
    ([0, 1, 0, 1, 0, 0].map (fun i => (i, Surroundings.calm)) ++
      [(0, { Surroundings.calm with fault := some .noConnection })] ++
      [0, 1, 1, 1, 1, 1, 1, 2].map fun i => (i, Surroundings.calm))
    (Pool.start twoLikes (List.replicate 3 (.getLikeCount ⟨"post"⟩ ⟨9⟩)))
    (fun trace last => last.done? && queried trace = [2] &&
      trace.all fun event => KeepsCount ⟨"post"⟩ ⟨9⟩ event)
    (by decide +kernel)
  simp only [Bool.and_eq_true, decide_eq_true_eq, List.all_eq_true] at passed
  obtain ⟨⟨ended, read⟩, keeps⟩ := passed
  refine ⟨trace, last, run, Pool.done_of_done? ended, read, ?_⟩
  apply cold_count_fetched_once _ _ _ _ run keeps
  · decide
  · intro call called
    exact List.eq_of_mem_replicate called
  · rfl
  · intro lock
    rfl

end SocialApi
