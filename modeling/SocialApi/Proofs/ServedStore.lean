/-
Module: SocialApi.Proofs.ServedStore
Purpose: The part of Redis that the service uses: its steps neither see nor change the
  verdicts that the validator keeps beside its counts and leaderboards.
Trusted boundary: none
Main exports: IsVerdictKey, Redis.served, World.served, World.serve_served, World.serve_verdict
-/
import SocialApi.Application.LikeService

namespace SocialApi

open Process
open RedisLikeRepository

/-- The keys of the validator start like no key of the service. -/
def IsVerdictKey (key : String) : Prop := key.toList.head? = some 'v'

instance (key : String) : Decidable (IsVerdictKey key) :=
  inferInstanceAs (Decidable (_ = _))

theorem formatCountKey_served (contentType : ContentType) (contentId : ContentId) :
    ¬ IsVerdictKey (formatCountKey contentType contentId) := by
  unfold IsVerdictKey formatCountKey
  rw [String.toList_append, String.toList_append, String.toList_append]
  exact fun same => absurd (Option.some.inj same) (by decide)

theorem formatLeadKey_served (kind : LeadKeyType) (window : String)
    (contentType : ContentType) : ¬ IsVerdictKey (formatLeadKey kind window contentType) := by
  unfold IsVerdictKey
  rw [formatLeadKey_toList]
  exact fun same => absurd (Option.some.inj same) (by decide)

/-! ### The key space without verdicts -/

namespace Redis

def served (store : Redis) : Redis := fun key => if IsVerdictKey key then none else store key

variable {store : Redis} {key : String}

theorem served_of_not (plain : ¬ IsVerdictKey key) : store.served key = store key :=
  if_neg plain

theorem served_put_of_not (plain : ¬ IsVerdictKey key) (entry : RedisEntry) :
    (store.put key entry).served = store.served.put key entry := by
  funext other
  by_cases same : other = key
  · subst same
    rw [served_of_not plain, put_self, put_self]
  · rw [put_of_ne _ _ same]
    unfold served
    rw [put_of_ne _ _ same]

theorem served_put (verdict : IsVerdictKey key) (entry : RedisEntry) :
    (store.put key entry).served = store.served := by
  funext other
  unfold served
  split
  · rfl
  · next plain =>
      rw [put_of_ne]
      rintro rfl
      exact plain verdict

theorem served_drop (keys : List String) : (store.drop keys).served = store.served.drop keys := by
  funext other
  by_cases verdict : IsVerdictKey other <;> by_cases gone : other ∈ keys <;>
    simp [served, drop, verdict, gone]

theorem drop_drop (store : Redis) (first later : List String) :
    (store.drop first).drop later = store.drop (first ++ later) := by
  funext other
  unfold drop
  by_cases late : other ∈ later <;> by_cases early : other ∈ first <;> simp [late, early]

theorem served_expire (plain : ¬ IsVerdictKey key) (now ttl : Int) :
    (store.expire key now ttl).served = store.served.expire key now ttl := by
  unfold expire
  rw [served_of_not plain]
  cases store key with
  | none => rfl
  | some entry =>
      dsimp only
      split
      · exact served_put_of_not plain _
      · exact served_drop _

theorem served_incrBy (plain : ¬ IsVerdictKey key) (delta : Int) :
    store.served.incrBy key delta =
      (store.incrBy key delta).map fun counted => (counted.1, counted.2.served) := by
  unfold incrBy
  rw [served_of_not plain]
  match store key with
  | none => exact congrArg _ (congrArg _ (served_put_of_not plain _).symm)
  | some ⟨.int n, deadline⟩ => exact congrArg _ (congrArg _ (served_put_of_not plain _).symm)
  | some ⟨.text text, deadline⟩ => rfl

end Redis

/-! ### The commands of the service -/

section Commands

variable {store : Redis}

theorem changeCount_served (delta : Int) (config : Config) (fault : Option Fault) (now : Int)
    (contentType : ContentType) (contentId : ContentId) :
    changeCount delta config fault now contentType contentId store.served =
      ((changeCount delta config fault now contentType contentId store).1,
        (changeCount delta config fault now contentType contentId store).2.served) := by
  have plain := formatCountKey_served contentType contentId
  unfold changeCount
  cases fault with
  | some e => rfl
  | none =>
      dsimp only
      rw [Redis.served_incrBy plain]
      cases store.incrBy (formatCountKey contentType contentId) delta with
      | error e => simp only [Except.map, Redis.served_expire plain]
      | ok counted => simp only [Except.map, Redis.served_expire plain]

theorem setValue_served (config : Config) (fault : Option Fault) (now : Int)
    (contentType : ContentType) (contentId : ContentId) (value : Nat) :
    setValue config fault now contentType contentId value store.served =
      ((setValue config fault now contentType contentId value store).1,
        (setValue config fault now contentType contentId value store).2.served) := by
  unfold setValue
  cases fault with
  | some e => rfl
  | none =>
      dsimp only
      split
      · rw [Redis.served_put_of_not (formatCountKey_served _ _)]
      · rfl

theorem getCount_served (fault : Option Fault) (contentType : ContentType)
    (contentId : ContentId) :
    getCount fault contentType contentId store.served =
      getCount fault contentType contentId store := by
  unfold getCount
  rw [Redis.served_of_not (formatCountKey_served _ _)]

theorem collectCounts_served (items : List ContentItem) (counts : CountsById) :
    collectCounts store.served items counts = collectCounts store items counts := by
  induction items generalizing counts with
  | nil => rfl
  | cons item items inductionHypothesis =>
      simp only [collectCounts, Redis.served_of_not (formatCountKey_served _ _),
        inductionHypothesis]

theorem getCountsBatch_served (fault : Option Fault) (items : List ContentItem) :
    RedisLikeRepository.getCountsBatch fault items store.served =
      RedisLikeRepository.getCountsBatch fault items store := by
  cases items with
  | nil => rfl
  | cons item items =>
      cases fault with
      | some e => rfl
      | none => exact collectCounts_served _ _

theorem setCountsBatch_served (fault : Option Fault) (now : Int) (counts : List ContentCount) :
    setCountsBatch fault now counts store.served =
      ((setCountsBatch fault now counts store).1,
        (setCountsBatch fault now counts store).2.served) := by
  have folded : ∀ (counts : List ContentCount) (store : Redis),
      counts.foldl (putCount now) store.served = (counts.foldl (putCount now) store).served := by
    intro counts
    induction counts with
    | nil => exact fun _ => rfl
    | cons entry counts inductionHypothesis =>
        intro store
        rw [List.foldl_cons, List.foldl_cons, ← inductionHypothesis]
        congr 1
        exact (Redis.served_put_of_not (formatCountKey_served _ _) _).symm
  cases counts with
  | nil => rfl
  | cons entry counts =>
      cases fault with
      | some e => rfl
      | none => exact congrArg _ (folded _ _)

theorem getLeaderboardWithCanary_served (json : JsonText (List TopLikeItem))
    (fault : Option Fault) (window : String) (contentType : ContentType) :
    getLeaderboardWithCanary json fault window contentType store.served =
      getLeaderboardWithCanary json fault window contentType store := by
  unfold getLeaderboardWithCanary
  simp only [Redis.served_of_not (formatLeadKey_served _ _ _)]

theorem setLeaderboardWithCanary_served (json : JsonText (List TopLikeItem))
    (fault : Option Fault) (now : Int) (window : String) (contentType : ContentType)
    (items : List TopLikeItem) (canaryTtl : Nat) :
    setLeaderboardWithCanary json fault now window contentType items canaryTtl store.served =
      ((setLeaderboardWithCanary json fault now window contentType items canaryTtl store).1,
        (setLeaderboardWithCanary json fault now window contentType items canaryTtl
          store).2.served) := by
  unfold setLeaderboardWithCanary
  cases fault with
  | some e => rfl
  | none =>
      dsimp only
      rw [Redis.served_put_of_not (formatLeadKey_served _ _ _),
        Redis.served_put_of_not (formatLeadKey_served _ _ _)]

theorem acquireRefreshLock_served (fault : Option Fault) (now : Int) (window : String)
    (contentType : ContentType) :
    acquireRefreshLock fault now window contentType store.served =
      ((acquireRefreshLock fault now window contentType store).1,
        (acquireRefreshLock fault now window contentType store).2.served) := by
  unfold acquireRefreshLock
  cases fault with
  | some e => rfl
  | none =>
      dsimp only
      rw [Redis.served_of_not (formatLeadKey_served _ _ _)]
      cases store (formatLeadKey .lock window contentType) with
      | some entry => rfl
      | none => rw [Redis.served_put_of_not (formatLeadKey_served _ _ _)]

/-- A stored leaderboard leaves every key alone that is no leaderboard key. -/
theorem setLeaderboardWithCanary_elsewhere {json : JsonText (List TopLikeItem)}
    {fault : Option Fault} {now : Int} {window : String} {contentType : ContentType}
    {items : List TopLikeItem} {canaryTtl : Nat} {key : String}
    (ne : ∀ kind window contentType, key ≠ formatLeadKey kind window contentType) :
    (setLeaderboardWithCanary json fault now window contentType items canaryTtl store).2 key =
      store key := by
  unfold setLeaderboardWithCanary
  cases fault with
  | some e => rfl
  | none =>
      dsimp only
      rw [Redis.put_of_ne _ _ (ne _ _ _), Redis.put_of_ne _ _ (ne _ _ _)]

theorem acquireRefreshLock_elsewhere {fault : Option Fault} {now : Int} {window : String}
    {contentType : ContentType} {key : String}
    (ne : ∀ kind window contentType, key ≠ formatLeadKey kind window contentType) :
    (acquireRefreshLock fault now window contentType store).2 key = store key := by
  unfold acquireRefreshLock
  cases fault with
  | some e => rfl
  | none =>
      dsimp only
      split
      · rfl
      · exact Redis.put_of_ne _ _ (ne _ _ _)

end Commands

/-! ### The steps of the service -/

/-- The world without the verdicts. -/
def World.served (world : World) : World := { world with redis := world.redis.served }

section Steps

variable {setting : Setting} {env : Surroundings} {op : LikeOp} {world after : World}
  {answer : op.Res} {spawned : List LikeCall}

theorem World.advance_served : (world.advance env).served = world.served.advance env := by
  unfold World.advance World.served
  rw [Redis.served_drop]

/-- A step of the service is the same without the verdicts. -/
theorem World.serve_served
    (served : World.serve setting env op world = some (answer, after, spawned)) :
    World.serve setting env op world.served = some (answer, after.served, spawned) := by
  cases op with
  | cacheIncrement contentType contentId =>
      simp only [serve, World.served, increment, changeCount_served, Option.some.injEq,
        Prod.mk.injEq] at served ⊢
      obtain ⟨rfl, rfl, rfl⟩ := served
      exact ⟨rfl, rfl, rfl⟩
  | cacheDecrement contentType contentId =>
      simp only [serve, World.served, decrement, changeCount_served, Option.some.injEq,
        Prod.mk.injEq] at served ⊢
      obtain ⟨rfl, rfl, rfl⟩ := served
      exact ⟨rfl, rfl, rfl⟩
  | cachePublishLikeEvent event =>
      simp only [serve] at served ⊢
      split at served <;>
      · simp only [Option.some.injEq, Prod.mk.injEq] at served
        obtain ⟨rfl, rfl, rfl⟩ := served
        rfl
  | flightEntry lockKey =>
      simp only [serve, World.served] at served ⊢
      split at served <;>
      · simp only [Option.some.injEq, Prod.mk.injEq] at served
        obtain ⟨rfl, rfl, rfl⟩ := served
        rfl
  | mutexLock lock =>
      simp only [serve, World.served] at served ⊢
      split at served
      · cases served
      · next free =>
          simp only [Option.some.injEq, Prod.mk.injEq] at served
          obtain ⟨-, rfl, rfl⟩ := served
          exact if_neg free
  | flightRemove lockKey =>
      simp only [serve, Option.some.injEq, Prod.mk.injEq] at served
      obtain ⟨-, rfl, rfl⟩ := served
      rfl
  | mutexUnlock lock =>
      simp only [serve, Option.some.injEq, Prod.mk.injEq] at served
      obtain ⟨-, rfl, rfl⟩ := served
      rfl
  | spawn task =>
      simp only [serve, Option.some.injEq, Prod.mk.injEq] at served
      obtain ⟨-, rfl, rfl⟩ := served
      rfl
  | _ =>
      simp only [serve, World.served, setValue_served, getCount_served, getCountsBatch_served,
        setCountsBatch_served, getLeaderboardWithCanary_served, setLeaderboardWithCanary_served,
        acquireRefreshLock_served, Option.some.injEq, Prod.mk.injEq] at served ⊢
      obtain ⟨rfl, rfl, rfl⟩ := served
      exact ⟨rfl, rfl, rfl⟩

/-- Keys that leave and time that passes are no concern of the step itself. -/
theorem World.serve_waited (expired : List String) (elapse : Nat) :
    World.serve setting { env with expired := expired, elapse := elapse } op world =
      World.serve setting env op world := by
  cases op <;> rfl

/-- A step by itself is a step that nothing has happened before. -/
theorem World.handle_of_serve
    (served : World.serve setting env op world = some (answer, after, spawned)) :
    World.handle setting { env with expired := [], elapse := 0 } op world =
      some (answer, after, spawned) := by
  have still : world.advance { env with expired := [], elapse := 0 } = world := by
    simp [advance]
  rw [handle, still, World.serve_waited, served]

/-- The verdicts stay as they are. -/
theorem World.serve_verdict {key : String} (verdict : IsVerdictKey key)
    (served : World.serve setting env op world = some (answer, after, spawned)) :
    after.redis key = world.redis key := by
  have noCount : ∀ contentType contentId, key ≠ formatCountKey contentType contentId := by
    rintro contentType contentId rfl
    exact formatCountKey_served contentType contentId verdict
  have noLead : ∀ kind window contentType, key ≠ formatLeadKey kind window contentType := by
    rintro kind window contentType rfl
    exact formatLeadKey_served kind window contentType verdict
  obtain ⟨_, _, redis, _⟩ := World.handle_after (World.handle_of_serve served)
  rw [redis, Redis.drop_nil]
  cases op with
  | cacheIncrement contentType contentId => exact changeCount_other (noCount _ _)
  | cacheDecrement contentType contentId => exact changeCount_other (noCount _ _)
  | cacheSetValue contentType contentId value => exact setValue_other (noCount _ _)
  | cacheSetCountsBatch counts => exact setCountsBatch_other noCount
  | cacheSetLeaderboardWithCanary window contentType items canaryTtl =>
      exact setLeaderboardWithCanary_elsewhere noLead
  | cacheAcquireRefreshLock window contentType => exact acquireRefreshLock_elsewhere noLead
  | _ => rfl

end Steps

end SocialApi
