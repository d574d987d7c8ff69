/-
Module: SocialApi.Proofs.LeaderboardStampede
Purpose: How many top-likes queries for one leaderboard are in flight at once, while any
  number of requests and refreshes of it interleave.
Trusted boundary: none
Main exports:
  Lead, QueriesTop, QueriedApart, FillsAlone, Refill, Refill.body_refills, Refilled,
  refilled_step, queried_apart
-/
import SocialApi.Proofs.Leaderboard

namespace SocialApi

open Process
open LikeService
open RedisLikeRepository (formatLeadKey)

/-! ### Queries in flight -/

/-- A leaderboard. -/
structure Lead where
  window : String
  contentType : ContentType
deriving DecidableEq

def Lead.key (lead : Lead) (kind : RedisLikeRepository.LeadKeyType) : String :=
  formatLeadKey kind lead.window lead.contentType

/-- The leaderboard that a call is about. -/
def LikeCall.lead : LikeCall → Option Lead
  | .getTopLikes contentType windowStr _ => some ⟨windowStr, contentType⟩
  | .refreshLeaderboard window contentType _ _ => some ⟨window, contentType⟩
  | _ => none

/-- The task that a step starts is a refresh. -/
def LikeOp.startsRefresh : LikeOp → Bool
  | .spawn (.refreshLeaderboard _ _ _ _) => true
  | _ => false

/-- The steps of a call after its read of the cache. -/
def LikeOp.fills : LikeOp → Bool
  | .cacheAcquireRefreshLock _ _ | .dbGetTopLikes _ _ _
  | .cacheSetLeaderboardWithCanary _ _ _ _ => true
  | op => op.startsRefresh

/-- A background refresh. -/
def LikeCall.refreshes : LikeCall → Bool
  | .refreshLeaderboard _ _ _ _ => true
  | _ => false

/-- The step is a top-likes query. -/
def LikeOp.queriesTop : LikeOp → Bool
  | .dbGetTopLikes _ _ _ => true
  | _ => false

section Threads

variable {setting : Setting} (lead : Lead)

/-- The thread is a call for the leaderboard whose next step is of such a kind. -/
def About (kind : LikeOp → Bool) (thread : Thread (likeService setting)) : Prop :=
  thread.call.lead = some lead ∧ thread.nextOp.any kind = true

instance (kind : LikeOp → Bool) (thread : Thread (likeService setting)) :
    Decidable (About lead kind thread) :=
  inferInstanceAs (Decidable (_ ∧ _))

/-- A top-likes query for the leaderboard is in flight in the thread. -/
def QueriesTop (thread : Thread (likeService setting)) : Prop :=
  About lead LikeOp.queriesTop thread

instance (thread : Thread (likeService setting)) : Decidable (QueriesTop lead thread) :=
  inferInstanceAs (Decidable (About _ _ _))

/-- No two top-likes queries for the leaderboard are in flight at once. -/
def QueriedApart (pool : Pool (likeService setting)) : Prop :=
  ∀ (i j : Nat) (one two : Thread (likeService setting)),
    pool.threads[i]? = some one → pool.threads[j]? = some two →
    QueriesTop lead one → QueriesTop lead two → i = j

/-- The thread has read the leaderboard from the cache and is not done with it. -/
def UnderWay (thread : Thread (likeService setting)) : Prop := About lead LikeOp.fills thread

instance (thread : Thread (likeService setting)) : Decidable (UnderWay lead thread) :=
  inferInstanceAs (Decidable (About _ _ _))

/-- The thread has the refresh lock: it is about to start the refresh, or is the refresh. -/
def HoldsRefresh (thread : Thread (likeService setting)) : Prop :=
  About lead (fun op => op.startsRefresh || thread.call.refreshes) thread

/-! ### Conditions on the steps -/

/-- Redis is up: the cached leaderboards can be read. -/
def ReadsAnswered (event : Event (likeService setting)) : Prop :=
  event.op.readsBoard ≠ none → event.env.fault = none

/-- The refresh lock does not expire while its holder is refreshing. -/
def LockLasts (pool : Pool (likeService setting)) (event : Event (likeService setting)) : Prop :=
  lead.key .lock ∈ event.env.expired → ∀ thread ∈ pool.threads, ¬ HoldsRefresh lead thread

/-- The list that a read of the leaderboard finds. -/
def cachedList (setting : Setting) (redis : Redis) : Option (List TopLikeItem) :=
  (unwrapOr (none, false) (RedisLikeRepository.getLeaderboardWithCanary setting.itemsJson none
    lead.window lead.contentType redis)).1

/-- A request that finds no list in the cache is the only one that is under way. -/
def FillsAlone (pool : Pool (likeService setting)) (event : Event (likeService setting)) :
    Prop :=
  event.op.readsBoard = some (lead.window, lead.contentType) →
    cachedList lead setting (event.before.redis.drop event.env.expired) = none →
    ∀ (i : Nat) (thread : Thread (likeService setting)), pool.threads[i]? = some thread →
      i ≠ event.thread → ¬ UnderWay lead thread

end Threads

/-! ### The protocol of a leaderboard -/

/-- Where a call stands with its leaderboard.  A query is that of a request or of a task. -/
inductive Refill where
  | aside
  | done
  | asked (lead : Lead)
  | dated (lead : Lead)
  | stale (lead : Lead)
  | holding (lead : Lead)
  | querying (lead : Lead) (task : Bool)
  | writing (lead : Lead)

namespace Refill

def start : LikeCall → Refill
  | .getTopLikes contentType windowStr _ => .asked ⟨windowStr, contentType⟩
  | .refreshLeaderboard window contentType _ _ => .querying ⟨window, contentType⟩ true
  | _ => .aside

def advance : Refill → (op : LikeOp) → op.Res → Refill
  | .asked lead, .utcNow, now =>
      match windowStart now lead.window with
      | none => .done
      | some _ => .dated lead
  | .dated lead, .cacheGetLeaderboardWithCanary _ _, answer =>
      match unwrapOr (none, false) answer with
      | (none, _) => .querying lead false
      | (some _, true) => .done
      | (some _, false) => .stale lead
  | .stale lead, .cacheAcquireRefreshLock _ _, answer =>
      if unwrapOr false answer then .holding lead else .done
  | .holding _, .spawn _, _ => .done
  | .querying lead _, .dbGetTopLikes _ _ _, .ok _ => .writing lead
  | .querying _ _, .dbGetTopLikes _ _ _, .error _ => .done
  | .writing _, .cacheSetLeaderboardWithCanary _ _ _ _, _ => .done
  | refill, _, _ => refill

def Permitted : Refill → LikeOp → Prop
  | .aside, op => op.OffBoard
  | .done, _ => False
  | .asked _, op => op = .utcNow
  | .dated lead, op => op = .cacheGetLeaderboardWithCanary lead.window lead.contentType
  | .stale lead, op => op = .cacheAcquireRefreshLock lead.window lead.contentType
  | .holding lead, op => ∃ since limit,
      op = .spawn (.refreshLeaderboard lead.window lead.contentType since limit)
  | .querying lead _, op => ∃ since limit, op = .dbGetTopLikes lead.contentType.asOpt since limit
  | .writing lead, op => ∃ items canaryTtl,
      op = .cacheSetLeaderboardWithCanary lead.window lead.contentType items canaryTtl

/-- No call comes back before it is done with its leaderboard. -/
def Final (refill : Refill) (outcome : LikeCall ⊕ LikeReply) : Prop :=
  (refill = .aside ∨ refill = .done) ∧ ∃ reply, outcome = .inr reply

/-- The program keeps to the protocol, and ends as stated. -/
abbrev Refills {α : Type} (final : Refill → α → Prop) (program : Service α) (refill : Refill) :
    Prop :=
  program.Obeys advance Permitted (fun _ _ _ => True) final refill

theorem aside_of_offBoard {α : Type} {program : Service α} {reply : α → LikeReply}
    (off : program.Performs LikeOp.OffBoard) :
    Refills Final (do return .inr (reply (← program))) .aside := by
  have aside : Refills (fun reached _ => reached = .aside) program .aside := by
    apply off.obeys
    intro op keeps
    refine ⟨keeps, fun answer => ?_⟩
    cases op <;> rfl
  apply aside.bind
  rintro _ value rfl
  exact ⟨.inl rfl, _, rfl⟩

theorem getTopLikes_refills (contentType : ContentType) (windowStr : String) (limit : Int) :
    Refills (fun refill _ => refill = .done) (getTopLikes contentType windowStr limit)
      (.asked ⟨windowStr, contentType⟩) := by
  simp only [getTopLikes, Program.request_bind, Refills, Program.obeys_perform]
  refine ⟨rfl, fun now _ => ?_⟩
  simp only [advance]
  cases windowStart now windowStr with
  | none => rfl
  | some since =>
  refine ⟨rfl, fun answer _ => ?_⟩
  simp only [advance]
  obtain ⟨stored, fresh⟩ := unwrapOr (none, false) answer
  cases stored with
  | some items =>
      cases fresh with
      | true => rfl
      | false =>
          refine ⟨rfl, fun lock _ => ?_⟩
          simp only [advance]
          cases unwrapOr false lock with
          | true => exact ⟨⟨_, _, rfl⟩, fun _ _ => rfl⟩
          | false => rfl
  | none =>
      refine ⟨⟨_, _, rfl⟩, fun listed _ => ?_⟩
      cases listed with
      | error e => rfl
      | ok items => exact ⟨⟨_, _, rfl⟩, fun _ _ => rfl⟩

theorem refreshLeaderboard_refills (window : String) (contentType : ContentType)
    (since : Option DateTime) (limit : Int) :
    Refills (fun refill _ => refill = .done)
      (refreshLeaderboard window contentType since limit)
      (.querying ⟨window, contentType⟩ true) := by
  refine ⟨⟨_, _, rfl⟩, fun listed _ => ?_⟩
  cases listed with
  | error e => rfl
  | ok newItems => exact ⟨⟨_, _, rfl⟩, fun _ _ => rfl⟩

/-- The leaderboard of a call that is on its way. -/
def lead : Refill → Option Lead
  | .aside | .done => none
  | .asked own | .dated own | .stale own | .holding own | .querying own _ | .writing own =>
      some own

/-! ### What each stage has in hand -/

section Stages

variable (lead : Lead)

/-- The call is on its way to a query, from the lock or from its miss. -/
def Busy : Refill → Prop
  | .holding own | .querying own _ => own = lead
  | _ => False

/-- The call has the refresh lock, or is the refresh of the one that has it. -/
def Locks : Refill → Prop
  | .holding own | .querying own true => own = lead
  | _ => False

/-- The call has read the leaderboard and is not done with it. -/
def Past : Refill → Prop
  | .stale own | .holding own | .querying own _ | .writing own => own = lead
  | _ => False

/-- A window that has been dated is named without a colon. -/
def Plain : Refill → Prop
  | .dated own | .stale own | .holding own | .querying own _ | .writing own =>
      ':' ∉ own.window.toList
  | _ => True

end Stages

/-- Every call keeps to the protocol. -/
theorem body_refills (setting : Setting) (call : LikeCall) :
    Refills Final (call.body setting) (start call) := by
  cases call with
  | addLike likeCmd => exact aside_of_offBoard (addLike_offBoard _)
  | removeLike userId contentType contentId => exact aside_of_offBoard (removeLike_offBoard _ _ _)
  | getLikeCount contentType contentId => exact aside_of_offBoard (getLikeCount_offBoard _ _)
  | getLikeStatus userId contentType contentId =>
      exact aside_of_offBoard (getLikeStatus_offBoard _ _ _)
  | getLikesCountBatch items => exact aside_of_offBoard (getLikesCountBatch_offBoard _)
  | getBatchStatus userId items => exact aside_of_offBoard (getBatchStatus_offBoard _ _)
  | getUserLikedItems userId contentType cursorStr limit =>
      exact aside_of_offBoard (getUserLikedItems_offBoard _ _ _ _ _)
  | getTopLikes contentType windowStr limit =>
      apply (getTopLikes_refills contentType windowStr limit).bind
      rintro _ result rfl
      exact ⟨.inr rfl, _, rfl⟩
  | publishLikeEvent event => exact ⟨trivial, fun _ _ => ⟨.inl rfl, _, rfl⟩⟩
  | rehydrate dbCounts lockedKeys rehydrationSet =>
      exact ⟨trivial, fun _ _ => ⟨.inl rfl, _, rfl⟩⟩
  | refreshLeaderboard window contentType since limit =>
      apply (refreshLeaderboard_refills window contentType since limit).bind
      rintro _ _ rfl
      exact ⟨.inr rfl, _, rfl⟩

end Refill

/-! ### The leaderboard in Redis -/

section Store

variable {setting : Setting} {lead : Lead} {redis next : Redis}

theorem cachedList_congr (same : next (lead.key .data) = redis (lead.key .data)) :
    cachedList lead setting next = cachedList lead setting redis := by
  unfold Lead.key at same
  simp only [cachedList, RedisLikeRepository.getLeaderboardWithCanary, same]
  rfl

theorem cachedList_drop (keys : List String) (missing : cachedList lead setting redis = none) :
    cachedList lead setting (redis.drop keys) = none := by
  by_cases gone : lead.key .data ∈ keys
  · have absent : redis.drop keys (lead.key .data) = none :=
      Redis.drop_eq_none_iff.mpr (.inl gone)
    unfold Lead.key at absent
    simp only [cachedList, RedisLikeRepository.getLeaderboardWithCanary, absent]
    rfl
  · rw [cachedList_congr (Redis.drop_of_not_mem redis gone)]
    exact missing

variable {env : Surroundings} {now : Int}

/-- What is stored under a key removes nothing. -/
theorem Redis.put_present {key other : String} {entry : RedisEntry} (present : redis key ≠ none) :
    redis.put other entry key ≠ none := by
  by_cases same : key = other
  · rw [same, Redis.put_self]
    simp
  · rw [Redis.put_of_ne _ _ same]
    exact present

/-- No step removes a lock. -/
theorem redisAfter_lock (op : LikeOp) (locked : redis (lead.key .lock) ≠ none) :
    World.redisAfter setting env now redis op (lead.key .lock) ≠ none := by
  cases op with
  | cacheSetLeaderboardWithCanary window contentType items canaryTtl =>
      simp only [World.redisAfter, RedisLikeRepository.setLeaderboardWithCanary]
      cases env.fault with
      | some e => exact locked
      | none =>
          dsimp only
          exact Redis.put_present (Redis.put_present locked)
  | cacheAcquireRefreshLock window contentType =>
      simp only [World.redisAfter, RedisLikeRepository.acquireRefreshLock]
      cases env.fault with
      | some e => exact locked
      | none =>
          dsimp only
          split
          · exact locked
          · exact Redis.put_present locked
  | _ =>
      unfold Lead.key at locked ⊢
      rw [World.redisAfter_lead (by simp) (by simp)]
      exact locked

/-- A lock that is taken was free, and is there. -/
theorem acquire_taken {fault : Option Fault}
    (taken : unwrapOr false (RedisLikeRepository.acquireRefreshLock fault now lead.window
      lead.contentType redis).1 = true) :
    redis (lead.key .lock) = none ∧
      (RedisLikeRepository.acquireRefreshLock fault now lead.window lead.contentType redis).2
        (lead.key .lock) ≠ none := by
  unfold RedisLikeRepository.acquireRefreshLock at taken ⊢
  cases fault with
  | some e => cases taken
  | none =>
      dsimp only at taken ⊢
      split at taken
      · cases taken
      · next free =>
          refine ⟨free, ?_⟩
          show (redis.put (lead.key .lock) _) (lead.key .lock) ≠ none
          rw [Redis.put_self]
          simp

/-- A leaderboard that is written leaves the others alone. -/
theorem cachedList_redisAfter_set {other : Lead} {items : List TopLikeItem} {canaryTtl : Nat}
    (plain : ':' ∉ lead.window.toList) (plainToo : ':' ∉ other.window.toList)
    (ne : other ≠ lead) :
    cachedList lead setting (World.redisAfter setting env now redis
      (.cacheSetLeaderboardWithCanary other.window other.contentType items canaryTtl)) =
        cachedList lead setting redis := by
  apply cachedList_congr
  show (RedisLikeRepository.setLeaderboardWithCanary setting.itemsJson env.fault now other.window
    other.contentType items canaryTtl redis).2 _ = _
  cases env.fault with
  | some e => rfl
  | none =>
      unfold Lead.key
      rw [RedisLikeRepository.setLeaderboardWithCanary_data _ _ _ _ _ plainToo plain, if_neg]
      rintro ⟨windows, types⟩
      cases lead
      cases other
      cases windows
      cases types
      exact ne rfl

end Store

/-! ### One step -/

/-- At most one call is on its way to a query for the leaderboard.  The refresh lock is there
while it has a holder.  While a request fetches a list that was missing, it is still missing,
and no other call is under way. -/
structure Refilled (setting : Setting) (lead : Lead) (phases : List Refill) (redis : Redis) :
    Prop where
  alone : AtMostOne (Refill.Busy lead) phases
  locked : ∀ refill ∈ phases, refill.Locks lead → redis (lead.key .lock) ≠ none
  cold : ∀ i : Nat, phases[i]? = some (.querying lead false) →
    cachedList lead setting redis = none ∧ ∀ (j : Nat) (other : Refill), i ≠ j →
      phases[j]? = some other → ¬ other.Past lead
  plain : ∀ refill ∈ phases, refill.Plain

section Step

variable {setting : Setting} {lead : Lead} {phases : List Refill} {redis next : Redis} {i : Nat}
  {refill moved : Refill}

/-- Keys leave, but not a lock that has a holder. -/
theorem Refilled.drop (refilled : Refilled setting lead phases redis) (keys : List String)
    (lasts : lead.key .lock ∈ keys → ∀ refill ∈ phases, ¬ refill.Locks lead) :
    Refilled setting lead phases (redis.drop keys) where
  alone := refilled.alone
  locked := by
    intro refill member locks
    rw [Redis.drop_of_not_mem _ fun gone => lasts gone refill member locks]
    exact refilled.locked refill member locks
  cold := by
    intro i at_i
    obtain ⟨missing, others⟩ := refilled.cold i at_i
    exact ⟨cachedList_drop keys missing, others⟩
  plain := refilled.plain

/-- While one call is under way, no other fetches a list that was missing. -/
theorem Refilled.not_cold (refilled : Refilled setting lead phases redis)
    (at_i : phases[i]? = some refill) (past : refill.Past lead) (j : Nat) (ne : i ≠ j) :
    phases[j]? ≠ some (.querying lead false) :=
  fun at_j => (refilled.cold j at_j).2 i refill ne.symm at_i past

/-- What a move of one phase has to keep. -/
theorem Refilled.move (refilled : Refilled setting lead phases redis)
    (busy : moved.Busy lead → ∀ (j : Nat) (other : Refill), i ≠ j → phases[j]? = some other →
      ¬ other.Busy lead)
    (lock : redis (lead.key .lock) ≠ none → next (lead.key .lock) ≠ none)
    (locks : moved.Locks lead → next (lead.key .lock) ≠ none)
    (past : moved.Past lead → ∀ j, i ≠ j → phases[j]? ≠ some (.querying lead false))
    (list : (∃ j, i ≠ j ∧ phases[j]? = some (.querying lead false)) →
      cachedList lead setting redis = none → cachedList lead setting next = none)
    (cold : moved = .querying lead false → cachedList lead setting next = none ∧
      ∀ (j : Nat) (other : Refill), i ≠ j → phases[j]? = some other → ¬ other.Past lead)
    (plain : moved.Plain) : Refilled setting lead (phases.set i moved) next where
  alone := refilled.alone.set busy
  locked := by
    intro other member holds
    rcases List.mem_or_eq_of_mem_set member with old | rfl
    · exact lock (refilled.locked other old holds)
    · exact locks holds
  cold := by
    intro j at_j
    rcases phase_of_set at_j with ⟨rfl, same⟩ | ⟨ne, old_j⟩
    · obtain ⟨missing, others⟩ := cold same.symm
      refine ⟨missing, fun k other ne at_k => ?_⟩
      rw [set_other_phase ne] at at_k
      exact others k other ne at_k
    · obtain ⟨missing, others⟩ := refilled.cold j old_j
      refine ⟨list ⟨j, ne, old_j⟩ missing, fun k other apart at_k => ?_⟩
      rcases phase_of_set at_k with ⟨rfl, rfl⟩ | ⟨_, old_k⟩
      · exact fun under => past under j ne old_j
      · exact others k other apart old_k
  plain := by
    intro other member
    rcases List.mem_or_eq_of_mem_set member with old | rfl
    · exact refilled.plain other old
    · exact plain

/-- A call that is done, or was never for a leaderboard, is in nobody's way. -/
theorem Refilled.leave (refilled : Refilled setting lead phases redis)
    (left : moved = .done ∨ moved = .aside)
    (lock : redis (lead.key .lock) ≠ none → next (lead.key .lock) ≠ none)
    (list : (∃ j, i ≠ j ∧ phases[j]? = some (.querying lead false)) →
      cachedList lead setting redis = none → cachedList lead setting next = none) :
    Refilled setting lead (phases.set i moved) next := by
  rcases left with rfl | rfl
  · exact refilled.move (by rintro ⟨⟩) lock (by rintro ⟨⟩) (by rintro ⟨⟩) list (by rintro ⟨⟩)
      trivial
  · exact refilled.move (by rintro ⟨⟩) lock (by rintro ⟨⟩) (by rintro ⟨⟩) list (by rintro ⟨⟩)
      trivial

/-- A request reads the leaderboard: it is done, finds a stale list, or fetches a list that is
missing, alone. -/
theorem Refilled.read {own : Lead} (refilled : Refilled setting lead phases redis)
    (plain : ':' ∉ own.window.toList)
    (answer : Except DomainError (Option (List TopLikeItem) × Bool))
    (found : cachedList own setting redis = (unwrapOr (none, false) answer).1)
    (alone : own = lead → cachedList own setting redis = none →
      ∀ (j : Nat) (other : Refill), j ≠ i → phases[j]? = some other → ¬ other.Past lead) :
    Refilled setting lead (phases.set i ((Refill.dated own).advance
      (.cacheGetLeaderboardWithCanary own.window own.contentType) answer)) redis := by
  simp only [Refill.advance]
  generalize unwrapOr (none, false) answer = cached at found ⊢
  obtain ⟨stored, fresh⟩ := cached
  cases stored with
  | none =>
      have others : own = lead → ∀ (j : Nat) (other : Refill), i ≠ j → phases[j]? = some other →
          ¬ other.Past lead := fun same j other ne => alone same found j other ne.symm
      apply refilled.move
      · intro same j other ne at_j busy
        apply others same j other ne at_j
        cases other with
        | holding own => exact busy
        | querying own task => exact busy
        | _ => exact busy.elim
      · exact id
      · rintro ⟨⟩
      · intro same j ne at_j
        exact others same j _ ne at_j rfl
      · exact fun _ => id
      · rintro ⟨⟩
        exact ⟨found, others rfl⟩
      · exact plain
  | some items =>
      cases fresh with
      | true => exact refilled.leave (.inl rfl) id fun _ => id
      | false =>
          apply refilled.move
          · rintro ⟨⟩
          · exact id
          · rintro ⟨⟩
          · rintro rfl j _ at_j
            -- a list that is being fetched is missing, and this one was found
            rw [(refilled.cold j at_j).1] at found
            cases found
          · exact fun _ => id
          · rintro ⟨⟩
          · exact plain

/-- A request that has found a stale list takes the lock, unless it is held. -/
theorem Refilled.acquire {own : Lead} {env : Surroundings} {now : Int}
    (refilled : Refilled setting lead phases redis) (at_i : phases[i]? = some (.stale own)) :
    Refilled setting lead (phases.set i
      (if unwrapOr false (RedisLikeRepository.acquireRefreshLock env.fault now own.window
          own.contentType redis).1 then .holding own else .done))
      (World.redisAfter setting env now redis
        (.cacheAcquireRefreshLock own.window own.contentType)) := by
  have plain : ':' ∉ own.window.toList := refilled.plain _ (List.mem_of_getElem? at_i)
  have list : cachedList lead setting (World.redisAfter setting env now redis
      (.cacheAcquireRefreshLock own.window own.contentType)) = cachedList lead setting redis := by
    apply cachedList_congr
    exact World.redisAfter_lead (by simp) (fun _ _ _ => by decide) _ _
  split
  · next taken =>
      obtain ⟨free, there⟩ := acquire_taken taken
      apply refilled.move
      · rintro rfl j other ne at_j busy
        cases other with
        | holding held =>
            obtain rfl : held = own := busy
            exact refilled.locked _ (List.mem_of_getElem? at_j) rfl free
        | querying held task =>
            obtain rfl : held = own := busy
            cases task with
            | true => exact refilled.locked _ (List.mem_of_getElem? at_j) rfl free
            | false => exact refilled.not_cold at_i rfl j ne at_j
        | _ => exact busy.elim
      · exact redisAfter_lock _
      · rintro rfl
        exact there
      · rintro rfl
        exact refilled.not_cold at_i rfl
      · exact fun _ missing => list.trans missing
      · rintro ⟨⟩
      · exact plain
  · exact refilled.leave (.inl rfl) (redisAfter_lock _) fun _ missing => list.trans missing

/-- A task that is no refresh joins. -/
theorem Refilled.join (refilled : Refilled setting lead phases redis)
    (idle : ¬ moved.Busy lead ∧ ¬ moved.Locks lead ∧ ¬ moved.Past lead ∧ moved.Plain) :
    Refilled setting lead (phases ++ [moved]) redis := by
  obtain ⟨not_busy, not_locks, not_past, plain⟩ := idle
  constructor
  · exact refilled.alone.append (by simpa using not_busy)
  · intro other member locks
    rcases List.mem_append.mp member with old | new
    · exact refilled.locked other old locks
    · rw [List.mem_singleton.mp new] at locks
      exact absurd locks not_locks
  · intro j at_j
    rcases get_of_concat at_j with old_j | ⟨_, rfl⟩
    · obtain ⟨missing, others⟩ := refilled.cold j old_j
      refine ⟨missing, fun k other ne at_k => ?_⟩
      rcases get_of_concat at_k with old_k | ⟨_, rfl⟩
      · exact others k other ne old_k
      · exact not_past
    · exact absurd rfl not_past
  · intro other member
    rcases List.mem_append.mp member with old | new
    · exact refilled.plain other old
    · rw [List.mem_singleton.mp new]
      exact plain

/-- The holder of the lock starts the refresh. -/
theorem Refilled.spawn {own : Lead} (refilled : Refilled setting lead phases redis)
    (at_i : phases[i]? = some (.holding own)) :
    Refilled setting lead (phases.set i .done ++ [.querying own true]) redis := by
  have held : (Refill.holding own).Plain := refilled.plain _ (List.mem_of_getElem? at_i)
  have left : Refilled setting lead (phases.set i .done) redis :=
    refilled.leave (.inl rfl) id fun _ => id
  have locked : own = lead → redis (lead.key .lock) ≠ none :=
    fun same => refilled.locked _ (List.mem_of_getElem? at_i) same
  have not_cold : own = lead → ∀ j : Nat,
      (phases.set i .done)[j]? ≠ some (.querying lead false) := by
    intro same j at_j
    rcases phase_of_set at_j with ⟨_, absurd⟩ | ⟨ne, old_j⟩
    · cases absurd
    · exact refilled.not_cold at_i same j ne old_j
  constructor
  · by_cases same : own = lead
    · apply AtMostOne.concat
      intro other member busy
      obtain ⟨j, at_j⟩ := List.getElem?_of_mem member
      rcases phase_of_set at_j with ⟨_, rfl⟩ | ⟨ne, old_j⟩
      · exact busy
      · exact ne (refilled.alone i j _ other at_i old_j same busy)
    · apply left.alone.append
      intro other member busy
      rw [List.mem_singleton.mp member] at busy
      exact same busy
  · intro other member locks
    rcases List.mem_append.mp member with old | new
    · exact left.locked other old locks
    · rw [List.mem_singleton.mp new] at locks
      exact locked locks
  · intro j at_j
    rcases get_of_concat at_j with old_j | ⟨_, absurd⟩
    · obtain ⟨missing, others⟩ := left.cold j old_j
      refine ⟨missing, fun k other ne at_k => ?_⟩
      rcases get_of_concat at_k with old_k | ⟨_, rfl⟩
      · exact others k other ne old_k
      · exact fun same => not_cold same j old_j
    · cases absurd
  · intro other member
    rcases List.mem_append.mp member with old | new
    · exact left.plain other old
    · rw [List.mem_singleton.mp new]
      exact held

/-- A query is answered. -/
theorem Refilled.fetch {own : Lead} {task : Bool} {since : Option DateTime} {limit : Int}
    (refilled : Refilled setting lead phases redis)
    (answer : Except DomainError (List TopLikeItem))
    (at_i : phases[i]? = some (.querying own task)) :
    Refilled setting lead (phases.set i ((Refill.querying own task).advance
      (.dbGetTopLikes own.contentType.asOpt since limit) answer)) redis := by
  cases answer with
  | error e => exact refilled.leave (.inl rfl) id fun _ => id
  | ok items =>
      apply refilled.move
      · rintro ⟨⟩
      · exact id
      · rintro ⟨⟩
      · rintro rfl
        exact refilled.not_cold at_i rfl
      · exact fun _ => id
      · rintro ⟨⟩
      · have plain := refilled.plain _ (List.mem_of_getElem? at_i)
        exact plain

/-- A list that was fetched is written. -/
theorem Refilled.write {own : Lead} {env : Surroundings} {now : Int} {items : List TopLikeItem}
    {canaryTtl : Nat} (refilled : Refilled setting lead phases redis)
    (at_i : phases[i]? = some (.writing own)) :
    Refilled setting lead (phases.set i .done) (World.redisAfter setting env now redis
      (.cacheSetLeaderboardWithCanary own.window own.contentType items canaryTtl)) := by
  apply refilled.leave (.inl rfl) (redisAfter_lock _)
  rintro ⟨j, ne, at_j⟩ missing
  by_cases same : own = lead
  · subst same
    exact absurd at_j (refilled.not_cold at_i rfl j ne)
  · have plain : ':' ∉ lead.window.toList := refilled.plain _ (List.mem_of_getElem? at_j)
    rw [cachedList_redisAfter_set plain (refilled.plain _ (List.mem_of_getElem? at_i)) same]
    exact missing

/-- A step that starts no task adds no stage. -/
theorem Refilled.quiet {op : LikeOp} (unstarted : LikeOp.started op = [])
    (refilled : Refilled setting lead phases redis) :
    Refilled setting lead (phases ++ (LikeOp.started op).map Refill.start) redis := by
  rw [unstarted, List.map_nil, List.append_nil]
  exact refilled

/-- A step of a call that is for no leaderboard, with the task that it starts. -/
theorem Refilled.pass {env : Surroundings} {now : Int} {op : LikeOp}
    (refilled : Refilled setting lead phases redis) (answer : op.Res)
    (permitted : Refill.aside.Permitted op) :
    Refilled setting lead
      (phases.set i (Refill.aside.advance op answer) ++ (LikeOp.started op).map Refill.start)
      (World.redisAfter setting env now redis op) := by
  have stays : Refill.aside.advance op answer = .aside := by cases op <;> rfl
  rw [stays]
  have kept : Refilled setting lead (phases.set i .aside)
      (World.redisAfter setting env now redis op) := by
    apply refilled.leave (.inr rfl) (redisAfter_lock op)
    intro _ missing
    refine (cachedList_congr ?_).trans missing
    apply World.redisAfter_lead _ fun _ _ _ => by decide
    rintro window contentType items canaryTtl rfl
    exact permitted.elim
  cases op with
  | spawn task =>
      cases task with
      | refreshLeaderboard window contentType since limit => exact permitted.elim
      | _ => exact kept.join ⟨by rintro ⟨⟩, by rintro ⟨⟩, by rintro ⟨⟩, trivial⟩
  | _ => exact kept.quiet rfl

variable {event : Event (likeService setting)} {after : World} {spawned : List LikeCall}

/-- The step law: whatever call takes the next step, at most one is on its way to a query. -/
theorem refilled_step (refilled : Refilled setting lead phases event.before.redis)
    (at_i : phases[event.thread]? = some refill) (permitted : refill.Permitted event.op)
    (handled : World.handle setting event.env event.op event.before =
      some (event.res, after, spawned))
    (up : ReadsAnswered event)
    (lasts : lead.key .lock ∈ event.env.expired → ∀ refill ∈ phases, ¬ refill.Locks lead)
    (alone : event.op.readsBoard = some (lead.window, lead.contentType) →
      cachedList lead setting (event.before.redis.drop event.env.expired) = none →
      ∀ (j : Nat) (other : Refill), j ≠ event.thread → phases[j]? = some other →
        ¬ other.Past lead) :
    Refilled setting lead
      (phases.set event.thread (refill.advance event.op event.res) ++ spawned.map Refill.start)
      after.redis := by
  have found := refilled.drop event.env.expired lasts
  obtain ⟨_, _, redis, _⟩ := World.handle_after handled
  have started := World.handle_started handled
  obtain ⟨i, call, env, op, answer, world⟩ := event
  rw [redis, started]
  cases refill with
  | aside => exact found.pass answer permitted
  | done => exact permitted.elim
  | asked own =>
      obtain rfl : op = .utcNow := permitted
      refine .quiet rfl ?_
      simp only [Refill.advance]
      split
      · exact found.leave (.inl rfl) id fun _ => id
      · next since valid =>
          exact found.move (by rintro ⟨⟩) id (by rintro ⟨⟩) (by rintro ⟨⟩) (fun _ => id)
            (by rintro ⟨⟩) (colon_notMem_of_windowStart valid)
  | dated own =>
      obtain rfl : op = .cacheGetLeaderboardWithCanary own.window own.contentType := permitted
      refine .quiet rfl ?_
      have plain : (Refill.dated own).Plain := refilled.plain _ (List.mem_of_getElem? at_i)
      have healthy : env.fault = none := up (by simp [LikeOp.readsBoard])
      have read : answer = RedisLikeRepository.getLeaderboardWithCanary setting.itemsJson none
          own.window own.contentType (world.redis.drop env.expired) := by
        rw [← healthy]
        exact (Prod.mk.inj (Option.some.inj handled)).1.symm
      have cached : cachedList own setting (world.redis.drop env.expired) =
          (unwrapOr (none, false) answer).1 := by
        rw [read]
        rfl
      apply found.read plain answer cached
      rintro rfl missing
      exact alone rfl missing
  | stale own =>
      obtain rfl : op = .cacheAcquireRefreshLock own.window own.contentType := permitted
      refine .quiet rfl ?_
      have taken : answer = (RedisLikeRepository.acquireRefreshLock env.fault
          (world.clock + env.elapse) own.window own.contentType
          (world.redis.drop env.expired)).1 :=
        (Prod.mk.inj (Option.some.inj handled)).1.symm
      rw [taken]
      exact found.acquire at_i
  | holding own =>
      obtain ⟨since, limit, rfl⟩ := permitted
      exact found.spawn at_i
  | querying own task =>
      obtain ⟨since, limit, rfl⟩ := permitted
      refine .quiet rfl ?_
      exact found.fetch answer at_i
  | writing own =>
      obtain ⟨items, canaryTtl, rfl⟩ := permitted
      refine .quiet rfl ?_
      exact found.write at_i

end Step

/-! ### Calls and their stages -/

/-- The stage of a call is about the leaderboard of the call. -/
structure Fits (call : LikeCall) (refill : Refill) : Prop where
  own : ∀ lead, refill.lead = some lead → call.lead = some lead
  other : refill = .aside → call.lead = none
  task : ∀ lead, refill = .querying lead true → call.refreshes = true

theorem fits_start (call : LikeCall) : Fits call (.start call) := by
  cases call with
  | getTopLikes contentType windowStr limit =>
      exact ⟨fun _ is => is, by rintro ⟨⟩, by rintro _ ⟨⟩⟩
  | refreshLeaderboard window contentType since limit =>
      exact ⟨fun _ is => is, by rintro ⟨⟩, fun _ _ => rfl⟩
  | _ => exact ⟨by rintro _ ⟨⟩, fun _ => rfl, by rintro _ ⟨⟩⟩

theorem Fits.advance {call : LikeCall} {refill : Refill} (fits : Fits call refill)
    (op : LikeOp) (answer : op.Res) : Fits call (refill.advance op answer) := by
  unfold Refill.advance
  split
  · split
    · exact ⟨by rintro _ ⟨⟩, by rintro ⟨⟩, by rintro _ ⟨⟩⟩
    · exact ⟨fits.own, by rintro ⟨⟩, by rintro _ ⟨⟩⟩
  · split
    · exact ⟨fits.own, by rintro ⟨⟩, by rintro _ ⟨⟩⟩
    · exact ⟨by rintro _ ⟨⟩, by rintro ⟨⟩, by rintro _ ⟨⟩⟩
    · exact ⟨fits.own, by rintro ⟨⟩, by rintro _ ⟨⟩⟩
  · split
    · exact ⟨fits.own, by rintro ⟨⟩, by rintro _ ⟨⟩⟩
    · exact ⟨by rintro _ ⟨⟩, by rintro ⟨⟩, by rintro _ ⟨⟩⟩
  · exact ⟨by rintro _ ⟨⟩, by rintro ⟨⟩, by rintro _ ⟨⟩⟩
  · exact ⟨fits.own, by rintro ⟨⟩, by rintro _ ⟨⟩⟩
  · exact ⟨by rintro _ ⟨⟩, by rintro ⟨⟩, by rintro _ ⟨⟩⟩
  · exact ⟨by rintro _ ⟨⟩, by rintro ⟨⟩, by rintro _ ⟨⟩⟩
  · exact fits

section Threads

variable {setting : Setting} {lead : Lead} {thread : Thread (likeService setting)}
  {refill : Refill}

/-- Where the trace leads a call, the stage is about the leaderboard of the call. -/
theorem fits_controlAfter (i : Nat) (call : LikeCall)
    (trace : List (Event (likeService setting))) :
    Fits call (controlAfter (M := likeService setting) Refill.advance i (.start call) trace) :=
  controlAfter_preserves (M := likeService setting) (Fits call)
    (fun _ _ _ fits => fits.advance _ _) (fits_start call)

/-- A thread that is not done performs a step that its stage permits. -/
theorem Refill.nextOp (obeys : Refill.Refills Refill.Final thread.rest refill)
    (on_its_way : refill.lead ≠ none) : ∃ op, thread.nextOp = some op ∧ refill.Permitted op := by
  unfold Thread.nextOp
  cases is : thread.rest with
  | ret outcome =>
      rw [is] at obeys
      obtain ⟨rfl | rfl, _⟩ := obeys
      · exact absurd rfl on_its_way
      · exact absurd rfl on_its_way
  | perform op next =>
      rw [is] at obeys
      exact ⟨op, rfl, obeys.1⟩

theorem Fits.underWay (fits : Fits thread.call refill)
    (obeys : Refill.Refills Refill.Final thread.rest refill) (past : refill.Past lead) :
    UnderWay lead thread := by
  have on_its_way : refill.lead = some lead ∧ ∀ op, refill.Permitted op → op.fills = true := by
    cases refill with
    | stale own => exact ⟨congrArg some past, by rintro _ rfl; rfl⟩
    | holding own => exact ⟨congrArg some past, by rintro _ ⟨_, _, rfl⟩; rfl⟩
    | querying own task => exact ⟨congrArg some past, by rintro _ ⟨_, _, rfl⟩; rfl⟩
    | writing own => exact ⟨congrArg some past, by rintro _ ⟨_, _, rfl⟩; rfl⟩
    | _ => exact past.elim
  obtain ⟨own, fills⟩ := on_its_way
  obtain ⟨op, next, permitted⟩ := Refill.nextOp obeys (by simp [own])
  refine ⟨fits.own lead own, ?_⟩
  rw [next]
  exact fills op permitted

theorem Fits.holdsRefresh (fits : Fits thread.call refill)
    (obeys : Refill.Refills Refill.Final thread.rest refill) (locks : refill.Locks lead) :
    HoldsRefresh lead thread := by
  have on_its_way : refill.lead = some lead ∧
      ((∀ op, refill.Permitted op → op.startsRefresh = true) ∨
        thread.call.refreshes = true) := by
    cases refill with
    | holding own => exact ⟨congrArg some locks, .inl (by rintro _ ⟨_, _, rfl⟩; rfl)⟩
    | querying own task =>
        cases task with
        | true => exact ⟨congrArg some locks, .inr (fits.task own rfl)⟩
        | false => exact locks.elim
    | _ => exact locks.elim
  obtain ⟨own, holds⟩ := on_its_way
  obtain ⟨op, next, permitted⟩ := Refill.nextOp obeys (by simp [own])
  refine ⟨fits.own lead own, ?_⟩
  rw [next]
  rcases holds with starts | task
  · simp [starts op permitted]
  · simp [task]

/-- A thread at a query is on its way to one. -/
theorem Fits.busy (fits : Fits thread.call refill)
    (obeys : Refill.Refills Refill.Final thread.rest refill) (queries : QueriesTop lead thread) :
    refill.Busy lead := by
  obtain ⟨about, kind⟩ := queries
  unfold Thread.nextOp at kind
  cases is : thread.rest with
  | ret outcome =>
      rw [is] at kind
      cases kind
  | perform op next =>
      rw [is] at kind obeys
      have permitted := obeys.1
      cases op with
      | dbGetTopLikes contentType since limit =>
          cases refill with
          | aside =>
              rw [fits.other rfl] at about
              cases about
          | querying own task => exact Option.some.inj ((fits.own own rfl).symm.trans about)
          | done => exact permitted.elim
          | asked own => cases permitted
          | dated own => cases permitted
          | stale own => cases permitted
          | holding own =>
              obtain ⟨_, _, absurd⟩ := permitted
              cases absurd
          | writing own =>
              obtain ⟨_, _, absurd⟩ := permitted
              cases absurd
      | _ => cases kind

end Threads

/-! ### Runs -/

section Runs

variable {setting : Setting} {lead : Lead} {trace : List (Event (likeService setting))}
  {last : Pool (likeService setting)}

/-- The conditions on a step: Redis is up, the refresh lock lasts while it is held, and a
request that finds no list is alone. -/
structure Filling (setting : Setting) (lead : Lead) (pool : Pool (likeService setting))
    (event : Event (likeService setting)) : Prop where
  up : ReadsAnswered event
  lasts : LockLasts lead pool event
  alone : FillsAlone lead pool event

theorem refilled_start {calls : List LikeCall} (requests : ∀ call ∈ calls, call.refreshes = false)
    (redis : Redis) : Refilled setting lead (calls.map Refill.start) redis := by
  have starts : ∀ refill ∈ calls.map Refill.start,
      refill = .aside ∨ ∃ own, refill = .asked own := by
    intro refill member
    obtain ⟨call, called, rfl⟩ := List.mem_map.mp member
    cases call with
    | getTopLikes contentType windowStr limit => exact .inr ⟨_, rfl⟩
    | refreshLeaderboard window contentType since limit =>
        have absurd := requests _ called
        cases absurd
    | _ => exact .inl rfl
  constructor
  · intro i j one two at_i _ busy
    rcases starts one (List.mem_of_getElem? at_i) with rfl | ⟨own, rfl⟩ <;> exact busy.elim
  · intro refill member locks
    rcases starts refill member with rfl | ⟨own, rfl⟩ <;> exact locks.elim
  · intro i at_i
    rcases starts _ (List.mem_of_getElem? at_i) with absurd | ⟨own, absurd⟩ <;> cases absurd
  · intro refill member
    rcases starts refill member with rfl | ⟨own, rfl⟩ <;> trivial

/-- In a run of requests in which every step meets the conditions, no two top-likes queries for
the leaderboard are ever in flight at once. -/
theorem queried_apart (setting : Setting) (lead : Lead) (calls : List LikeCall) (world : World)
    (trace : List (Event (likeService setting))) (last : Pool (likeService setting))
    (requests : ∀ call ∈ calls, call.refreshes = false)
    (run : RunWhere (Filling setting lead) (Pool.start world calls) trace last) :
    QueriedApart lead last := by
  have tails : ∀ (refill : Refill) (target : LikeCall), refill.Final (.inl target) →
      True ∧ refill = Refill.start target := by
    rintro refill target ⟨_, reply, absurd⟩
    cases absurd
  have start : Refilled setting lead (calls.map Refill.start) world.redis :=
    refilled_start requests world.redis
  obtain ⟨phases, phased, led, refilled⟩ := run.phases
    (fun _ phases (world : World) => Refilled setting lead phases world.redis)
    (fun call _ => Refill.body_refills setting call) tails (fun _ _ => trivial) start (by
      intro before event later pool phases refill next spawned split meets phased led _ at_i
        permitted handled refilled
      -- the stages stand beside the threads that the conditions speak of
      have beside : ∀ (j : Nat) (other : Refill), phases[j]? = some other →
          ∃ thread, pool.threads[j]? = some thread ∧ Fits thread.call other ∧
            Refill.Refills Refill.Final thread.rest other := by
        intro j other at_j
        have bound : j < pool.threads.length :=
          phased.length_eq ▸ (List.getElem?_eq_some_iff.mp at_j).1
        have there := List.getElem?_eq_getElem bound
        refine ⟨_, there, ?_, phased.obeys j _ other there at_j⟩
        rw [Option.some.inj (at_j.symm.trans (led j _ there))]
        exact fits_controlAfter j _ before
      refine ⟨fun _ _ => trivial, trivial, ?_⟩
      apply refilled_step refilled at_i permitted handled meets.up
      · intro expires other member locks
        obtain ⟨j, at_j⟩ := List.getElem?_of_mem member
        obtain ⟨thread, there, fits, obeys⟩ := beside j other at_j
        exact meets.lasts expires thread (List.mem_of_getElem? there)
          (fits.holdsRefresh obeys locks)
      · intro reads missing j other ne at_j past
        obtain ⟨thread, there, fits, obeys⟩ := beside j other at_j
        exact meets.alone reads missing j thread there ne (fits.underWay obeys past))
  intro i j one two at_i at_j queries queriesToo
  have busy : ∀ (k : Nat) (thread : Thread (likeService setting)),
      last.threads[k]? = some thread → QueriesTop lead thread →
        (controlAfter (M := likeService setting) Refill.advance k (.start thread.call)
          trace).Busy lead :=
    fun k thread at_k queries => (fits_controlAfter k thread.call trace).busy
      (phased.obeys k thread _ at_k (led k thread at_k)) queries
  exact refilled.alone i j _ _ (led i one at_i) (led j two at_j) (busy i one at_i queries)
    (busy j two at_j queriesToo)

end Runs

/-! ### Requests for one leaderboard -/

def postBoard : Lead := ⟨"all", ⟨"post"⟩⟩

/-- So many requests for the leaderboard of all posts. -/
def boardRequests (n : Nat) : List LikeCall :=
  List.replicate n (.getTopLikes ⟨"post"⟩ "all" 50)

/-- The executable form of the conditions on a step, for a lock that does not leave. -/
def filling? (setting : Setting) (lead : Lead) (pool : Pool (likeService setting))
    (event : Event (likeService setting)) : Bool :=
  event.env.fault = none && decide (lead.key .lock ∉ event.env.expired) &&
    (!decide (event.op.readsBoard = some (lead.window, lead.contentType)) ||
      (cachedList lead setting (event.before.redis.drop event.env.expired)).isSome ||
      (List.range pool.threads.length).all fun i => i = event.thread ||
        pool.threads[i]?.all fun thread => !decide (UnderWay lead thread))

theorem Filling.of_filling? {setting : Setting} {lead : Lead} {pool : Pool (likeService setting)}
    {event : Event (likeService setting)} (checked : filling? setting lead pool event = true) :
    Filling setting lead pool event := by
  simp only [filling?, Bool.and_eq_true, decide_eq_true_eq] at checked
  obtain ⟨⟨healthy, kept⟩, alone⟩ := checked
  refine ⟨fun _ => healthy, fun gone => absurd gone kept, ?_⟩
  intro reads missing i thread at_i ne underWay
  rw [reads, missing] at alone
  simp only [decide_true, Bool.not_true, Option.isSome_none, Bool.false_or,
    List.all_eq_true] at alone
  have each := alone i (List.mem_range.mpr (List.getElem?_eq_some_iff.mp at_i).1)
  rw [at_i] at each
  simp [ne, underWay] at each

/-- Three requests: the first fills the cache alone, the canary expires, and of the other two
one starts the refresh. -/
theorem queried_apart_stale :
    ∃ trace last,
      RunWhere (Filling (showing twoRanked) postBoard) (Pool.start twoPosts (boardRequests 3))
        trace last ∧
      (∃ thread ∈ last.threads, QueriesTop postBoard thread) ∧ QueriedApart postBoard last := by
  obtain ⟨trace, last, run, passed⟩ := RunWhere.exists_of_execWhere
    (filling? (showing twoRanked) postBoard)
    ([0, 0, 0, 0, 1].map (fun i => (i, Surroundings.calm)) ++
      [(1, { Surroundings.calm with expired := [postBoard.key .canary] })] ++
      [2, 2, 1, 2, 1].map fun i => (i, Surroundings.calm))
    (Pool.start twoPosts (boardRequests 3))
    (fun _ last => last.threads.any fun thread => decide (QueriesTop postBoard thread))
    (by decide +kernel)
  obtain ⟨thread, member, queries⟩ := List.any_eq_true.mp passed
  have met := run.mono fun _ _ => Filling.of_filling?
  refine ⟨trace, last, met, ⟨thread, member, of_decide_eq_true queries⟩, ?_⟩
  exact queried_apart _ _ (boardRequests 3) twoPosts trace last (by decide) met

/-- Two requests find no list in the cache, and both go on to the database. -/
theorem queried_at_once :
    ∃ trace last,
      RunWhere (fun pool event => ReadsAnswered event ∧ LockLasts postBoard pool event)
        (Pool.start (M := likeService (showing twoRanked)) twoPosts (boardRequests 2)) trace last ∧
      ¬ QueriedApart postBoard last := by
  obtain ⟨trace, last, run, passed⟩ := Run.exists_of_exec (M := likeService (showing twoRanked))
    ([0, 1, 0, 1].map fun i => (i, Surroundings.calm)) (Pool.start twoPosts (boardRequests 2))
    (fun trace last => (trace.all fun event => event.env.fault = none && event.env.expired = []) &&
      [0, 1].all fun i => last.threads[i]?.any fun thread => decide (QueriesTop postBoard thread))
    (by decide +kernel)
  simp only [Bool.and_eq_true, List.all_eq_true, decide_eq_true_eq] at passed
  obtain ⟨calm, each⟩ := passed
  refine ⟨trace, last, run.runWhere ?_, fun apart => ?_⟩
  · intro event member pool
    obtain ⟨healthy, none_expired⟩ := calm event member
    refine ⟨fun _ => healthy, fun gone => ?_⟩
    rw [none_expired] at gone
    cases gone
  · obtain ⟨one, at_zero, first⟩ := (Option.any_eq_true _ _).mp (each 0 (by simp))
    obtain ⟨two, at_one, second⟩ := (Option.any_eq_true _ _).mp (each 1 (by simp))
    have same := apart 0 1 one two at_zero at_one (of_decide_eq_true first)
      (of_decide_eq_true second)
    cases same

end SocialApi
