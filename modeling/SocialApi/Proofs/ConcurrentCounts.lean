/-
Module: SocialApi.Proofs.ConcurrentCounts
Purpose: Likes, unlikes and count reads of one item in any interleaving: when all have
  come back, the cached count is the number of rows exactly when the last write of a
  count that was read through fell in step with the counters.
Trusted boundary: none
Main exports:
  concurrent_likes_counted_iff, concurrent_unlikes_counted_iff, fills_keep_count_iff
-/
import SocialApi.Proofs.CountCoherence
import SocialApi.Proofs.CountLedger

namespace SocialApi

open Process
open LikeService
open Ledger
open RedisLikeRepository (formatCountKey)

variable {setting : Setting} {contentType : ContentType} {contentId : ContentId}

/-! ### The likes that are stored -/

section Keys

variable {env : Surroundings} {op : LikeOp} {world after first last : World}
  {answer : op.Res} {spawned : List LikeCall}
  {key : UserId × ContentType × ContentId}

/-- After a step, the likes stored are those that were and are not deleted, and the one
that is saved. -/
theorem stored_step (noFault : env.fault = none)
    (handled : World.handle setting env op world = some (answer, after, spawned)) :
    key ∈ after.likes.rows.map Like.key ↔
      (key ∈ world.likes.rows.map Like.key ∧
        ∀ userId contentType contentId, op = .dbRemove userId contentType contentId →
          key ≠ (userId, contentType, contentId)) ∨
      savedLike op answer = some key := by
  obtain ⟨_, likes, _, _⟩ := World.handle_after handled
  cases op with
  | dbSave like =>
      rcases (World.handle_save handled).2 with ⟨e, rfl, table, _⟩ | ⟨rfl, found, table⟩ |
        ⟨rfl, _, newKey, freshId, table⟩
      · simp [table, savedLike]
      · rw [LikesTable.find_isSome_iff] at found
        simp only [table, savedLike, Option.some.injEq]
        constructor
        · intro member
          exact .inl ⟨member, by simp⟩
        · rintro (⟨member, _⟩ | rfl)
          · exact member
          · exact found
      · rw [table, LikesTable.mem_keys_insert]
        simp [savedLike]
  | dbRemove userId contentType contentId =>
      rcases (World.handle_remove handled).2 with ⟨e, _, fault, _⟩ | ⟨rfl, table⟩
      · exact absurd noFault fault
      · rw [table, LikesTable.mem_keys_erase]
        simp only [savedLike, or_false, LikeOp.dbRemove.injEq, reduceCtorEq]
        apply and_congr_right
        intro _
        constructor
        · rintro ne _ _ _ ⟨rfl, rfl, rfl⟩
          exact ne
        · intro ne
          exact ne _ _ _ ⟨rfl, rfl, rfl⟩
  | _ =>
      rw [likes]
      simp [World.likesAfter, savedLike]

variable {trace : List (Event (likeService setting))}

/-- After a run without deletes, the likes stored are those that were and those saved. -/
theorem stored_run (healthy : HealthyRun contentType contentId setting trace)
    (replays : Replays (M := likeService setting) first trace last)
    (noDelete : ∀ event ∈ trace, ∀ userId contentType contentId,
      event.op ≠ .dbRemove userId contentType contentId) :
    key ∈ last.likes.rows.map Like.key ↔
      key ∈ first.likes.rows.map Like.key ∨
        ∃ event ∈ trace, savedLike event.op event.res = some key := by
  apply replays.history (fun before (world : World) => key ∈ world.likes.rows.map Like.key ↔
    key ∈ first.likes.rows.map Like.key ∨
      ∃ event ∈ before, savedLike event.op event.res = some key)
  · intro before event after spawned member handled inductionHypothesis
    rw [stored_step (healthy.noFault event member) handled, inductionHypothesis]
    have kept : ∀ userId contentType contentId,
        event.op = .dbRemove userId contentType contentId →
          key ≠ (userId, contentType, contentId) := by
      intro userId contentType contentId same
      exact absurd same (noDelete event member _ _ _)
    constructor
    · rintro (⟨stored | ⟨earlier, among, saved⟩, _⟩ | saved)
      · exact .inl stored
      · exact .inr ⟨earlier, List.mem_append_left _ among, saved⟩
      · exact .inr ⟨event, by simp, saved⟩
    · rintro (stored | ⟨earlier, among, saved⟩)
      · exact .inl ⟨.inl stored, kept⟩
      · rcases List.mem_append.mp among with old | new
        · exact .inl ⟨.inr ⟨earlier, old, saved⟩, kept⟩
        · rw [List.mem_singleton.mp new] at saved
          exact .inr saved
  · simp

end Keys

/-- A like is saved by an insert. -/
theorem savedLike_some {op : LikeOp} {answer : op.Res}
    {key : UserId × ContentType × ContentId} (saved : savedLike op answer = some key) :
    ∃ like, op = .dbSave like ∧ like.key = key := by
  cases op with
  | dbSave like =>
      cases answer with
      | error e => cases saved
      | ok existed => exact ⟨like, rfl, Option.some.inj saved⟩
  | _ => cases saved

/-! ### Likes of one item -/

section Likes

variable {world : World} {users : List UserId}
  {trace : List (Event (likeService setting))} {last : Pool (likeService setting)}

/-- The `add_like` calls of the users on the item. -/
def likeCalls (contentType : ContentType) (contentId : ContentId) (users : List UserId) :
    List LikeCall :=
  users.map fun userId => .addLike ⟨userId, contentId, contentType⟩

/-- When their calls have returned, exactly the users have rows. -/
theorem likers_run
    (run : Run (M := likeService setting)
      (Pool.start world (likeCalls contentType contentId users)) trace last)
    (healthy : HealthyRun contentType contentId setting trace)
    (noRows : world.likes.countOf contentType contentId = 0)
    (returned : ∀ thread ∈ last.threads,
      thread.call ∈ likeCalls contentType contentId users → thread.Returned)
    (userId : UserId) :
    (userId, contentType, contentId) ∈ last.state.likes.rows.map Like.key ↔
      userId ∈ users := by
  have granted := healthy.granted run.replays
  obtain ⟨governed, allowed⟩ := CallTracks.of_run run granted
  have steps := no_unlike_steps run healthy (by simp [likeCalls])
  have notBefore : (userId, contentType, contentId) ∉ world.likes.rows.map Like.key := by
    intro member
    obtain ⟨like, among, key⟩ := List.mem_map.mp member
    have item := List.countP_eq_zero.mp noRows like among
    cases key
    simp at item
  rw [stored_run healthy run.replays fun event member => (steps event member).1]
  constructor
  · rintro (before | ⟨event, member, saved⟩)
    · exact absurd before notBefore
    · obtain ⟨like, op, key⟩ := savedLike_some saved
      obtain ⟨before, after, split⟩ := List.append_of_mem member
      have permitted := allowed before event after split
      rw [op] at permitted
      obtain ⟨_, likeCmd, called, cmdKey⟩ := permitted
      rw [CallTracks.call_controlAfter] at called
      rcases CallTracks.event_call run granted event member with known | background
      · obtain ⟨liker, among, same⟩ := List.mem_map.mp known
        rw [called] at same
        cases same
        cases key.symm.trans cmdKey
        exact among
      · rw [called] at background
        exact background.elim
  · intro member
    have call : LikeCall.addLike ⟨userId, contentId, contentType⟩ ∈
        likeCalls contentType contentId users := List.mem_map.mpr ⟨userId, member, rfl⟩
    obtain ⟨i, at_i⟩ := List.getElem?_of_mem call
    have started : (Pool.start (M := likeService setting) world
        (likeCalls contentType contentId users)).threads[i]? =
        some (Thread.start (LikeCall.addLike ⟨userId, contentId, contentType⟩)) := by
      simp [Pool.start, at_i]
    obtain ⟨thread, at_thread, same⟩ := run.thread_call started
    have called : thread.call = .addLike ⟨userId, contentId, contentType⟩ := same
    obtain ⟨reply, ended⟩ := returned thread (List.mem_of_getElem? at_thread) (called ▸ call)
    have obeys := governed.obeys i thread at_thread
    rw [ended] at obeys
    have saved := obeys.2 ⟨userId, contentId, contentType⟩
      ((CallTracks.call_controlAfter i thread.call trace).trans called)
    obtain ⟨front, event, back, split, _, stored⟩ := CallTracks.saved_origin saved
    exact .inr ⟨event, by rw [split]; simp, stored⟩

/-- Likes of one item are counted once per user exactly when the last read-through that
wrote the count had found as many first likes as were counted up before it wrote. -/
theorem concurrent_likes_counted_iff
    (run : Run (M := likeService setting)
      (Pool.start world (likeCalls contentType contentId users)) trace last)
    (healthy : HealthyRun contentType contentId setting trace)
    (noRows : world.likes.countOf contentType contentId = 0)
    (uncached : world.redis (formatCountKey contentType contentId) = none)
    (returned : ∀ thread ∈ last.threads,
      thread.call ∈ likeCalls contentType contentId users → thread.Returned) :
    (last.state.likes.countOf contentType contentId = users.dedup.length ∧
        ∀ entry, last.state.redis (formatCountKey contentType contentId) = some entry →
          entry.value = .int users.dedup.length) ↔
      ∀ fill : LastFill contentType contentId trace, fill.InStep 0 0 := by
  have rows : last.state.likes.countOf contentType contentId = users.dedup.length := by
    apply LikesTable.countOf_eq_length users.nodup_dedup
    intro userId
    rw [likers_run run healthy noRows returned, List.mem_dedup]
  have requests : ∀ call ∈ likeCalls contentType contentId users,
      ¬ call.Background := by
    simp [likeCalls, LikeCall.Background]
  have noUnlike : ∀ call ∈ likeCalls contentType contentId users,
      ∀ userId otherType otherId, call ≠ .removeLike userId otherType otherId := by
    simp [likeCalls]
  have numeric : world.redis.Numeric (formatCountKey contentType contentId) := by
    intro text deadline present
    rw [uncached] at present
    cases present
  have allCountedDown : notCountedDown contentType contentId trace = 0 :=
    notCountedDown_eq_zero run healthy noUnlike
  have replays : Replays (M := likeService setting) world trace last.state := run.replays
  have numericLast := (booksOf_run healthy numeric replays).2
  have unfilled : IsEmpty (LastFill contentType contentId trace) → ∀ cached,
      last.state.redis.number (formatCountKey contentType contentId) = some cached →
        cached = last.state.likes.countOf contentType contentId := by
    intro empty cached present
    have counted := number_unfilled healthy numeric replays
      (unfilled_of_isEmpty run healthy requests empty)
    have start := (Redis.number_eq_none_iff numeric).mpr uncached
    have moved := countersNet_eq run healthy returned
    have rowsMoved := rows_run healthy numeric replays
    rw [present, start, Option.getD_some, Option.getD_none] at counted
    rw [noRows] at rowsMoved
    rw [allCountedDown] at moved
    omega
  have right := cached_right_iff run healthy numeric returned
  rw [noRows, allCountedDown] at right
  rw [Redis.number_value_iff numericLast, ← rows, right]
  constructor
  · rintro ⟨_, _, inStep⟩
    exact inStep
  · intro inStep
    exact ⟨rfl, unfilled, inStep⟩

/-- The content of the examples. -/
def postType : ContentType := ⟨"post"⟩

def postId : ContentId := ⟨9⟩

/-- Two users like the post, and their count is cached. -/
def twoCached : World :=
  { twoLikes with
    redis := Redis.empty.put (RedisLikeRepository.formatCountKey postType postId)
      ⟨.int 2, some 300⟩ }

/-- A call takes its next steps; a row it inserts gets the id. -/
def turns (thread : Nat) (newId : Uuid) (steps : Nat) : List (Nat × Surroundings) :=
  List.replicate steps (thread, { Surroundings.calm with newId := newId })

/-- The rows of the post and the number cached for it. -/
def CountsAre (world : World) (rows cached : Nat) : Prop :=
  world.likes.countOf postType postId = rows ∧
    world.redis.number (formatCountKey postType postId) = some (cached : Int)

instance (world : World) (rows cached : Nat) : Decidable (CountsAre world rows cached) :=
  inferInstanceAs (Decidable (_ ∧ _))

theorem CountsAre.value_iff {world : World} {rows cached n : Nat}
    (counts : CountsAre world rows cached) :
    (∀ entry, world.redis (formatCountKey postType postId) = some entry →
      entry.value = .int n) ↔ cached = n := by
  rw [Redis.number_value_iff (Redis.numeric_of_number counts.2), counts.2]
  simp

/-- What the examples check of a run. -/
def endsWith (rows cached : Nat) (trace : List (Event (likeService setting)))
    (last : Pool (likeService setting)) : Bool :=
  last.done? && healthyRun? postType postId trace && decide (CountsAre last.state rows cached)

theorem endsWith_iff {rows cached : Nat} {trace : List (Event (likeService .reference))}
    {last : Pool (likeService .reference)} (ends : endsWith rows cached trace last = true) :
    last.Done ∧ HealthyRun postType postId .reference trace ∧
      CountsAre last.state rows cached := by
  simp only [endsWith, Bool.and_eq_true, decide_eq_true_eq] at ends
  exact ⟨Pool.done_of_done? ends.1.1, .of_check _ _ (by decide) ends.1.2, ends.2⟩

/-- Two users like the post, the first one twice: the second call of the first user reads
through once the first has been counted up. -/
theorem concurrent_likes_counted_late :
    ∃ trace last, Run (M := likeService .reference)
        (Pool.start (World.new .empty .empty 0)
          (likeCalls postType postId [⟨1⟩, ⟨2⟩, ⟨1⟩])) trace last ∧
      CountsAre last.state 2 2 ∧
      ∀ fill : LastFill postType postId trace, fill.InStep 0 0 := by
  obtain ⟨trace, last, run, passed⟩ := Run.exists_of_exec (M := likeService .reference)
    (turns 0 1 3 ++ turns 2 3 7 ++ turns 0 1 3 ++ turns 2 3 7 ++ turns 1 2 6 ++
      turns 3 4 1 ++ turns 4 4 1 ++ turns 5 4 1)
    (Pool.start (World.new .empty .empty 0) (likeCalls postType postId [⟨1⟩, ⟨2⟩, ⟨1⟩]))
    (endsWith 2 2) (by decide +kernel)
  obtain ⟨done, healthy, counts⟩ := endsWith_iff passed
  refine ⟨trace, last, run, counts, ?_⟩
  apply (concurrent_likes_counted_iff run healthy (by decide) rfl
    fun thread member _ => done thread member).mp
  exact ⟨counts.1, counts.value_iff.mpr (by decide)⟩

/-- One user likes the post twice at once: the duplicate reads the row through before the
first call counts it up, and the cached count is 2. -/
theorem concurrent_likes_counted_twice :
    ∃ trace last, Run (M := likeService .reference)
        (Pool.start (World.new .empty .empty 0) (likeCalls postType postId [⟨1⟩, ⟨1⟩]))
        trace last ∧
      HealthyRun postType postId .reference trace ∧ last.Done ∧
      ¬ (last.state.likes.countOf postType postId = [(⟨1⟩ : UserId), ⟨1⟩].dedup.length ∧
        ∀ entry, last.state.redis (formatCountKey postType postId) = some entry →
          entry.value = .int [(⟨1⟩ : UserId), ⟨1⟩].dedup.length) := by
  obtain ⟨trace, last, run, passed⟩ := Run.exists_of_exec (M := likeService .reference)
    (turns 0 1 3 ++ turns 1 2 14 ++ turns 0 1 3 ++ turns 2 3 1 ++ turns 3 3 1)
    (Pool.start (World.new .empty .empty 0) (likeCalls postType postId [⟨1⟩, ⟨1⟩]))
    (endsWith 1 2) (by decide +kernel)
  obtain ⟨done, healthy, counts⟩ := endsWith_iff passed
  refine ⟨trace, last, run, healthy, done, ?_⟩
  rintro ⟨_, values⟩
  exact absurd (counts.value_iff.mp values) (by decide)

end Likes

/-! ### Likes and unlikes of one item -/

section Unlikes

variable {world : World} {calls : List LikeCall}
  {trace : List (Event (likeService setting))} {last : Pool (likeService setting)}

/-- The call likes or unlikes the item. -/
def LikesOrUnlikes (contentType : ContentType) (contentId : ContentId) (call : LikeCall) :
    Prop :=
  ∃ userId, call = .addLike ⟨userId, contentId, contentType⟩ ∨
    call = .removeLike userId contentType contentId

/-- A warm count stays the number of rows through likes and unlikes exactly when every
delete is counted down, or, where a count is read through, the last that wrote the count
was in step. -/
theorem concurrent_unlikes_counted_iff
    (run : Run (M := likeService setting) (Pool.start world calls) trace last)
    (requests : ∀ call ∈ calls, LikesOrUnlikes contentType contentId call)
    (healthy : HealthyRun contentType contentId setting trace)
    (warm : world.redis.number (formatCountKey contentType contentId) =
      some (world.likes.countOf contentType contentId : Int))
    (returned : ∀ thread ∈ last.threads, thread.call ∈ calls → thread.Returned) :
    last.state.redis.number (formatCountKey contentType contentId) =
        some (last.state.likes.countOf contentType contentId : Int) ↔
      (IsEmpty (LastFill contentType contentId trace) →
        notCountedDown contentType contentId trace = 0) ∧
      ∀ fill : LastFill contentType contentId trace,
        fill.InStep (world.likes.countOf contentType contentId)
          (notCountedDown contentType contentId trace) := by
  have numeric := Redis.numeric_of_number warm
  have replays : Replays (M := likeService setting) world trace last.state := run.replays
  have notBackground : ∀ call ∈ calls, ¬ call.Background := by
    intro call member
    rcases requests call member with ⟨userId, rfl | rfl⟩ <;> exact id
  obtain ⟨cached, present⟩ : ∃ cached,
      last.state.redis.number (formatCountKey contentType contentId) = some cached := by
    have books := congrArg Books.cached (booksOf_run healthy numeric replays).1
    have there : (booksOf contentType contentId world).cached.isSome := by
      simp [booksOf, warm]
    have stays := cached_isSome_postAll (entries contentType contentId trace) there
    rw [← books] at stays
    exact Option.isSome_iff_exists.mp stays
  have unfilled (empty : IsEmpty (LastFill contentType contentId trace)) :
      cached = last.state.likes.countOf contentType contentId ↔
        notCountedDown contentType contentId trace = 0 := by
    have counted := number_unfilled healthy numeric replays
      (unfilled_of_isEmpty run healthy notBackground empty)
    have moved := countersNet_eq run healthy returned
    have rowsMoved := rows_run healthy numeric replays
    rw [present, warm, Option.getD_some, Option.getD_some] at counted
    omega
  have right := cached_right_iff run healthy numeric returned
  simp only [present, Option.some.injEq, forall_eq'] at right ⊢
  rw [right]
  apply and_congr_left
  intro _
  constructor
  · intro filled empty
    exact (unfilled empty).mp (filled empty)
  · intro filled empty
    exact (unfilled empty).mpr (filled empty)

/-- A count of the post is cached. -/
def warmWorld : World := World.new .empty
  (Redis.empty.put (formatCountKey postType postId) ⟨.int 0, some 300⟩) 0

/-- A like and then an unlike of the post. -/
theorem concurrent_unlikes_counted_apart :
    ∃ trace last, Run (M := likeService .reference)
        (Pool.start warmWorld
          [.addLike ⟨⟨1⟩, postId, postType⟩, .removeLike ⟨1⟩ postType postId]) trace last ∧
      CountsAre last.state 0 0 ∧
      (IsEmpty (LastFill postType postId trace) →
        notCountedDown postType postId trace = 0) ∧
      ∀ fill : LastFill postType postId trace,
        fill.InStep 0 (notCountedDown postType postId trace) := by
  obtain ⟨trace, last, run, passed⟩ := Run.exists_of_exec (M := likeService .reference)
    (turns 0 1 6 ++ turns 1 2 6 ++ turns 2 3 1 ++ turns 3 3 1)
    (Pool.start warmWorld
      [.addLike ⟨⟨1⟩, postId, postType⟩, .removeLike ⟨1⟩ postType postId])
    (endsWith 0 0) (by decide +kernel)
  obtain ⟨done, healthy, counts⟩ := endsWith_iff passed
  refine ⟨trace, last, run, counts, ?_⟩
  apply (concurrent_unlikes_counted_iff run (by simp [LikesOrUnlikes]) healthy
    (by decide) fun thread member _ => done thread member).mp
  rw [counts.2, counts.1]

/-- An unlike deletes the row that a like has not counted up yet, reads 0 and does not
count down: the post has no row and a cached count of 1. -/
theorem concurrent_unlikes_not_counted :
    ∃ trace last, Run (M := likeService .reference)
        (Pool.start warmWorld
          [.addLike ⟨⟨1⟩, postId, postType⟩, .removeLike ⟨1⟩ postType postId]) trace last ∧
      HealthyRun postType postId .reference trace ∧ last.Done ∧
      warmWorld.redis.number (formatCountKey postType postId) =
        some (warmWorld.likes.countOf postType postId : Int) ∧
      ¬ last.state.redis.number (formatCountKey postType postId) =
        some (last.state.likes.countOf postType postId : Int) := by
  obtain ⟨trace, last, run, passed⟩ := Run.exists_of_exec (M := likeService .reference)
    (turns 0 1 3 ++ turns 1 2 5 ++ turns 0 1 3 ++ turns 2 3 1 ++ turns 3 3 1)
    (Pool.start warmWorld
      [.addLike ⟨⟨1⟩, postId, postType⟩, .removeLike ⟨1⟩ postType postId])
    (endsWith 0 1) (by decide +kernel)
  obtain ⟨done, healthy, counts⟩ := endsWith_iff passed
  refine ⟨trace, last, run, healthy, done, by decide, ?_⟩
  rw [counts.2, counts.1]
  decide

end Unlikes

/-! ### Likes and count reads -/

section Fills

variable {world : World} {calls : List LikeCall}
  {trace : List (Event (likeService setting))} {last : Pool (likeService setting)}

/-- The call reads counts, or likes the item. -/
def ReadsOrLikes (contentType : ContentType) (contentId : ContentId) : LikeCall → Prop
  | .getLikeCount _ _ | .getLikesCountBatch _ => True
  | .addLike likeCmd =>
      likeCmd.contentType = contentType ∧ likeCmd.contentId = contentId
  | _ => False

/-- A count that is only counted up where it is there does not appear without a fill. -/
theorem cold_run {first final : World}
    (healthy : HealthyRun contentType contentId setting trace)
    (replays : Replays (M := likeService setting) first trace final)
    (cold : first.redis (formatCountKey contentType contentId) = none)
    (unfilled : ∀ event ∈ trace,
      (entryOf contentType contentId event.op event.res).isFill = false)
    (found : ∀ event ∈ trace, event.op = .cacheIncrement contentType contentId →
      event.before.redis (formatCountKey contentType contentId) ≠ none)
    (noCountdown : ∀ event ∈ trace, event.op ≠ .cacheDecrement contentType contentId) :
    final.redis (formatCountKey contentType contentId) = none := by
  apply replays.invariant
    (fun world : World => world.redis (formatCountKey contentType contentId) = none) _ cold
  intro event member after spawned handled absent
  have numeric : event.before.redis.Numeric (formatCountKey contentType contentId) := by
    intro text deadline present
    rw [absent] at present
    cases present
  obtain ⟨posted, numericAfter⟩ := booksOf_step healthy.timeToLive
    (healthy.noFault event member) (healthy.kept event member) numeric handled
  have before : (booksOf contentType contentId event.before).cached = none :=
    (Redis.number_eq_none_iff numeric).mpr absent
  have origin := entryOf_origin contentType contentId event.op event.res
  have notFilled := unfilled event member
  have cached := congrArg Books.cached posted
  apply (Redis.number_eq_none_iff numericAfter).mp
  cases entry : entryOf contentType contentId event.op event.res with
  | filled n =>
      rw [entry] at notFilled
      cases notFilled
  | countedUp =>
      rw [entry] at origin
      exact absurd absent (found event member origin)
  | countedDown =>
      rw [entry] at origin
      exact absurd origin (noCountdown event member)
  | _ =>
      rw [entry] at cached
      exact cached.trans before

/-- In runs of count reads and likes that count up only what is cached, the cached count
is the number of rows at the end exactly when the last fill was in step. -/
theorem fills_keep_count_iff
    (run : Run (M := likeService setting) (Pool.start world calls) trace last)
    (requests : ∀ call ∈ calls, ReadsOrLikes contentType contentId call)
    (healthy : HealthyRun contentType contentId setting trace)
    (coherent : CacheCoherent world)
    (found : ∀ event ∈ trace, event.op = .cacheIncrement contentType contentId →
      event.before.redis (formatCountKey contentType contentId) ≠ none)
    (done : last.Done) :
    (∀ entry, last.state.redis (formatCountKey contentType contentId) = some entry →
        entry.value = .int (last.state.likes.countOf contentType contentId)) ↔
      ∀ fill : LastFill contentType contentId trace,
        fill.InStep (world.likes.countOf contentType contentId) 0 := by
  have numeric := CountsMatch.numeric coherent contentType contentId
  have replays : Replays (M := likeService setting) world trace last.state := run.replays
  have returned : ∀ thread ∈ last.threads, thread.call ∈ calls → thread.Returned :=
    fun thread member _ => done thread member
  have notBackground : ∀ call ∈ calls, ¬ call.Background := by
    intro call member
    have request := requests call member
    cases call <;> first | exact id | exact request.elim
  have noUnlike : ∀ call ∈ calls, ∀ userId otherType otherId,
      call ≠ .removeLike userId otherType otherId := by
    rintro call member _ _ _ rfl
    exact requests _ member
  have allCountedDown : notCountedDown contentType contentId trace = 0 :=
    notCountedDown_eq_zero run healthy noUnlike
  have numericLast := (booksOf_run healthy numeric replays).2
  have unfilled : IsEmpty (LastFill contentType contentId trace) → ∀ cached,
      last.state.redis.number (formatCountKey contentType contentId) = some cached →
        cached = last.state.likes.countOf contentType contentId := by
    intro empty cached present
    have noFill := unfilled_of_isEmpty run healthy notBackground empty
    have counted := number_unfilled healthy numeric replays noFill
    have moved := countersNet_eq run healthy returned
    have rowsMoved := rows_run healthy numeric replays
    rcases CountsMatch.number coherent contentType contentId with absent | warm
    · have steps := no_unlike_steps run healthy noUnlike
      have cold := cold_run healthy replays
        ((Redis.number_eq_none_iff numeric).mp absent) noFill found
        fun event member => (steps event member).2 _ _
      rw [(Redis.number_eq_none_iff numericLast).mpr cold] at present
      cases present
    · rw [present, warm, Option.getD_some, Option.getD_some] at counted
      omega
  have right := cached_right_iff run healthy numeric returned
  rw [allCountedDown] at right
  rw [Redis.number_value_iff numericLast, right]
  constructor
  · rintro ⟨_, inStep⟩
    exact inStep
  · intro inStep
    exact ⟨unfilled, inStep⟩

/-- Every step that counts the item up has found its key, as a check. -/
def countsUpFound? (trace : List (Event (likeService setting))) : Bool :=
  trace.all fun event => match event.op with
    | .cacheIncrement otherType otherId =>
        (event.before.redis (formatCountKey otherType otherId)).isSome
    | _ => true

theorem countsUp_found {trace : List (Event (likeService setting))}
    (checked : countsUpFound? trace = true) :
    ∀ event ∈ trace, event.op = .cacheIncrement contentType contentId →
      event.before.redis (formatCountKey contentType contentId) ≠ none := by
  intro event member op
  have found := List.all_eq_true.mp checked event member
  rw [op] at found
  exact Option.isSome_iff_ne_none.mp found

theorem emptyWorld_coherent : CacheCoherent (World.new .empty .empty 0) := by
  intro contentType contentId entry present
  cases present

/-- A count is read through, and then the post is liked. -/
theorem fills_keep_count_read :
    ∃ trace last, Run (M := likeService .reference)
        (Pool.start (World.new .empty .empty 0)
          [.getLikeCount postType postId, .addLike ⟨⟨1⟩, postId, postType⟩]) trace last ∧
      CountsAre last.state 1 1 ∧
      ∀ fill : LastFill postType postId trace, fill.InStep 0 0 := by
  obtain ⟨trace, last, run, passed⟩ := Run.exists_of_exec (M := likeService .reference)
    (turns 0 1 8 ++ turns 1 1 6 ++ turns 2 1 1)
    (Pool.start (World.new .empty .empty 0)
      [.getLikeCount postType postId, .addLike ⟨⟨1⟩, postId, postType⟩])
    (fun trace last => endsWith 1 1 trace last && countsUpFound? trace) (by decide +kernel)
  rw [Bool.and_eq_true] at passed
  obtain ⟨done, healthy, counts⟩ := endsWith_iff passed.1
  refine ⟨trace, last, run, counts, ?_⟩
  apply (fills_keep_count_iff run (by simp [ReadsOrLikes]) healthy emptyWorld_coherent
    (countsUp_found passed.2) done).mp
  rw [counts.value_iff, counts.1]

/-- A batch reads 0, a single read fills 0 in, a like is counted up to 1, and then the
task of the batch writes its 0: the post has one row. -/
theorem fills_lose_count :
    ∃ trace last, Run (M := likeService .reference)
        (Pool.start (World.new .empty .empty 0)
          [.getLikesCountBatch [⟨postType, postId⟩], .getLikeCount postType postId,
            .addLike ⟨⟨1⟩, postId, postType⟩]) trace last ∧
      HealthyRun postType postId .reference trace ∧ last.Done ∧
      CacheCoherent (World.new .empty .empty 0) ∧
      (∀ event ∈ trace, event.op = .cacheIncrement postType postId →
        event.before.redis (formatCountKey postType postId) ≠ none) ∧
      ¬ ∀ entry, last.state.redis (formatCountKey postType postId) = some entry →
        entry.value = .int (last.state.likes.countOf postType postId) := by
  obtain ⟨trace, last, run, passed⟩ := Run.exists_of_exec (M := likeService .reference)
    (turns 0 1 5 ++ turns 1 1 8 ++ turns 2 1 6 ++ turns 3 2 1 ++ turns 4 2 1)
    (Pool.start (World.new .empty .empty 0)
      [.getLikesCountBatch [⟨postType, postId⟩], .getLikeCount postType postId,
        .addLike ⟨⟨1⟩, postId, postType⟩])
    (fun trace last => endsWith 1 0 trace last && countsUpFound? trace) (by decide +kernel)
  rw [Bool.and_eq_true] at passed
  obtain ⟨done, healthy, counts⟩ := endsWith_iff passed.1
  refine ⟨trace, last, run, healthy, done, emptyWorld_coherent,
    countsUp_found passed.2, ?_⟩
  rw [counts.value_iff, counts.1]
  decide

end Fills

end SocialApi
