/-
Module: SocialApi.Proofs.CountLedger
Purpose: Any run of LikeService keeps books on every item: its rows, and its cached
  count, are what the entries of the steps make of them.
Trusted boundary: none
Main exports:
  entryOf, booksOf, HealthyRun, booksOf_step, booksOf_run, LastFill,
  LastFill.cached, exists_lastFill, inserted_eq_countedUp
-/
import SocialApi.Ledger.Books
import SocialApi.Proofs.CallTracks

namespace SocialApi

open Process
open LikeService
open Ledger
open RedisLikeRepository (formatCountKey formatCountKey_inj)

variable (contentType : ContentType) (contentId : ContentId)

/-- The entry that a step makes in the books of the item. -/
def entryOf : (op : LikeOp) → op.Res → Entry
  | .dbSave like, .ok false =>
      if like.contentType = contentType ∧ like.contentId = contentId then .inserted
      else .other
  | .dbRemove _ otherType otherId, .ok true =>
      if otherType = contentType ∧ otherId = contentId then .deleted else .other
  | .cacheIncrement otherType otherId, _ =>
      if otherType = contentType ∧ otherId = contentId then .countedUp else .other
  | .cacheDecrement otherType otherId, _ =>
      if otherType = contentType ∧ otherId = contentId then .countedDown else .other
  | .cacheSetValue otherType otherId count, _ =>
      if otherType = contentType ∧ otherId = contentId then .filled count else .other
  | .cacheSetCountsBatch counts, _ =>
      match (counts.filter fun entry =>
          entry.contentType = contentType ∧ entry.contentId = contentId).getLast? with
      | none => .other
      | some entry => .filled entry.count
  | _, _ => .other

/-- The books of the item. -/
def booksOf (world : World) : Books where
  rows := world.likes.countOf contentType contentId
  cached := world.redis.number (formatCountKey contentType contentId)

/-- The entries of a trace. -/
def entries {setting : Setting} (trace : List (Event (likeService setting))) : List Entry :=
  trace.map fun event => entryOf contentType contentId event.op event.res

theorem entries_append {setting : Setting}
    (left right : List (Event (likeService setting))) :
    entries contentType contentId (left ++ right) =
      entries contentType contentId left ++ entries contentType contentId right :=
  List.map_append

/-- Every service answers, and the item's count does not expire. -/
structure HealthyRun (setting : Setting) (trace : List (Event (likeService setting))) :
    Prop where
  timeToLive : 0 < setting.config.cacheTtlLikeCountsSecs
  noFault : ∀ event ∈ trace, event.env.fault = none
  valid : ∀ event ∈ trace, ∃ id, event.env.verdict = .ok id
  newIds : ∀ event ∈ trace, ∀ like, event.op = .dbSave like →
    event.env.newId ∉ event.before.likes.rows.map Like.id
  kept : ∀ event ∈ trace, formatCountKey contentType contentId ∉ event.env.expired

/-- A check that is enough for the events of a `HealthyRun`. -/
def healthyRun? {setting : Setting} (trace : List (Event (likeService setting))) : Bool :=
  trace.all fun event =>
    event.env.fault.isNone && event.env.verdict.isOk &&
    !event.env.expired.contains (formatCountKey contentType contentId) &&
    match event.op with
    | .dbSave _ => !(event.before.likes.rows.map Like.id).contains event.env.newId
    | _ => true

theorem HealthyRun.of_check {setting : Setting}
    {trace : List (Event (likeService setting))}
    (timeToLive : 0 < setting.config.cacheTtlLikeCountsSecs)
    (checked : healthyRun? contentType contentId trace = true) :
    HealthyRun contentType contentId setting trace := by
  have each := fun event member => List.all_eq_true.mp checked event member
  simp only [Bool.and_eq_true, Bool.not_eq_true', List.contains_eq_mem,
    decide_eq_false_iff_not] at each
  refine ⟨timeToLive, ?_, ?_, ?_, ?_⟩
  · intro event member
    exact Option.isNone_iff_eq_none.mp (each event member).1.1.1
  · intro event member
    have valid := (each event member).1.1.2
    cases verdict : event.env.verdict with
    | error e =>
        rw [verdict] at valid
        cases valid
    | ok id => exact ⟨id, rfl⟩
  · intro event member like op
    have fresh := (each event member).2
    rw [op] at fresh
    simpa using fresh
  · intro event member
    exact (each event member).1.2

variable {contentType contentId}

/-- The steps that an entry can come from. -/
def EntryOrigin (contentType : ContentType) (contentId : ContentId) (op : LikeOp) :
    Entry → Prop
  | .inserted => ∃ like, op = .dbSave like
  | .deleted => ∃ userId, op = .dbRemove userId contentType contentId
  | .countedUp => op = .cacheIncrement contentType contentId
  | .countedDown => op = .cacheDecrement contentType contentId
  | .filled _ => (∃ count, op = .cacheSetValue contentType contentId count) ∨
      ∃ counts, op = .cacheSetCountsBatch counts ∧
        ∃ entry ∈ counts, entry.contentType = contentType ∧ entry.contentId = contentId
  | .other => True

theorem entryOf_origin (contentType : ContentType) (contentId : ContentId) (op : LikeOp)
    (answer : op.Res) :
    EntryOrigin contentType contentId op (entryOf contentType contentId op answer) := by
  unfold entryOf
  split
  · split
    · exact ⟨_, rfl⟩
    · trivial
  · split
    · next here =>
        obtain ⟨rfl, rfl⟩ := here
        exact ⟨_, rfl⟩
    · trivial
  · split
    · next here =>
        obtain ⟨rfl, rfl⟩ := here
        exact rfl
    · trivial
  · split
    · next here =>
        obtain ⟨rfl, rfl⟩ := here
        exact rfl
    · trivial
  · split
    · next here =>
        obtain ⟨rfl, rfl⟩ := here
        exact .inl ⟨_, rfl⟩
    · trivial
  · next counts _ =>
      split
      · trivial
      · next entry batch =>
          have member := List.mem_of_getLast? batch
          rw [List.mem_filter] at member
          exact .inr ⟨counts, rfl, entry, member.1, of_decide_eq_true member.2⟩
  · trivial

/-- Two commands fill. -/
theorem entryOf_isFill {op : LikeOp} {answer : op.Res}
    (isFill : (entryOf contentType contentId op answer).isFill = true) :
    (∃ count, op = .cacheSetValue contentType contentId count) ∨
      ∃ counts, op = .cacheSetCountsBatch counts ∧
        ∃ entry ∈ counts, entry.contentType = contentType ∧
          entry.contentId = contentId := by
  have origin := entryOf_origin contentType contentId op answer
  cases entry : entryOf contentType contentId op answer with
  | filled n =>
      rw [entry] at origin
      exact origin
  | _ =>
      rw [entry] at isFill
      cases isFill

/-! ### One step -/

section Step

variable {setting : Setting} {env : Surroundings} {op : LikeOp} {world after : World}
  {answer : op.Res} {spawned : List LikeCall}

/-- The books of an item of which a step has changed the rows alone. -/
theorem booksOf_rows {rows : Int}
    (table : (after.likes.countOf contentType contentId : Int) = rows)
    (key : after.redis (formatCountKey contentType contentId) =
      world.redis (formatCountKey contentType contentId))
    (numeric : world.redis.Numeric (formatCountKey contentType contentId)) :
    booksOf contentType contentId after =
        { booksOf contentType contentId world with rows := rows } ∧
      after.redis.Numeric (formatCountKey contentType contentId) := by
  constructor
  · simp only [booksOf, Redis.number, table, key]
  · unfold Redis.Numeric
    rw [key]
    exact numeric

/-- The books of an item whose rows and key are left alone. -/
theorem booksOf_same
    (rows : after.likes.countOf contentType contentId =
      world.likes.countOf contentType contentId)
    (key : after.redis (formatCountKey contentType contentId) =
      world.redis (formatCountKey contentType contentId))
    (numeric : world.redis.Numeric (formatCountKey contentType contentId)) :
    booksOf contentType contentId after = booksOf contentType contentId world ∧
      after.redis.Numeric (formatCountKey contentType contentId) := by
  have result := booksOf_rows (congrArg Nat.cast rows) key numeric
  exact result

/-- The books after a step that writes a number under the count key. -/
theorem booksOf_put {n : Int} {deadline : Option Int}
    (rows : after.likes = world.likes)
    (key : after.redis (formatCountKey contentType contentId) =
      some ⟨.int n, deadline⟩) :
    booksOf contentType contentId after =
        { booksOf contentType contentId world with cached := some n } ∧
      after.redis.Numeric (formatCountKey contentType contentId) := by
  constructor
  · simp [booksOf, Redis.number, rows, key]
  · intro text later present
    rw [key] at present
    cases present

/-- The count key of another item is another key. -/
theorem formatCountKey_ne {otherType : ContentType} {otherId : ContentId}
    (other : ¬ (otherType = contentType ∧ otherId = contentId)) :
    formatCountKey contentType contentId ≠ formatCountKey otherType otherId := by
  intro same
  obtain ⟨sameType, sameId⟩ := formatCountKey_inj same
  exact other ⟨sameType.symm, sameId.symm⟩

/-- A key that is not dropped is found as it was. -/
theorem drop_kept (kept : formatCountKey contentType contentId ∉ env.expired) :
    world.redis.drop env.expired (formatCountKey contentType contentId) =
      world.redis (formatCountKey contentType contentId) :=
  Redis.drop_of_not_mem _ kept

/-- An insert adds a row to the item of its like. -/
theorem booksOf_save {like : Like} {answer : Except DomainError Bool}
    (kept : formatCountKey contentType contentId ∉ env.expired)
    (numeric : world.redis.Numeric (formatCountKey contentType contentId))
    (handled : World.handle setting env (.dbSave like) world =
      some (answer, after, spawned)) :
    booksOf contentType contentId after =
        (booksOf contentType contentId world).post
          (entryOf contentType contentId (.dbSave like) answer) ∧
      after.redis.Numeric (formatCountKey contentType contentId) := by
  obtain ⟨store, outcome⟩ := World.handle_save handled
  have key : after.redis (formatCountKey contentType contentId) =
      world.redis (formatCountKey contentType contentId) := by
    rw [store, drop_kept kept]
  rcases outcome with ⟨e, rfl, table, _⟩ | ⟨rfl, _, table⟩ |
    ⟨rfl, _, newKey, freshId, table⟩
  · exact booksOf_same (by rw [table]) key numeric
  · exact booksOf_same (by rw [table]) key numeric
  · have counted := LikesTable.countOf_insert world.likes like env.newId newKey freshId
      contentType contentId
    rw [← table] at counted
    by_cases here : like.contentType = contentType ∧ like.contentId = contentId
    · rw [if_pos here] at counted
      simp only [entryOf, if_pos here]
      exact booksOf_rows (by rw [counted]; rfl) key numeric
    · rw [if_neg here] at counted
      simp only [entryOf, if_neg here]
      exact booksOf_same counted key numeric

/-- A delete takes the row it has found from its item. -/
theorem booksOf_remove {userId : UserId} {otherType : ContentType} {otherId : ContentId}
    {answer : Except DomainError Bool} (noFault : env.fault = none)
    (kept : formatCountKey contentType contentId ∉ env.expired)
    (numeric : world.redis.Numeric (formatCountKey contentType contentId))
    (handled : World.handle setting env (.dbRemove userId otherType otherId) world =
      some (answer, after, spawned)) :
    booksOf contentType contentId after =
        (booksOf contentType contentId world).post
          (entryOf contentType contentId (.dbRemove userId otherType otherId) answer) ∧
      after.redis.Numeric (formatCountKey contentType contentId) := by
  obtain ⟨store, outcome⟩ := World.handle_remove handled
  have key : after.redis (formatCountKey contentType contentId) =
      world.redis (formatCountKey contentType contentId) := by
    rw [store, drop_kept kept]
  rcases outcome with ⟨e, rfl, fault, _⟩ | ⟨rfl, table⟩
  · exact absurd noFault fault
  by_cases here : otherType = contentType ∧ otherId = contentId
  · obtain ⟨rfl, rfl⟩ := here
    have counted := LikesTable.countOf_erase world.likes userId otherType otherId
    rw [← table] at counted
    cases liked : (world.likes.find (userId, otherType, otherId)).isSome with
    | false =>
        rw [liked] at counted
        exact booksOf_same (by simpa using counted.symm) key numeric
    | true =>
        rw [liked, if_pos rfl] at counted
        simp only [entryOf, and_self, if_true]
        exact booksOf_rows (by simp [booksOf, counted]) key numeric
  · have item : (contentType, contentId) ≠ (otherType, otherId) := by
      intro same
      obtain ⟨sameType, sameId⟩ := Prod.mk.inj same
      exact here ⟨sameType.symm, sameId.symm⟩
    have counted := LikesTable.countOf_erase_other world.likes userId item
    rw [← table] at counted
    have aside : entryOf contentType contentId (.dbRemove userId otherType otherId)
        (.ok (world.likes.find (userId, otherType, otherId)).isSome) = .other := by
      cases (world.likes.find (userId, otherType, otherId)).isSome with
      | false => rfl
      | true => simp only [entryOf, if_neg here]
    rw [aside]
    exact booksOf_same counted key numeric

/-- Every step makes its entry in the books. -/
theorem booksOf_step (positive : 0 < setting.config.cacheTtlLikeCountsSecs)
    (noFault : env.fault = none)
    (kept : formatCountKey contentType contentId ∉ env.expired)
    (numeric : world.redis.Numeric (formatCountKey contentType contentId))
    (handled : World.handle setting env op world = some (answer, after, spawned)) :
    booksOf contentType contentId after =
        (booksOf contentType contentId world).post
          (entryOf contentType contentId op answer) ∧
      after.redis.Numeric (formatCountKey contentType contentId) := by
  have dropped : world.redis.drop env.expired (formatCountKey contentType contentId) =
      world.redis (formatCountKey contentType contentId) := drop_kept kept
  have found : (world.redis.drop env.expired).number
      (formatCountKey contentType contentId) =
      (booksOf contentType contentId world).cached := by
    unfold Redis.number
    rw [dropped]
    rfl
  have numericNow : (world.redis.drop env.expired).Numeric
      (formatCountKey contentType contentId) := by
    unfold Redis.Numeric
    rw [dropped]
    exact numeric
  obtain ⟨_, likes, redis, _⟩ := World.handle_after handled
  -- what is written for other items
  have aside : after.likes = world.likes →
      after.redis (formatCountKey contentType contentId) =
        world.redis.drop env.expired (formatCountKey contentType contentId) →
      booksOf contentType contentId after = booksOf contentType contentId world ∧
        after.redis.Numeric (formatCountKey contentType contentId) := by
    intro table key
    exact booksOf_same (by rw [table]) (key.trans dropped) numeric
  cases op with
  | dbSave like => exact booksOf_save kept numeric handled
  | dbRemove userId otherType otherId =>
      exact booksOf_remove noFault kept numeric handled
  | cacheIncrement otherType otherId =>
      by_cases here : otherType = contentType ∧ otherId = contentId
      · obtain ⟨rfl, rfl⟩ := here
        obtain ⟨_, table, deadline, store⟩ :=
          World.handle_increment noFault positive numericNow handled
        rw [found] at store
        simp only [entryOf, and_self, if_true, Books.post]
        exact booksOf_put table (by rw [store, Redis.put_self])
      · simp only [entryOf, if_neg here]
        apply aside likes
        rw [redis]
        exact RedisLikeRepository.changeCount_other (formatCountKey_ne here)
  | cacheDecrement otherType otherId =>
      by_cases here : otherType = contentType ∧ otherId = contentId
      · obtain ⟨rfl, rfl⟩ := here
        obtain ⟨_, table, deadline, store⟩ :=
          World.handle_decrement noFault positive numericNow handled
        rw [found] at store
        simp only [entryOf, and_self, if_true, Books.post]
        exact booksOf_put table (by rw [store, Redis.put_self]; rfl)
      · simp only [entryOf, if_neg here]
        apply aside likes
        rw [redis]
        exact RedisLikeRepository.changeCount_other (formatCountKey_ne here)
  | cacheSetValue otherType otherId count =>
      by_cases here : otherType = contentType ∧ otherId = contentId
      · obtain ⟨rfl, rfl⟩ := here
        obtain ⟨table, deadline, store⟩ := World.handle_setValue noFault positive handled
        simp only [entryOf, and_self, if_true, Books.post]
        exact booksOf_put table (by rw [store, Redis.put_self])
      · simp only [entryOf, if_neg here]
        apply aside likes
        rw [redis]
        exact RedisLikeRepository.setValue_other (formatCountKey_ne here)
  | cacheSetCountsBatch counts =>
      have store : after.redis = counts.foldl
          (RedisLikeRepository.putCount (world.clock + env.elapse))
          (world.redis.drop env.expired) := by
        rw [redis]
        simp only [World.redisAfter, noFault]
        cases counts <;> rfl
      have key := RedisLikeRepository.foldl_putCount (world.clock + env.elapse)
        (world.redis.drop env.expired) counts contentType contentId
      rw [← store] at key
      simp only [entryOf]
      cases batch : (counts.filter fun entry =>
          entry.contentType = contentType ∧ entry.contentId = contentId).getLast? with
      | none =>
          simp only [batch] at key
          exact aside likes key
      | some entry =>
          simp only [batch] at key
          exact booksOf_put likes key
  | _ =>
      obtain ⟨table, key⟩ := World.handle_keepsCounts (by trivial) handled
      exact aside table (key _ _)

end Step

/-! ### A whole run -/

section Run

variable {setting : Setting} {first last : World}
  {trace : List (Event (likeService setting))}

theorem HealthyRun.of_subset {part : List (Event (likeService setting))}
    (healthy : HealthyRun contentType contentId setting trace) (subset : part ⊆ trace) :
    HealthyRun contentType contentId setting part where
  timeToLive := healthy.timeToLive
  noFault event member := healthy.noFault event (subset member)
  valid event member := healthy.valid event (subset member)
  newIds event member := healthy.newIds event (subset member)
  kept event member := healthy.kept event (subset member)

/-- The books at the end of a run are what its entries make of those at its start. -/
theorem booksOf_run (healthy : HealthyRun contentType contentId setting trace)
    (numeric : first.redis.Numeric (formatCountKey contentType contentId))
    (replays : Replays (M := likeService setting) first trace last) :
    booksOf contentType contentId last =
        (booksOf contentType contentId first).postAll
          (entries contentType contentId trace) ∧
      last.redis.Numeric (formatCountKey contentType contentId) := by
  apply replays.history (fun before world =>
    booksOf contentType contentId world =
        (booksOf contentType contentId first).postAll
          (entries contentType contentId before) ∧
      world.redis.Numeric (formatCountKey contentType contentId)) _ ⟨rfl, numeric⟩
  intro before event after spawned member handled inductionHypothesis
  obtain ⟨books, numericBefore⟩ := inductionHypothesis
  obtain ⟨posted, numericAfter⟩ := booksOf_step healthy.timeToLive
    (healthy.noFault event member) (healthy.kept event member) numericBefore handled
  refine ⟨?_, numericAfter⟩
  rw [entries_append, Books.postAll_append, ← books, posted]
  rfl

/-- The rows at the end of a run. -/
theorem rows_run (healthy : HealthyRun contentType contentId setting trace)
    (numeric : first.redis.Numeric (formatCountKey contentType contentId))
    (replays : Replays (M := likeService setting) first trace last) :
    (last.likes.countOf contentType contentId : Int) =
      first.likes.countOf contentType contentId +
        rowsNet (entries contentType contentId trace) := by
  have posted := congrArg Books.rows (booksOf_run healthy numeric replays).1
  rw [rows_postAll] at posted
  exact posted

/-- Healthy services do not refuse a call. -/
theorem HealthyRun.granted (healthy : HealthyRun contentType contentId setting trace)
    (replays : Replays (M := likeService setting) first trace last) :
    ∀ event ∈ trace, Granted event.op event.res := by
  intro event member
  obtain ⟨before, after, split⟩ := List.append_of_mem member
  rw [split] at replays
  obtain ⟨_, next, spawned, handled⟩ := replays.until_event
  have noFault := healthy.noFault event member
  have newIds := healthy.newIds event member
  obtain ⟨id, valid⟩ := healthy.valid event member
  obtain ⟨thread, call, env, op, res, state⟩ := event
  cases op with
  | validateContent contentType contentId =>
      simp only [World.handle, World.serve, Option.some.injEq, Prod.mk.injEq] at handled
      exact ⟨id, handled.1.symm.trans valid⟩
  | dbSave like =>
      have saving : World.handle setting env (.dbSave like) state =
          some (res, next, spawned) := handled
      obtain ⟨_, ⟨e, _, _, cause⟩ | ⟨existed, _⟩ | ⟨inserted, _⟩⟩ :=
        World.handle_save saving
      · exact absurd (cause noFault) (newIds like rfl)
      · exact ⟨true, existed⟩
      · exact ⟨false, inserted⟩
  | _ => trivial

end Run

/-! ### The last fill -/

section Fill

variable {setting : Setting}

/-- A batch of counts that has been asked for an item names its count. -/
theorem entryOf_batch {fault : Option Fault} {order : List Nat} {items : List ContentItem}
    {table : LikesTable} {counts : List ContentCount} {answer : Except DomainError Unit}
    (answered : PostgresLikeRepository.getCountsBatch fault order items table = .ok counts)
    (asked : ⟨contentType, contentId⟩ ∈ items) :
    entryOf contentType contentId (.cacheSetCountsBatch counts) answer =
      .filled ((items.count ⟨contentType, contentId⟩ *
        table.countOf contentType contentId : Nat) : Int) := by
  have there : (⟨contentType, contentId, items.count ⟨contentType, contentId⟩ *
      table.countOf contentType contentId⟩ : ContentCount) ∈ counts :=
    (PostgresLikeRepository.mem_getCountsBatch answered).mpr ⟨asked, rfl⟩
  simp only [entryOf]
  cases batch : (counts.filter fun entry =>
      entry.contentType = contentType ∧ entry.contentId = contentId).getLast? with
  | none =>
      rw [List.getLast?_eq_none_iff] at batch
      have absurd := List.filter_eq_nil_iff.mp batch _ there
      simp at absurd
  | some entry =>
      have member := List.mem_of_getLast? batch
      rw [List.mem_filter] at member
      obtain ⟨among, item⟩ := member
      obtain ⟨rfl, rfl⟩ := of_decide_eq_true item
      have counted := ((PostgresLikeRepository.mem_getCountsBatch answered).mp among).2
      exact congrArg (fun count : Nat => Entry.filled count) counted

/-- The fill writes what the query has answered: a read-through to its own call, a batch
to the task the querying call has started.  A batch counts a like once for every time it
names the item. -/
inductive Snapshot (contentType : ContentType) (contentId : ContentId)
    (query : Event (likeService setting)) (between : List (Event (likeService setting)))
    (fill : Event (likeService setting)) : Nat → Prop where
  | single (count : Nat) (sameThread : fill.thread = query.thread)
      (answered : answeredCount query.op query.res = some (contentType, contentId, count))
      (op : fill.op = .cacheSetValue contentType contentId count) :
      Snapshot contentType contentId query between fill 1
  | batch (items : List ContentItem) (counts : List ContentCount)
      (answered : answeredBatch query.op query.res = some (items, counts))
      (spawned : ∃ spawn ∈ between, spawn.thread = query.thread ∧
        spawn.op = .spawn fill.call)
      (op : fill.op = .cacheSetCountsBatch counts)
      (asked : ⟨contentType, contentId⟩ ∈ items) :
      Snapshot contentType contentId query between fill
        (items.count ⟨contentType, contentId⟩)

/-- The last write of a count under the item's key, with the query it comes from. -/
structure LastFill (contentType : ContentType) (contentId : ContentId)
    (trace : List (Event (likeService setting))) where
  earlier : List (Event (likeService setting))
  query : Event (likeService setting)
  between : List (Event (likeService setting))
  fill : Event (likeService setting)
  later : List (Event (likeService setting))
  /-- How often the query counts each like. -/
  copies : Nat
  split : trace = earlier ++ query :: (between ++ fill :: later)
  snapshot : Snapshot contentType contentId query between fill copies
  isLast : ∀ event ∈ later, (entryOf contentType contentId event.op event.res).isFill = false

/-- A count that is answered is the number of rows the query has found. -/
theorem answeredCount_eq {query : Event (likeService setting)} {count : Nat} {next : World}
    {spawned : List LikeCall} (noFault : query.env.fault = none)
    (handled : World.handle setting query.env query.op query.before =
      some (query.res, next, spawned))
    (answered : answeredCount query.op query.res = some (contentType, contentId, count)) :
    count = query.before.likes.countOf contentType contentId := by
  obtain ⟨_, _, env, op, res, before⟩ := query
  cases op with
  | dbGetLikesCount otherType otherId =>
      have counted : res = .ok (before.likes.countOf otherType otherId) :=
        World.handle_getLikesCount noFault handled
      subst counted
      cases answered
      rfl
  | _ => cases answered

/-- A batch that is answered is answered from the rows the query has found. -/
theorem answeredBatch_eq {query : Event (likeService setting)} {items : List ContentItem}
    {counts : List ContentCount} {next : World} {spawned : List LikeCall}
    (handled : World.handle setting query.env query.op query.before =
      some (query.res, next, spawned))
    (answered : answeredBatch query.op query.res = some (items, counts)) :
    PostgresLikeRepository.getCountsBatch query.env.fault query.env.order items
      query.before.likes = .ok counts := by
  obtain ⟨_, _, env, op, res, before⟩ := query
  cases op with
  | dbGetCountsBatch queried =>
      simp only [World.handle, World.serve, Option.some.injEq, Prod.mk.injEq] at handled
      cases res with
      | error e => cases answered
      | ok found =>
          cases answered
          exact handled.1
  | _ => cases answered

/-- A fill writes the rows its query has found. -/
theorem Snapshot.entry {query fill : Event (likeService setting)}
    {between : List (Event (likeService setting))} {copies : Nat}
    (snapshot : Snapshot contentType contentId query between fill copies)
    (noFault : query.env.fault = none) {next : World} {spawned : List LikeCall}
    (handled : World.handle setting query.env query.op query.before =
      some (query.res, next, spawned)) :
    entryOf contentType contentId fill.op fill.res =
      .filled ((copies * query.before.likes.countOf contentType contentId : Nat) : Int) := by
  obtain ⟨_, _, _, fillOp, fillRes, _⟩ := fill
  cases snapshot with
  | single count sameThread answered written =>
      obtain rfl : fillOp = .cacheSetValue contentType contentId count := written
      obtain rfl := answeredCount_eq noFault handled answered
      simp [entryOf]
  | batch items counts answered _ written asked =>
      obtain rfl : fillOp = .cacheSetCountsBatch counts := written
      exact entryOf_batch (answeredBatch_eq handled answered) asked

namespace LastFill

variable {first last : World} {trace : List (Event (likeService setting))}

/-- The last fill writes what its query has found. -/
theorem entry (fill : LastFill contentType contentId trace)
    (healthy : HealthyRun contentType contentId setting trace)
    (numeric : first.redis.Numeric (formatCountKey contentType contentId))
    (replays : Replays (M := likeService setting) first trace last) :
    entryOf contentType contentId fill.fill.op fill.fill.res =
      .filled (fill.copies * (first.likes.countOf contentType contentId +
        rowsNet (entries contentType contentId fill.earlier))) := by
  obtain ⟨earlier, query, between, fill, later, copies, rfl, snapshot, isLast⟩ := fill
  obtain ⟨seen, next, spawned, handled⟩ := replays.until_event
  have rows := rows_run (healthy.of_subset (List.subset_append_left earlier _)) numeric seen
  rw [snapshot.entry (healthy.noFault query (by simp)) handled, Nat.cast_mul, rows]

/-- The entries before the fill, the fill, and the entries after it. -/
theorem entries_eq (fill : LastFill contentType contentId trace) :
    entries contentType contentId trace =
      entries contentType contentId (fill.earlier ++ fill.query :: fill.between) ++
        entryOf contentType contentId fill.fill.op fill.fill.res ::
        entries contentType contentId fill.later := by
  have regrouped : trace =
      (fill.earlier ++ fill.query :: fill.between) ++ fill.fill :: fill.later :=
    fill.split.trans (by simp)
  exact (congrArg _ regrouped).trans (entries_append _ _ _ _)

/-- The number that is cached after the last fill. -/
theorem cached (fill : LastFill contentType contentId trace)
    (healthy : HealthyRun contentType contentId setting trace)
    (numeric : first.redis.Numeric (formatCountKey contentType contentId))
    (replays : Replays (M := likeService setting) first trace last) :
    last.redis.number (formatCountKey contentType contentId) =
      some (fill.copies * (first.likes.countOf contentType contentId +
          rowsNet (entries contentType contentId fill.earlier)) +
        countersNet (entries contentType contentId fill.later)) := by
  have unfilled : ∀ entry ∈ entries contentType contentId fill.later,
      entry.isFill = false := by
    intro entry member
    obtain ⟨event, among, rfl⟩ := List.mem_map.mp member
    exact fill.isLast event among
  have cached := congrArg Books.cached (booksOf_run healthy numeric replays).1
  rw [fill.entries_eq, fill.entry healthy numeric replays,
    cached_postAll_filled _ _ _ unfilled] at cached
  exact cached

end LastFill

end Fill

/-! ### Runs from their calls -/

section Calls

variable {setting : Setting} {world : World} {calls : List LikeCall}
  {trace : List (Event (likeService setting))} {last : Pool (likeService setting)}

/-- The last event of a kind, if there is one of the kind. -/
theorem exists_last_event {Kind : Event (likeService setting) → Bool}
    (occurs : ∃ event ∈ trace, Kind event = true) :
    ∃ before event after, trace = before ++ event :: after ∧ Kind event = true ∧
      ∀ later ∈ after, Kind later = false := by
  induction trace using List.reverseRecOn with
  | nil =>
      obtain ⟨event, member, _⟩ := occurs
      cases member
  | append_singleton trace end_ inductionHypothesis =>
      cases here : Kind end_ with
      | true => exact ⟨trace, end_, [], rfl, here, by simp⟩
      | false =>
          obtain ⟨event, member, kind⟩ := occurs
          rcases List.mem_append.mp member with old | new
          · obtain ⟨before, found, after, rfl, kindFound, noneLater⟩ :=
              inductionHypothesis ⟨event, old, kind⟩
            refine ⟨before, found, after ++ [end_], by simp, kindFound, ?_⟩
            intro later among
            rcases List.mem_append.mp among with tail | final
            · exact noneLater later tail
            · rw [List.mem_singleton.mp final]
              exact here
          · rw [List.mem_singleton.mp new, here] at kind
            cases kind

/-- A run in which the item's count is filled has a last fill. -/
theorem exists_lastFill
    (run : Run (M := likeService setting) (Pool.start world calls) trace last)
    (healthy : HealthyRun contentType contentId setting trace)
    (requests : ∀ call ∈ calls, ¬ call.Background)
    (filled : ∃ event ∈ trace,
      (entryOf contentType contentId event.op event.res).isFill = true) :
    Nonempty (LastFill contentType contentId trace) := by
  obtain ⟨front, fill, later, split, isFill, isLast⟩ := exists_last_event filled
  have governed := CallTracks.of_run run (healthy.granted run.replays)
  have allowed := governed.2 front fill later split
  rcases entryOf_isFill isFill with ⟨count, op⟩ | ⟨counts, op, entry, among, item⟩
  · rw [op] at allowed
    obtain ⟨earlier, query, between, rfl, sameThread, answered⟩ :=
      CallTracks.read_origin allowed
    exact ⟨⟨earlier, query, between, fill, later, 1, by simp [split],
      .single count sameThread.symm answered op, isLast⟩⟩
  · rw [op] at allowed
    obtain ⟨lockedKeys, rehydrationSet, called⟩ := allowed
    rw [CallTracks.call_controlAfter] at called
    rcases run.event_origin front fill later split with known | ⟨spawn, member, started⟩
    · rw [called] at known
      exact absurd trivial (requests _ known)
    -- the task was started by the call that has asked for the batch
    obtain ⟨pre, post, rfl⟩ := List.append_of_mem member
    obtain ⟨after, spawned, handled, new⟩ := started
    have spawns : spawn.op = .spawn fill.call := World.handle_spawned handled new
    have allowedSpawn := governed.2 pre spawn (post ++ fill :: later) (by simp [split])
    rw [spawns, called] at allowedSpawn
    obtain ⟨items, batch⟩ := allowedSpawn
    obtain ⟨earlier, query, between, rfl, sameThread, answered⟩ :=
      CallTracks.batch_origin batch
    have whole : trace = earlier ++ query ::
        ((between ++ spawn :: post) ++ fill :: later) := by simp [split]
    have replays := run.replays
    rw [whole] at replays
    obtain ⟨_, next, _, handledQuery⟩ := replays.until_event
    obtain ⟨rfl, rfl⟩ := item
    have asked := ((PostgresLikeRepository.mem_getCountsBatch
      (answeredBatch_eq handledQuery answered)).mp among).1
    exact ⟨⟨earlier, query, between ++ spawn :: post, fill, later, _, whole,
      .batch items counts answered ⟨spawn, by simp, sameThread.symm, spawns⟩ op asked,
      isLast⟩⟩

/-- What a call has inserted for the item and not yet counted. -/
def owesCount (contentType : ContentType) (contentId : ContentId) (track : Track) : Int :=
  match track.call, track.pending with
  | .addLike likeCmd, true =>
      if likeCmd.contentType = contentType ∧ likeCmd.contentId = contentId then 1 else 0
  | _, _ => 0

/-- Only inserts and counting up change what a call owes. -/
theorem owesCount_aside {track : Track} {op : LikeOp} {answer : op.Res}
    (notSave : ∀ like, op ≠ .dbSave like)
    (notUp : ∀ otherType otherId, op ≠ .cacheIncrement otherType otherId) :
    (entryOf contentType contentId op answer).uncounted =
      owesCount contentType contentId (CallTracks.advance track op answer) -
        owesCount contentType contentId track := by
  have weightless : (entryOf contentType contentId op answer).uncounted = 0 := by
    have origin := entryOf_origin contentType contentId op answer
    cases entry : entryOf contentType contentId op answer with
    | inserted =>
        rw [entry] at origin
        obtain ⟨like, saves⟩ := origin
        exact absurd saves (notSave like)
    | countedUp =>
        rw [entry] at origin
        exact absurd origin (notUp _ _)
    | _ => rfl
  have same : owesCount contentType contentId (CallTracks.advance track op answer) =
      owesCount contentType contentId track := by
    unfold CallTracks.advance
    split
    · rfl
    · rfl
    · exact absurd rfl (notSave _)
    · exact absurd rfl (notUp _ _)
    · rfl
  rw [weightless, same, Int.sub_self]

/-- A permitted step changes what its call owes by what it leaves uncounted. -/
theorem owesCount_advance {track : Track} {op : LikeOp} {answer : op.Res}
    (allowed : CallTracks.permitted track op) :
    (entryOf contentType contentId op answer).uncounted =
      owesCount contentType contentId (CallTracks.advance track op answer) -
        owesCount contentType contentId track := by
  cases op with
  | dbSave like =>
      obtain ⟨call, read, batch, saved, pending⟩ := track
      obtain ⟨rfl, likeCmd, rfl, key⟩ := allowed
      obtain ⟨_, sameType, sameId⟩ : _ ∧ like.contentType = likeCmd.contentType ∧
          like.contentId = likeCmd.contentId := by simpa [Like.key] using key
      cases answer with
      | error e => rfl
      | ok existed =>
          cases existed with
          | true => rfl
          | false =>
              simp only [entryOf, CallTracks.advance, owesCount, sameType, sameId,
                Bool.not_false]
              split <;> rfl
  | cacheIncrement otherType otherId =>
      obtain ⟨call, read, batch, saved, pending⟩ := track
      obtain ⟨rfl, likeCmd, rfl, rfl, rfl⟩ := allowed
      simp only [entryOf, CallTracks.advance, owesCount]
      split <;> rfl
  | _ =>
      apply owesCount_aside
      · simp
      · simp

/-- A call that has come back owes nothing. -/
theorem owesCount_settled {track : Track} (settled : track.pending = false) :
    owesCount contentType contentId track = 0 := by
  unfold owesCount
  rw [settled]
  split
  · next pending => cases pending
  · rfl

/-- A background task owes nothing. -/
theorem owesCount_background {track : Track} (background : track.call.Background) :
    owesCount contentType contentId track = 0 := by
  unfold owesCount
  cases call : track.call with
  | addLike likeCmd =>
      rw [call] at background
      exact background.elim
  | _ => rfl

/-- When the calls have returned, every insert has been counted up. -/
theorem inserted_eq_countedUp
    (run : Run (M := likeService setting) (Pool.start world calls) trace last)
    (healthy : HealthyRun contentType contentId setting trace)
    (returned : ∀ thread ∈ last.threads, thread.call ∈ calls → thread.Returned) :
    (entries contentType contentId trace).count .inserted =
      (entries contentType contentId trace).count .countedUp := by
  have granted := healthy.granted run.replays
  obtain ⟨governed, allowed⟩ := CallTracks.of_run run granted
  have start : ∀ call, owesCount contentType contentId (CallTracks.initial call) = 0 := by
    intro call
    exact owesCount_settled rfl
  have settled : ∀ i thread, last.threads[i]? = some thread →
      owesCount contentType contentId
        (controlAfter CallTracks.advance i (CallTracks.initial thread.call) trace) = 0 := by
    intro i thread at_i
    have obeys := governed.obeys i thread at_i
    rcases CallTracks.thread_call run granted thread (List.mem_of_getElem? at_i) with
      known | background
    · obtain ⟨reply, ended⟩ := returned thread (List.mem_of_getElem? at_i) known
      rw [ended] at obeys
      exact owesCount_settled obeys.1
    · rw [← CallTracks.call_controlAfter i thread.call trace] at background
      exact owesCount_background background
  have balance : traceWeight (M := likeService setting) (fun op answer =>
      (entryOf contentType contentId op answer).uncounted) trace = 0 :=
    run.weight_eq_zero start
      (fun before event after split => owesCount_advance (allowed before event after split))
      settled
  have total := sum_uncounted (entries contentType contentId trace)
  have same : ((entries contentType contentId trace).map Entry.uncounted).sum = 0 := by
    rw [entries, List.map_map]
    exact balance
  omega

/-- How many deletes of the item's rows are not counted down. -/
def notCountedDown (contentType : ContentType) (contentId : ContentId)
    (trace : List (Event (likeService setting))) : Int :=
  (entries contentType contentId trace).count .deleted -
    (entries contentType contentId trace).count .countedDown

/-- When the calls have returned, rows and counters have moved alike, but for the deletes
that are not counted down. -/
theorem countersNet_eq
    (run : Run (M := likeService setting) (Pool.start world calls) trace last)
    (healthy : HealthyRun contentType contentId setting trace)
    (returned : ∀ thread ∈ last.threads, thread.call ∈ calls → thread.Returned) :
    countersNet (entries contentType contentId trace) =
      rowsNet (entries contentType contentId trace) +
        notCountedDown contentType contentId trace := by
  have balance := inserted_eq_countedUp run healthy returned
  unfold countersNet rowsNet notCountedDown
  omega

/-- Without unlikes, no row is deleted and nothing is counted down. -/
theorem no_unlike_steps
    (run : Run (M := likeService setting) (Pool.start world calls) trace last)
    (healthy : HealthyRun contentType contentId setting trace)
    (noUnlike : ∀ call ∈ calls, ∀ userId otherType otherId,
      call ≠ .removeLike userId otherType otherId) :
    ∀ event ∈ trace,
      (∀ userId otherType otherId, event.op ≠ .dbRemove userId otherType otherId) ∧
        ∀ otherType otherId, event.op ≠ .cacheDecrement otherType otherId := by
  intro event member
  have granted := healthy.granted run.replays
  obtain ⟨before, after, split⟩ := List.append_of_mem member
  have allowed := (CallTracks.of_run run granted).2 before event after split
  have notUnlike : ∀ userId otherType otherId,
      event.call ≠ .removeLike userId otherType otherId := by
    intro userId otherType otherId called
    rcases CallTracks.event_call run granted event member with known | background
    · exact noUnlike _ known _ _ _ called
    · rw [called] at background
      exact background
  constructor
  · intro userId otherType otherId op
    rw [op] at allowed
    have called : _ = LikeCall.removeLike userId otherType otherId := allowed
    rw [CallTracks.call_controlAfter] at called
    exact notUnlike _ _ _ called
  · intro otherType otherId op
    rw [op] at allowed
    obtain ⟨userId, called⟩ := allowed
    rw [CallTracks.call_controlAfter] at called
    exact notUnlike _ _ _ called

/-- Without unlikes, there is nothing to count down. -/
theorem notCountedDown_eq_zero
    (run : Run (M := likeService setting) (Pool.start world calls) trace last)
    (healthy : HealthyRun contentType contentId setting trace)
    (noUnlike : ∀ call ∈ calls, ∀ userId otherType otherId,
      call ≠ .removeLike userId otherType otherId) :
    notCountedDown contentType contentId trace = 0 := by
  have steps := no_unlike_steps run healthy noUnlike
  have noDelete : (entries contentType contentId trace).count .deleted = 0 := by
    rw [List.count_eq_zero]
    intro member
    obtain ⟨event, among, entry⟩ := List.mem_map.mp member
    have origin := entryOf_origin contentType contentId event.op event.res
    rw [entry] at origin
    obtain ⟨userId, op⟩ := origin
    exact (steps event among).1 _ _ _ op
  have noCountdown : (entries contentType contentId trace).count .countedDown = 0 := by
    rw [List.count_eq_zero]
    intro member
    obtain ⟨event, among, entry⟩ := List.mem_map.mp member
    have origin := entryOf_origin contentType contentId event.op event.res
    rw [entry] at origin
    exact (steps event among).2 _ _ origin
  rw [notCountedDown, noDelete, noCountdown]
  rfl

/-- What the last fill has found, with the deletes that are not counted down, is what had
been counted when it was written: it neither brings back a count that is already made nor
takes one away. -/
def LastFill.InStep (fill : LastFill contentType contentId trace) (start skipped : Int) :
    Prop :=
  fill.copies * (start + rowsNet (entries contentType contentId fill.earlier)) + skipped =
    start + countersNet (entries contentType contentId
      (fill.earlier ++ fill.query :: fill.between))

/-- After a fill, the cached count is right exactly when the last fill was in step. -/
theorem LastFill.cached_iff (fill : LastFill contentType contentId trace)
    (run : Run (M := likeService setting) (Pool.start world calls) trace last)
    (healthy : HealthyRun contentType contentId setting trace)
    (numeric : world.redis.Numeric (formatCountKey contentType contentId))
    (returned : ∀ thread ∈ last.threads, thread.call ∈ calls → thread.Returned) :
    last.state.redis.number (formatCountKey contentType contentId) =
        some (last.state.likes.countOf contentType contentId : Int) ↔
      fill.InStep (world.likes.countOf contentType contentId)
        (notCountedDown contentType contentId trace) := by
  have rows := rows_run healthy numeric run.replays
  have moved := countersNet_eq run healthy returned
  have parts : countersNet (entries contentType contentId trace) =
      countersNet (entries contentType contentId
        (fill.earlier ++ fill.query :: fill.between)) +
      countersNet (entries contentType contentId fill.later) := by
    rw [fill.entries_eq, fill.entry healthy numeric run.replays, countersNet_filled]
  rw [fill.cached healthy numeric run.replays, rows, Option.some.injEq, LastFill.InStep]
  constructor
  · intro same
    linarith
  · intro inStep
    linarith

/-- Without a fill, the number in the cache is what has been counted. -/
theorem number_unfilled {first last : World}
    (healthy : HealthyRun contentType contentId setting trace)
    (numeric : first.redis.Numeric (formatCountKey contentType contentId))
    (replays : Replays (M := likeService setting) first trace last)
    (unfilled : ∀ event ∈ trace,
      (entryOf contentType contentId event.op event.res).isFill = false) :
    (last.redis.number (formatCountKey contentType contentId)).getD 0 =
      (first.redis.number (formatCountKey contentType contentId)).getD 0 +
        countersNet (entries contentType contentId trace) := by
  have noFill : ∀ entry ∈ entries contentType contentId trace, entry.isFill = false := by
    intro entry member
    obtain ⟨event, among, rfl⟩ := List.mem_map.mp member
    exact unfilled event among
  have counted := cached_postAll (booksOf contentType contentId first) noFill
  rw [← (booksOf_run healthy numeric replays).1] at counted
  exact counted

/-- A run without a last fill has no fill. -/
theorem unfilled_of_isEmpty
    (run : Run (M := likeService setting) (Pool.start world calls) trace last)
    (healthy : HealthyRun contentType contentId setting trace)
    (requests : ∀ call ∈ calls, ¬ call.Background)
    (empty : IsEmpty (LastFill contentType contentId trace)) :
    ∀ event ∈ trace, (entryOf contentType contentId event.op event.res).isFill = false := by
  intro event member
  by_contra isFill
  rw [Bool.not_eq_false] at isFill
  obtain ⟨fill⟩ := exists_lastFill run healthy requests ⟨event, member, isFill⟩
  exact empty.false fill

/-- The count in the cache is right, if there is one, exactly when the last fill was in
step, or without a fill. -/
theorem cached_right_iff
    (run : Run (M := likeService setting) (Pool.start world calls) trace last)
    (healthy : HealthyRun contentType contentId setting trace)
    (numeric : world.redis.Numeric (formatCountKey contentType contentId))
    (returned : ∀ thread ∈ last.threads, thread.call ∈ calls → thread.Returned) :
    (∀ cached, last.state.redis.number (formatCountKey contentType contentId) = some cached →
        cached = last.state.likes.countOf contentType contentId) ↔
      (IsEmpty (LastFill contentType contentId trace) → ∀ cached,
        last.state.redis.number (formatCountKey contentType contentId) = some cached →
          cached = last.state.likes.countOf contentType contentId) ∧
      ∀ fill : LastFill contentType contentId trace,
        fill.InStep (world.likes.countOf contentType contentId)
          (notCountedDown contentType contentId trace) := by
  constructor
  · intro right
    refine ⟨fun _ => right, ?_⟩
    intro fill
    apply (fill.cached_iff run healthy numeric returned).mp
    have present := fill.cached healthy numeric run.replays
    rw [present, right _ present]
  · rintro ⟨unfilled, inStep⟩ cached present
    rcases isEmpty_or_nonempty (LastFill contentType contentId trace) with empty | ⟨⟨fill⟩⟩
    · exact unfilled empty cached present
    · have right := (fill.cached_iff run healthy numeric returned).mpr (inStep fill)
      rw [present] at right
      exact Option.some.inj right

end Calls

end SocialApi
