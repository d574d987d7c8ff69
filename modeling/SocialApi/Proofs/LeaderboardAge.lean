/-
Module: SocialApi.Proofs.LeaderboardAge
Purpose: How old the leaderboards are that get_top_likes answers with.
Trusted boundary: none
Main exports:
  staleness, body_concludes, HonoursCanary, WritesAtOnce, ListedAt, Aging, aging_step,
  top_likes_age
-/
import SocialApi.Proofs.Leaderboard
import SocialApi.Proofs.Instants
import SocialApi.Process.Turns

namespace SocialApi

open Process
open LikeService
open RedisLikeRepository (formatLeadKey)

/-! ### Reads that answer -/

/-- The seconds for which a leaderboard is documented to be served. -/
def staleness (window : String) : Nat := if window = "24h" then 30 else 300

/-- The step has found a list and its canary alive. -/
def LikeOp.readsFresh : (op : LikeOp) → op.Res → Bool
  | .cacheGetLeaderboardWithCanary _ _, .ok (some _, fresh) => fresh
  | _, _ => false

/-- The step has found a list without its canary. -/
def LikeOp.readsStale : (op : LikeOp) → op.Res → Bool
  | .cacheGetLeaderboardWithCanary _ _, .ok (some _, fresh) => !fresh
  | _, _ => false

/-- The step writes a leaderboard. -/
def LikeOp.writesBoard : LikeOp → Bool
  | .cacheSetLeaderboardWithCanary _ _ _ _ => true
  | _ => false

/-- A call that has found a fresh list is over; until then it writes leaderboards with
canaries that live for the staleness of the window at most. -/
def AnswersAtOnce (answered : Bool) (op : LikeOp) : Prop :=
  answered = false ∧ ∀ window contentType items canaryTtl,
    op = .cacheSetLeaderboardWithCanary window contentType items canaryTtl →
      canaryTtl ≤ staleness window

/-- The program keeps to that, and ends as stated. -/
abbrev Concludes {α : Type} (final : α → Prop) (program : Service α) : Prop :=
  program.Obeys (fun answered op answer => answered || op.readsFresh answer) AnswersAtOnce
    (fun _ _ _ => True) (fun _ value => final value) false

theorem answersAtOnce_of_offBoard {op : LikeOp} (off : op.OffBoard) :
    AnswersAtOnce false op ∧ ∀ answer, (false || op.readsFresh answer) = false := by
  cases op with
  | cacheGetLeaderboardWithCanary window contentType => exact off.elim
  | cacheSetLeaderboardWithCanary window contentType items canaryTtl => exact off.elim
  | _ => exact ⟨⟨rfl, by rintro _ _ _ _ ⟨⟩⟩, fun _ => rfl⟩

theorem Concludes.of_offBoard {α : Type} {program : Service α} {reply : α → LikeReply}
    (off : program.Performs LikeOp.OffBoard) :
    Concludes (fun outcome => outcome.isRight = true)
      (do return (.inr (reply (← program)) : LikeCall ⊕ LikeReply)) :=
  (off.obeys fun _ => answersAtOnce_of_offBoard).bind fun _ _ _ => rfl

theorem thirty_le_staleness (window : String) : 30 ≤ staleness window := by
  unfold staleness
  split <;> decide

theorem getTopLikes_concludes (contentType : ContentType) (windowStr : String) (limit : Int) :
    Concludes (fun _ => True) (getTopLikes contentType windowStr limit) := by
  have allowed : ∀ {op : LikeOp},
      (∀ window contentType items canaryTtl,
        op ≠ .cacheSetLeaderboardWithCanary window contentType items canaryTtl) →
      AnswersAtOnce false op :=
    fun other => ⟨rfl, fun _ _ _ _ same => absurd same (other _ _ _ _)⟩
  simp only [getTopLikes, Program.request_bind, Concludes, Program.obeys_perform]
  refine ⟨allowed (by simp), fun now _ => ?_⟩
  cases windowStart now windowStr with
  | none => trivial
  | some since =>
  refine ⟨allowed (by simp), fun answer _ => ?_⟩
  rcases answer with e | ⟨_ | items, fresh⟩
  · refine ⟨allowed (by simp), fun listed _ => ?_⟩
    cases listed with
    | error e => trivial
    | ok items =>
        refine ⟨⟨rfl, ?_⟩, fun _ _ => trivial⟩
        rintro _ _ _ _ ⟨⟩
        exact thirty_le_staleness windowStr
  · refine ⟨allowed (by simp), fun listed _ => ?_⟩
    cases listed with
    | error e => trivial
    | ok items =>
        refine ⟨⟨rfl, ?_⟩, fun _ _ => trivial⟩
        rintro _ _ _ _ ⟨⟩
        exact thirty_le_staleness windowStr
  · cases fresh with
    | true => trivial
    | false =>
        refine ⟨allowed (by simp), fun lock _ => ?_⟩
        dsimp only
        split
        · exact ⟨allowed (by simp), fun _ _ => trivial⟩
        · trivial

theorem refreshLeaderboard_concludes (window : String) (contentType : ContentType)
    (since : Option DateTime) (limit : Int) :
    Concludes (fun _ => True) (refreshLeaderboard window contentType since limit) := by
  refine ⟨⟨rfl, by rintro _ _ _ _ ⟨⟩⟩, fun listed _ => ?_⟩
  cases listed with
  | error e => trivial
  | ok newItems =>
      refine ⟨⟨rfl, ?_⟩, fun _ _ => trivial⟩
      rintro _ _ _ _ ⟨⟩
      exact le_rfl

/-- Every call is over once it has found a fresh list. -/
theorem body_concludes (setting : Setting) (call : LikeCall) :
    Concludes (fun outcome => outcome.isRight = true) (call.body setting) := by
  cases call with
  | addLike likeCmd => exact .of_offBoard (addLike_offBoard _)
  | removeLike userId contentType contentId => exact .of_offBoard (removeLike_offBoard _ _ _)
  | getLikeCount contentType contentId => exact .of_offBoard (getLikeCount_offBoard _ _)
  | getLikeStatus userId contentType contentId =>
      exact .of_offBoard (getLikeStatus_offBoard _ _ _)
  | getLikesCountBatch items => exact .of_offBoard (getLikesCountBatch_offBoard _)
  | getBatchStatus userId items => exact .of_offBoard (getBatchStatus_offBoard _ _)
  | getUserLikedItems userId contentType cursorStr limit =>
      exact .of_offBoard (getUserLikedItems_offBoard _ _ _ _ _)
  | getTopLikes contentType windowStr limit =>
      apply (getTopLikes_concludes contentType windowStr limit).bind
      intro _ _ _
      rfl
  | publishLikeEvent event => exact .of_offBoard ⟨trivial, fun _ => trivial⟩
  | rehydrate dbCounts lockedKeys rehydrationSet =>
      exact .of_offBoard ⟨trivial, fun _ => trivial⟩
  | refreshLeaderboard window contentType since limit =>
      apply (refreshLeaderboard_concludes window contentType since limit).bind
      intro _ _ _
      rfl

/-! ### Timed runs -/

section Runs

variable {setting : Setting}

/-- The time of a step. -/
def timeOf (event : Event (likeService setting)) : Int := event.before.clock + event.env.elapse

/-- Redis does not hand out the canary after its time to live. -/
def HonoursCanary (window : String) (contentType : ContentType)
    (event : Event (likeService setting)) : Prop :=
  ∀ entry ∈ event.before.redis.drop event.env.expired (formatLeadKey .canary window contentType),
    ∀ deadline ∈ entry.deadline, timeOf event ≤ deadline

instance (window : String) (contentType : ContentType) (event : Event (likeService setting)) :
    Decidable (HonoursCanary window contentType event) :=
  inferInstanceAs (Decidable (∀ entry ∈ (_ : Option RedisEntry),
    ∀ deadline ∈ RedisEntry.deadline entry, _ ≤ deadline))

/-- A leaderboard is written at the time of the query, the step before. -/
def WritesAtOnce (before : List (Event (likeService setting)))
    (event : Event (likeService setting)) : Prop :=
  event.op.writesBoard = true →
    ∀ query ∈ (stepsOf event.thread before).getLast?, timeOf query = timeOf event

instance (before : List (Event (likeService setting))) (event : Event (likeService setting)) :
    Decidable (WritesAtOnce before event) :=
  inferInstanceAs (Decidable (_ = true → ∀ query ∈ _, _ = _))

/-- The list is the result of the query at the instant, for a window that was dated
before. -/
def ListedAt (trace : List (Event (likeService setting))) (query : TopQuery)
    (items : List TopLikeItem) (instant : Int) : Prop :=
  ∃ before event after since, trace = before ++ event :: after ∧ timeOf event = instant ∧
    Dated before query since ∧ ∃ order,
      PostgresLikeRepository.getTopLikes none order query.contentType.asOpt since
        query.limit event.before.likes = .ok items

/-- The list that a request has found: it was stale, or it was found by the last step and
was not too old. -/
def FoundBy (steps : List (Event (likeService setting))) (query : TopQuery) (instant : Int) :
    Prop :=
  (∃ read ∈ steps, read.op.readsStale read.res = true) ∨
    ∃ read, steps.getLast? = some read ∧ read.op.readsFresh read.res = true ∧
      (HonoursCanary query.window query.contentType read →
        timeOf read - staleness query.window ≤ instant)

/-- The list of a call is the result of its query at an instant, for the limit that it was
fetched for: one that it has queried, at the instant of its last step. -/
def Board.AgedIn (trace : List (Event (likeService setting))) (i : Nat) : Board → Prop
  | .shown query _ items => ∃ step, (stepsOf i trace).getLast? = some step ∧ ∃ limit instant,
      ListedAt trace { query with limit := limit } items instant ∧ instant ≤ timeOf step ∧
        FoundBy (stepsOf i trace) query instant
  | .fetched query items => ∃ step, (stepsOf i trace).getLast? = some step ∧
      ListedAt trace query items (timeOf step)
  | _ => True

/-- Every list in the cache is a result of its query, and its canary outlives the instant of
the query by the staleness of the window at most. -/
def CacheAged (trace : List (Event (likeService setting))) (redis : Redis) : Prop :=
  ∀ window contentType entry, ':' ∉ window.toList →
    redis (formatLeadKey .data window contentType) = some entry →
      ∃ limit items instant, entry.value = .text (setting.itemsJson.toText items) ∧
        ListedAt trace ⟨contentType, window, limit⟩ items instant ∧
        ∀ canary, redis (formatLeadKey .canary window contentType) = some canary →
          ∃ deadline, canary.deadline = some deadline ∧
            deadline ≤ instant + staleness window

/-- The invariant of a timed run. -/
structure Aging (trace : List (Event (likeService setting))) (phases : List Board)
    (world : World) : Prop where
  passed : ∀ event ∈ trace, timeOf event ≤ world.clock
  dated : ∀ board ∈ phases, board.DatedIn trace
  aged : ∀ (i : Nat) (board : Board), phases[i]? = some board → board.AgedIn trace i
  cached : CacheAged trace world.redis

variable {trace : List (Event (likeService setting))} {query : TopQuery}
  {since : Option DateTime} {items : List TopLikeItem} {instant : Int}

theorem ListedAt.append (listed : ListedAt trace query items instant)
    (event : Event (likeService setting)) : ListedAt (trace ++ [event]) query items instant := by
  obtain ⟨before, found, after, since, rfl, rest⟩ := listed
  exact ⟨before, found, after ++ [event], since, by simp, rest⟩

theorem ListedAt.plain (listed : ListedAt trace query items instant) :
    ':' ∉ query.window.toList := by
  obtain ⟨_, _, _, _, _, _, ⟨_, _, _, _, _, _, _, _, valid⟩, _⟩ := listed
  exact colon_notMem_of_windowStart valid

/-- A result is as old as a step of the run. -/
theorem ListedAt.le_clock {clock : Int} (listed : ListedAt trace query items instant)
    (passed : ∀ event ∈ trace, timeOf event ≤ clock) : instant ≤ clock := by
  obtain ⟨before, event, after, _, rfl, rfl, _⟩ := listed
  exact passed event (List.mem_append_right _ List.mem_cons_self)

theorem Board.agedIn_start (call : LikeCall) (i : Nat) : (Board.start call).AgedIn trace i := by
  cases call <;> trivial

/-- A list stays as old while other calls take steps. -/
theorem Board.AgedIn.other {i : Nat} {board : Board} {event : Event (likeService setting)}
    (aged : board.AgedIn trace i) (elsewhere : event.thread ≠ i) :
    board.AgedIn (trace ++ [event]) i := by
  cases board with
  | shown query since items =>
      obtain ⟨step, final, limit, instant, listed, past, found⟩ := aged
      unfold Board.AgedIn
      rw [stepsOf_concat_other trace elsewhere]
      exact ⟨step, final, limit, instant, listed.append event, past, found⟩
  | fetched query items =>
      obtain ⟨step, final, listed⟩ := aged
      unfold Board.AgedIn
      rw [stepsOf_concat_other trace elsewhere]
      exact ⟨step, final, listed.append event⟩
  | _ => trivial

theorem getLast?_stepsOf_concat (trace : List (Event (likeService setting)))
    (event : Event (likeService setting)) :
    (stepsOf event.thread (trace ++ [event])).getLast? = some event := by
  rw [stepsOf_concat_self, List.getLast?_concat]

/-! ### One step -/

section Step

variable {event : Event (likeService setting)} {after : World} {spawned : List LikeCall}
  {board : Board}

/-- A call that takes a step has found no fresh list before. -/
def Unanswered (trace : List (Event (likeService setting))) (i : Nat) : Prop :=
  ∀ step ∈ stepsOf i trace, step.op.readsFresh step.res = false

/-- A list that is read is a result of the reader's query for some limit; with its canary
alive it is not too old. -/
theorem CacheAged.found {env : Surroundings} {world : World}
    {answer : Except DomainError (Option (List TopLikeItem) × Bool)}
    (cached : CacheAged trace world.redis) (plain : ':' ∉ query.window.toList)
    (handled : World.handle setting env
      (.cacheGetLeaderboardWithCanary query.window query.contentType) world =
        some (answer, after, spawned))
    (found : (unwrapOr (none, false) answer).1 = some items) :
    ∃ fresh limit instant, answer = .ok (some items, fresh) ∧
      ListedAt trace { query with limit := limit } items instant ∧
      (fresh = true → ∃ canary deadline, canary.deadline = some deadline ∧
        world.redis.drop env.expired
          (formatLeadKey .canary query.window query.contentType) = some canary ∧
        deadline ≤ instant + staleness query.window) := by
  simp only [World.handle, World.serve, World.advance, Option.some.injEq,
    Prod.mk.injEq] at handled
  obtain ⟨read, _, _⟩ := handled
  cases answer with
  | error e => cases found
  | ok pair =>
      obtain ⟨stored, fresh⟩ := pair
      obtain rfl : stored = some items := found
      obtain ⟨_, there⟩ := RedisLikeRepository.getLeaderboardWithCanary_items read
      obtain ⟨text, deadline, present, parsed⟩ := there items rfl
      obtain ⟨limit, list, instant, value, listed, alive⟩ :=
        cached query.window query.contentType _ plain (Redis.drop_some present)
      obtain rfl : text = setting.itemsJson.toText list := RedisValue.text.inj value
      rw [setting.itemsJson.readBack] at parsed
      obtain rfl := Option.some.inj parsed
      refine ⟨fresh, limit, instant, rfl, listed, ?_⟩
      rintro rfl
      obtain ⟨canary, standing⟩ := Option.isSome_iff_exists.mp
        (RedisLikeRepository.getLeaderboardWithCanary_fresh read)
      obtain ⟨due, is, near⟩ := alive canary (Redis.drop_some standing)
      exact ⟨canary, due, is, standing, near⟩

/-- A call that takes a step keeps a list that is not too old. -/
theorem Board.AgedIn.advance (aged : board.AgedIn trace event.thread)
    (passed : ∀ earlier ∈ trace, timeOf earlier ≤ event.before.clock)
    (dated : board.DatedIn trace) (cached : CacheAged trace event.before.redis)
    (atOnce : WritesAtOnce trace event) (unanswered : Unanswered trace event.thread)
    (permitted : board.Permitted event.op)
    (handled : World.handle setting event.env event.op event.before =
      some (event.res, after, spawned)) :
    (board.advance event.op event.res).AgedIn (trace ++ [event]) event.thread := by
  have final := getLast?_stepsOf_concat trace event
  have now : event.before.clock ≤ timeOf event :=
    Int.le_add_of_nonneg_right (Int.natCast_nonneg _)
  obtain ⟨i, call, env, op, answer, world⟩ := event
  replace handled : World.handle setting env op world = some (answer, after, spawned) :=
    handled
  cases board with
  | aside =>
      have stays : Board.advance .aside op answer = .aside := by cases op <;> rfl
      rw [stays]
      trivial
  | asked query =>
      obtain rfl : op = .utcNow := permitted
      simp only [Board.advance]
      split <;> trivial
  | dated query since =>
      obtain rfl : op = .cacheGetLeaderboardWithCanary query.window query.contentType :=
        permitted
      simp only [Board.advance]
      split
      · next items found =>
          have plain : ':' ∉ query.window.toList := by
            obtain ⟨_, _, _, _, _, _, _, _, valid⟩ := dated query since rfl
            exact colon_notMem_of_windowStart valid
          obtain ⟨fresh, limit, instant, rfl, listed, alive⟩ :=
            cached.found plain handled found
          have past : instant ≤ world.clock := listed.le_clock passed
          refine ⟨_, final, limit, instant, listed.append _, past.trans now, ?_⟩
          cases fresh with
          | true =>
              refine .inr ⟨_, final, rfl, ?_⟩
              intro honours
              obtain ⟨canary, deadline, due, standing, near⟩ := alive rfl
              have inTime := honours canary standing deadline due
              omega
          | false => exact .inl ⟨_, List.mem_of_getLast? final, rfl⟩
      · trivial
  | shown query since items =>
      obtain ⟨step, _, limit, instant, listed, past, found⟩ := aged
      have later : instant ≤ world.clock := listed.le_clock passed
      have stays : Board.advance (.shown query since items) op answer =
          .shown query since items := by
        rcases permitted with rfl | rfl <;> rfl
      rw [stays]
      refine ⟨_, final, limit, instant, listed.append _, later.trans now, ?_⟩
      rcases found with ⟨read, member, stale⟩ | ⟨read, last, fresh, _⟩
      · refine .inl ⟨read, ?_, stale⟩
        exact List.mem_filter.mpr
          ⟨List.mem_append_left _ (List.mem_filter.mp member).1, (List.mem_filter.mp member).2⟩
      · rw [unanswered read (List.mem_of_getLast? last)] at fresh
        cases fresh
  | missed query since =>
      obtain rfl : op = .dbGetTopLikes query.contentType.asOpt since query.limit := permitted
      cases answer with
      | error e => trivial
      | ok items =>
          exact ⟨_, final, trace, _, [], since, rfl, rfl, dated query since rfl, env.order,
            World.handle_topLikes handled⟩
  | fetched query items =>
      obtain ⟨canaryTtl, rfl⟩ := permitted
      obtain ⟨step, last, listed⟩ := aged
      have same := atOnce rfl step last
      refine ⟨_, final, ?_⟩
      rw [← same]
      exact listed.append _

/-- A list that a step leaves in the cache is as old as it was. -/
theorem CacheAged.keep (cached : CacheAged trace event.before.redis) {redis : Redis}
    {window : String} {contentType : ContentType} (plain : ':' ∉ window.toList)
    (kept : ∀ kind, kind ≠ .lock → redis (formatLeadKey kind window contentType) =
      event.before.redis.drop event.env.expired (formatLeadKey kind window contentType))
    {entry : RedisEntry}
    (present : redis (formatLeadKey .data window contentType) = some entry) :
    ∃ limit items instant, entry.value = .text (setting.itemsJson.toText items) ∧
      ListedAt (trace ++ [event]) ⟨contentType, window, limit⟩ items instant ∧
      ∀ canary, redis (formatLeadKey .canary window contentType) = some canary →
        ∃ deadline, canary.deadline = some deadline ∧ deadline ≤ instant + staleness window := by
  rw [kept .data (by decide)] at present
  obtain ⟨limit, items, instant, value, listed, alive⟩ :=
    cached window contentType entry plain (Redis.drop_some present)
  refine ⟨limit, items, instant, value, listed.append event, ?_⟩
  intro canary standing
  rw [kept .canary (by decide)] at standing
  exact alive canary (Redis.drop_some standing)

/-- A step keeps the ages of the cached lists: a list is written with a canary that is
counted from the instant of its query. -/
theorem CacheAged.step (cached : CacheAged trace event.before.redis)
    (aged : board.AgedIn trace event.thread) (atOnce : WritesAtOnce trace event)
    (short : ∀ window contentType items canaryTtl,
      event.op = .cacheSetLeaderboardWithCanary window contentType items canaryTtl →
        canaryTtl ≤ staleness window)
    (permitted : board.Permitted event.op)
    (handled : World.handle setting event.env event.op event.before =
      some (event.res, after, spawned)) :
    CacheAged (trace ++ [event]) after.redis := by
  intro window contentType entry plain present
  have redis := (World.handle_after handled).2.2.1
  by_cases keeps : ∀ written writtenType items canaryTtl,
      event.op ≠ .cacheSetLeaderboardWithCanary written writtenType items canaryTtl
  · apply cached.keep plain _ present
    intro kind notLock
    rw [redis]
    exact World.redisAfter_lead keeps (fun _ _ _ => notLock) window contentType
  · push Not at keeps
    obtain ⟨written, writtenType, items, canaryTtl, is⟩ := keeps
    rw [is] at permitted redis
    cases board with
    | aside => exact permitted.elim
    | shown query since list => rcases permitted with lock | refresh <;> contradiction
    | fetched query list =>
        obtain ⟨_, same⟩ := permitted
        cases same
        obtain ⟨queried, last, listed⟩ := aged
        have sameTime := atOnce (by rw [is]; rfl) queried last
        simp only [World.redisAfter] at redis
        cases fault : event.env.fault with
        | some e =>
            apply cached.keep plain _ present
            intro kind _
            rw [redis, fault]
            rfl
        | none =>
            rw [fault] at redis
            by_cases here : query.window = window ∧ query.contentType = contentType
            · obtain ⟨rfl, rfl⟩ := here
              rw [redis, RedisLikeRepository.setLeaderboardWithCanary_data _ _ _ _ _
                listed.plain plain, if_pos ⟨rfl, rfl⟩] at present
              cases present
              refine ⟨query.limit, items, _, rfl, listed.append event, ?_⟩
              intro canary standing
              rw [redis, RedisLikeRepository.setLeaderboardWithCanary_canary _ _ _ _ _
                listed.plain plain, if_pos ⟨rfl, rfl⟩] at standing
              cases standing
              refine ⟨_, rfl, ?_⟩
              have bound := short _ _ _ _ is
              rw [sameTime]
              unfold timeOf
              omega
            · apply cached.keep plain _ present
              intro kind notLock
              rw [redis]
              cases kind with
              | data =>
                  rw [RedisLikeRepository.setLeaderboardWithCanary_data _ _ _ _ _
                    listed.plain plain, if_neg here]
              | canary =>
                  rw [RedisLikeRepository.setLeaderboardWithCanary_canary _ _ _ _ _
                    listed.plain plain, if_neg here]
              | lock => exact absurd rfl notLock
    | _ => cases permitted

/-- The step law: a call that takes a step keeps all lists as old as they are said to be. -/
theorem aging_step {phases : List Board} (aging : Aging trace phases event.before)
    (atOnce : WritesAtOnce trace event) (unanswered : Unanswered trace event.thread)
    (short : ∀ window contentType items canaryTtl,
      event.op = .cacheSetLeaderboardWithCanary window contentType items canaryTtl →
        canaryTtl ≤ staleness window)
    (at_i : phases[event.thread]? = some board)
    (own : ∀ query, board.query = some query → event.call.topQuery = some query)
    (permitted : board.Permitted event.op)
    (handled : World.handle setting event.env event.op event.before =
      some (event.res, after, spawned)) :
    Aging (trace ++ [event])
      (phases.set event.thread (board.advance event.op event.res) ++
        spawned.map Board.start) after := by
  have mine := aging.dated board (List.mem_of_getElem? at_i)
  have aged := aging.aged _ board at_i
  have clock := (World.handle_after handled).2.2.2
  constructor
  · intro earlier member
    rcases List.mem_append.mp member with old | new
    · rw [clock]
      exact (aging.passed earlier old).trans
        (Int.le_add_of_nonneg_right (Int.natCast_nonneg _))
    · rw [clock, List.mem_singleton.mp new]
      exact le_rfl
  · intro other member
    rcases List.mem_append.mp member with old | new
    · rcases List.mem_or_eq_of_mem_set old with kept | rfl
      · exact (aging.dated other kept).append event
      · exact mine.advance own permitted
    · obtain ⟨task, started, rfl⟩ := List.mem_map.mp new
      exact (mine.tasks permitted handled task started).1.append event
  · intro j other at_j
    rcases entry_of_set_append at_j with ⟨rfl, rfl⟩ | ⟨elsewhere, at_old⟩ | ⟨_, started⟩
    · exact aged.advance aging.passed mine aging.cached atOnce unanswered permitted handled
    · exact (aging.aged j other at_old).other elsewhere
    · obtain ⟨task, _, rfl⟩ := List.mem_map.mp started
      exact Board.agedIn_start task j
  · exact aging.cached.step aged atOnce short permitted handled

end Step

/-! ### Whole runs -/

/-- Whether a call has found a fresh list is told by its steps. -/
theorem answered_eq (i : Nat) :
    controlAfter (M := likeService setting)
        (fun answered op answer => answered || op.readsFresh answer) i false trace =
      (stepsOf i trace).any fun step => step.op.readsFresh step.res := by
  induction trace using List.reverseRecOn with
  | nil => rfl
  | append_singleton trace event inductionHypothesis =>
      by_cases same : event.thread = i
      · subst same
        rw [controlAfter_concat_self, stepsOf_concat_self, List.any_append, inductionHypothesis]
        simp
      · rw [controlAfter_concat_other _ _ same, stepsOf_concat_other _ same,
          inductionHypothesis]

variable {calls : List LikeCall} {world : World} {last : Pool (likeService setting)}

/-- In a run, a call that takes a step has found no fresh list, and canaries are short. -/
theorem run_concludes (run : Run (M := likeService setting) (Pool.start world calls) trace last)
    {before later : List (Event (likeService setting))} {event : Event (likeService setting)}
    (split : trace = before ++ event :: later) :
    Unanswered before event.thread ∧ ∀ window contentType items canaryTtl,
      event.op = .cacheSetLeaderboardWithCanary window contentType items canaryTtl →
        canaryTtl ≤ staleness window := by
  obtain ⟨_, allowed⟩ := run.obeys (fun call => body_concludes setting call)
    (fun _ _ tail => by cases tail) fun _ _ _ _ => trivial
  obtain ⟨going, short⟩ := allowed before event later split
  refine ⟨?_, short⟩
  rw [answered_eq] at going
  intro step member
  exact Bool.eq_false_iff.mpr (List.any_eq_false.mp going step member)

/-- The run law of ages. -/
theorem aging_run
    (uncached : ∀ window contentType,
      world.redis (formatLeadKey .data window contentType) = none)
    (requests : ∀ window contentType since limit,
      .refreshLeaderboard window contentType since limit ∉ calls)
    (run : Run (M := likeService setting) (Pool.start world calls) trace last)
    (atOnce : ∀ before event later, trace = before ++ event :: later →
      WritesAtOnce before event) :
    ∃ phases, Phased (M := likeService setting) Board.advance Board.Permitted
        (fun _ _ _ => True) Board.Final phases last ∧
      (∀ (i : Nat) (thread : Thread (likeService setting)), last.threads[i]? = some thread →
        phases[i]? = some (controlAfter (M := likeService setting) Board.advance i
          (Board.start thread.call) trace)) ∧
      Aging trace phases last.state := by
  have tails : ∀ (board : Board) (target : LikeCall), board.Final (.inl target) →
      True ∧ board = Board.start target :=
    fun _ _ tail => tail.elim
  have start : Aging ([] : List (Event (likeService setting))) (calls.map Board.start)
      world := by
    constructor
    · intro event member
      cases member
    · intro board member
      obtain ⟨call, called, rfl⟩ := List.mem_map.mp member
      cases call with
      | refreshLeaderboard window contentType since limit =>
          exact absurd called (requests window contentType since limit)
      | _ => rintro _ _ ⟨⟩
    · intro i board at_i
      obtain ⟨call, _, rfl⟩ := List.mem_map.mp (List.mem_of_getElem? at_i)
      exact Board.agedIn_start call i
    · intro window contentType entry _ present
      rw [uncached window contentType] at present
      cases present
  apply Run.phases_spawning (M := likeService setting) Aging
    (fun call _ => Board.body_boards setting call) tails (fun _ _ => trivial) run start
  intro before event later phases board next spawned split led at_i permitted handled aging
  refine ⟨fun _ _ => trivial, trivial, ?_⟩
  obtain ⟨unanswered, short⟩ := run_concludes run split
  apply aging_step aging (atOnce before event later split) unanswered short at_i _ permitted
    handled
  intro query is
  rw [led] at is
  exact Board.own_query is

/-- A request that succeeds answers with a result of the top-likes query at an instant no
later than its last step, for the limit that the list was fetched for.  The instant is at
most the staleness of the window before that step, unless the request has found a list
without its canary. -/
theorem top_likes_age (setting : Setting) (calls : List LikeCall) (world : World)
    (trace : List (Event (likeService setting))) (last : Pool (likeService setting))
    (uncached : ∀ window contentType,
      world.redis (formatLeadKey .data window contentType) = none)
    (requests : ∀ window contentType since limit,
      .refreshLeaderboard window contentType since limit ∉ calls)
    (run : Run (M := likeService setting) (Pool.start world calls) trace last)
    (atOnce : ∀ before event later, trace = before ++ event :: later →
      WritesAtOnce before event)
    (contentType : ContentType) (window : String)
    (honours : ∀ event ∈ trace, HonoursCanary window contentType event) :
    ∀ (i : Nat) (thread : Thread (likeService setting)) limit response,
      last.threads[i]? = some thread → thread.call = .getTopLikes contentType window limit →
      thread.rest = .ret (.inr (.getTopLikes (.ok response))) →
        ∃ step, (stepsOf i trace).getLast? = some step ∧ ∃ fetchedLimit instant,
          ListedAt trace ⟨contentType, window, fetchedLimit⟩ response.items instant ∧
          instant ≤ timeOf step ∧
          ((∀ read ∈ stepsOf i trace, read.op.readsStale read.res = false) →
            timeOf step - staleness window ≤ instant) := by
  obtain ⟨phases, phased, led, aging⟩ := aging_run uncached requests run atOnce
  intro i thread limit response at_i called ended
  have at_phase := led i thread at_i
  obtain ⟨shown, is⟩ := phased.returned at_i at_phase ended
  have own := Board.own_query (Board.query_of_list is)
  rw [called] at own
  cases own
  have aged := aging.aged i _ at_phase
  generalize controlAfter (M := likeService setting) Board.advance i
    (Board.start thread.call) trace = board at is aged
  cases board with
  | shown query since items =>
      cases is
      obtain ⟨step, final, limit, instant, listed, past, found⟩ := aged
      refine ⟨step, final, limit, instant, listed, past, ?_⟩
      intro never
      rcases found with ⟨read, member, stale⟩ | ⟨read, also, _, near⟩
      · rw [never read member] at stale
        cases stale
      · obtain rfl := Option.some.inj (final.symm.trans also)
        have among := (List.mem_filter.mp (List.mem_of_getLast? final)).1
        exact near (honours step among)
  | fetched query items =>
      cases is
      obtain ⟨step, final, listed⟩ := aged
      refine ⟨step, final, _, timeOf step, listed, le_rfl, ?_⟩
      intro _
      omega
  | _ => cases is

end Runs

/-- The surroundings of the first step of a request that comes after some seconds. -/
def arriving (seconds : Nat) (expired : List String) : Surroundings :=
  { Surroundings.calm with elapse := seconds, expired := expired }

/-- Two requests: the second one comes twenty seconds later and finds the canary alive. -/
theorem top_likes_age_fresh :
    ∃ trace last,
      Run (M := likeService (showing twoRanked))
        (Pool.start twoPosts [.getTopLikes ⟨"post"⟩ "all" 50, .getTopLikes ⟨"post"⟩ "all" 60])
        trace last ∧
      last.Done ∧
      ∀ (i : Nat) (thread : Thread (likeService (showing twoRanked))) limit response,
        last.threads[i]? = some thread → thread.call = .getTopLikes ⟨"post"⟩ "all" limit →
        thread.rest = .ret (.inr (.getTopLikes (.ok response))) →
          ∃ step, (stepsOf i trace).getLast? = some step ∧ ∃ fetchedLimit instant,
            ListedAt trace ⟨⟨"post"⟩, "all", fetchedLimit⟩ response.items instant ∧
            instant ≤ timeOf step ∧
            ((∀ read ∈ stepsOf i trace, read.op.readsStale read.res = false) →
              timeOf step - staleness "all" ≤ instant) := by
  obtain ⟨trace, last, run, passed⟩ := Run.exists_of_exec
    (M := likeService (showing twoRanked))
    ([(0, Surroundings.calm), (0, Surroundings.calm), (0, Surroundings.calm),
      (0, Surroundings.calm), (1, arriving 20 []), (1, Surroundings.calm)])
    (Pool.start twoPosts [.getTopLikes ⟨"post"⟩ "all" 50, .getTopLikes ⟨"post"⟩ "all" 60])
    (fun events last => last.done? && (List.range events.length).all fun n =>
      ∀ event ∈ events[n]?, WritesAtOnce (events.take n) event ∧
        HonoursCanary "all" ⟨"post"⟩ event)
    (by decide +kernel)
  simp only [Bool.and_eq_true, List.all_eq_true, decide_eq_true_eq] at passed
  obtain ⟨ended, each⟩ := passed
  have checked : ∀ before event after, trace = before ++ event :: after →
      WritesAtOnce before event ∧ HonoursCanary "all" ⟨"post"⟩ event := by
    rintro before event after rfl
    have holds := each before.length (by simp) event (by simp)
    rwa [List.take_left] at holds
  refine ⟨trace, last, run, Pool.done_of_done? ended, ?_⟩
  apply top_likes_age (showing twoRanked) _ twoPosts trace last _ _ run
  · intro before event after split
    exact (checked before event after split).1
  · intro event member
    obtain ⟨before, after, split⟩ := List.append_of_mem member
    exact (checked before event after split).2
  · intro window contentType
    rfl
  · intro window contentType since limit
    simp

/-- The worlds that a run passes through. -/
def staysOf {setting : Setting} (trace : List (Event (likeService setting))) : List Stay :=
  trace.map fun event => (event.before, event.env.elapse)

/-- The world has the list as its result of the query for posts of all time. -/
def TopPosts (items : List TopLikeItem) (world : World) : Prop :=
  ∃ order, PostgresLikeRepository.getTopLikes none order (some "post") none 50 world.likes =
    .ok items

/-- A post loses its like, and a thousand seconds later a request for the leaderboard finds
the canary gone and still gets the post. -/
theorem top_likes_answer_stale :
    ∃ trace last,
      Run (M := likeService (showing twoRanked))
        (Pool.start twoPosts [.getTopLikes ⟨"post"⟩ "all" 50, .removeLike ⟨1⟩ ⟨"post"⟩ ⟨8⟩,
          .getTopLikes ⟨"post"⟩ "all" 50]) trace last ∧
      (∀ event ∈ trace, event.env.fault = none ∧ HonoursCanary "all" ⟨"post"⟩ event) ∧
      (∀ before event after, trace = before ++ event :: after → WritesAtOnce before event) ∧
      ∃ thread, last.threads[2]? = some thread ∧ ∃ response,
        thread.rest = .ret (.inr (.getTopLikes (.ok response))) ∧
        ∃ step, (stepsOf 2 trace).getLast? = some step ∧
          ¬ ∃ instant, timeOf step - 300 ≤ instant ∧
            HoldsAt (TopPosts response.items) (staysOf trace) last.state instant := by
  obtain ⟨trace, last, run, passed⟩ := Run.exists_of_exec
    (M := likeService (showing twoRanked))
    ([0, 0, 0, 0, 1, 1].map (fun i => (i, Surroundings.calm)) ++
      [(2, arriving 1000 [formatLeadKey .canary "all" ⟨"post"⟩])] ++
      [2, 2, 2].map fun i => (i, Surroundings.calm))
    (Pool.start twoPosts [.getTopLikes ⟨"post"⟩ "all" 50, .removeLike ⟨1⟩ ⟨"post"⟩ ⟨8⟩,
      .getTopLikes ⟨"post"⟩ "all" 50])
    (fun events last =>
      ((List.range events.length).all fun n =>
        ∀ event ∈ events[n]?, (event.env.fault = none ∧ HonoursCanary "all" ⟨"post"⟩ event) ∧
          WritesAtOnce (events.take n) event) &&
      (last.threads[2]?.bind answered = some twoRanked) &&
      (stepsOf 2 events).getLast?.any fun step => timeOf step = 1000 &&
        (staysOf events ++ [(last.state, 0)]).all fun stay => stay.1.clock + stay.2 < 700 ||
          (PostgresLikeRepository.likedItems (some "post") none stay.1.likes).length = 1)
    (by decide +kernel)
  simp only [Bool.and_eq_true, List.all_eq_true, decide_eq_true_eq, Option.any_eq_true]
    at passed
  obtain ⟨⟨each, list⟩, step, final, time, alone⟩ := passed
  have checked : ∀ before event after, trace = before ++ event :: after →
      (event.env.fault = none ∧ HonoursCanary "all" ⟨"post"⟩ event) ∧
        WritesAtOnce before event := by
    rintro before event after rfl
    have holds := each before.length (by simp) event (by simp)
    rwa [List.take_left] at holds
  obtain ⟨thread, at_thread, shown⟩ := Option.bind_eq_some_iff.mp list
  unfold answered at shown
  split at shown
  · next response is =>
      obtain items : response.items = twoRanked := Option.some.inj shown
      have other : ∀ stay ∈ staysOf trace ++ [(last.state, 0)],
          (700 : Int) ≤ stay.1.clock + stay.2 → ¬ TopPosts twoRanked stay.1 := by
        intro stay member late top
        obtain ⟨order, result⟩ := top
        have length := PostgresLikeRepository.getTopLikes_length result
        rcases Bool.or_eq_true_iff.mp (alone stay member) with early | one
        · have := of_decide_eq_true early
          omega
        · rw [of_decide_eq_true one] at length
          exact absurd length (by decide)
      refine ⟨trace, last, run, ?_, ?_, thread, at_thread, response, is, step, final, ?_⟩
      · intro event member
        obtain ⟨before, after, split⟩ := List.append_of_mem member
        exact (checked before event after split).1
      · intro before event after split
        exact (checked before event after split).2
      · rw [items, time]
        rintro ⟨instant, recent, ⟨stay, member, top, _, until_then⟩ | ⟨top, rfl⟩⟩
        · exact other stay (List.mem_append_left _ member) (by omega) top
        · exact other (last.state, 0) (List.mem_append_right _ List.mem_cons_self)
            (by simpa using by omega) top
  · cases shown

end SocialApi
