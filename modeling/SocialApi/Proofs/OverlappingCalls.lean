/-
Module: SocialApi.Proofs.OverlappingCalls
Purpose: When add_like and remove_like calls that overlap all come back with Ok.
Trusted boundary: none
Main exports:
  LikeReply.Succeeded, Liking, body_likes, RowDuring, FindsRow, AllSucceed,
  overlapping_calls_succeed_iff
-/
import SocialApi.Proofs.ConcurrentCounts
import SocialApi.Proofs.OfflineCounts
import SocialApi.Proofs.Progress

namespace SocialApi

open Process
open LikeService

/-- An `Ok` of `add_like` or `remove_like`. -/
def LikeReply.Succeeded : LikeReply → Prop
  | .addLike result => ∃ added, result = .ok added
  | .removeLike result => ∃ removed, result = .ok removed
  | _ => True

/-! ### A protocol of rows -/

/-- What a request has seen of its row: the instant of a row that it has inserted or read
back, and whether it has failed to read it back. -/
structure Liking where
  call : LikeCall
  row : Option DateTime
  missing : Bool

namespace Liking

def start (call : LikeCall) : Liking := ⟨call, none, false⟩

def advance (liking : Liking) : (op : LikeOp) → op.Res → Liking
  | .dbSave like, .ok false => { liking with row := some like.createdAt }
  | .dbGetLike _ _ _, .ok like => { liking with row := some like.createdAt }
  | .dbGetLike _ _ _, .error _ => { liking with missing := true }
  | _, _ => liking

/-- A request inserts and reads its own row, starts only publish tasks, and ends when the
row that it reads back is missing. -/
def Permitted (liking : Liking) (op : LikeOp) : Prop :=
  liking.missing = false ∧
    match op with
    | .dbSave like => liking.call.change = some ⟨.like, like.key⟩
    | .dbGetLike userId contentType contentId =>
        liking.call.change = some ⟨.like, userId, contentType, contentId⟩
    | .spawn task => ∃ event, task = .publishLikeEvent event
    | _ => True

/-- What services that are up answer. -/
def Up (_ : Liking) : (op : LikeOp) → op.Res → Prop
  | .validateContent _ _, answer => ∃ id, answer = .ok id
  | .dbSave _, answer => ∃ present, answer = .ok present
  | .dbRemove _ _ _, answer => ∃ wasLiked, answer = .ok wasLiked
  | .dbGetLikesCount _ _, answer => ∃ count, answer = .ok count
  | _, _ => True

/-- The program keeps to the protocol, and ends as stated. -/
abbrev Likes {α : Type} (final : Liking → α → Prop) (program : Service α) (liking : Liking) :
    Prop :=
  program.Obeys advance Permitted Up final liking

/-- How `add_like` ends: with the instant of its row, or because the row was missing. -/
def Added (liking : Liking) : Except DomainError AddLikeCommandResult → Prop
  | .error _ => liking.missing = true
  | .ok added => liking.missing = false ∧ liking.row = some added.likedAt

def Final (liking : Liking) : LikeCall ⊕ LikeReply → Prop
  | .inl _ => False
  | .inr (.addLike result) => liking.Added result
  | .inr reply => reply.Succeeded ∧ liking.missing = false

end Liking

section Likes

open Liking

variable {liking : Liking}

theorem getLikeCountWithFallback_likes (contentType : ContentType) (contentId : ContentId)
    (present : liking.missing = false) :
    Likes (fun reached result => reached = liking ∧ ∃ count, result = .ok count)
      (getLikeCountWithFallback contentType contentId) liking := by
  have step : Permitted liking (.cacheGetCount contentType contentId) := ⟨present, trivial⟩
  simp only [getLikeCountWithFallback, getCacheLikeCount_bind, Likes, Program.obeys_perform]
  refine ⟨step, fun first _ => ?_⟩
  cases cachedCount first with
  | ok count => exact ⟨rfl, count, rfl⟩
  | error miss =>
  simp only [Program.request_bind, Program.obeys_perform]
  refine ⟨step, fun lock _ => ⟨step, fun _ _ => ⟨step, fun second _ => ?_⟩⟩⟩
  cases cachedCount second with
  | ok count => exact ⟨step, fun _ _ => ⟨step, fun _ _ => ⟨rfl, count, rfl⟩⟩⟩
  | error miss =>
  refine ⟨step, fun counted up => ?_⟩
  obtain ⟨count, rfl⟩ := up
  refine ⟨step, fun _ _ => ⟨step, fun _ _ => ⟨step, fun _ _ => ?_⟩⟩⟩
  exact ⟨rfl, count, rfl⟩

theorem sendSseEvent_likes (contentId : ContentId) (contentType : ContentType)
    (userId : UserId) (count : Nat) (eType : SseEventType) (present : liking.missing = false) :
    Likes (fun reached _ => reached = liking)
      (sendSseEvent contentId contentType userId count eType) liking :=
  ⟨⟨present, trivial⟩, fun _ _ => ⟨⟨present, _, rfl⟩, fun _ _ => rfl⟩⟩

theorem likeAdded_likes {likeCmd : AddLikeCommand} {count : Nat} {createdAt : DateTime}
    {alreadyExists : Bool} (present : liking.missing = false)
    (row : liking.row = some createdAt) :
    Likes Added (likeAdded likeCmd count createdAt alreadyExists) liking := by
  apply (sendSseEvent_likes _ _ _ _ _ present).bind
  rintro _ _ rfl
  exact ⟨present, row⟩

theorem addLike_likes (likeCmd : AddLikeCommand) :
    Likes Added (addLike likeCmd) (start (.addLike likeCmd)) := by
  simp only [addLike, Likes, Program.request_bind, Program.obeys_perform]
  refine ⟨⟨rfl, trivial⟩, fun validated up => ?_⟩
  obtain ⟨verdict, rfl⟩ := up
  refine ⟨⟨rfl, trivial⟩, fun createdAt _ => ⟨⟨rfl, rfl⟩, fun saved up => ?_⟩⟩
  obtain ⟨present, rfl⟩ := up
  cases present with
  | false =>
      refine ⟨⟨rfl, trivial⟩, fun counted _ => ?_⟩
      cases counted with
      | ok newCount => exact likeAdded_likes rfl rfl
      | error e =>
      refine ⟨⟨rfl, trivial⟩, fun recounted up => ?_⟩
      obtain ⟨count, rfl⟩ := up
      exact likeAdded_likes rfl rfl
  | true =>
      apply (getLikeCountWithFallback_likes _ _ rfl).bind
      rintro _ _ ⟨rfl, count, rfl⟩
      refine ⟨⟨rfl, rfl⟩, fun existed _ => ?_⟩
      cases existed with
      | error e => exact rfl
      | ok existedLike => exact likeAdded_likes rfl rfl

theorem removeLike_likes (userId : UserId) (contentType : ContentType)
    (contentId : ContentId) :
    Likes (fun reached result => (∃ removed, result = .ok removed) ∧ reached.missing = false)
      (removeLike userId contentType contentId)
      (start (.removeLike userId contentType contentId)) := by
  have told : ∀ count, Likes
      (fun reached result => (∃ removed, result = .ok removed) ∧ reached.missing = false)
      (likeRemoved userId contentType contentId count)
      (start (.removeLike userId contentType contentId)) := by
    intro count
    apply (sendSseEvent_likes _ _ _ _ _ rfl).bind
    rintro _ _ rfl
    exact ⟨⟨_, rfl⟩, rfl⟩
  simp only [removeLike, Likes, Program.request_bind, Program.obeys_perform]
  refine ⟨⟨rfl, trivial⟩, fun validated up => ?_⟩
  obtain ⟨verdict, rfl⟩ := up
  refine ⟨⟨rfl, trivial⟩, fun removed up => ?_⟩
  obtain ⟨wasLiked, rfl⟩ := up
  apply (getLikeCountWithFallback_likes _ _ rfl).bind
  rintro _ _ ⟨rfl, currCount, rfl⟩
  dsimp only
  split
  · split
    · refine ⟨⟨rfl, trivial⟩, fun counted _ => ?_⟩
      cases counted with
      | ok newCount => exact told newCount
      | error e =>
      refine ⟨⟨rfl, trivial⟩, fun recounted up => ?_⟩
      obtain ⟨count, rfl⟩ := up
      exact told count
    · exact told currCount
  · exact ⟨⟨_, rfl⟩, rfl⟩

/-- Where the services are up, a request fails only when the row that it reads back is
missing. -/
theorem body_likes (setting : Setting) (call : LikeCall)
    (among : call.change ≠ none ∨ ∃ event, call = .publishLikeEvent event) :
    Likes Final (call.body setting) (start call) := by
  rcases among with writes | ⟨event, rfl⟩
  · cases call with
    | addLike likeCmd =>
        apply (addLike_likes likeCmd).bind
        intro reached result added
        exact added
    | removeLike userId contentType contentId =>
        apply (removeLike_likes userId contentType contentId).bind
        intro reached result removed
        exact removed
    | _ => exact absurd rfl writes
  · exact ⟨⟨rfl, trivial⟩, fun answer _ => ⟨trivial, rfl⟩⟩

end Likes

/-! ### Runs -/

section Runs

variable {setting : Setting}

/-- Postgres, Redis and the validator answer, and a generated id is new. -/
structure ServicesUp (event : Event (likeService setting)) : Prop where
  noFault : event.env.fault = none
  valid : ∃ id, event.env.verdict = .ok id
  newId : ∀ like, event.op = .dbSave like →
    event.env.newId ∉ event.before.likes.rows.map Like.id

/-- A `get_like` finds the row that it asks for. -/
def FindsRow (event : Event (likeService setting)) : Prop :=
  ∀ userId contentType contentId, event.op = .dbGetLike userId contentType contentId →
    (event.before.likes.find (userId, contentType, contentId)).isSome

/-- At some instant of the call of thread `i`, a step of its own away, there is a row with
the key and, at the resolution of the column, the instant. -/
def RowDuring (trace : List (Event (likeService setting))) (i : Nat)
    (key : UserId × ContentType × ContentId) (instant : DateTime) : Prop :=
  ∃ (before : List (Event (likeService setting))) (event : Event (likeService setting))
    (after : List (Event (likeService setting))) (world : World),
      trace = before ++ event :: after ∧ event.thread = i ∧
      (world = event.before ∨ ∃ spawned,
        World.handle setting event.env event.op event.before =
          some (event.res, world, spawned)) ∧
      ∃ row, world.likes.find key = some row ∧
        row.createdAt = DateTime.toTimestamptz instant

/-- Every call that has come back did so with `Ok`, an `add_like` with the instant of a row
of its user and item during the call. -/
def AllSucceed (trace : List (Event (likeService setting)))
    (last : Pool (likeService setting)) : Prop :=
  ∀ (i : Nat) (call : LikeCall) (reply : LikeReply),
    last.threads[i]? = some ⟨call, .ret (.inr reply)⟩ →
      reply.Succeeded ∧ ∀ added, reply = .addLike (.ok added) →
        ∃ key, call.change = some ⟨.like, key⟩ ∧ RowDuring trace i key added.likedAt

/-- What a request has seen agrees with the trace. -/
structure Seen (trace : List (Event (likeService setting))) (i : Nat) (liking : Liking) :
    Prop where
  row : ∀ instant, liking.row = some instant →
    ∃ key, liking.call.change = some ⟨.like, key⟩ ∧ RowDuring trace i key instant
  missing : liking.missing = true ↔ ∃ event ∈ trace, event.thread = i ∧ ¬ FindsRow event

theorem RowDuring.concat {trace : List (Event (likeService setting))} {i : Nat}
    {key : UserId × ContentType × ContentId} {instant : DateTime}
    (during : RowDuring trace i key instant) (event : Event (likeService setting)) :
    RowDuring (trace ++ [event]) i key instant := by
  obtain ⟨before, own, after, world, rfl, rest⟩ := during
  exact ⟨before, own, after ++ [event], world, by simp, rest⟩

/-- A step of another call, or one that finds its row. -/
theorem Seen.concat {trace : List (Event (likeService setting))} {i : Nat} {liking : Liking}
    (seen : Seen trace i liking) {event : Event (likeService setting)}
    (aside : event.thread ≠ i ∨ FindsRow event) : Seen (trace ++ [event]) i liking where
  row := by
    intro instant there
    obtain ⟨key, wants, during⟩ := seen.row instant there
    exact ⟨key, wants, during.concat event⟩
  missing := by
    rw [seen.missing]
    constructor
    · rintro ⟨earlier, member, own⟩
      exact ⟨earlier, List.mem_append_left _ member, own⟩
    · rintro ⟨other, member, own, unfound⟩
      rcases List.mem_append.mp member with old | new
      · exact ⟨other, old, own, unfound⟩
      · obtain rfl := List.mem_singleton.mp new
        rcases aside with elsewhere | found
        · exact absurd own elsewhere
        · exact absurd found unfound

/-- The answers of services that are up. -/
theorem World.handle_up {event : Event (likeService setting)} {next : World}
    {spawned : List LikeCall} {liking : Liking} (up : ServicesUp event)
    (handled : World.handle setting event.env event.op event.before =
      some (event.res, next, spawned)) : liking.Up event.op event.res := by
  obtain ⟨noFault, valid, newId⟩ := up
  obtain ⟨i, call, env, op, answer, world⟩ := event
  cases op with
  | validateContent contentType contentId =>
      obtain ⟨id, verdict⟩ := valid
      simp only [World.handle, World.serve, Option.some.injEq, Prod.mk.injEq] at handled
      exact ⟨id, handled.1.symm.trans verdict⟩
  | dbSave like =>
      obtain ⟨_, ⟨e, _, _, cause⟩ | ⟨answered, _⟩ | ⟨answered, _⟩⟩ :=
        World.handle_save handled
      · exact absurd (cause noFault) (newId like rfl)
      · exact ⟨true, answered⟩
      · exact ⟨false, answered⟩
  | dbRemove userId contentType contentId =>
      obtain ⟨_, ⟨e, _, failed, _⟩ | ⟨answered, _⟩⟩ := World.handle_remove handled
      · exact absurd noFault failed
      · exact ⟨_, answered⟩
  | dbGetLikesCount contentType contentId =>
      exact ⟨_, World.handle_getLikesCount noFault handled⟩
  | _ => trivial

/-- An inserted row is found under its key. -/
theorem LikesTable.find_insert {table : LikesTable} {like : Like} {newId : Uuid}
    (newKey : like.key ∉ table.rows.map Like.key)
    (freshId : newId ∉ table.rows.map Like.id) :
    (table.insert like newId newKey freshId).find like.key = some (like.stored newId) := by
  have absent : table.rows.find? (fun row => row.key = like.key) = none := by
    rw [List.find?_eq_none]
    intro row member same
    exact newKey (of_decide_eq_true same ▸ List.mem_map_of_mem member)
  simp only [LikesTable.find, LikesTable.insert, List.find?_append, absent, Option.none_or]
  simp [Like.stored, Like.key]

/-- The step law: a request that takes a step goes on agreeing with the trace. -/
theorem Seen.advance {before : List (Event (likeService setting))}
    {event : Event (likeService setting)} {liking : Liking} {next : World}
    {spawned : List LikeCall} (seen : Seen before event.thread liking) (up : ServicesUp event)
    (permitted : liking.Permitted event.op)
    (handled : World.handle setting event.env event.op event.before =
      some (event.res, next, spawned)) :
    Seen (before ++ [event]) event.thread (liking.advance event.op event.res) := by
  obtain ⟨i, call, env, op, answer, world⟩ := event
  cases op with
  | dbSave like =>
      have kept : Seen (before ++ [⟨i, call, env, .dbSave like, answer, world⟩]) i liking :=
        seen.concat (.inr (by rintro _ _ _ ⟨⟩))
      obtain ⟨_, ⟨e, rfl, _, _⟩ | ⟨rfl, _⟩ | ⟨rfl, _, newKey, freshId, inserted⟩⟩ :=
        World.handle_save handled
      · exact kept
      · exact kept
      · refine ⟨?_, kept.missing⟩
        rintro _ ⟨⟩
        refine ⟨like.key, permitted.2, before, _, [], next, rfl, rfl, .inr ⟨_, handled⟩,
          like.stored env.newId, ?_, rfl⟩
        rw [inserted]
        exact LikesTable.find_insert newKey freshId
  | dbGetLike userId contentType contentId =>
      have healthy : env.fault = none := up.noFault
      cases found : world.likes.find (userId, contentType, contentId) with
      | none =>
          obtain ⟨e, rfl⟩ : ∃ e, answer = .error e := by
            simp only [World.handle, World.serve, World.advance, healthy,
              PostgresLikeRepository.getLike, found, Option.some.injEq, Prod.mk.injEq] at handled
            exact ⟨_, handled.1.symm⟩
          constructor
          · intro instant there
            obtain ⟨key, wants, during⟩ := seen.row instant there
            exact ⟨key, wants, during.concat _⟩
          · refine iff_of_true rfl ⟨_, List.mem_append_right _ List.mem_cons_self, rfl, ?_⟩
            intro finds
            have present := finds userId contentType contentId rfl
            rw [found] at present
            cases present
      | some row =>
          obtain rfl : answer = .ok row := by
            simp only [World.handle, World.serve, World.advance, healthy,
              PostgresLikeRepository.getLike, found, Option.some.injEq, Prod.mk.injEq] at handled
            exact handled.1.symm
          have finds : @FindsRow setting
              ⟨i, call, env, .dbGetLike userId contentType contentId, .ok row, world⟩ := by
            rintro _ _ _ ⟨⟩
            simp [found]
          refine ⟨?_, (seen.concat (.inr finds)).missing⟩
          rintro _ ⟨⟩
          refine ⟨_, permitted.2, before, _, [], world, rfl, rfl, .inl rfl, row, found, ?_⟩
          exact (world.likes.timestamps row (List.mem_of_find?_eq_some found)).symm
  | _ =>
      apply seen.concat
      right
      rintro _ _ _ ⟨⟩

theorem Liking.call_controlAfter (i : Nat) (call : LikeCall)
    (trace : List (Event (likeService setting))) :
    (controlAfter Liking.advance i (Liking.start call) trace).call = call := by
  apply controlAfter_preserves (fun liking : Liking => liking.call = call)
  · intro event _ reached kept
    rcases event with ⟨_, _, _, op, answer, _⟩
    cases op with
    | dbSave like => rcases answer with _ | (_ | _) <;> exact kept
    | dbGetLike userId contentType contentId => cases answer <;> exact kept
    | _ => exact kept
  · rfl

/-- Calls that write have fifteen steps each. -/
theorem budget_of_writes {calls : List LikeCall} (writes : ∀ call ∈ calls, call.change ≠ none) :
    (calls.map LikeCall.budget).sum = 15 * calls.length := by
  have same : calls.map LikeCall.budget = calls.map fun _ => 15 := by
    apply List.map_congr_left
    intro call member
    have isWrite := writes call member
    cases call with
    | addLike likeCmd => rfl
    | removeLike userId contentType contentId => rfl
    | _ => exact absurd rfl isWrite
  rw [same, List.map_const', List.sum_replicate, smul_eq_mul, Nat.mul_comm]

/-- The run law: where the services are up, every request has seen what the trace says. -/
theorem seen_run {world : World} {calls : List LikeCall}
    {trace : List (Event (likeService setting))} {last : Pool (likeService setting)}
    (run : Run (Pool.start world calls) trace last)
    (writes : ∀ call ∈ calls, call.change ≠ none) (up : ∀ event ∈ trace, ServicesUp event)
    (i : Nat) (thread : Thread (likeService setting)) (at_i : last.threads[i]? = some thread) :
    Liking.Likes Liking.Final thread.rest
        (controlAfter Liking.advance i (Liking.start thread.call) trace) ∧
      Seen trace i (controlAfter Liking.advance i (Liking.start thread.call) trace) := by
  have untouched : ∀ (before : List (Event (likeService setting))) i call,
      (∀ event ∈ before, event.thread ≠ i) → Seen before i (Liking.start call) := by
    intro before i call apart
    refine ⟨nofun, iff_of_false Bool.false_ne_true ?_⟩
    rintro ⟨event, member, own, _⟩
    exact apart event member own
  apply Run.phases_each (M := likeService setting) Seen (body_likes setting)
    (fun _ _ ended => ended.elim) (fun call member => .inl (writes call member)) run untouched
    (fun before event i liking elsewhere seen => seen.concat (.inl elsewhere)) _ i thread at_i
  intro before event liking next spawned member permitted handled seen
  refine ⟨?_, World.handle_up (up event member) handled,
    seen.advance (up event member) permitted handled⟩
  intro task started
  rw [World.handle_spawned handled started] at permitted
  exact .inr permitted.2

/-- With all services up, however the steps of `add_like` and `remove_like` calls interleave:
they all come back, and all of them with `Ok` exactly when every `get_like` finds its row. -/
theorem overlapping_calls_succeed_iff (setting : Setting) (world : World)
    (calls : List LikeCall) (trace : List (Event (likeService setting)))
    (last : Pool (likeService setting)) (run : Run (Pool.start world calls) trace last)
    (writes : ∀ call ∈ calls, call.change ≠ none)
    (free : ∀ lock, world.held lock = false) (up : ∀ event ∈ trace, ServicesUp event) :
    (trace.length ≤ 15 * calls.length ∧
        (¬ last.Done → ∃ event next, Pool.Step last (some event) next)) ∧
      (AllSucceed trace last ↔ ∀ event ∈ trace, FindsRow event) := by
  obtain ⟨short, continues⟩ := calls_come_back free run
  refine ⟨⟨budget_of_writes writes ▸ short, continues⟩, ?_⟩
  have each := seen_run run writes up
  constructor
  · intro all event member
    by_contra unfound
    obtain ⟨⟨call, rest⟩, at_i, _⟩ := run.event_thread event member
    obtain ⟨obeys, seen⟩ := each _ _ at_i
    have gone := seen.missing.mpr ⟨event, member, rfl, unfound⟩
    generalize controlAfter Liking.advance event.thread (Liking.start call) trace = liking
      at obeys gone
    cases rest with
    | perform op next =>
        -- a request whose row is missing takes no further step
        rw [obeys.1.1] at gone
        cases gone
    | ret outcome =>
        rcases outcome with _ | reply
        · exact obeys.elim
        obtain ⟨succeeded, _⟩ := all _ call reply at_i
        cases reply with
        | addLike result =>
            obtain ⟨added, rfl⟩ := succeeded
            rw [obeys.1] at gone
            cases gone
        | _ =>
            rw [obeys.2] at gone
            cases gone
  · intro finds i call reply returned
    obtain ⟨ended, seen⟩ := each i _ returned
    have present : (controlAfter Liking.advance i (Liking.start call) trace).missing = false := by
      rw [← Bool.not_eq_true, seen.missing]
      rintro ⟨event, member, _, unfound⟩
      exact unfound (finds event member)
    have same := Liking.call_controlAfter i call trace
    cases reply with
    | addLike result =>
        cases result with
        | error e =>
            rw [show _ = true from ended] at present
            cases present
        | ok added =>
            refine ⟨⟨added, rfl⟩, ?_⟩
            rintro _ ⟨⟩
            have row := seen.row added.likedAt ended.2
            rwa [same] at row
    | _ => exact ⟨ended.1, nofun⟩

theorem HealthyRun.servicesUp {contentType : ContentType} {contentId : ContentId}
    {trace : List (Event (likeService setting))}
    (healthy : HealthyRun contentType contentId setting trace) :
    ∀ event ∈ trace, ServicesUp event :=
  fun event member =>
    ⟨healthy.noFault event member, healthy.valid event member, healthy.newIds event member⟩

end Runs

/-- A user likes the post while another unlikes it. -/
theorem overlapping_calls_succeed_apart :
    ∃ trace last, Run (M := likeService .reference) (Pool.start twoLikes
        [.addLike ⟨⟨3⟩, postId, postType⟩, .removeLike ⟨1⟩ postType postId]) trace last ∧
      last.Done ∧
      (trace.length ≤ 15 * 2 ∧
        (¬ last.Done → ∃ event next, Pool.Step last (some event) next)) ∧
      (AllSucceed trace last ↔ ∀ event ∈ trace, FindsRow event) := by
  obtain ⟨trace, last, run, passed⟩ := Run.exists_of_exec (M := likeService .reference)
    (turns 1 3 2 ++ turns 0 3 6 ++ turns 1 3 4 ++ turns 2 3 1 ++ turns 3 3 1)
    (Pool.start twoLikes [.addLike ⟨⟨3⟩, postId, postType⟩, .removeLike ⟨1⟩ postType postId])
    (fun trace last => last.done? && healthyRun? postType postId trace) (by decide +kernel)
  obtain ⟨done, healthy⟩ := Bool.and_eq_true_iff.mp passed
  refine ⟨trace, last, run, Pool.done_of_done? done, ?_⟩
  apply overlapping_calls_succeed_iff _ _ _ _ _ run
  · intro call member
    rcases List.mem_pair.mp member with rfl | rfl <;> exact Option.some_ne_none _
  · intro lock
    rfl
  · exact (HealthyRun.of_check postType postId (by decide) healthy).servicesUp

/-- The reply of an `add_like` that has failed. -/
def LikeReply.refusesLike : LikeReply → Bool
  | .addLike (.error _) => true
  | _ => false

/-- The `add_like` of a like that is there counts the rows, an unlike of the same user takes
the row away, and the `get_like` that follows finds nothing. -/
theorem duplicate_like_fails :
    ∃ trace last, Run (M := likeService .reference) (Pool.start twoLikes
        [.addLike ⟨⟨1⟩, postId, postType⟩, .removeLike ⟨1⟩ postType postId]) trace last ∧
      (∀ event ∈ trace, ServicesUp event) ∧ ¬ AllSucceed trace last := by
  obtain ⟨trace, last, run, passed⟩ := Run.exists_of_exec (M := likeService .reference)
    (turns 0 3 11 ++ turns 1 3 2 ++ turns 0 3 1)
    (Pool.start twoLikes [.addLike ⟨⟨1⟩, postId, postType⟩, .removeLike ⟨1⟩ postType postId])
    (fun trace last => healthyRun? postType postId trace &&
      (replyOf last 0).any LikeReply.refusesLike) (by decide +kernel)
  obtain ⟨healthy, failed⟩ := Bool.and_eq_true_iff.mp passed
  refine ⟨trace, last, run, (HealthyRun.of_check postType postId (by decide) healthy).servicesUp,
    ?_⟩
  intro all
  obtain ⟨reply, replied, refuses⟩ := (Option.any_eq_true _ _).mp failed
  obtain ⟨call, returned⟩ := returned_of_replyOf replied
  obtain ⟨succeeded, _⟩ := all 0 call reply returned
  cases reply with
  | addLike result =>
      obtain ⟨added, rfl⟩ := succeeded
      cases refuses
  | _ => cases refuses

end SocialApi
