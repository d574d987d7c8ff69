/-
Module: SocialApi.Proofs.OfflineCounts
Purpose: While Redis is down, every count that a call reports is a count of the rows during
  the call.
Trusted boundary: none
Main exports:
  LikeCall.reportsOn, LikeReply.reported, LikeOp.attempts, Recount, body_recounts,
  offline_counts_exact
-/
import SocialApi.Proofs.ColdCount
import SocialApi.Proofs.PublishedEvents

namespace SocialApi

open Process
open LikeService

/-! ### Calls that report a count -/

/-- The item whose count a call reports. -/
def LikeCall.reportsOn : LikeCall → Option (ContentType × ContentId)
  | .addLike likeCmd => some (likeCmd.contentType, likeCmd.contentId)
  | .removeLike _ contentType contentId => some (contentType, contentId)
  | .getLikeCount contentType contentId => some (contentType, contentId)
  | _ => none

/-- The count in an `Ok` reply. -/
def LikeReply.reported : LikeReply → Option Nat
  | .addLike (.ok result) => some result.count
  | .removeLike (.ok result) => some result.count
  | .getLikeCount (.ok result) => some result.count
  | _ => none

/-- The change that an insert or a delete is tried for. -/
def LikeOp.attempts : LikeOp → Option Change
  | .dbSave like => some ⟨.like, like.key⟩
  | .dbRemove userId contentType contentId => some ⟨.unlike, userId, contentType, contentId⟩
  | _ => none

/-! ### A protocol of counts -/

/-- What a call has tried, and the count it has queried since. -/
structure Recount where
  call : LikeCall
  attempted : Option Change
  read : Option Nat

namespace Recount

def start (call : LikeCall) : Recount := ⟨call, none, none⟩

def advance (recount : Recount) : (op : LikeOp) → op.Res → Recount
  | .dbSave like, _ => { recount with attempted := some ⟨.like, like.key⟩, read := none }
  | .dbRemove userId contentType contentId, _ =>
      { recount with
        attempted := some ⟨.unlike, userId, contentType, contentId⟩
        read := none }
  | .dbGetLikesCount _ _, .ok count => { recount with read := some count }
  | _, _ => recount

/-- A call queries the count of its own item, and starts only publish tasks. -/
def Permitted (recount : Recount) : LikeOp → Prop
  | .dbGetLikesCount contentType contentId =>
      recount.call.reportsOn = some (contentType, contentId)
  | .spawn task => ∃ event, task = .publishLikeEvent event
  | _ => True

/-- Redis answers no command on a count. -/
def Offline (_ : Recount) : (op : LikeOp) → op.Res → Prop
  | .cacheGetCount _ _, answer => ∃ e, answer = .error e
  | .cacheIncrement _ _, answer => ∃ e, answer = .error e
  | .cacheDecrement _ _, answer => ∃ e, answer = .error e
  | _, _ => True

/-- The program keeps to the protocol, and ends as stated. -/
abbrev Recounts {α : Type} (final : Recount → α → Prop) (program : Service α)
    (recount : Recount) : Prop :=
  program.Obeys advance Permitted Offline final recount

/-- The call is about the item, and has tried its change. -/
structure Ready (contentType : ContentType) (contentId : ContentId) (recount : Recount) :
    Prop where
  item : recount.call.reportsOn = some (contentType, contentId)
  attempted : recount.attempted = recount.call.change

/-- The count was queried after the change was tried. -/
structure Reports (recount : Recount) (count : Nat) : Prop where
  read : recount.read = some count
  attempted : recount.attempted = recount.call.change

/-- A call ends with a reply, whose count it has queried. -/
def Final (recount : Recount) : LikeCall ⊕ LikeReply → Prop
  | .inl _ => False
  | .inr reply => ∀ count, reply.reported = some count → recount.Reports count

theorem Ready.reports {contentType : ContentType} {contentId : ContentId} {recount : Recount}
    {count : Nat} (ready : recount.Ready contentType contentId)
    (read : recount.read = some count) : recount.Reports count :=
  ⟨read, ready.attempted⟩

end Recount

section Recounts

open Recount

variable {contentType : ContentType} {contentId : ContentId} {recount : Recount}

theorem getLikeCountWithFallback_recounts (ready : recount.Ready contentType contentId) :
    Recounts
      (fun reached result => reached.Ready contentType contentId ∧
        ∀ count, result = .ok count → reached.Reports count)
      (getLikeCountWithFallback contentType contentId) recount := by
  simp only [getLikeCountWithFallback, getCacheLikeCount_bind, Recounts, Program.obeys_perform]
  refine ⟨trivial, fun first offline => ?_⟩
  obtain ⟨miss, rfl⟩ := offline
  simp only [cachedCount, Program.request_bind, Program.obeys_perform]
  refine ⟨trivial, fun lock _ => ⟨trivial, fun _ _ => ⟨trivial, fun second offline => ?_⟩⟩⟩
  obtain ⟨again, rfl⟩ := offline
  refine ⟨ready.item, fun counted _ => ?_⟩
  cases counted with
  | error e => exact ⟨trivial, fun _ _ => ⟨ready, by rintro _ ⟨⟩⟩⟩
  | ok count =>
      refine ⟨trivial, fun _ _ => ⟨trivial, fun _ _ => ⟨trivial, fun _ _ => ?_⟩⟩⟩
      have counted : Ready contentType contentId { recount with read := some count } :=
        ⟨ready.item, ready.attempted⟩
      refine ⟨counted, ?_⟩
      rintro _ ⟨⟩
      exact counted.reports rfl

theorem sendSseEvent_recounts (userId : UserId) (count : Nat) (eType : SseEventType) :
    Recounts (fun reached _ => reached = recount)
      (sendSseEvent contentId contentType userId count eType) recount :=
  ⟨trivial, fun _ _ => ⟨⟨_, rfl⟩, fun _ _ => rfl⟩⟩

theorem likeAdded_recounts {likeCmd : AddLikeCommand} {count : Nat} {createdAt : DateTime}
    {alreadyExists : Bool} (reports : recount.Reports count) :
    Recounts (fun reached result => ∀ added, result = .ok added → reached.Reports added.count)
      (likeAdded likeCmd count createdAt alreadyExists) recount := by
  apply (sendSseEvent_recounts _ _ _).bind
  rintro _ _ rfl _ ⟨⟩
  exact reports

theorem addLike_recounts (likeCmd : AddLikeCommand) :
    Recounts (fun reached result => ∀ added, result = .ok added → reached.Reports added.count)
      (addLike likeCmd) (start (.addLike likeCmd)) := by
  simp only [addLike, Recounts, Program.request_bind, Program.obeys_perform]
  refine ⟨trivial, fun validated _ => ?_⟩
  cases validated with
  | error e => exact nofun
  | ok verdict =>
  refine ⟨trivial, fun createdAt _ => ⟨trivial, fun saved _ => ?_⟩⟩
  have tried : Ready likeCmd.contentType likeCmd.contentId
      ⟨.addLike likeCmd, some likeCmd.change, none⟩ := ⟨rfl, rfl⟩
  rcases saved with e | (_ | _)
  · exact nofun
  · refine ⟨trivial, fun counted offline => ?_⟩
    obtain ⟨e, rfl⟩ := offline
    refine ⟨rfl, fun recounted _ => ?_⟩
    cases recounted with
    | error e => exact nofun
    | ok count => exact likeAdded_recounts ⟨rfl, rfl⟩
  · apply (getLikeCountWithFallback_recounts tried).bind
    rintro reached result ⟨ready, reports⟩
    cases result with
    | error e => exact nofun
    | ok count =>
        refine ⟨trivial, fun existed _ => ?_⟩
        cases existed with
        | error e => exact nofun
        | ok existedLike => exact likeAdded_recounts (reports count rfl)

theorem likeRemoved_recounts {userId : UserId} {currCount : Nat}
    (reports : recount.Reports currCount) :
    Recounts
      (fun reached result => ∀ removed, result = .ok removed → reached.Reports removed.count)
      (likeRemoved userId contentType contentId currCount) recount := by
  apply (sendSseEvent_recounts _ _ _).bind
  rintro _ _ rfl _ ⟨⟩
  exact reports

theorem removeLike_recounts (userId : UserId) :
    Recounts
      (fun reached result => ∀ removed, result = .ok removed → reached.Reports removed.count)
      (removeLike userId contentType contentId)
      (start (.removeLike userId contentType contentId)) := by
  simp only [removeLike, Recounts, Program.request_bind, Program.obeys_perform]
  refine ⟨trivial, fun validated _ => ?_⟩
  cases validated with
  | error e => exact nofun
  | ok verdict =>
  refine ⟨trivial, fun removed _ => ?_⟩
  cases removed with
  | error e => exact nofun
  | ok wasLiked =>
  have tried : Ready contentType contentId
      ⟨.removeLike userId contentType contentId,
        some ⟨.unlike, userId, contentType, contentId⟩, none⟩ := ⟨rfl, rfl⟩
  apply (getLikeCountWithFallback_recounts tried).bind
  rintro reached result ⟨ready, reports⟩
  cases result with
  | error e => exact nofun
  | ok currCount =>
  dsimp only
  split
  · split
    · refine ⟨trivial, fun counted offline => ?_⟩
      obtain ⟨e, rfl⟩ := offline
      refine ⟨ready.item, fun recounted _ => ?_⟩
      cases recounted with
      | error e => exact nofun
      | ok count => exact likeRemoved_recounts ⟨rfl, ready.attempted⟩
    · exact likeRemoved_recounts (reports currCount rfl)
  · rintro _ ⟨⟩
    exact reports currCount rfl

theorem getLikeCount_recounts :
    Recounts
      (fun reached result => ∀ response, result = .ok response → reached.Reports response.count)
      (getLikeCount contentType contentId) (start (.getLikeCount contentType contentId)) := by
  have ready : Ready contentType contentId (start (.getLikeCount contentType contentId)) :=
    ⟨rfl, rfl⟩
  apply (getLikeCountWithFallback_recounts ready).bind
  rintro reached result ⟨_, reports⟩
  cases result with
  | error e => exact nofun
  | ok count =>
      rintro _ ⟨⟩
      exact reports count rfl

/-- With Redis down, a call reports only what it has queried, and a publish task reports
nothing. -/
theorem body_recounts (setting : Setting) (call : LikeCall)
    (among : call.reportsOn ≠ none ∨ ∃ event, call = .publishLikeEvent event) :
    Recounts Final (call.body setting) (start call) := by
  rcases among with reports | ⟨event, rfl⟩
  · cases call with
    | addLike likeCmd =>
        apply (addLike_recounts likeCmd).bind
        intro reached result reports count counted
        cases result with
        | error e => cases counted
        | ok added =>
            obtain rfl := Option.some.inj counted
            exact reports added rfl
    | removeLike userId contentType contentId =>
        apply (removeLike_recounts userId).bind
        intro reached result reports count counted
        cases result with
        | error e => cases counted
        | ok removed =>
            obtain rfl := Option.some.inj counted
            exact reports removed rfl
    | getLikeCount contentType contentId =>
        apply getLikeCount_recounts.bind
        intro reached result reports count counted
        cases result with
        | error e => cases counted
        | ok response =>
            obtain rfl := Option.some.inj counted
            exact reports response rfl
    | _ => exact absurd rfl reports
  · refine ⟨trivial, fun answer _ count counted => ?_⟩
    cases counted

end Recounts

/-! ### Runs -/

section Runs

variable {setting : Setting}

/-- Thread `i` has tried the change in the trace. -/
def Tried (trace : List (Event (likeService setting))) (i : Nat) (change : Change) : Prop :=
  ∃ attempt ∈ trace, attempt.thread = i ∧ attempt.op.attempts = some change

/-- Thread `i` has found that many rows of the item of the call, after it had tried its
change, if it has one. -/
def Found (trace : List (Event (likeService setting))) (i : Nat) (call : LikeCall)
    (attempted : Option Change) (count : Nat) : Prop :=
  ∃ (before : List (Event (likeService setting))) (query : Event (likeService setting))
    (after : List (Event (likeService setting))),
      trace = before ++ query :: after ∧ query.thread = i ∧
      (∃ contentType contentId, call.reportsOn = some (contentType, contentId) ∧
        query.before.likes.countOf contentType contentId = count) ∧
      ∀ change, attempted = some change → Tried before i change

/-- What a call has done agrees with the trace. -/
structure Recounted (trace : List (Event (likeService setting))) (i : Nat)
    (recount : Recount) : Prop where
  attempted : ∀ change, recount.attempted = some change → Tried trace i change
  read : ∀ count, recount.read = some count →
    Found trace i recount.call recount.attempted count

theorem Tried.concat {trace : List (Event (likeService setting))} {i : Nat} {change : Change}
    (tried : Tried trace i change) (event : Event (likeService setting)) :
    Tried (trace ++ [event]) i change := by
  obtain ⟨attempt, member, own, attempts⟩ := tried
  exact ⟨attempt, List.mem_append_left _ member, own, attempts⟩

theorem Recounted.concat {trace : List (Event (likeService setting))} {i : Nat}
    {recount : Recount} (recounted : Recounted trace i recount)
    (event : Event (likeService setting)) : Recounted (trace ++ [event]) i recount where
  attempted := fun change tried => (recounted.attempted change tried).concat event
  read := by
    intro count read
    obtain ⟨before, query, after, rfl, own, counts, earlier⟩ := recounted.read count read
    exact ⟨before, query, after ++ [event], by simp, own, counts, earlier⟩

/-- The step law: a call that takes a step goes on agreeing with the trace. -/
theorem Recounted.advance {before : List (Event (likeService setting))}
    {event : Event (likeService setting)} {recount : Recount} {next : World}
    {spawned : List LikeCall} (recounted : Recounted before event.thread recount)
    (permitted : recount.Permitted event.op)
    (handled : World.handle setting event.env event.op event.before =
      some (event.res, next, spawned)) :
    Recounted (before ++ [event]) event.thread (recount.advance event.op event.res) := by
  obtain ⟨i, call, env, op, answer, world⟩ := event
  have own : ∀ change, op.attempts = some change →
      Tried (before ++ [⟨i, call, env, op, answer, world⟩]) i change := by
    intro change attempts
    exact ⟨_, List.mem_append_right _ List.mem_cons_self, rfl, attempts⟩
  cases op with
  | dbSave like =>
      constructor
      · rintro _ ⟨⟩
        exact own _ rfl
      · exact nofun
  | dbRemove userId contentType contentId =>
      constructor
      · rintro _ ⟨⟩
        exact own _ rfl
      · exact nofun
  | dbGetLikesCount contentType contentId =>
      cases answer with
      | error e => exact recounted.concat _
      | ok count =>
          refine ⟨fun change tried => (recounted.attempted change tried).concat _, ?_⟩
          rintro _ ⟨⟩
          have counted := World.handle_counted handled
          exact ⟨before, _, [], rfl, rfl, ⟨_, _, permitted, counted⟩, recounted.attempted⟩
  | _ => exact recounted.concat _

/-- The answers of a Redis that is down. -/
theorem World.handle_offline {env : Surroundings} {op : LikeOp} {world after : World}
    {answer : op.Res} {spawned : List LikeCall} {recount : Recount}
    (offline : op.onRedis = true → env.fault ≠ none)
    (handled : World.handle setting env op world = some (answer, after, spawned)) :
    recount.Offline op answer := by
  cases op with
  | cacheGetCount contentType contentId =>
      obtain ⟨fault, down⟩ := Option.ne_none_iff_exists'.mp (offline rfl)
      simp only [World.handle, World.serve, RedisLikeRepository.getCount, down,
        Option.some.injEq, Prod.mk.injEq] at handled
      exact ⟨_, handled.1.symm⟩
  | cacheIncrement contentType contentId =>
      obtain ⟨fault, down⟩ := Option.ne_none_iff_exists'.mp (offline rfl)
      simp only [World.handle, World.serve, RedisLikeRepository.increment,
        RedisLikeRepository.changeCount, down, Option.some.injEq, Prod.mk.injEq] at handled
      exact ⟨_, handled.1.symm⟩
  | cacheDecrement contentType contentId =>
      obtain ⟨fault, down⟩ := Option.ne_none_iff_exists'.mp (offline rfl)
      simp only [World.handle, World.serve, RedisLikeRepository.decrement,
        RedisLikeRepository.changeCount, down, Option.some.injEq, Prod.mk.injEq] at handled
      exact ⟨_, handled.1.symm⟩
  | _ => trivial

/-- While Redis is down, a call that comes back with `Ok` has queried its count itself, after
it had tried its insert or delete. -/
theorem offline_counts_exact (setting : Setting) (world : World) (calls : List LikeCall)
    (trace : List (Event (likeService setting))) (last : Pool (likeService setting))
    (run : Run (Pool.start world calls) trace last)
    (report : ∀ call ∈ calls, call.reportsOn ≠ none)
    (offline : ∀ event ∈ trace, event.op.onRedis = true → event.env.fault ≠ none)
    (i : Nat) (call : LikeCall) (reply : LikeReply) (count : Nat)
    (returned : last.threads[i]? = some ⟨call, .ret (.inr reply)⟩)
    (counted : reply.reported = some count) : Found trace i call call.change count := by
  obtain ⟨ended, agrees⟩ := Run.phases_each (M := likeService setting) Recounted
    (body_recounts setting) (fun _ _ ended => ended.elim)
    (fun call member => .inl (report call member)) run
    (fun _ _ _ _ => ⟨nofun, nofun⟩)
    (fun before event i recount _ recounted => recounted.concat event)
    (by
      intro before event recount next spawned member permitted handled recounted
      refine ⟨?_, World.handle_offline (offline event member) handled,
        recounted.advance permitted handled⟩
      intro task started
      rw [World.handle_spawned handled started] at permitted
      exact .inr permitted) i _ returned
  have same : (controlAfter Recount.advance i (Recount.start call) trace).call = call := by
    apply controlAfter_preserves (fun recount : Recount => recount.call = call)
    · intro event _ reached kept
      rcases event with ⟨_, _, _, op, answer, _⟩
      cases op with
      | dbGetLikesCount contentType contentId => cases answer <;> exact kept
      | _ => exact kept
    · rfl
  have reports := ended count counted
  have found := agrees.read count reports.read
  rwa [reports.attempted, same] at found

/-- The reply of a call that has come back. -/
def replyOf (last : Pool (likeService setting)) (i : Nat) : Option LikeReply :=
  last.threads[i]?.bind fun thread => match thread.rest with
    | .ret (.inr reply) => some reply
    | _ => none

theorem returned_of_replyOf {last : Pool (likeService setting)} {i : Nat} {reply : LikeReply}
    (replied : replyOf last i = some reply) :
    ∃ call, last.threads[i]? = some ⟨call, .ret (.inr reply)⟩ := by
  obtain ⟨⟨call, rest⟩, at_i, returned⟩ := Option.bind_eq_some_iff.mp replied
  dsimp only at returned
  split at returned
  · obtain rfl := Option.some.inj returned
    exact ⟨call, at_i⟩
  · cases returned

end Runs

/-- Postgres is up, Redis is not. -/
def offlineTurns (thread : Nat) (redisSteps : List Bool) : List (Nat × Surroundings) :=
  redisSteps.map fun onRedis =>
    (thread, { Surroundings.calm with
      newId := 3
      fault := if onRedis then some .noConnection else none })

/-- One user unlikes the post while another likes it; the unlike reports the two rows that it
finds in the end. -/
theorem offline_unlike_exact :
    ∃ trace last, Run (M := likeService .reference) (Pool.start twoLikes
        [.addLike ⟨⟨3⟩, ⟨9⟩, ⟨"post"⟩⟩, .removeLike ⟨1⟩ ⟨"post"⟩ ⟨9⟩]) trace last ∧
      (replyOf last 1).bind LikeReply.reported = some 2 ∧
      ∃ call, Found trace 1 call call.change 2 := by
  obtain ⟨trace, last, run, passed⟩ := Run.exists_of_exec (M := likeService .reference)
    (offlineTurns 1 [false, false, true, false, false, true, false] ++
      offlineTurns 0 [false, false, false, true, false, false, false] ++
      offlineTurns 1 [true, false, false, true, false, false, false])
    (Pool.start twoLikes [.addLike ⟨⟨3⟩, ⟨9⟩, ⟨"post"⟩⟩, .removeLike ⟨1⟩ ⟨"post"⟩ ⟨9⟩])
    (fun trace last => (replyOf last 1).bind LikeReply.reported == some 2 &&
      trace.all fun event => !event.op.onRedis || event.env.fault.isSome)
    (by decide +kernel)
  obtain ⟨told, down⟩ := Bool.and_eq_true_iff.mp passed
  obtain ⟨reply, replied, counted⟩ := Option.bind_eq_some_iff.mp (eq_of_beq told)
  obtain ⟨call, returned⟩ := returned_of_replyOf replied
  refine ⟨trace, last, run, eq_of_beq told, call, ?_⟩
  apply offline_counts_exact _ _ _ _ _ run _ _ 1 call reply 2 returned counted
  · intro other member
    rcases List.mem_pair.mp member with rfl | rfl <;> exact Option.some_ne_none _
  · intro event member onRedis
    have failed := List.all_eq_true.mp down event member
    rw [onRedis, Bool.not_true, Bool.false_or] at failed
    exact Option.isSome_iff_ne_none.mp failed

end SocialApi
