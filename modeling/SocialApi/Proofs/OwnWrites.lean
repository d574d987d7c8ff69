/-
Module: SocialApi.Proofs.OwnWrites
Purpose: Which rows of the likes table a call can write.
Trusted boundary: none
Main exports:
  LeavesRows, OwnWrites, body_ownWrites, ownWrites_run, likes_run_left
-/
import SocialApi.Proofs.OfflineCounts

namespace SocialApi

open Process
open LikeService

/-- A step that writes no row. -/
def LeavesRows (op : LikeOp) : Prop := op.attempts = none

/-- A call tries its own change only. -/
def OwnWrites (call : LikeCall) (op : LikeOp) : Prop :=
  ∀ change ∈ op.attempts, call.change = some change

/-- The program tries the call's own change only, and ends without a tail call. -/
abbrev Confined (call : LikeCall) (program : Service (LikeCall ⊕ LikeReply)) : Prop :=
  program.Obeys (fun control _ _ => control) OwnWrites (fun _ _ _ => True)
    (fun _ outcome => ∃ reply, outcome = .inr reply) call

theorem LeavesRows.own {call : LikeCall} {op : LikeOp} (leaves : LeavesRows op) :
    OwnWrites call op := by
  intro change attempted
  rw [leaves] at attempted
  cases attempted

theorem LikeOp.Quiet.leavesRows {op : LikeOp} (quiet : op.Quiet) : LeavesRows op := by
  cases op <;> first | rfl | exact quiet.elim

section Programs

variable {α : Type} {call : LikeCall} {program : Service α}

theorem quiet_ownWrites (quiet : program.Performs LikeOp.Quiet) :
    program.Performs (OwnWrites call) :=
  quiet.mono fun _ isQuiet => isQuiet.leavesRows.own

theorem confined_of_performs (wrap : α → LikeReply)
    (performs : program.Performs (OwnWrites call)) :
    Confined call (program >>= fun value => pure (.inr (wrap value))) := by
  apply (performs.obeys _).bind
  · intro reached value _
    exact ⟨wrap value, rfl⟩
  · intro op own
    exact ⟨own, fun _ => rfl⟩

theorem Confined.performs {program : Service (LikeCall ⊕ LikeReply)}
    (confined : Confined call program) : program.Performs (OwnWrites call) := by
  induction program with
  | ret outcome => trivial
  | perform op next inductionHypothesis =>
      exact ⟨confined.1, fun answer => inductionHypothesis answer (confined.2 answer trivial)⟩

theorem Confined.replies {program : Service (LikeCall ⊕ LikeReply)} {setting : Setting}
    (confined : Confined call program) {environment : Nat → Surroundings} {world after : World}
    {outcome : LikeCall ⊕ LikeReply} {spawned : List LikeCall}
    (ran : program.run (World.handle setting) environment world =
      some (outcome, after, spawned)) : ∃ reply, outcome = .inr reply := by
  induction program generalizing environment world spawned with
  | ret returned =>
      obtain ⟨rfl, _⟩ := Prod.mk.inj (Option.some.inj ran)
      exact confined
  | perform op next inductionHypothesis =>
      obtain ⟨answer, _, _, _, _, rest, _⟩ := (Program.run_perform _).mp ran
      exact inductionHypothesis answer (confined.2 answer trivial) rest

/-- A program that writes no row leaves the table as it was. -/
theorem likes_run_left {setting : Setting} (performs : program.Performs LeavesRows)
    {environment : Nat → Surroundings} {world after : World} {value : α}
    {spawned : List LikeCall}
    (ran : program.run (World.handle setting) environment world = some (value, after, spawned)) :
    after.likes = world.likes := by
  apply performs.run_preserves (fun reached : World => reached.likes = world.likes) _ ran rfl
  intro env op state answer next _ leaves handled same
  rw [(World.handle_after handled).2.1, ← same]
  cases op with
  | dbSave like => cases leaves
  | dbRemove userId contentType contentId => cases leaves
  | _ => rfl

end Programs

theorem getLikeCountWithFallback_leavesRows (contentType : ContentType)
    (contentId : ContentId) :
    (getLikeCountWithFallback contentType contentId).Performs LeavesRows := by
  simp only [getLikeCountWithFallback, getCacheLikeCount_bind, Program.performs_perform]
  refine ⟨rfl, fun first => ?_⟩
  cases cachedCount first with
  | ok count => trivial
  | error miss =>
  simp only [Program.request_bind, Program.performs_perform]
  refine ⟨rfl, fun lock => ⟨rfl, fun _ => ⟨rfl, fun second => ?_⟩⟩⟩
  cases cachedCount second with
  | ok count => exact ⟨rfl, fun _ => ⟨rfl, fun _ => trivial⟩⟩
  | error miss =>
  refine ⟨rfl, fun counted => ?_⟩
  cases counted with
  | error e => exact ⟨rfl, fun _ => trivial⟩
  | ok count => exact ⟨rfl, fun _ => ⟨rfl, fun _ => ⟨rfl, fun _ => trivial⟩⟩⟩

/-- After its insert, `add_like` writes no row. -/
theorem addExistingLike_leavesRows (likeCmd : AddLikeCommand) :
    (addExistingLike likeCmd).Performs LeavesRows := by
  apply (getLikeCountWithFallback_leavesRows _ _).bind
  intro counted
  cases counted with
  | error e => trivial
  | ok count =>
      refine ⟨rfl, fun existed => ?_⟩
      cases existed with
      | error e => trivial
      | ok existedLike => exact (likeAdded_quiet _ _ _ _).mono fun _ quiet => quiet.leavesRows

theorem addNewLike_leavesRows (likeCmd : AddLikeCommand) (createdAt : DateTime) :
    (addNewLike likeCmd createdAt).Performs LeavesRows := by
  refine ⟨rfl, fun counted => ?_⟩
  cases counted with
  | ok newCount => exact (likeAdded_quiet _ _ _ _).mono fun _ quiet => quiet.leavesRows
  | error e =>
      refine ⟨rfl, fun recounted => ?_⟩
      cases recounted with
      | error e => trivial
      | ok count => exact (likeAdded_quiet _ _ _ _).mono fun _ quiet => quiet.leavesRows

theorem addLike_ownWrites (likeCmd : AddLikeCommand) :
    (addLike likeCmd).Performs (OwnWrites (.addLike likeCmd)) := by
  simp only [LikeService.addLike, Program.request_bind, Program.performs_perform]
  refine ⟨LeavesRows.own rfl, fun validated => ?_⟩
  cases validated with
  | error e => trivial
  | ok id =>
  refine ⟨LeavesRows.own rfl, fun createdAt => ⟨?_, fun saved => ?_⟩⟩
  · rintro change ⟨⟩
    rfl
  cases saved with
  | error e => trivial
  | ok existed =>
  cases existed with
  | true => exact (addExistingLike_leavesRows likeCmd).mono fun _ leaves => leaves.own
  | false => exact (addNewLike_leavesRows likeCmd createdAt).mono fun _ leaves => leaves.own

theorem removeCountedLike_leavesRows (userId : UserId) (contentType : ContentType)
    (contentId : ContentId) :
    (removeCountedLike userId contentType contentId).Performs LeavesRows := by
  refine ⟨rfl, fun decremented => ?_⟩
  cases decremented with
  | ok newCount => exact (likeRemoved_quiet _ _ _ _).mono fun _ quiet => quiet.leavesRows
  | error e =>
      refine ⟨rfl, fun recounted => ?_⟩
      cases recounted with
      | error e => trivial
      | ok count => exact (likeRemoved_quiet _ _ _ _).mono fun _ quiet => quiet.leavesRows

/-- After its delete, `remove_like` writes no row, once it has read the count. -/
theorem removedLike_leavesRows (userId : UserId) (contentType : ContentType)
    (contentId : ContentId) (wasLiked : Bool) (currCount : Nat) :
    Program.Performs LeavesRows
      (if wasLiked then
        if currCount ≠ 0 then removeCountedLike userId contentType contentId
        else likeRemoved userId contentType contentId currCount
      else pure (.ok { liked := false, wasLiked := false, count := currCount }) :
        Service (Except DomainError UnlikeResponse)) := by
  split
  · split
    · exact removeCountedLike_leavesRows _ _ _
    · exact (likeRemoved_quiet _ _ _ _).mono fun _ quiet => quiet.leavesRows
  · trivial

theorem removeLike_ownWrites (userId : UserId) (contentType : ContentType)
    (contentId : ContentId) :
    (removeLike userId contentType contentId).Performs
      (OwnWrites (.removeLike userId contentType contentId)) := by
  simp only [LikeService.removeLike, Program.request_bind, Program.performs_perform]
  refine ⟨LeavesRows.own rfl, fun validated => ?_⟩
  cases validated with
  | error e => trivial
  | ok id =>
  refine ⟨?_, fun deleted => ?_⟩
  · rintro change ⟨⟩
    rfl
  cases deleted with
  | error e => trivial
  | ok wasLiked =>
  apply ((getLikeCountWithFallback_leavesRows _ _).mono fun _ leaves => leaves.own).bind
  intro counted
  cases counted with
  | error e => trivial
  | ok currCount =>
      exact (removedLike_leavesRows _ _ _ wasLiked currCount).mono fun _ leaves => leaves.own

theorem lockMissing_leavesRows (missingItems : List ContentItem) (lockedKeys : List String)
    (toFetchFromDb : List ContentItem) :
    (lockMissing missingItems lockedKeys toFetchFromDb).Performs LeavesRows := by
  induction missingItems generalizing lockedKeys toFetchFromDb with
  | nil => trivial
  | cons item missingItems inductionHypothesis =>
      simp only [lockMissing, Program.request_bind, Program.performs_perform]
      refine ⟨rfl, fun isNone => ?_⟩
      split
      · exact inductionHypothesis _ _
      · exact inductionHypothesis _ _

theorem getLikesCountBatch_leavesRows (items : List ContentItem) :
    (getLikesCountBatch items).Performs LeavesRows := by
  unfold getLikesCountBatch
  split
  · trivial
  simp only [Program.request_bind, Program.performs_perform]
  refine ⟨rfl, fun answer => ?_⟩
  split
  · trivial
  apply (lockMissing_leavesRows _ _ _).bind
  intro locked
  split
  · trivial
  refine ⟨rfl, fun fetched => ?_⟩
  cases fetched with
  | error e => trivial
  | ok dbCounts => exact ⟨rfl, fun _ => ⟨rfl, fun _ => trivial⟩⟩

/-- Every call tries its own change only. -/
theorem body_ownWrites (setting : Setting) (call : LikeCall) :
    Confined call (call.body setting) := by
  cases call with
  | addLike likeCmd => exact confined_of_performs _ (addLike_ownWrites likeCmd)
  | removeLike userId contentType contentId =>
      exact confined_of_performs _ (removeLike_ownWrites userId contentType contentId)
  | getLikeCount contentType contentId =>
      apply confined_of_performs
      apply ((getLikeCountWithFallback_leavesRows _ _).mono fun _ leaves => leaves.own).bind
      intro counted
      cases counted <;> trivial
  | getLikesCountBatch items =>
      exact confined_of_performs _
        ((getLikesCountBatch_leavesRows items).mono fun _ leaves => leaves.own)
  | getLikeStatus userId contentType contentId =>
      exact confined_of_performs _ (quiet_ownWrites (getLikeStatus_quiet _ _ _))
  | getBatchStatus userId items =>
      exact confined_of_performs _ (quiet_ownWrites (getBatchStatus_quiet _ _))
  | getUserLikedItems userId contentType cursorStr limit =>
      exact confined_of_performs _ (quiet_ownWrites (getUserLikedItems_quiet _ _ _ _ _))
  | getTopLikes contentType windowStr limit =>
      exact confined_of_performs _ (quiet_ownWrites (getTopLikes_quiet _ _ _))
  | publishLikeEvent event => exact ⟨LeavesRows.own rfl, fun _ _ => ⟨_, rfl⟩⟩
  | rehydrate dbCounts lockedKeys rehydrationSet =>
      exact ⟨LeavesRows.own rfl, fun _ _ => ⟨_, rfl⟩⟩
  | refreshLeaderboard window contentType since limit =>
      exact confined_of_performs (fun _ => .refreshLeaderboard)
        (quiet_ownWrites (refreshLeaderboard_quiet _ _ _ _))

/-- In every run, whatever is tried is the change of the call that tries it. -/
theorem ownWrites_run {setting : Setting} {world : World} {calls : List LikeCall}
    {trace : List (Event (likeService setting))} {last : Pool (likeService setting)}
    (run : Run (M := likeService setting) (Pool.start world calls) trace last) :
    ∀ event ∈ trace, OwnWrites event.call event.op := by
  intro event member
  obtain ⟨before, after, split⟩ := List.append_of_mem member
  have own := (Run.obeys (M := likeService setting) (body_ownWrites setting)
    (by rintro _ _ ⟨_, ⟨⟩⟩) run (fun _ _ _ _ => trivial)).2 before event after split
  rwa [controlAfter_preserves (· = event.call) (fun _ _ _ same => same) rfl] at own

end SocialApi
