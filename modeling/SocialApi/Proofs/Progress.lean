/-
Module: SocialApi.Proofs.Progress
Purpose: Every call of LikeService comes back.
Trusted boundary: none
Main exports:
  LikeCall.budget, LikeOp.cost, body_costs, body_replies, calls_come_back,
  every_run_finishes
-/
import SocialApi.Process.Budget
import SocialApi.Proofs.GuardedSection

namespace SocialApi

open Process
open Program (Costs Ends)
open LikeService

/-- The steps that a call may take, those of the tasks that it starts included. -/
def LikeCall.budget : LikeCall → Nat
  | .addLike _ => 15
  | .removeLike _ _ _ => 15
  | .getLikeCount _ _ => 8
  | .getLikeStatus _ _ _ => 1
  | .getLikesCountBatch items => items.length + 5
  | .getBatchStatus _ _ => 1
  | .getUserLikedItems _ _ _ _ => 1
  | .getTopLikes _ _ _ => 6
  | .publishLikeEvent _ => 1
  | .rehydrate _ _ _ => 1
  | .refreshLeaderboard _ _ _ _ => 2

/-- A step pays for itself and for the task that it starts. -/
def LikeOp.cost (op : LikeOp) : Nat := (op.started.map LikeCall.budget).sum + 1

section Methods

/-- The program may take that many steps. -/
abbrev Takes {α : Type} (most : Nat) (program : Service α) : Prop :=
  program.Costs LikeOp.cost most

theorem Takes.step {α : Type} {most : Nat} {op : LikeOp} {next : op.Res → Service α}
    (alone : op.started = []) (rest : ∀ answer, Takes most (next answer)) :
    Takes (most + 1) (.perform op next) := by
  have single : op.cost = 1 := by rw [LikeOp.cost, alone]; rfl
  have costs : Takes (op.cost + most) (.perform op next) := Costs.perform rest
  rwa [single, Nat.add_comm] at costs

theorem Takes.spawn {α : Type} {most : Nat} {task : LikeCall} {next : Unit → Service α}
    (enough : task.budget < most) (rest : ∀ answer, Takes 0 (next answer)) :
    Takes most (.perform (.spawn task) next) := by
  have costs : Takes (LikeOp.cost (.spawn task) + 0) (.perform (.spawn task) next) :=
    Costs.perform rest
  apply costs.mono
  simpa [LikeOp.cost, LikeOp.started] using enough

theorem getLikeCountWithFallback_takes (contentType : ContentType) (contentId : ContentId) :
    Takes 8 (getLikeCountWithFallback contentType contentId) := by
  simp only [getLikeCountWithFallback, getCacheLikeCount_bind, Program.request_bind]
  apply Takes.step rfl
  intro first
  cases cachedCount first with
  | ok count => exact .ret _
  | error miss =>
  apply Takes.step rfl
  intro lock
  apply Takes.step rfl
  intro _
  apply Takes.step rfl
  intro second
  cases cachedCount second with
  | ok count => exact .step rfl fun _ => .step rfl fun _ => .ret _
  | error miss =>
  apply Takes.step rfl
  intro counted
  cases counted with
  | error e => exact .step rfl fun _ => .ret _
  | ok count => exact .step rfl fun _ => .step rfl fun _ => .step rfl fun _ => .ret _

/-- A sending step, its time stamp and the task that publishes. -/
theorem sendSseEvent_takes (contentId : ContentId) (contentType : ContentType)
    (userId : UserId) (count : Nat) (eType : SseEventType) :
    Takes 3 (sendSseEvent contentId contentType userId count eType) := by
  simp only [sendSseEvent, Program.request_bind]
  apply Takes.step rfl
  intro timestamp
  exact Takes.spawn (Nat.lt_succ_self _) fun _ => .ret _

theorem likeAdded_takes (likeCmd : AddLikeCommand) (count : Nat) (createdAt : DateTime)
    (alreadyExists : Bool) : Takes 3 (likeAdded likeCmd count createdAt alreadyExists) :=
  (sendSseEvent_takes _ _ _ _ _).bind_free fun _ => .ret _

theorem likeRemoved_takes (userId : UserId) (contentType : ContentType)
    (contentId : ContentId) (currCount : Nat) :
    Takes 3 (likeRemoved userId contentType contentId currCount) :=
  (sendSseEvent_takes _ _ _ _ _).bind_free fun _ => .ret _

theorem addExistingLike_takes (likeCmd : AddLikeCommand) :
    Takes 12 (addExistingLike likeCmd) := by
  apply (getLikeCountWithFallback_takes _ _).bind
  intro result
  cases result with
  | error e => exact .ret _
  | ok count =>
  apply Takes.step rfl
  intro existed
  cases existed with
  | error e => exact .ret _
  | ok existedLike => exact likeAdded_takes _ _ _ _

theorem addNewLike_takes (likeCmd : AddLikeCommand) (createdAt : DateTime) :
    Takes 5 (addNewLike likeCmd createdAt) := by
  apply Takes.step rfl
  intro counted
  cases counted with
  | ok newCount => exact (likeAdded_takes _ _ _ _).mono (by decide)
  | error e =>
  apply Takes.step rfl
  intro recounted
  cases recounted with
  | error e => exact .ret _
  | ok count => exact likeAdded_takes _ _ _ _

theorem addLike_takes (likeCmd : AddLikeCommand) : Takes 15 (addLike likeCmd) := by
  simp only [addLike, Program.request_bind]
  apply Takes.step rfl
  intro validated
  cases validated with
  | error e => exact .ret _
  | ok verdict =>
  apply Takes.step rfl
  intro createdAt
  apply Takes.step rfl
  intro saved
  rcases saved with e | (_ | _)
  · exact .ret _
  · exact (addNewLike_takes likeCmd createdAt).mono (by decide)
  · exact addExistingLike_takes likeCmd

theorem removeCountedLike_takes (userId : UserId) (contentType : ContentType)
    (contentId : ContentId) : Takes 5 (removeCountedLike userId contentType contentId) := by
  apply Takes.step rfl
  intro counted
  cases counted with
  | ok newCount => exact (likeRemoved_takes _ _ _ _).mono (by decide)
  | error e =>
  apply Takes.step rfl
  intro recounted
  cases recounted with
  | error e => exact .ret _
  | ok count => exact likeRemoved_takes _ _ _ _

theorem removeLike_takes (userId : UserId) (contentType : ContentType)
    (contentId : ContentId) : Takes 15 (removeLike userId contentType contentId) := by
  simp only [removeLike, Program.request_bind]
  apply Takes.step rfl
  intro validated
  cases validated with
  | error e => exact .ret _
  | ok verdict =>
  apply Takes.step rfl
  intro removed
  cases removed with
  | error e => exact .ret _
  | ok wasLiked =>
  apply (getLikeCountWithFallback_takes _ _).bind
  intro result
  cases result with
  | error e => exact .ret _
  | ok currCount =>
      dsimp only
      split
      · split
        · exact removeCountedLike_takes _ _ _
        · exact (likeRemoved_takes _ _ _ _).mono (by decide)
      · exact .ret _

theorem lockMissing_takes (missingItems : List ContentItem) (lockedKeys : List String)
    (toFetchFromDb : List ContentItem) :
    Takes missingItems.length (lockMissing missingItems lockedKeys toFetchFromDb) := by
  induction missingItems generalizing lockedKeys toFetchFromDb with
  | nil => exact .ret _
  | cons item missingItems inductionHypothesis =>
      simp only [lockMissing, Program.request_bind]
      apply Takes.step rfl
      intro isNone
      split <;> exact inductionHypothesis _ _

theorem getLikesCountBatch_takes (items : List ContentItem) :
    Takes (items.length + 5) (getLikesCountBatch items) := by
  unfold getLikesCountBatch
  split
  · exact .ret _
  simp only [Program.request_bind]
  apply Takes.step rfl
  intro answer
  split
  · exact .ret _
  have fewer : (missingFrom (unwrapOr (fun _ => none) answer) items).length ≤ items.length :=
    List.length_filter_le _ _
  rw [Nat.add_comm]
  apply ((lockMissing_takes _ _ _).mono fewer).bind
  intro locked
  split
  · exact .ret _
  apply Takes.step rfl
  intro fetched
  cases fetched with
  | error e => exact .ret _
  | ok dbCounts =>
      apply Takes.step rfl
      intro rehydrationSet
      exact Takes.spawn (Nat.lt_succ_self _) fun _ => .ret _

theorem getTopLikes_takes (contentType : ContentType) (windowStr : String) (limit : Int) :
    Takes 6 (getTopLikes contentType windowStr limit) := by
  simp only [getTopLikes, Program.request_bind]
  apply Takes.step rfl
  intro now
  cases windowStart now windowStr with
  | none => exact .ret _
  | some since =>
  apply Takes.step rfl
  intro answer
  cases (unwrapOr (none, false) answer).1 with
  | some items =>
      dsimp only
      split
      · exact .ret _
      · apply Takes.step rfl
        intro lock
        split
        · exact Takes.spawn (Nat.lt_succ_self _) fun _ => .ret _
        · exact .ret _
  | none =>
      apply Takes.step rfl
      intro fetched
      cases fetched with
      | error e => exact .ret _
      | ok items => exact .step rfl fun _ => .ret _

theorem getUserLikedItems_takes (setting : Setting) (userId : UserId)
    (contentType cursorStr : Option String) (limit : Nat) :
    Takes 1 (getUserLikedItems setting userId contentType cursorStr limit) := by
  unfold getUserLikedItems
  cases PaginationCursor.decodeOpt setting.cursorJson cursorStr with
  | error e => exact .ret _
  | ok cursor =>
  cases addOne setting limit with
  | panicked message => exact .ret _
  | done probe =>
  simp only [Program.request_bind]
  apply Takes.step rfl
  intro answer
  cases answer with
  | error e => exact .ret _
  | ok items =>
      simp only
      split
      · cases lastKept setting items limit <;> exact .ret _
      · exact .ret _

/-- No call takes more steps than its budget. -/
theorem body_costs (setting : Setting) (call : LikeCall) :
    Takes call.budget (call.body setting) := by
  have wrapped : ∀ {α : Type} {most : Nat} {program : Service α}
      (wrap : α → LikeCall ⊕ LikeReply), Takes most program →
        Takes most (program >>= fun value => pure (wrap value)) :=
    fun wrap takes => takes.bind_free fun value => .ret (wrap value)
  cases call with
  | addLike likeCmd => exact wrapped _ (addLike_takes likeCmd)
  | removeLike userId contentType contentId => exact wrapped _ (removeLike_takes _ _ _)
  | getLikeCount contentType contentId =>
      apply wrapped
      apply (getLikeCountWithFallback_takes contentType contentId).bind_free
      intro result
      cases result <;> exact .ret _
  | getLikeStatus userId contentType contentId =>
      apply wrapped
      apply Takes.step rfl
      intro answer
      cases answer <;> exact .ret _
  | getLikesCountBatch items => exact wrapped _ (getLikesCountBatch_takes items)
  | getBatchStatus userId items =>
      apply wrapped
      unfold getBatchStatus
      split
      · exact .ret _
      · apply Takes.step rfl
        intro answer
        cases answer <;> exact .ret _
  | getUserLikedItems userId contentType cursorStr limit =>
      exact wrapped _ (getUserLikedItems_takes _ _ _ _ _)
  | getTopLikes contentType windowStr limit => exact wrapped _ (getTopLikes_takes _ _ _)
  | publishLikeEvent event => exact .step rfl fun _ => .ret _
  | rehydrate dbCounts lockedKeys rehydrationSet => exact .step rfl fun _ => .ret _
  | refreshLeaderboard window contentType since limit =>
      apply Takes.step rfl
      intro answer
      cases answer with
      | error e => exact .ret _
      | ok newItems => exact .step rfl fun _ => .ret _

/-- No call is a tail call. -/
theorem body_replies (setting : Setting) (call : LikeCall) :
    (call.body setting).Ends fun outcome => ∃ reply, outcome = .inr reply := by
  have wrapped : ∀ {α : Type} (program : Service α) (wrap : α → LikeReply),
      (program >>= fun value => pure (.inr (wrap value))).Ends
        fun outcome : LikeCall ⊕ LikeReply => ∃ reply, outcome = .inr reply := by
    intro α program wrap
    apply Ends.bind
    intro value
    exact ⟨wrap value, rfl⟩
  cases call <;> exact wrapped _ _

end Methods

section Runs

variable {setting : Setting} {world : World} {calls : List LikeCall}
  {trace : List (Event (likeService setting))} {last : Pool (likeService setting)}

/-- However the steps of calls and tasks interleave, there are not more of them than the
budgets of the calls, and while a call has not come back some call can take its next step. -/
theorem calls_come_back (free : ∀ lock, world.held lock = false)
    (run : Run (Pool.start world calls) trace last) :
    trace.length ≤ (calls.map LikeCall.budget).sum ∧
      (¬ last.Done → ∃ event next, Pool.Step last (some event) next) := by
  constructor
  · apply run.length_le (M := likeService setting) (body_costs setting) (body_replies setting)
    intro env op world answer after spawned handled
    rw [World.handle_started handled]
    exact Nat.lt_succ_self _
  · intro unfinished
    obtain ⟨event, next, step⟩ := never_stuck free run unfinished
    cases event with
    | some event => exact ⟨event, next, step⟩
    | none =>
        cases step with
        | tail at_tail =>
            obtain ⟨reply, returned⟩ :=
              run.replies (body_replies setting) _ (List.mem_of_getElem? at_tail)
            cases returned

/-- Whatever has interleaved, failed and expired so far, every call and task can still come
back, and no schedule, however unfair, goes on for longer than the budgets of the calls. -/
theorem every_run_finishes (setting : Setting) (world : World) (calls : List LikeCall)
    (trace : List (Event (likeService setting))) (last : Pool (likeService setting))
    (free : ∀ lock, world.held lock = false)
    (run : Run (M := likeService setting) (Pool.start world calls) trace last) :
    trace.length ≤ (calls.map LikeCall.budget).sum ∧
      ∃ more final, Run last more final ∧ final.Done := by
  refine ⟨(calls_come_back free run).1, ?_⟩
  induction left : (calls.map LikeCall.budget).sum - trace.length generalizing trace last with
  | zero =>
      obtain ⟨_, continues⟩ := calls_come_back free run
      refine ⟨[], last, .refl last, ?_⟩
      by_contra unfinished
      obtain ⟨event, next, step⟩ := continues unfinished
      have longer := (calls_come_back free (run.step step)).1
      simp only [Option.toList_some, List.length_append, List.length_singleton] at longer
      omega
  | succ fewer inductionHypothesis =>
      obtain ⟨_, continues⟩ := calls_come_back free run
      by_cases finished : last.Done
      · exact ⟨[], last, .refl last, finished⟩
      · obtain ⟨event, next, step⟩ := continues finished
        have longer := run.step step
        have length : (trace ++ (some event).toList).length = trace.length + 1 := by simp
        obtain ⟨more, final, rest, done⟩ :=
          inductionHypothesis _ next longer (by rw [length]; omega)
        exact ⟨_, final, ((Run.refl last).step step).append rest, done⟩

end Runs

/-- One reader of a cold count holds its lock and another one waits for it. -/
theorem every_run_finishes_waiting :
    ∃ trace last, Run (M := likeService .reference)
        (Pool.start (World.new .empty .empty 0)
          [.getLikeCount ⟨"post"⟩ ⟨9⟩, .getLikeCount ⟨"post"⟩ ⟨9⟩]) trace last ∧
      last.state.held 0 = true ∧ ∃ more final, Run last more final ∧ final.Done := by
  obtain ⟨trace, last, run, held⟩ := Run.exists_of_exec (M := likeService .reference)
    ([0, 0, 0, 1, 1].map fun thread => (thread, Surroundings.calm))
    (Pool.start (World.new .empty .empty 0)
      [.getLikeCount ⟨"post"⟩ ⟨9⟩, .getLikeCount ⟨"post"⟩ ⟨9⟩])
    (fun _ last => last.state.held 0) (by decide +kernel)
  exact ⟨trace, last, run, held,
    (every_run_finishes _ _ _ _ _ (fun _ => rfl) run).2⟩

end SocialApi
