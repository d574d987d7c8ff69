/-
Module: SocialApi.Proofs.GuardedSection
Purpose: The calls outside and inside the section guarded by flight_locks, and that no call
  waits for its mutex for ever.
Trusted boundary: none
Main exports:
  LikeOp.Unguarded, body_guarded, body_holds, run_returns, never_stuck
-/
import SocialApi.Application.LikeService
import SocialApi.Process.Phases

namespace SocialApi

open Process
open LikeService

/-! ### Outside the guarded section -/

/-- A step that neither touches the lock map nor a mutex, but may add a key of a batch. -/
def LikeOp.Unguarded : LikeOp → Prop
  | .flightEntry _ | .flightRemove _ | .mutexLock _ | .mutexUnlock _ => False
  | _ => True

theorem LikeOp.Quiet.unguarded {op : LikeOp} (quiet : op.Quiet) : op.Unguarded := by
  cases op <;> trivial

namespace LikeService

theorem addNewLike_unguarded (likeCmd : AddLikeCommand) (createdAt : DateTime) :
    (addNewLike likeCmd createdAt).Performs LikeOp.Unguarded := by
  have told : ∀ count, (likeAdded likeCmd count createdAt false).Performs LikeOp.Unguarded :=
    fun count => (likeAdded_quiet _ _ _ _).mono fun _ => LikeOp.Quiet.unguarded
  refine ⟨trivial, fun counted => ?_⟩
  cases counted with
  | ok newCount => exact told newCount
  | error e =>
  refine ⟨trivial, fun recounted => ?_⟩
  cases recounted with
  | error e => trivial
  | ok count => exact told count

theorem removeCountedLike_unguarded (userId : UserId) (contentType : ContentType)
    (contentId : ContentId) :
    (removeCountedLike userId contentType contentId).Performs LikeOp.Unguarded := by
  have told : ∀ count,
      (likeRemoved userId contentType contentId count).Performs LikeOp.Unguarded :=
    fun count => (likeRemoved_quiet _ _ _ _).mono fun _ => LikeOp.Quiet.unguarded
  refine ⟨trivial, fun counted => ?_⟩
  cases counted with
  | ok newCount => exact told newCount
  | error e =>
  refine ⟨trivial, fun recounted => ?_⟩
  cases recounted with
  | error e => trivial
  | ok count => exact told count

theorem lockMissing_unguarded (missingItems : List ContentItem) (lockedKeys : List String)
    (toFetchFromDb : List ContentItem) :
    (lockMissing missingItems lockedKeys toFetchFromDb).Performs LikeOp.Unguarded := by
  induction missingItems generalizing lockedKeys toFetchFromDb with
  | nil => trivial
  | cons item missingItems inductionHypothesis =>
      simp only [lockMissing, Program.request_bind, Program.performs_perform]
      refine ⟨trivial, fun isNone => ?_⟩
      split <;> exact inductionHypothesis _ _

theorem getLikesCountBatch_unguarded (items : List ContentItem) :
    (getLikesCountBatch items).Performs LikeOp.Unguarded := by
  unfold getLikesCountBatch
  split
  · trivial
  simp only [Program.request_bind, Program.performs_perform]
  refine ⟨trivial, fun answer => ?_⟩
  split
  · trivial
  refine (lockMissing_unguarded _ _ _).bind fun locked => ?_
  split
  · trivial
  refine ⟨trivial, fun fetched => ?_⟩
  cases fetched with
  | error e => trivial
  | ok dbCounts => exact ⟨trivial, fun _ => ⟨trivial, fun _ => trivial⟩⟩

end LikeService

section Guarded

variable {κ : Type} {advance : κ → (op : LikeOp) → op.Res → κ} {permitted : κ → LikeOp → Prop}
  {possible : κ → (op : LikeOp) → op.Res → Prop} {idle : κ}

/-- The program obeys the protocol and is idle at both ends. -/
abbrev FromIdle {α : Type} (advance : κ → (op : LikeOp) → op.Res → κ)
    (permitted : κ → LikeOp → Prop) (possible : κ → (op : LikeOp) → op.Res → Prop) (idle : κ)
    (program : Service α) : Prop :=
  program.Obeys advance permitted possible (fun reached _ => reached = idle) idle

variable
  (aside : ∀ op : LikeOp, op.Unguarded →
    permitted idle op ∧ ∀ answer, advance idle op answer = idle)
  (guarded : ∀ contentType contentId,
    FromIdle advance permitted possible idle (getLikeCountWithFallback contentType contentId))

include aside

/-- An unguarded step leaves the protocol idle. -/
theorem unguarded_step {α : Type} {op : LikeOp} {next : op.Res → Service α}
    (outside : op.Unguarded)
    (rest : ∀ answer, FromIdle advance permitted possible idle (next answer)) :
    FromIdle advance permitted possible idle (.perform op next) := by
  refine ⟨(aside op outside).1, fun answer _ => ?_⟩
  rw [(aside op outside).2 answer]
  exact rest answer

include guarded

/-- What follows the guarded section is idle when its own steps are unguarded. -/
theorem guarded_bind {α : Type} {contentType : ContentType} {contentId : ContentId}
    {next : Except DomainError Nat → Service α}
    (rest : ∀ result, (next result).Performs LikeOp.Unguarded) :
    FromIdle advance permitted possible idle
      (getLikeCountWithFallback contentType contentId >>= next) := by
  apply (guarded contentType contentId).bind
  rintro _ result rfl
  exact (rest result).obeys aside

theorem addExistingLike_guarded (likeCmd : AddLikeCommand) :
    FromIdle advance permitted possible idle (addExistingLike likeCmd) := by
  apply guarded_bind aside guarded
  intro result
  cases result with
  | error e => trivial
  | ok count =>
      refine ⟨trivial, fun existed => ?_⟩
      cases existed with
      | error e => trivial
      | ok existedLike => exact (likeAdded_quiet _ _ _ _).mono fun _ => LikeOp.Quiet.unguarded

theorem addLike_guarded (likeCmd : AddLikeCommand) :
    FromIdle advance permitted possible idle (addLike likeCmd) := by
  simp only [addLike, Program.request_bind]
  apply unguarded_step aside (by trivial)
  intro validated
  cases validated with
  | error e => rfl
  | ok verdict =>
  apply unguarded_step aside (by trivial)
  intro createdAt
  apply unguarded_step aside (by trivial)
  intro saved
  rcases saved with e | (_ | _)
  · rfl
  · exact (addNewLike_unguarded likeCmd createdAt).obeys aside
  · exact addExistingLike_guarded aside guarded likeCmd

theorem removeLike_guarded (userId : UserId) (contentType : ContentType)
    (contentId : ContentId) :
    FromIdle advance permitted possible idle (removeLike userId contentType contentId) := by
  simp only [removeLike, Program.request_bind]
  apply unguarded_step aside (by trivial)
  intro validated
  cases validated with
  | error e => rfl
  | ok verdict =>
  apply unguarded_step aside (by trivial)
  intro removed
  cases removed with
  | error e => rfl
  | ok wasLiked =>
  apply guarded_bind aside guarded
  intro result
  cases result with
  | error e => trivial
  | ok currCount =>
      dsimp only
      split
      · split
        · exact removeCountedLike_unguarded userId contentType contentId
        · exact (likeRemoved_quiet _ _ _ _).mono fun _ => LikeOp.Quiet.unguarded
      · trivial

/-- A protocol that is idle at unguarded steps and across the guarded section is idle across
every call. -/
theorem body_guarded (setting : Setting) (call : LikeCall) :
    FromIdle advance permitted possible idle (call.body setting) := by
  have wrapped : ∀ {α : Type} {program : Service α} (wrap : α → LikeCall ⊕ LikeReply),
      FromIdle advance permitted possible idle program →
      FromIdle advance permitted possible idle (program >>= fun value => pure (wrap value)) :=
    fun wrap idles => idles.bind fun _ _ same => same
  have quiet : ∀ {α : Type} {program : Service α}, program.Performs LikeOp.Quiet →
      FromIdle advance permitted possible idle program :=
    fun performs => performs.obeys fun op isQuiet => aside op isQuiet.unguarded
  cases call with
  | addLike likeCmd => exact wrapped _ (addLike_guarded aside guarded likeCmd)
  | removeLike userId contentType contentId =>
      exact wrapped _ (removeLike_guarded aside guarded userId contentType contentId)
  | getLikeCount contentType contentId =>
      apply wrapped
      apply guarded_bind aside guarded
      intro result
      cases result <;> trivial
  | getLikesCountBatch items =>
      exact wrapped _ ((getLikesCountBatch_unguarded items).obeys aside)
  | getLikeStatus userId contentType contentId =>
      exact wrapped _ (quiet (getLikeStatus_quiet _ _ _))
  | getBatchStatus userId items => exact wrapped _ (quiet (getBatchStatus_quiet _ _))
  | getUserLikedItems userId contentType cursorStr limit =>
      exact wrapped _ (quiet (getUserLikedItems_quiet _ _ _ _ _))
  | getTopLikes contentType windowStr limit =>
      exact wrapped _ (quiet (getTopLikes_quiet _ _ _))
  | publishLikeEvent event =>
      exact unguarded_step aside trivial fun answer => rfl
  | rehydrate dbCounts lockedKeys rehydrationSet =>
      exact unguarded_step aside trivial fun answer => rfl
  | refreshLeaderboard window contentType since limit =>
      exact wrapped _ (quiet (refreshLeaderboard_quiet _ _ _ _))

end Guarded

/-! ### The mutexes -/

/-- The mutex that a call holds. -/
def advanceMutex : Option Nat → (op : LikeOp) → op.Res → Option Nat
  | _, .mutexLock lock, _ => some lock
  | _, .mutexUnlock _, _ => none
  | holding, _, _ => holding

/-- A call locks a mutex when it holds none, and unlocks the one that it holds. -/
def permittedMutex : Option Nat → LikeOp → Prop
  | holding, .mutexLock _ => holding = none
  | holding, .mutexUnlock lock => holding = some lock
  | _, _ => True

/-- The program gives back every mutex that it locks. -/
abbrev UnlocksAll {α : Type} (program : Service α) : Prop :=
  FromIdle advanceMutex permittedMutex (fun _ _ _ => True) none program

theorem getLikeCountWithFallback_unlocks (contentType : ContentType) (contentId : ContentId) :
    UnlocksAll (getLikeCountWithFallback contentType contentId) := by
  simp only [getLikeCountWithFallback, getCacheLikeCount_bind, UnlocksAll, FromIdle,
    Program.obeys_perform]
  refine ⟨trivial, fun first _ => ?_⟩
  cases cachedCount first with
  | ok count => rfl
  | error miss =>
  simp only [Program.request_bind, Program.obeys_perform]
  refine ⟨trivial, fun lock _ => ⟨rfl, fun _ _ => ⟨trivial, fun second _ => ?_⟩⟩⟩
  cases cachedCount second with
  | ok count => exact ⟨trivial, fun _ _ => ⟨rfl, fun _ _ => rfl⟩⟩
  | error miss =>
  refine ⟨trivial, fun counted _ => ?_⟩
  cases counted with
  | error e => exact ⟨rfl, fun _ _ => rfl⟩
  | ok count => exact ⟨trivial, fun _ _ => ⟨trivial, fun _ _ => ⟨rfl, fun _ _ => rfl⟩⟩⟩

/-- Every call gives back every mutex that it locks. -/
theorem body_unlocks (setting : Setting) (call : LikeCall) : UnlocksAll (call.body setting) := by
  apply body_guarded _ getLikeCountWithFallback_unlocks
  intro op outside
  cases op with
  | mutexLock lock => exact outside.elim
  | mutexUnlock lock => exact outside.elim
  | _ => exact ⟨trivial, fun _ => rfl⟩

section Mutexes

variable {setting : Setting} {env : Surroundings} {op : LikeOp} {world after : World}
  {answer : op.Res} {spawned : List LikeCall} {holding : Option Nat}

/-- Only a step that locks a mutex may have to wait. -/
theorem World.handle_total (setting : Setting) (env : Surroundings)
    (free : ∀ lock, op = .mutexLock lock → world.held lock = false) :
    ∃ answer after spawned,
      World.handle setting env op world = some (answer, after, spawned) := by
  cases op with
  | mutexLock lock =>
      have unlocked : ((world.advance env).held lock) = false := free lock rfl
      simp [World.handle, World.serve, unlocked]
  | cachePublishLikeEvent event =>
      simp only [World.handle, World.serve]
      split <;> exact ⟨_, _, _, rfl⟩
  | flightEntry lockKey =>
      simp only [World.handle, World.serve]
      split <;> exact ⟨_, _, _, rfl⟩
  | _ => exact ⟨_, _, _, rfl⟩

theorem mutexMove (permitted : permittedMutex holding op)
    (handled : World.handle setting env op world = some (answer, after, spawned)) :
    LockMove holding (advanceMutex holding op answer) world.held after.held := by
  rw [World.handle_held handled]
  cases op with
  | mutexLock lock =>
      obtain rfl : holding = none := permitted
      exact .acquire (World.handle_mutexLock handled)
  | mutexUnlock lock =>
      obtain rfl : holding = some lock := permitted
      exact .release
  | _ => exact .keep

/-- Alone, and with the mutex that it holds taken, a program comes to its end. -/
theorem run_returns {α : Type} {program : Service α} {final : Option Nat → α → Prop}
    (obeys : program.Obeys advanceMutex permittedMutex (fun _ _ _ => True) final holding)
    (setting : Setting) (environment : Nat → Surroundings)
    (held : ∀ lock, world.held lock = true ↔ holding = some lock) :
    ∃ value after spawned reached,
      program.run (World.handle setting) environment world = some (value, after, spawned) ∧
      final reached value ∧ ∀ lock, after.held lock = true ↔ reached = some lock := by
  induction program generalizing environment holding world with
  | ret value => exact ⟨value, world, [], holding, rfl, obeys, held⟩
  | perform op next inductionHypothesis =>
      obtain ⟨permitted, rest⟩ := obeys
      have unlocked : ∀ lock, op = .mutexLock lock → world.held lock = false := by
        rintro lock rfl
        obtain rfl : holding = none := permitted
        exact Bool.eq_false_iff.mpr fun taken => nomatch (held lock).mp taken
      obtain ⟨answer, between, first, handled⟩ :=
        World.handle_total setting (environment 0) unlocked
      have heldAfter : ∀ lock, between.held lock = true ↔
          advanceMutex holding op answer = some lock := by
        intro lock
        rw [World.handle_held handled]
        cases op with
        | mutexLock other =>
            obtain rfl : holding = none := permitted
            by_cases same : lock = other
            · simp [World.heldAfter, advanceMutex, same]
            · simp [World.heldAfter, advanceMutex, same, held, Ne.symm same]
        | mutexUnlock other =>
            obtain rfl : holding = some other := permitted
            by_cases same : lock = other
            · simp [World.heldAfter, advanceMutex, same]
            · simp [World.heldAfter, advanceMutex, same, held, Ne.symm same]
        | _ => exact held lock
      obtain ⟨value, after, later, reached, ran, ended, holds⟩ :=
        inductionHypothesis answer (rest answer trivial) (fun n => environment (n + 1))
          heldAfter
      exact ⟨value, after, first ++ later, reached,
        (Program.run_perform _).mpr ⟨answer, between, first, later, handled, ran, rfl⟩,
        ended, holds⟩

/-- Alone, every call comes back and leaves all mutexes free. -/
theorem body_returns (setting : Setting) (call : LikeCall) (environment : Nat → Surroundings)
    (free : ∀ lock, world.held lock = false) :
    ∃ outcome after spawned,
      (call.body setting).run (World.handle setting) environment world =
        some (outcome, after, spawned) ∧ ∀ lock, after.held lock = false := by
  have noneHeld : ∀ lock, world.held lock = true ↔ (none : Option Nat) = some lock := by
    simp [free]
  obtain ⟨outcome, after, spawned, _, ran, rfl, held⟩ :=
    run_returns (body_unlocks setting call) setting environment noneHeld
  refine ⟨outcome, after, spawned, ran, ?_⟩
  intro lock
  exact Bool.eq_false_iff.mpr fun taken => nomatch (held lock).mp taken

/-- No pool of calls is stuck: while a call has not come back, some call can take a step. -/
theorem never_stuck {calls : List LikeCall} {trace : List (Event (likeService setting))}
    {last : Pool (likeService setting)} (free : ∀ lock, world.held lock = false)
    (run : Run (Pool.start world calls) trace last) (unfinished : ¬ last.Done) :
    ∃ event next, Pool.Step last event next := by
  have bodies : ∀ call, True → ((likeService setting).body call).Obeys advanceMutex
      permittedMutex (fun _ _ _ => True) (fun holding _ => holding = none) none :=
    fun call _ => body_unlocks setting call
  obtain ⟨phases, phased, _, owned⟩ := Run.phases_spawning (M := likeService setting)
    (fun _ phases world => Owned (fun holding => holding) world.held phases)
    bodies (fun _ _ final => ⟨trivial, final⟩) (fun _ _ => trivial) run
    (owned_start free (by simp)) (by
      intro before event after phases phase next spawned _ _ at_i permitted handled owned
      refine ⟨fun _ _ => trivial, trivial, ?_⟩
      apply (owned.move at_i (mutexMove permitted handled)).append
      simp)
  have steps : ∀ (i : Nat) (call : LikeCall) (op : LikeOp) next,
      last.threads[i]? = some ⟨call, .perform op next⟩ →
      (∀ lock, op = .mutexLock lock → last.state.held lock = false) →
        ∃ event next, Pool.Step last event next := by
    intro i call op next at_op unlocked
    obtain ⟨answer, after, spawned, handled⟩ := World.handle_total setting .calm unlocked
    exact ⟨_, _, .perform at_op handled⟩
  obtain ⟨⟨call, rest⟩, member, working⟩ : ∃ thread ∈ last.threads, ¬ thread.Returned := by
    simpa [Pool.Done] using unfinished
  obtain ⟨i, at_i⟩ := List.getElem?_of_mem member
  cases rest with
  | ret outcome =>
      cases outcome with
      | inl target => exact ⟨none, _, .tail at_i⟩
      | inr reply => exact absurd ⟨reply, rfl⟩ working
  | perform op next =>
      by_cases waits : ∃ lock, op = .mutexLock lock ∧ last.state.held lock = true
      · -- the call that holds the mutex is not at its end and locks no other
        obtain ⟨lock, rfl, taken⟩ := waits
        obtain ⟨j, holding, at_phase, owning⟩ := owned.owner lock taken
        have bound : j < last.threads.length :=
          phased.length_eq ▸ (List.getElem?_eq_some_iff.mp at_phase).1
        have at_j := List.getElem?_eq_getElem bound
        have obeys := phased.obeys j _ holding at_j at_phase
        obtain rfl : holding = some lock := owning
        generalize last.threads[j] = holder at at_j obeys
        obtain ⟨owner, rest⟩ := holder
        cases rest with
        | ret outcome => cases obeys
        | perform held continuation =>
            apply steps j owner held continuation at_j
            rintro other rfl
            cases obeys.1
      · apply steps i call op next at_i
        intro lock locks
        exact Bool.eq_false_iff.mpr fun taken => waits ⟨lock, locks, taken⟩

end Mutexes

end SocialApi
