/-
Module: SocialApi.Proofs.CallTracks
Purpose: What each call does to rows and counts: which step it may take after which
  answers, and what it still owes to the count it has changed the rows of.
Trusted boundary: none
Main exports:
  Track, CallTracks.body_tracks, CallTracks.of_run, CallTracks.read_origin,
  CallTracks.batch_origin, CallTracks.saved_origin
-/
import SocialApi.Application.LikeService

namespace SocialApi

open Process
open LikeService

/-- What a call was made with, and what it has learned and done so far. -/
structure Track where
  call : LikeCall
  /-- The last `COUNT(*)` answered. -/
  read : Option (ContentType × ContentId × Nat)
  /-- The last batch of counts answered. -/
  batch : Option (List ContentItem × List ContentCount)
  /-- The like that has been saved, as a new row or as one that was there. -/
  saved : Option (UserId × ContentType × ContentId)
  /-- A new row has been saved and not yet counted. -/
  pending : Bool

/-- A task that another call starts. -/
def LikeCall.Background : LikeCall → Prop
  | .publishLikeEvent _ | .rehydrate _ _ _ | .refreshLeaderboard _ _ _ _ => True
  | _ => False

/-- The content is there and the insert does not fail. -/
def Granted : (op : LikeOp) → op.Res → Prop
  | .validateContent _ _, answer => ∃ id, answer = .ok id
  | .dbSave _, answer => ∃ existed, answer = .ok existed
  | _, _ => True

/-- The count, where the step is a `COUNT(*)` that is answered. -/
def answeredCount : (op : LikeOp) → op.Res → Option (ContentType × ContentId × Nat)
  | .dbGetLikesCount contentType contentId, .ok count => some (contentType, contentId, count)
  | _, _ => none

/-- The items and their counts, where the step is a batch query that is answered. -/
def answeredBatch : (op : LikeOp) → op.Res → Option (List ContentItem × List ContentCount)
  | .dbGetCountsBatch items, .ok counts => some (items, counts)
  | _, _ => none

/-- The like, where the step is an insert that is answered. -/
def savedLike : (op : LikeOp) → op.Res → Option (UserId × ContentType × ContentId)
  | .dbSave like, .ok _ => some like.key
  | _, _ => none

namespace CallTracks

def initial (call : LikeCall) : Track := ⟨call, none, none, none, false⟩

def advance (track : Track) (op : LikeOp) (answer : op.Res) : Track :=
  match op, answer with
  | .dbGetLikesCount contentType contentId, .ok count =>
      { track with read := some (contentType, contentId, count) }
  | .dbGetCountsBatch items, .ok counts => { track with batch := some (items, counts) }
  | .dbSave like, .ok existed =>
      { track with
        saved := some like.key
        pending := !existed }
  | .cacheIncrement _ _, _ => { track with pending := false }
  | _, _ => track

/-- A call changes the rows and the counts of what it was called for, writes only counts
it has read, and counts up once for every row it has inserted. -/
def permitted (track : Track) : LikeOp → Prop
  | .dbSave like => track.pending = false ∧ ∃ likeCmd, track.call = .addLike likeCmd ∧
      like.key = (likeCmd.userId, likeCmd.contentType, likeCmd.contentId)
  | .dbRemove userId contentType contentId =>
      track.call = .removeLike userId contentType contentId
  | .cacheIncrement contentType contentId => track.pending = true ∧ ∃ likeCmd,
      track.call = .addLike likeCmd ∧ contentType = likeCmd.contentType ∧
        contentId = likeCmd.contentId
  | .cacheDecrement contentType contentId =>
      ∃ userId, track.call = .removeLike userId contentType contentId
  | .cacheSetValue contentType contentId count =>
      track.read = some (contentType, contentId, count)
  | .cacheSetCountsBatch counts =>
      ∃ lockedKeys rehydrationSet, track.call = .rehydrate counts lockedKeys rehydrationSet
  | .spawn (.rehydrate counts _ _) => ∃ items, track.batch = some (items, counts)
  | .spawn (.publishLikeEvent _) | .spawn (.refreshLeaderboard _ _ _ _) => True
  | .spawn _ => False
  | _ => True

def possible (_ : Track) (op : LikeOp) (answer : op.Res) : Prop := Granted op answer

/-- A call that has come back has counted what it has inserted, and an `add_like` has
saved its like. -/
def final (track : Track) : LikeCall ⊕ LikeReply → Prop
  | .inl _ => False
  | .inr _ => track.pending = false ∧ ∀ likeCmd, track.call = .addLike likeCmd →
      track.saved = some (likeCmd.userId, likeCmd.contentType, likeCmd.contentId)

/-- The program keeps the protocol, and ends as stated. -/
abbrev Tracks {α : Type} (final : Track → α → Prop) (program : Service α)
    (track : Track) : Prop :=
  program.Obeys advance permitted possible final track

/-- Nothing but the counts read may have changed. -/
structure SameCall (track reached : Track) : Prop where
  call : reached.call = track.call
  saved : reached.saved = track.saved
  pending : reached.pending = track.pending

theorem SameCall.refl (track : Track) : SameCall track track := ⟨rfl, rfl, rfl⟩

theorem SameCall.trans {first second third : Track} (one : SameCall first second)
    (two : SameCall second third) : SameCall first third :=
  ⟨two.call.trans one.call, two.saved.trans one.saved, two.pending.trans one.pending⟩

theorem quiet_tracks {α : Type} {program : Service α} {track : Track}
    (quiet : program.Performs LikeOp.Quiet) :
    Tracks (fun reached _ => SameCall track reached) program track := by
  apply Program.Obeys.weaken (quiet.obeys _)
  · rintro reached _ rfl
    exact .refl _
  · intro op isQuiet
    cases op with
    | spawn task => cases task <;> simp_all [LikeOp.Quiet, permitted, advance]
    | _ => simp_all [LikeOp.Quiet, permitted, advance]

/-- The read-through only reads counts, and writes the one it has read. -/
theorem getLikeCountWithFallback_tracks (contentType : ContentType)
    (contentId : ContentId) (track : Track) :
    Tracks (fun reached _ => SameCall track reached)
      (getLikeCountWithFallback contentType contentId) track := by
  simp only [getLikeCountWithFallback, getCacheLikeCount_bind, Tracks,
    Program.obeys_perform]
  refine ⟨trivial, fun first _ => ?_⟩
  cases cachedCount first with
  | ok count => exact .refl _
  | error miss =>
  simp only [Program.request_bind, Program.obeys_perform]
  refine ⟨trivial, fun lock _ => ⟨trivial, fun _ _ => ⟨trivial, fun second _ => ?_⟩⟩⟩
  cases cachedCount second with
  | ok count => exact ⟨trivial, fun _ _ => ⟨trivial, fun _ _ => .refl _⟩⟩
  | error miss =>
  refine ⟨trivial, fun counted _ => ?_⟩
  cases counted with
  | error e => exact ⟨trivial, fun _ _ => .refl _⟩
  | ok count =>
      exact ⟨rfl, fun _ _ => ⟨trivial, fun _ _ => ⟨trivial, fun _ _ => ⟨rfl, rfl, rfl⟩⟩⟩⟩

/-- The like of the command is saved, and nothing is owed. -/
def Settled (likeCmd : AddLikeCommand) (track : Track) : Prop :=
  track.call = .addLike likeCmd ∧ track.pending = false ∧
    track.saved = some (likeCmd.userId, likeCmd.contentType, likeCmd.contentId)

theorem Settled.same {likeCmd : AddLikeCommand} {track reached : Track}
    (settled : Settled likeCmd track) (same : SameCall track reached) :
    Settled likeCmd reached :=
  ⟨same.call.trans settled.1, same.pending.trans settled.2.1,
    same.saved.trans settled.2.2⟩

theorem likeAdded_tracks {likeCmd : AddLikeCommand} {track : Track}
    (settled : Settled likeCmd track) (count : Nat) (createdAt : DateTime)
    (alreadyExists : Bool) :
    Tracks (fun reached _ => Settled likeCmd reached)
      (likeAdded likeCmd count createdAt alreadyExists) track := by
  apply (quiet_tracks (likeAdded_quiet likeCmd count createdAt alreadyExists)).weaken
  intro reached _ same
  exact settled.same same

theorem addExistingLike_tracks {likeCmd : AddLikeCommand} {track : Track}
    (settled : Settled likeCmd track) :
    Tracks (fun reached _ => Settled likeCmd reached) (addExistingLike likeCmd) track := by
  apply (getLikeCountWithFallback_tracks _ _ track).bind
  intro reached result same
  have still := settled.same same
  cases result with
  | error e => exact still
  | ok count =>
      refine ⟨trivial, fun existed _ => ?_⟩
      cases existed with
      | error e => exact still
      | ok existedLike => exact likeAdded_tracks still _ _ _

theorem addNewLike_tracks {likeCmd : AddLikeCommand} {track : Track}
    (called : track.call = .addLike likeCmd) (pending : track.pending = true)
    (saved : track.saved =
      some (likeCmd.userId, likeCmd.contentType, likeCmd.contentId))
    (createdAt : DateTime) :
    Tracks (fun reached _ => Settled likeCmd reached) (addNewLike likeCmd createdAt)
      track := by
  refine ⟨⟨pending, likeCmd, called, rfl, rfl⟩, fun counted _ => ?_⟩
  have settled : Settled likeCmd { track with pending := false } := ⟨called, rfl, saved⟩
  cases counted with
  | ok newCount => exact likeAdded_tracks settled _ _ _
  | error e =>
      refine ⟨trivial, fun recounted _ => ?_⟩
      cases recounted with
      | error e => exact settled
      | ok count =>
          exact likeAdded_tracks (settled.same ⟨rfl, rfl, rfl⟩) count createdAt false

theorem addLike_tracks (likeCmd : AddLikeCommand) :
    Tracks (fun reached _ => Settled likeCmd reached) (LikeService.addLike likeCmd)
      (initial (.addLike likeCmd)) := by
  simp only [LikeService.addLike, Tracks, Program.request_bind, Program.obeys_perform]
  refine ⟨trivial, fun validated isValid => ?_⟩
  obtain ⟨id, rfl⟩ := isValid
  refine ⟨trivial, fun createdAt _ => ⟨⟨rfl, likeCmd, rfl, rfl⟩, fun saved stored => ?_⟩⟩
  obtain ⟨existed, rfl⟩ := stored
  cases existed with
  | true => exact addExistingLike_tracks ⟨rfl, rfl, rfl⟩
  | false => exact addNewLike_tracks rfl rfl rfl createdAt

theorem removeCountedLike_tracks (userId : UserId) (contentType : ContentType)
    (contentId : ContentId) {track : Track}
    (called : track.call = .removeLike userId contentType contentId) :
    Tracks (fun reached _ => SameCall track reached)
      (removeCountedLike userId contentType contentId) track := by
  refine ⟨⟨userId, called⟩, fun counted _ => ?_⟩
  cases counted with
  | ok newCount => exact quiet_tracks (likeRemoved_quiet _ _ _ _)
  | error e =>
      refine ⟨trivial, fun recounted _ => ?_⟩
      cases recounted with
      | error e => exact ⟨rfl, rfl, rfl⟩
      | ok count =>
          apply (quiet_tracks (likeRemoved_quiet _ _ _ _)).weaken
          intro reached _ same
          exact ⟨same.call, same.saved, same.pending⟩

theorem removeLike_tracks (userId : UserId) (contentType : ContentType)
    (contentId : ContentId) :
    Tracks (fun reached _ =>
        SameCall (initial (.removeLike userId contentType contentId)) reached)
      (LikeService.removeLike userId contentType contentId)
      (initial (.removeLike userId contentType contentId)) := by
  simp only [LikeService.removeLike, Tracks, Program.request_bind, Program.obeys_perform]
  refine ⟨trivial, fun validated isValid => ?_⟩
  obtain ⟨id, rfl⟩ := isValid
  refine ⟨rfl, fun removed _ => ?_⟩
  cases removed with
  | error e => exact .refl _
  | ok wasLiked =>
      apply (getLikeCountWithFallback_tracks _ _ _).bind
      intro reached result same
      cases result with
      | error e => exact same
      | ok currCount =>
          dsimp only
          split
          · split
            · apply (removeCountedLike_tracks _ _ _ same.call).weaken
              intro later _ still
              exact same.trans still
            · apply (quiet_tracks (likeRemoved_quiet _ _ _ _)).weaken
              intro later _ still
              exact same.trans still
          · exact same

theorem lockMissing_tracks (missingItems : List ContentItem) (lockedKeys : List String)
    (toFetchFromDb : List ContentItem) (track : Track) :
    Tracks (fun reached _ => reached = track)
      (lockMissing missingItems lockedKeys toFetchFromDb) track := by
  induction missingItems generalizing lockedKeys toFetchFromDb with
  | nil => rfl
  | cons item missingItems inductionHypothesis =>
      simp only [lockMissing, Tracks, Program.request_bind, Program.obeys_perform]
      refine ⟨trivial, fun isNone _ => ?_⟩
      split
      · exact inductionHypothesis _ _
      · exact inductionHypothesis _ _

theorem getLikesCountBatch_tracks (items : List ContentItem) (track : Track) :
    Tracks (fun reached _ => SameCall track reached)
      (LikeService.getLikesCountBatch items) track := by
  unfold LikeService.getLikesCountBatch
  split
  · exact .refl _
  simp only [Tracks, Program.request_bind, Program.obeys_perform]
  refine ⟨trivial, fun answer _ => ?_⟩
  split
  · exact .refl _
  apply (lockMissing_tracks _ _ _ _).bind
  rintro reached locked rfl
  split
  · exact .refl _
  refine ⟨trivial, fun fetched _ => ?_⟩
  cases fetched with
  | error e => exact .refl _
  | ok dbCounts =>
      exact ⟨trivial, fun _ _ => ⟨⟨locked.toFetchFromDb, rfl⟩, fun _ _ => ⟨rfl, rfl, rfl⟩⟩⟩

/-- A call of another kind ends as it should when it has done nothing to the rows. -/
theorem tracks_aside {α : Type} {call : LikeCall} {program : Service α}
    (wrap : α → LikeReply) (other : ∀ likeCmd, call ≠ .addLike likeCmd)
    (tracks : Tracks (fun reached _ => SameCall (initial call) reached) program
      (initial call)) :
    Tracks final (program >>= fun value => pure (.inr (wrap value))) (initial call) := by
  apply tracks.bind
  intro reached value same
  refine ⟨same.pending, ?_⟩
  intro likeCmd called
  exact absurd (same.call.symm.trans called) (other likeCmd)

/-- Every call keeps the protocol. -/
theorem body_tracks (setting : Setting) (call : LikeCall) :
    Tracks final (call.body setting) (initial call) := by
  cases call with
  | addLike likeCmd =>
      apply (addLike_tracks likeCmd).bind
      rintro reached result ⟨called, pending, saved⟩
      refine ⟨pending, ?_⟩
      intro other same
      obtain rfl := LikeCall.addLike.inj (called.symm.trans same)
      exact saved
  | removeLike userId contentType contentId =>
      exact tracks_aside _ (by simp) (removeLike_tracks userId contentType contentId)
  | getLikeCount contentType contentId =>
      apply tracks_aside _ (by simp)
      apply (getLikeCountWithFallback_tracks _ _ _).bind
      intro reached result same
      cases result with
      | error e => exact same
      | ok count => exact same
  | getLikesCountBatch items =>
      exact tracks_aside _ (by simp) (getLikesCountBatch_tracks items _)
  | getLikeStatus userId contentType contentId =>
      exact tracks_aside _ (by simp) (quiet_tracks (getLikeStatus_quiet _ _ _))
  | getBatchStatus userId items =>
      exact tracks_aside _ (by simp) (quiet_tracks (getBatchStatus_quiet _ _))
  | getUserLikedItems userId contentType cursorStr limit =>
      exact tracks_aside _ (by simp) (quiet_tracks (getUserLikedItems_quiet _ _ _ _ _))
  | getTopLikes contentType windowStr limit =>
      exact tracks_aside _ (by simp) (quiet_tracks (getTopLikes_quiet _ _ _))
  | publishLikeEvent event => exact ⟨trivial, fun _ _ => ⟨rfl, by simp [initial, advance]⟩⟩
  | rehydrate dbCounts lockedKeys rehydrationSet =>
      exact ⟨⟨lockedKeys, rehydrationSet, rfl⟩, fun _ _ => ⟨rfl, by simp [initial, advance]⟩⟩
  | refreshLeaderboard window contentType since limit =>
      exact tracks_aside (fun _ => .refreshLeaderboard) (by simp)
        (quiet_tracks (refreshLeaderboard_quiet _ _ _ _))

/-- A permitted step starts background tasks only. -/
theorem background_of_spawned {setting : Setting} {event : Event (likeService setting)}
    {track : Track} {task : LikeCall} (allowed : permitted track event.op)
    (spawned : event.Spawned task) : task.Background := by
  obtain ⟨after, started, handled, among⟩ := spawned
  have op := World.handle_spawned handled among
  rw [op] at allowed
  cases task <;> trivial

section Runs

variable {setting : Setting} {world : World} {calls : List LikeCall}
  {trace : List (Event (likeService setting))} {last : Pool (likeService setting)}

/-- The run law of the protocol. -/
theorem of_run (run : Run (M := likeService setting) (Pool.start world calls) trace last)
    (granted : ∀ event ∈ trace, Granted event.op event.res) :
    Governed (M := likeService setting) advance permitted possible final initial trace
        last ∧
      ∀ before (event : Event (likeService setting)) after,
        trace = before ++ event :: after →
          permitted (controlAfter advance event.thread (initial event.call) before)
            event.op := by
  have allowed : ∀ before (event : Event (likeService setting)) after,
      trace = before ++ event :: after → Granted event.op event.res := by
    rintro before event after rfl
    exact granted event (by simp)
  exact Run.obeys (M := likeService setting) (body_tracks setting)
    (fun _ _ absurd => absurd.elim) run allowed

/-- The call in a control state is the call of its thread. -/
theorem call_controlAfter (i : Nat) (call : LikeCall)
    (before : List (Event (likeService setting))) :
    (controlAfter advance i (initial call) before).call = call := by
  apply controlAfter_preserves (fun track : Track => track.call = call) _ rfl
  intro event _ reached same
  rw [← same]
  obtain ⟨thread, other, env, op, res, state⟩ := event
  cases op with
  | dbGetLikesCount contentType contentId => cases res <;> rfl
  | dbGetCountsBatch items => cases res <;> rfl
  | dbSave like => cases res <;> rfl
  | _ => rfl

/-- The calls of a run are those of its start and background tasks. -/
theorem event_call (run : Run (M := likeService setting) (Pool.start world calls) trace last)
    (granted : ∀ event ∈ trace, Granted event.op event.res) :
    ∀ event ∈ trace, event.call ∈ calls ∨ event.call.Background := by
  intro event member
  obtain ⟨before, after, split⟩ := List.append_of_mem member
  rcases run.event_origin before event after split with known | ⟨earlier, among, spawned⟩
  · exact .inl known
  · obtain ⟨front, back, rfl⟩ := List.append_of_mem among
    have allowed := (of_run run granted).2 front earlier (back ++ event :: after)
      (by rw [split, List.append_assoc, List.cons_append])
    exact .inr (background_of_spawned allowed spawned)

/-- The threads of a run are those of its start and background tasks. -/
theorem thread_call (run : Run (M := likeService setting) (Pool.start world calls) trace last)
    (granted : ∀ event ∈ trace, Granted event.op event.res) :
    ∀ thread ∈ last.threads, thread.call ∈ calls ∨ thread.call.Background := by
  intro thread member
  rcases run.thread_origin thread member with known | ⟨event, among, spawned⟩
  · exact .inl known
  · obtain ⟨before, after, split⟩ := List.append_of_mem among
    exact .inr (background_of_spawned ((of_run run granted).2 before event after split)
      spawned)

section Origin

variable {before : List (Event (likeService setting))} {i : Nat} {call : LikeCall}

/-- The count a call has read last was answered to it. -/
theorem read_origin {value : ContentType × ContentId × Nat}
    (read : (controlAfter advance i (initial call) before).read = some value) :
    ∃ front query back, before = front ++ query :: back ∧ query.thread = i ∧
      answeredCount query.op query.res = some value := by
  apply controlAfter_origin Track.read
    (fun op answer value => answeredCount op answer = some value) _ rfl read
  intro reached op answer value seen
  cases op with
  | dbGetLikesCount contentType contentId =>
      cases answer with
      | error e => exact .inl seen
      | ok count => exact .inr seen
  | dbGetCountsBatch items => cases answer <;> exact .inl seen
  | dbSave like => cases answer <;> exact .inl seen
  | _ => exact .inl seen

/-- The batch a call has read last was answered to it. -/
theorem batch_origin {value : List ContentItem × List ContentCount}
    (read : (controlAfter advance i (initial call) before).batch = some value) :
    ∃ front query back, before = front ++ query :: back ∧ query.thread = i ∧
      answeredBatch query.op query.res = some value := by
  apply controlAfter_origin Track.batch
    (fun op answer value => answeredBatch op answer = some value) _ rfl read
  intro reached op answer value seen
  cases op with
  | dbGetCountsBatch items =>
      cases answer with
      | error e => exact .inl seen
      | ok counts => exact .inr seen
  | dbGetLikesCount contentType contentId => cases answer <;> exact .inl seen
  | dbSave like => cases answer <;> exact .inl seen
  | _ => exact .inl seen

/-- The like a call has saved was saved by it. -/
theorem saved_origin {value : UserId × ContentType × ContentId}
    (saved : (controlAfter advance i (initial call) before).saved = some value) :
    ∃ front insert back, before = front ++ insert :: back ∧ insert.thread = i ∧
      savedLike insert.op insert.res = some value := by
  apply controlAfter_origin Track.saved
    (fun op answer value => savedLike op answer = some value) _ rfl saved
  intro reached op answer value seen
  cases op with
  | dbSave like =>
      cases answer with
      | error e => exact .inl seen
      | ok existed => exact .inr seen
  | dbGetLikesCount contentType contentId => cases answer <;> exact .inl seen
  | dbGetCountsBatch items => cases answer <;> exact .inl seen
  | _ => exact .inl seen

end Origin

end Runs

end CallTracks

end SocialApi
