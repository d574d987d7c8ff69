/-
Module: SocialApi.Proofs.PublishedEvents
Purpose: Which changes of the likes table the calls of add_like and remove_like hand to
  publish_like_event.
Trusted boundary: none
Main exports:
  Change, Telling, addLike_tells, removeLike_tells, Served, serveCalls, OneEventPerChange,
  one_event_per_change_iff
-/
import SocialApi.Proofs.FailedRequests
import SocialApi.Proofs.GuardedSection

namespace SocialApi

open Process
open LikeService

/-! ### Changes and events -/

/-- A row of the likes table that appears, or one that goes. -/
structure Change where
  kind : SseEventType
  key : UserId × ContentType × ContentId
deriving DecidableEq

/-- The event that tells of a change. -/
def Change.event (change : Change) (count : Nat) (timestamp : DateTime) : SseLikeEvent where
  event := change.kind
  contentType := some change.key.2.1
  contentId := some change.key.2.2
  userId := some change.key.1
  count := some count
  timestamp := timestamp

/-- The change that an event tells of, if it names a user and an item. -/
def SseLikeEvent.change (event : SseLikeEvent) : Option Change :=
  match event.userId, event.contentType, event.contentId with
  | some userId, some contentType, some contentId =>
      some ⟨event.event, userId, contentType, contentId⟩
  | _, _, _ => none

@[simp] theorem Change.event_change (change : Change) (count : Nat) (timestamp : DateTime) :
    (change.event count timestamp).change = some change := rfl

/-- The change that a step makes. -/
def changedBy : (op : LikeOp) → op.Res → Option Change
  | .dbSave like, .ok false => some ⟨.like, like.key⟩
  | .dbRemove userId contentType contentId, .ok true =>
      some ⟨.unlike, userId, contentType, contentId⟩
  | _, _ => none

/-- The event that a step hands to `publish_like_event`. -/
def toldBy : LikeOp → Option SseLikeEvent
  | .spawn (.publishLikeEvent event) => some event
  | _ => none

/-- The change that a request is for. -/
def AddLikeCommand.change (likeCmd : AddLikeCommand) : Change :=
  ⟨.like, likeCmd.userId, likeCmd.contentType, likeCmd.contentId⟩

def LikeCall.change : LikeCall → Option Change
  | .addLike likeCmd => some likeCmd.change
  | .removeLike userId contentType contentId =>
      some ⟨.unlike, userId, contentType, contentId⟩
  | _ => none

/-! ### A protocol of changes and events -/

/-- What a request has done so far: the change it has made, whether its insert found the row
there, whether it has been refused, and the event it has told. -/
structure Telling where
  change : Option Change
  found : Bool
  refused : Bool
  told : Option SseLikeEvent

namespace Telling

def start : Telling := ⟨none, false, false, none⟩

def advance (telling : Telling) : (op : LikeOp) → op.Res → Telling
  | .dbSave like, .ok false => { telling with change := some ⟨.like, like.key⟩ }
  | .dbSave _, .ok true => { telling with found := true }
  | .dbRemove userId contentType contentId, .ok true =>
      { telling with change := some ⟨.unlike, userId, contentType, contentId⟩ }
  | .validateContent _ _, .error _ | .dbSave _, .error _ | .dbRemove _ _ _, .error _
  | .dbGetLike _ _ _, .error _ => { telling with refused := true }
  | .spawn (.publishLikeEvent event), _ => { telling with told := some event }
  | _, _ => telling

/-- A request writes the row of its change, reads it back when it was there, and tells its
change once, through a task that publishes the event. -/
def Permitted (change : Change) (telling : Telling) : LikeOp → Prop
  | .dbSave like => change = ⟨.like, like.key⟩ ∧ telling = start
  | .dbRemove userId contentType contentId =>
      change = ⟨.unlike, userId, contentType, contentId⟩ ∧ telling = start
  | .dbGetLike userId contentType contentId =>
      (userId, contentType, contentId) = change.key ∧ telling.found = true ∧
        telling.change = none
  | .spawn task => telling.told = none ∧
      ∃ count timestamp, task = .publishLikeEvent (change.event count timestamp)
  | .cachePublishLikeEvent _ => False
  | _ => True

/-- A `COUNT(*)` does not fail. -/
def Possible (_ : Telling) : (op : LikeOp) → op.Res → Prop
  | .dbGetLikesCount _ _, answer => ∃ count, answer = .ok count
  | _, _ => True

/-- The program keeps to the protocol, and ends as stated. -/
abbrev Tells {α : Type} (change : Change) (final : Telling → α → Prop) (program : Service α)
    (telling : Telling) : Prop :=
  program.Obeys advance (Permitted change) Possible final telling

/-- A refused request has changed nothing and told nothing. -/
def Refused (telling : Telling) : Prop :=
  telling.change = none ∧ telling.told = none ∧ telling.refused = true

/-- How `add_like` ends: it tells its change with the count it returns, whether it has made
the change or found the row there. -/
def Added (change : Change) (telling : Telling) :
    Except DomainError AddLikeCommandResult → Prop
  | .error _ => telling.Refused
  | .ok result => telling.change = (if result.alreadyExisted then none else some change) ∧
      telling.found = result.alreadyExisted ∧ telling.refused = false ∧
      ∃ timestamp, telling.told = some (change.event result.count timestamp)

/-- How `remove_like` ends: it tells the change that it has made, with the count it
returns. -/
def Removed (change : Change) (telling : Telling) : Except DomainError UnlikeResponse → Prop
  | .error _ => telling.Refused
  | .ok result => telling.change = (if result.wasLiked then some change else none) ∧
      telling.found = false ∧
      if result.wasLiked then
        ∃ timestamp, telling.told = some (change.event result.count timestamp)
      else telling.told = none

/-- How a call for a change ends. -/
def Final (change : Change) (telling : Telling) : LikeCall ⊕ LikeReply → Prop
  | .inr (.addLike result) => change.kind = .like ∧ telling.Added change result
  | .inr (.removeLike result) => change.kind = .unlike ∧ telling.Removed change result
  | _ => False

/-- A call for a change has done nothing, or made and told its change, or told it without
having made it because the row was there. -/
theorem Final.cases {change : Change} {telling : Telling} {outcome : LikeCall ⊕ LikeReply}
    (final : Final change telling outcome) :
    (telling.change = none ∧ telling.told = none ∧
        (change.kind = .like → telling.refused = true)) ∨
      (telling.change = some change ∧
        ∃ count timestamp, telling.told = some (change.event count timestamp)) ∨
      (change.kind = .like ∧ telling.found = true ∧ telling.change = none ∧
        telling.told ≠ none) := by
  rcases outcome with _ | reply
  · exact final.elim
  cases reply with
  | addLike result =>
      obtain ⟨isLike, added⟩ := final
      cases result with
      | error e => exact .inl ⟨added.1, added.2.1, fun _ => added.2.2⟩
      | ok result =>
          obtain ⟨changed, found, _, timestamp, told⟩ := added
          cases existed : result.alreadyExisted with
          | false =>
              rw [existed] at changed
              exact .inr (.inl ⟨changed, _, timestamp, told⟩)
          | true =>
              rw [existed] at changed found
              exact .inr (.inr ⟨isLike, found, changed, by simp [told]⟩)
  | removeLike result =>
      obtain ⟨isUnlike, removed⟩ := final
      have notLike : change.kind ≠ .like := by simp [isUnlike]
      cases result with
      | error e => exact .inl ⟨removed.1, removed.2.1, fun is => absurd is notLike⟩
      | ok result =>
          obtain ⟨changed, _, told⟩ := removed
          cases was : result.wasLiked with
          | false =>
              rw [was] at changed told
              exact .inl ⟨changed, told, fun is => absurd is notLike⟩
          | true =>
              rw [was] at changed told
              obtain ⟨timestamp, told⟩ := told
              exact .inr (.inl ⟨changed, _, timestamp, told⟩)
  | _ => exact final.elim

end Telling

section Tells

open Telling

theorem getLikeCountWithFallback_tells (change : Change) (contentType : ContentType)
    (contentId : ContentId) (telling : Telling) :
    Tells change (fun reached result => reached = telling ∧ ∃ count, result = .ok count)
      (getLikeCountWithFallback contentType contentId) telling := by
  simp only [getLikeCountWithFallback, getCacheLikeCount_bind, Tells, Program.obeys_perform]
  refine ⟨trivial, fun first _ => ?_⟩
  cases cachedCount first with
  | ok count => exact ⟨rfl, count, rfl⟩
  | error miss =>
  simp only [Program.request_bind, Program.obeys_perform]
  refine ⟨trivial, fun lock _ => ⟨trivial, fun _ _ => ⟨trivial, fun second _ => ?_⟩⟩⟩
  cases cachedCount second with
  | ok count => exact ⟨trivial, fun _ _ => ⟨trivial, fun _ _ => ⟨rfl, count, rfl⟩⟩⟩
  | error miss =>
  refine ⟨trivial, fun counted answered => ?_⟩
  obtain ⟨count, rfl⟩ := answered
  refine ⟨trivial, fun _ _ => ⟨trivial, fun _ _ => ⟨trivial, fun _ _ => ?_⟩⟩⟩
  exact ⟨rfl, count, rfl⟩

theorem sendSseEvent_tells (change : Change) (count : Nat) {telling : Telling}
    (untold : telling.told = none) :
    Tells change
      (fun reached _ => ∃ timestamp,
        reached = { telling with told := some (change.event count timestamp) })
      (sendSseEvent change.key.2.2 change.key.2.1 change.key.1 count change.kind) telling := by
  refine ⟨trivial, fun timestamp _ => ⟨⟨untold, count, timestamp, rfl⟩, fun _ _ => ?_⟩⟩
  exact ⟨timestamp, rfl⟩

theorem likeAdded_tells {likeCmd : AddLikeCommand} {count : Nat} {createdAt : DateTime}
    {alreadyExists : Bool} {telling : Telling} (untold : telling.told = none)
    (change : telling.change = if alreadyExists then none else some likeCmd.change)
    (found : telling.found = alreadyExists) (accepted : telling.refused = false) :
    Tells likeCmd.change (Added likeCmd.change)
      (likeAdded likeCmd count createdAt alreadyExists) telling := by
  apply (sendSseEvent_tells likeCmd.change count untold).bind
  rintro _ _ ⟨timestamp, rfl⟩
  exact ⟨change, found, accepted, timestamp, rfl⟩

theorem addExistingLike_tells (likeCmd : AddLikeCommand) :
    Tells likeCmd.change (Added likeCmd.change) (addExistingLike likeCmd)
      { start with found := true } := by
  apply (getLikeCountWithFallback_tells _ _ _ _).bind
  rintro _ _ ⟨rfl, count, rfl⟩
  refine ⟨⟨rfl, rfl, rfl⟩, fun existed _ => ?_⟩
  cases existed with
  | error e => exact ⟨rfl, rfl, rfl⟩
  | ok existedLike => exact likeAdded_tells rfl rfl rfl rfl

theorem addNewLike_tells (likeCmd : AddLikeCommand) (createdAt : DateTime) :
    Tells likeCmd.change (Added likeCmd.change) (addNewLike likeCmd createdAt)
      { start with change := some likeCmd.change } := by
  refine ⟨trivial, fun counted _ => ?_⟩
  cases counted with
  | ok newCount => exact likeAdded_tells rfl rfl rfl rfl
  | error e =>
  refine ⟨trivial, fun recounted answered => ?_⟩
  obtain ⟨count, rfl⟩ := answered
  exact likeAdded_tells rfl rfl rfl rfl

theorem addLike_tells (likeCmd : AddLikeCommand) :
    Tells likeCmd.change (Added likeCmd.change) (addLike likeCmd) start := by
  simp only [addLike, Tells, Program.request_bind, Program.obeys_perform]
  refine ⟨trivial, fun validated _ => ?_⟩
  cases validated with
  | error e => exact ⟨rfl, rfl, rfl⟩
  | ok verdict =>
  refine ⟨trivial, fun createdAt _ => ⟨⟨rfl, rfl⟩, fun saved _ => ?_⟩⟩
  rcases saved with e | (_ | _)
  · exact ⟨rfl, rfl, rfl⟩
  · exact addNewLike_tells likeCmd createdAt
  · exact addExistingLike_tells likeCmd

section Removing

variable {userId : UserId} {contentType : ContentType} {contentId : ContentId}

theorem likeRemoved_tells (currCount : Nat) :
    Tells ⟨.unlike, userId, contentType, contentId⟩
      (Removed ⟨.unlike, userId, contentType, contentId⟩)
      (likeRemoved userId contentType contentId currCount)
      { start with change := some ⟨.unlike, userId, contentType, contentId⟩ } := by
  apply (sendSseEvent_tells ⟨.unlike, userId, contentType, contentId⟩ currCount rfl).bind
  rintro _ _ ⟨timestamp, rfl⟩
  exact ⟨rfl, rfl, timestamp, rfl⟩

theorem removeCountedLike_tells :
    Tells ⟨.unlike, userId, contentType, contentId⟩
      (Removed ⟨.unlike, userId, contentType, contentId⟩)
      (removeCountedLike userId contentType contentId)
      { start with change := some ⟨.unlike, userId, contentType, contentId⟩ } := by
  refine ⟨trivial, fun counted _ => ?_⟩
  cases counted with
  | ok newCount => exact likeRemoved_tells newCount
  | error e =>
  refine ⟨trivial, fun recounted answered => ?_⟩
  obtain ⟨count, rfl⟩ := answered
  exact likeRemoved_tells count

theorem removeLike_tells :
    Tells ⟨.unlike, userId, contentType, contentId⟩
      (Removed ⟨.unlike, userId, contentType, contentId⟩)
      (removeLike userId contentType contentId) start := by
  simp only [removeLike, Tells, Program.request_bind, Program.obeys_perform]
  refine ⟨trivial, fun validated _ => ?_⟩
  cases validated with
  | error e => exact ⟨rfl, rfl, rfl⟩
  | ok verdict =>
  refine ⟨⟨rfl, rfl⟩, fun removed _ => ?_⟩
  cases removed with
  | error e => exact ⟨rfl, rfl, rfl⟩
  | ok wasLiked =>
  apply (getLikeCountWithFallback_tells _ _ _ _).bind
  rintro _ _ ⟨rfl, currCount, rfl⟩
  cases wasLiked with
  | false => exact ⟨rfl, rfl, rfl⟩
  | true =>
      dsimp only
      rw [if_pos rfl]
      split
      · exact removeCountedLike_tells
      · exact likeRemoved_tells currCount

end Removing

/-- A call for a change makes it or not, and tells it as its reply says. -/
theorem change_tells (setting : Setting) {call : LikeCall} {change : Change}
    (wants : call.change = some change) :
    Tells change (Final change) (call.body setting) start := by
  cases call with
  | addLike likeCmd =>
      obtain rfl := Option.some.inj wants
      apply (addLike_tells likeCmd).bind
      intro telling result added
      exact ⟨rfl, added⟩
  | removeLike userId contentType contentId =>
      obtain rfl := Option.some.inj wants
      apply removeLike_tells.bind
      intro telling result removed
      exact ⟨rfl, removed⟩
  | _ => cases wants

end Tells

/-! ### One request and the table -/

/-- The changes that a request makes. -/
def changesOf (moments : List LikeMoment) : List Change :=
  moments.filterMap fun moment => changedBy moment.op moment.answer

/-- The events that a request hands to `publish_like_event`. -/
def eventsOf (moments : List LikeMoment) : List SseLikeEvent :=
  moments.filterMap fun moment => toldBy moment.op

theorem changesOf_concat (moments : List LikeMoment) (moment : LikeMoment) :
    changesOf (moments ++ [moment]) =
      changesOf moments ++ (changedBy moment.op moment.answer).toList := by
  rw [changesOf, List.filterMap_append]
  cases changed : changedBy moment.op moment.answer <;> simp [changesOf, changed]

theorem eventsOf_concat (moments : List LikeMoment) (moment : LikeMoment) :
    eventsOf (moments ++ [moment]) = eventsOf moments ++ (toldBy moment.op).toList := by
  rw [eventsOf, List.filterMap_append]
  cases told : toldBy moment.op <;> simp [eventsOf, told]

/-- What a request has done agrees with its steps and with the table. -/
structure ToldTrue (change : Change) (likes : LikesTable) (telling : Telling)
    (moments : List LikeMoment) (world : World) : Prop where
  changes : changesOf moments = telling.change.toList
  events : eventsOf moments = telling.told.toList
  unchanged : telling.change = none → world.likes = likes
  found : telling.found = true → (likes.find change.key).isSome
  accepted : change.kind = .like → (likes.find change.key).isSome → telling.refused = false
  absent : change.kind = .like → telling.change ≠ none → likes.find change.key = none

section ToldTrue

variable {setting : Setting} {change : Change} {likes : LikesTable} {telling : Telling}
  {moments : List LikeMoment} {moment : LikeMoment} {after : World}

/-- An insert that finds its row there answers so. -/
theorem World.handle_save_present {env : Surroundings} {world : World} {like : Like}
    {answer : Except DomainError Bool} {spawned : List LikeCall} (healthy : env.fault = none)
    (present : (world.likes.find like.key).isSome)
    (handled : World.handle setting env (.dbSave like) world =
      some (answer, after, spawned)) : answer = .ok true := by
  have saved : PostgresLikeRepository.save env.fault env.newId like (world.advance env).likes =
      (.ok true, world.likes) := by
    rw [healthy]
    exact PostgresLikeRepository.save_of_mem (LikesTable.find_isSome_iff.mp present)
  simp only [World.handle, World.serve, Option.some.injEq, Prod.mk.injEq] at handled
  rw [← handled.1, saved]

theorem toldTrue_start (change : Change) (world : World) :
    ToldTrue change world.likes .start [] world where
  changes := rfl
  events := rfl
  unchanged := fun _ => rfl
  found := nofun
  accepted := fun _ _ => rfl
  absent := fun _ changed => absurd rfl changed

/-- A step that neither writes nor tells. -/
theorem ToldTrue.keep (told : ToldTrue change likes telling moments moment.state)
    (unchanged : changedBy moment.op moment.answer = none) (untold : toldBy moment.op = none)
    (same : after.likes = moment.state.likes) :
    ToldTrue change likes telling (moments ++ [moment]) after where
  changes := by rw [changesOf_concat, unchanged, told.changes, Option.toList_none, List.append_nil]
  events := by rw [eventsOf_concat, untold, told.events, Option.toList_none, List.append_nil]
  unchanged := fun none => same.trans (told.unchanged none)
  found := told.found
  accepted := told.accepted
  absent := told.absent

/-- The step law: while nothing fails, what a request has done stays in agreement. -/
theorem toldTrue_step {spawned : List LikeCall} (healthy : moment.env.fault = none)
    (valid : ∃ id, moment.env.verdict = .ok id) (permitted : telling.Permitted change moment.op)
    (handled : World.handle setting moment.env moment.op moment.state =
      some (moment.answer, after, spawned))
    (told : ToldTrue change likes telling moments moment.state) :
    telling.Possible moment.op moment.answer ∧
      ToldTrue change likes (telling.advance moment.op moment.answer) (moments ++ [moment])
        after := by
  have table := (World.handle_after handled).2.1
  obtain ⟨env, op, answer, world⟩ := moment
  replace handled : World.handle setting env op world = some (answer, after, spawned) := handled
  replace healthy : env.fault = none := healthy
  cases op with
  | dbSave like =>
      obtain ⟨rfl, rfl⟩ := permitted
      refine ⟨trivial, ?_⟩
      have before := told.unchanged rfl
      obtain ⟨_, ⟨e, rfl, same, _⟩ | ⟨rfl, present, same⟩ |
        ⟨rfl, absent, newKey, freshId, inserted⟩⟩ := World.handle_save handled
      · obtain ⟨changes, events, unchanged, found, _, absent⟩ := told.keep rfl rfl same
        refine ⟨changes, events, unchanged, found, fun _ present => ?_, absent⟩
        -- an insert that finds the row there answers so
        rw [← before] at present
        cases World.handle_save_present healthy present handled
      · obtain ⟨changes, events, unchanged, _, accepted, absent⟩ := told.keep rfl rfl same
        exact ⟨changes, events, unchanged, fun _ => before ▸ present, accepted, absent⟩
      · constructor
        · rw [changesOf_concat, told.changes]
          rfl
        · rw [eventsOf_concat, told.events]
          rfl
        · exact nofun
        · exact told.found
        · exact told.accepted
        · exact fun _ _ => before ▸ absent
  | dbRemove userId contentType contentId =>
      obtain ⟨rfl, rfl⟩ := permitted
      refine ⟨trivial, ?_⟩
      obtain ⟨_, ⟨e, _, failed, _⟩ | ⟨answered, erased⟩⟩ := World.handle_remove handled
      · exact absurd healthy failed
      cases found : (world.likes.find (userId, contentType, contentId)).isSome with
      | false =>
          obtain rfl := answered.trans (congrArg _ found)
          apply told.keep rfl rfl
          rw [erased]
          exact LikesTable.erase_eq_iff.mpr found
      | true =>
          obtain rfl := answered.trans (congrArg _ found)
          constructor
          · rw [changesOf_concat, told.changes]
            rfl
          · rw [eventsOf_concat, told.events]
            rfl
          · exact nofun
          · exact told.found
          · exact nofun
          · exact nofun
  | dbGetLike userId contentType contentId =>
      obtain ⟨key, found, unchanged⟩ := permitted
      have present := told.found found
      rw [← told.unchanged unchanged, ← key] at present
      obtain ⟨row, there⟩ := Option.isSome_iff_exists.mp present
      replace there : world.likes.find (userId, contentType, contentId) = some row := there
      obtain rfl : answer = .ok row := by
        simp only [World.handle, World.serve, World.advance, healthy,
          PostgresLikeRepository.getLike, there, Option.some.injEq, Prod.mk.injEq] at handled
        exact handled.1.symm
      exact ⟨trivial, told.keep rfl rfl table⟩
  | validateContent contentType contentId =>
      obtain ⟨id, verdict⟩ := valid
      obtain rfl : answer = .ok id := by
        simp only [World.handle, World.serve, Option.some.injEq, Prod.mk.injEq] at handled
        exact handled.1.symm.trans verdict
      exact ⟨trivial, told.keep rfl rfl table⟩
  | spawn task =>
      obtain ⟨untold, count, timestamp, rfl⟩ := permitted
      refine ⟨trivial, ?_, ?_, ?_, told.found, told.accepted, told.absent⟩
      · rw [changesOf_concat, told.changes]
        exact List.append_nil _
      · rw [eventsOf_concat, told.events, untold]
        rfl
      · exact fun none => table.trans (told.unchanged none)
  | dbGetLikesCount contentType contentId =>
      exact ⟨⟨_, World.handle_getLikesCount healthy handled⟩, told.keep rfl rfl table⟩
  | _ => exact ⟨trivial, told.keep rfl rfl table⟩

end ToldTrue

/-! ### Requests one after another -/

/-- A call of a sequence, the world it finds and the steps it takes. -/
structure Served where
  call : LikeCall
  before : World
  moments : List LikeMoment

namespace Served

/-- The steps that a call takes alone. -/
def alone (setting : Setting) (call : LikeCall) (environment : Nat → Surroundings)
    (world : World) : Served where
  call := call
  before := world
  moments := (call.body setting).moments (World.handle setting) environment world

/-- An `add_like` of a like that is there. -/
def Duplicate (served : Served) : Prop :=
  ∃ likeCmd, served.call = .addLike likeCmd ∧
    (served.before.likes.find likeCmd.change.key).isSome

def changes (served : Served) : List Change := changesOf served.moments

def events (served : Served) : List SseLikeEvent := eventsOf served.moments

end Served

/-- The calls of a sequence, each with what its surroundings contribute, one after another;
`none` when one of them never comes back. -/
def serveCalls (setting : Setting) :
    List (LikeCall × (Nat → Surroundings)) → World → Option (List Served)
  | [], _ => some []
  | (call, environment) :: requests, world =>
      match (call.body setting).run (World.handle setting) environment world with
      | none => none
      | some (_, after, _) =>
          (serveCalls setting requests after).map (.alone setting call environment world :: ·)

/-- The events of a sequence are those of its changes, one for each, and a call that changes
nothing has none. -/
structure OneEventPerChange (served : List Served) : Prop where
  correspond : ((served.flatMap Served.events).map SseLikeEvent.change).Perm
    ((served.flatMap Served.changes).map some)
  silent : ∀ one ∈ served, one.changes = [] → one.events = []

section Sequences

variable {setting : Setting}

/-- What one call of a sequence does: a duplicate like tells an event of no change, and any
other call tells what it changes. -/
theorem served_tells {call : LikeCall} {change : Change} {environment : Nat → Surroundings}
    {world after : World} {outcome : LikeCall ⊕ LikeReply} {spawned : List LikeCall}
    (wants : call.change = some change) (healthy : ∀ n, (environment n).fault = none)
    (valid : ∀ n, ∃ id, (environment n).verdict = .ok id)
    (ran : (call.body setting).run (World.handle setting) environment world =
      some (outcome, after, spawned)) {served : Served}
    (is : served = .alone setting call environment world) :
    (served.Duplicate ∧ served.changes = [] ∧ served.events ≠ []) ∨
      (¬ served.Duplicate ∧
        served.events.map SseLikeEvent.change = served.changes.map some) := by
  obtain ⟨telling, final, told⟩ := (change_tells setting wants).run_keeps
    (ToldTrue change world.likes)
    (by
      intro telling before moment after spawned member permitted handled told
      obtain ⟨n, same⟩ := Program.moments_env member
      exact toldTrue_step (same ▸ healthy n) (same ▸ valid n) permitted handled told)
    ran (toldTrue_start change world)
  subst is
  have changes : (Served.alone setting call environment world).changes =
      telling.change.toList := told.changes
  have events : (Served.alone setting call environment world).events =
      telling.told.toList := told.events
  rw [changes, events]
  have duplicate : (Served.alone setting call environment world).Duplicate ↔
      change.kind = .like ∧ (world.likes.find change.key).isSome := by
    constructor
    · rintro ⟨likeCmd, rfl, present⟩
      obtain rfl := Option.some.inj wants
      exact ⟨rfl, present⟩
    · rintro ⟨isLike, present⟩
      cases call with
      | addLike likeCmd =>
          obtain rfl := Option.some.inj wants
          exact ⟨likeCmd, rfl, present⟩
      | removeLike userId contentType contentId =>
          obtain rfl := Option.some.inj wants
          cases isLike
      | _ => cases wants
  rw [duplicate]
  rcases final.cases with ⟨unchanged, untold, refused⟩ | ⟨changed, count, timestamp, tells⟩ |
    ⟨isLike, found, unchanged, tells⟩
  · refine .inr ⟨?_, by rw [unchanged, untold]; rfl⟩
    rintro ⟨isLike, present⟩
    have accepted := told.accepted isLike present
    rw [refused isLike] at accepted
    cases accepted
  · refine .inr ⟨?_, by rw [changed, tells]; rfl⟩
    rintro ⟨isLike, present⟩
    rw [told.absent isLike (by simp [changed])] at present
    cases present
  · refine .inl ⟨⟨isLike, told.found found⟩, by rw [unchanged]; rfl, ?_⟩
    obtain ⟨event, tells⟩ := Option.ne_none_iff_exists'.mp tells
    simp [tells]

/-- The run law: every call of the sequence comes back, and has done what one call does. -/
theorem serveCalls_tells (requests : List (LikeCall × (Nat → Surroundings)))
    (world : World) (free : ∀ lock, world.held lock = false)
    (likes : ∀ request ∈ requests, request.1.change ≠ none)
    (healthy : ∀ request ∈ requests, ∀ n, (request.2 n).fault = none)
    (valid : ∀ request ∈ requests, ∀ n, ∃ id, (request.2 n).verdict = .ok id) :
    ∃ served, serveCalls setting requests world = some served ∧
      served.map Served.call = requests.map Prod.fst ∧
      ∀ one ∈ served, (one.Duplicate ∧ one.changes = [] ∧ one.events ≠ []) ∨
        (¬ one.Duplicate ∧ one.events.map SseLikeEvent.change = one.changes.map some) := by
  induction requests generalizing world with
  | nil => exact ⟨[], rfl, rfl, nofun⟩
  | cons request requests inductionHypothesis =>
      obtain ⟨call, environment⟩ := request
      obtain ⟨outcome, after, spawned, ran, freed⟩ :=
        body_returns setting call environment free
      obtain ⟨served, rest, calls, tell⟩ := inductionHypothesis after freed
        (fun other member => likes other (List.mem_cons_of_mem _ member))
        (fun other member => healthy other (List.mem_cons_of_mem _ member))
        (fun other member => valid other (List.mem_cons_of_mem _ member))
      obtain ⟨change, wants⟩ :=
        Option.ne_none_iff_exists'.mp (likes _ List.mem_cons_self)
      have first := served_tells wants (healthy _ List.mem_cons_self)
        (valid _ List.mem_cons_self) ran rfl
      refine ⟨.alone setting call environment world :: served, ?_, ?_, ?_⟩
      · rw [serveCalls, ran]
        dsimp only
        rw [rest, Option.map_some]
      · rw [List.map_cons, calls, List.map_cons]
        rfl
      · intro one member
        rcases List.mem_cons.mp member with rfl | later
        · exact first
        · exact tell one later

/-- With all services up, every call of a sequence of likes and unlikes comes back, and there
is one event for each change exactly when no `add_like` finds its like there. -/
theorem one_event_per_change_iff (requests : List (LikeCall × (Nat → Surroundings)))
    (world : World) (free : ∀ lock, world.held lock = false)
    (likes : ∀ request ∈ requests, request.1.change ≠ none)
    (healthy : ∀ request ∈ requests, ∀ n, (request.2 n).fault = none)
    (valid : ∀ request ∈ requests, ∀ n, ∃ id, (request.2 n).verdict = .ok id) :
    ∃ served, serveCalls setting requests world = some served ∧
      served.map Served.call = requests.map Prod.fst ∧
      (OneEventPerChange served ↔ ∀ one ∈ served, ¬ one.Duplicate) := by
  obtain ⟨served, done, calls, tell⟩ :=
    serveCalls_tells requests world free likes healthy valid
  refine ⟨served, done, calls, ?_, ?_⟩
  · intro correspondence one member duplicate
    rcases tell one member with ⟨_, unchanged, told⟩ | ⟨fresh, _⟩
    · exact told (correspondence.silent one member unchanged)
    · exact fresh duplicate
  · intro fresh
    have same : ∀ one ∈ served,
        one.events.map SseLikeEvent.change = one.changes.map some := by
      intro one member
      rcases tell one member with ⟨duplicate, _⟩ | ⟨_, same⟩
      · exact absurd duplicate (fresh one member)
      · exact same
    constructor
    · rw [List.map_flatMap, List.map_flatMap, List.flatMap_congr same]
    · intro one member unchanged
      have nothing := same one member
      rw [unchanged] at nothing
      exact List.map_eq_nil_iff.mp nothing

end Sequences

/-- A like, an unlike, and an unlike of something not liked. -/
def likeThenUnlikes : List (LikeCall × (Nat → Surroundings)) :=
  [(.addLike ⟨⟨3⟩, ⟨9⟩, ⟨"post"⟩⟩, calmWithId), (.removeLike ⟨3⟩ ⟨"post"⟩ ⟨9⟩, calmWithId),
    (.removeLike ⟨3⟩ ⟨"post"⟩ ⟨9⟩, calmWithId)]

theorem one_event_per_change_in_turn :
    ∃ served, serveCalls .reference likeThenUnlikes twoLikes = some served ∧
      served.map Served.call = likeThenUnlikes.map Prod.fst ∧
      (OneEventPerChange served ↔ ∀ one ∈ served, ¬ one.Duplicate) := by
  apply one_event_per_change_iff
  · intro lock
    rfl
  · simp [likeThenUnlikes, LikeCall.change]
  · simp [likeThenUnlikes, calmWithId, Surroundings.calm]
  · simp [likeThenUnlikes, calmWithId, Surroundings.calm]

/-- A user likes what the user has liked: the row is there, and a Like event is handed on. -/
theorem duplicate_like_tells :
    ∃ served,
      serveCalls .reference [(.addLike ⟨⟨1⟩, ⟨9⟩, ⟨"post"⟩⟩, calmWithId)] twoLikes =
        some served ∧
      ¬ OneEventPerChange served := by
  have tells : (serveCalls .reference [(.addLike ⟨⟨1⟩, ⟨9⟩, ⟨"post"⟩⟩, calmWithId)]
      twoLikes).any (fun served => served.any fun one =>
        one.changes.isEmpty && !one.events.isEmpty) = true := by
    decide +kernel
  obtain ⟨served, done, told⟩ := (Option.any_eq_true _ _).mp tells
  obtain ⟨one, member, both⟩ := List.any_eq_true.mp told
  obtain ⟨unchanged, event⟩ := Bool.and_eq_true_iff.mp both
  refine ⟨served, done, ?_⟩
  intro correspondence
  rw [correspondence.silent one member (List.isEmpty_iff.mp unchanged)] at event
  cases event

end SocialApi
