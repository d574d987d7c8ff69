/-
Module: SocialApi.Proofs.FailedRequests
Purpose: What add_like and remove_like leave behind when they fail.
Trusted boundary: none
Main exports:
  Footing, addLike_stands, removeLike_stands, ChangesNothing, CountsFailUnchanged,
  changes_nothing_iff, failed_requests_change_nothing_iff
-/
import SocialApi.Proofs.CountCoherence

namespace SocialApi

open Process
open LikeService

/-! ### A protocol of writes and failures -/

/-- What a request has done so far: what its write reported, whether it changed the table,
and whether a `COUNT(*)` has failed since. -/
structure Footing where
  reported : Option Bool
  wrote : Bool
  stranded : Bool

namespace Footing

def start : Footing := ⟨none, false, false⟩

def advance (footing : Footing) : (op : LikeOp) → op.Res → Footing
  | .dbSave _, .ok existed => { footing with reported := some existed, wrote := !existed }
  | .dbRemove _ _ _, .ok removed => { footing with reported := some removed, wrote := removed }
  | .dbGetLikesCount _ _, .error _ =>
      { footing with stranded := footing.stranded || footing.wrote }
  | _, _ => footing

/-- A request writes the row of its user and content, and once at most. -/
def Permitted (key : UserId × ContentType × ContentId) (footing : Footing) : LikeOp → Prop
  | .dbSave like => like.key = key ∧ footing.wrote = false
  | .dbRemove userId contentType contentId =>
      (userId, contentType, contentId) = key ∧ footing.wrote = false
  | _ => True

/-- A request that succeeds reports what its write did, and one that fails after it has
changed the table fails by a `COUNT(*)`. -/
def Final {α : Type} (reports : α → Bool) (footing : Footing) :
    Except DomainError α → Prop
  | .ok value => footing.reported = some (reports value)
  | .error _ => footing.wrote = true → footing.stranded = true

/-- The program keeps to the protocol, and ends as stated. -/
abbrev Stands {α : Type} (key : UserId × ContentType × ContentId)
    (final : Footing → α → Prop) (program : Service α) (footing : Footing) : Prop :=
  program.Obeys advance (Permitted key) (fun _ _ _ => True) final footing

end Footing

section Stands

open Footing

variable {key : UserId × ContentType × ContentId}

/-- The end of a program that writes no row: the write is as before, and a failure is the
failure of a `COUNT(*)`. -/
def EndsFrom {α : Type} (footing : Footing) (reached : Footing) :
    Except DomainError α → Prop
  | .ok _ => reached.reported = footing.reported ∧ reached.wrote = footing.wrote
  | .error _ => reached.reported = footing.reported ∧ reached.wrote = footing.wrote ∧
      (footing.wrote = true → reached.stranded = true)

theorem getLikeCountWithFallback_stands (contentType : ContentType) (contentId : ContentId)
    (footing : Footing) :
    Stands key (EndsFrom footing) (getLikeCountWithFallback contentType contentId)
      footing := by
  simp only [getLikeCountWithFallback, getCacheLikeCount_bind, Stands, Program.obeys_perform]
  refine ⟨trivial, fun first _ => ?_⟩
  cases cachedCount first with
  | ok count => exact ⟨rfl, rfl⟩
  | error miss =>
  simp only [Program.request_bind, Program.obeys_perform]
  refine ⟨trivial, fun lock _ => ⟨trivial, fun _ _ => ⟨trivial, fun second _ => ?_⟩⟩⟩
  cases cachedCount second with
  | ok count => exact ⟨trivial, fun _ _ => ⟨trivial, fun _ _ => ⟨rfl, rfl⟩⟩⟩
  | error miss =>
  refine ⟨trivial, fun counted _ => ?_⟩
  cases counted with
  | error e =>
      refine ⟨trivial, fun _ _ => ⟨rfl, rfl, ?_⟩⟩
      intro wrote
      simp [advance, wrote]
  | ok count =>
      exact ⟨trivial, fun _ _ => ⟨trivial, fun _ _ => ⟨trivial, fun _ _ => ⟨rfl, rfl⟩⟩⟩⟩

theorem sendSseEvent_stands (contentId : ContentId) (contentType : ContentType)
    (userId : UserId) (count : Nat) (eType : SseEventType) (footing : Footing) :
    Stands key (fun reached _ => reached = footing)
      (sendSseEvent contentId contentType userId count eType) footing :=
  ⟨trivial, fun _ _ => ⟨trivial, fun _ _ => rfl⟩⟩

theorem likeAdded_stands {likeCmd : AddLikeCommand} {count : Nat} {createdAt : DateTime}
    {alreadyExists : Bool} {footing : Footing}
    (reported : footing.reported = some alreadyExists) :
    Stands key (Final AddLikeCommandResult.alreadyExisted)
      (likeAdded likeCmd count createdAt alreadyExists) footing := by
  apply (sendSseEvent_stands _ _ _ _ _ _).bind
  rintro _ _ rfl
  exact reported

theorem addExistingLike_stands {likeCmd : AddLikeCommand} {footing : Footing}
    (reported : footing.reported = some true) (unwritten : footing.wrote = false) :
    Stands key (Final AddLikeCommandResult.alreadyExisted) (addExistingLike likeCmd)
      footing := by
  apply (getLikeCountWithFallback_stands _ _ _).bind
  intro reached result ends
  cases result with
  | error e =>
      obtain ⟨_, same, _⟩ := ends
      intro wrote
      rw [same, unwritten] at wrote
      cases wrote
  | ok count =>
      obtain ⟨report, same⟩ := ends
      refine ⟨trivial, fun existed _ => ?_⟩
      cases existed with
      | error e =>
          intro wrote
          have still : reached.wrote = true := wrote
          rw [same, unwritten] at still
          cases still
      | ok like => exact likeAdded_stands (report.trans reported)

theorem addNewLike_stands {likeCmd : AddLikeCommand} {createdAt : DateTime}
    {footing : Footing} (reported : footing.reported = some false)
    (wrote : footing.wrote = true) :
    Stands key (Final AddLikeCommandResult.alreadyExisted) (addNewLike likeCmd createdAt)
      footing := by
  refine ⟨trivial, fun incremented _ => ?_⟩
  cases incremented with
  | ok newCount => exact likeAdded_stands reported
  | error failure =>
      refine ⟨trivial, fun counted _ => ?_⟩
      cases counted with
      | error e =>
          intro _
          simp [advance, wrote]
      | ok count => exact likeAdded_stands reported

/-- `add_like` writes one row, and fails after the insert of it only by a `COUNT(*)`. -/
theorem addLike_stands (likeCmd : AddLikeCommand) :
    Stands (likeCmd.userId, likeCmd.contentType, likeCmd.contentId)
      (Final AddLikeCommandResult.alreadyExisted) (addLike likeCmd) .start := by
  refine ⟨trivial, fun verdict _ => ?_⟩
  cases verdict with
  | error e =>
      intro wrote
      cases wrote
  | ok content =>
      refine ⟨trivial, fun createdAt _ => ⟨⟨rfl, rfl⟩, fun saved _ => ?_⟩⟩
      cases saved with
      | error e =>
          intro wrote
          cases wrote
      | ok existed =>
          cases existed with
          | true => exact addExistingLike_stands rfl rfl
          | false => exact addNewLike_stands rfl rfl

theorem likeRemoved_stands {userId : UserId} {contentType : ContentType}
    {contentId : ContentId} {currCount : Nat} {footing : Footing}
    (reported : footing.reported = some true) :
    Stands key (Final UnlikeResponse.wasLiked)
      (likeRemoved userId contentType contentId currCount) footing := by
  apply (sendSseEvent_stands _ _ _ _ _ _).bind
  rintro _ _ rfl
  exact reported

theorem removeCountedLike_stands {userId : UserId} {contentType : ContentType}
    {contentId : ContentId} {footing : Footing} (reported : footing.reported = some true)
    (wrote : footing.wrote = true) :
    Stands key (Final UnlikeResponse.wasLiked)
      (removeCountedLike userId contentType contentId) footing := by
  refine ⟨trivial, fun decremented _ => ?_⟩
  cases decremented with
  | ok newCount => exact likeRemoved_stands reported
  | error failure =>
      refine ⟨trivial, fun counted _ => ?_⟩
      cases counted with
      | error e =>
          intro _
          simp [advance, wrote]
      | ok count => exact likeRemoved_stands reported

/-- `remove_like` deletes one row, and fails after the delete of it only by a `COUNT(*)`. -/
theorem removeLike_stands (userId : UserId) (contentType : ContentType)
    (contentId : ContentId) :
    Stands (userId, contentType, contentId) (Final UnlikeResponse.wasLiked)
      (removeLike userId contentType contentId) .start := by
  refine ⟨trivial, fun verdict _ => ?_⟩
  cases verdict with
  | error e =>
      intro wrote
      cases wrote
  | ok content =>
      refine ⟨⟨rfl, rfl⟩, fun removed _ => ?_⟩
      cases removed with
      | error e =>
          intro wrote
          cases wrote
      | ok wasLiked =>
          apply (getLikeCountWithFallback_stands _ _ _).bind
          intro reached result ends
          cases result with
          | error e =>
              obtain ⟨_, same, strands⟩ := ends
              intro wrote
              exact strands (same ▸ wrote)
          | ok currCount =>
              obtain ⟨report, same⟩ := ends
              cases wasLiked with
              | false => exact report
              | true =>
                  simp only [if_true]
                  split
                  · exact removeCountedLike_stands report same
                  · exact likeRemoved_stands report

end Stands

/-! ### What a request has done to the table -/

/-- One operation of a request. -/
abbrev LikeMoment := Program.Moment LikeOp LikeOp.Res World Surroundings

/-- A `COUNT(*)` that fails. -/
def FailedCount (moment : LikeMoment) : Prop :=
  (∃ contentType contentId, moment.op = .dbGetLikesCount contentType contentId) ∧
    moment.env.fault ≠ none

/-- The footing of a request tells what has become of the table. -/
structure Footed (key : UserId × ContentType × ContentId) (likes : LikesTable)
    (footing : Footing) (moments : List LikeMoment) (world : World) : Prop where
  unwritten : footing.wrote = false →
    world.likes = likes ∧ ∀ moment ∈ moments, moment.state.likes = likes
  written : footing.wrote = true → world.likes ≠ likes
  stranded : footing.stranded = true →
    ∃ moment ∈ moments, FailedCount moment ∧ moment.state.likes ≠ likes
  reported : ∀ report, footing.reported = some report → report = (likes.find key).isSome

section Footed

variable {key : UserId × ContentType × ContentId} {likes : LikesTable} {footing : Footing}
  {moments : List LikeMoment} {setting : Setting}

theorem footed_start (world : World) : Footed key world.likes .start [] world where
  unwritten := by simp
  written := by simp [Footing.start]
  stranded := by simp [Footing.start]
  reported := by simp [Footing.start]

variable {moment : LikeMoment} {after : World}

/-- A step that leaves the table as it is. -/
theorem Footed.keep (footed : Footed key likes footing moments moment.state)
    (same : after.likes = moment.state.likes) :
    Footed key likes footing (moments ++ [moment]) after where
  unwritten := by
    intro unwritten
    obtain ⟨table, earlier⟩ := footed.unwritten unwritten
    refine ⟨same.trans table, ?_⟩
    intro other member
    rcases List.mem_append.mp member with old | new
    · exact earlier other old
    · obtain rfl := List.mem_singleton.mp new
      exact table
  written := by
    intro wrote
    rw [same]
    exact footed.written wrote
  stranded := by
    intro stranded
    obtain ⟨other, member, failed⟩ := footed.stranded stranded
    exact ⟨other, List.mem_append_left _ member, failed⟩
  reported := footed.reported

/-- A write that has been answered. -/
theorem Footed.write {report : Bool} (footed : Footed key likes footing moments moment.state)
    {wrote : Bool} (unwritten : footing.wrote = false)
    (found : report = (moment.state.likes.find key).isSome)
    (same : wrote = false → after.likes = moment.state.likes)
    (changed : wrote = true → after.likes ≠ moment.state.likes) :
    Footed key likes { footing with reported := some report, wrote := wrote }
      (moments ++ [moment]) after := by
  obtain ⟨table, _⟩ := footed.unwritten unwritten
  constructor
  · intro unchanged
    exact (footed.keep (same unchanged)).unwritten unwritten
  · intro written
    rw [← table]
    exact changed written
  · intro stranded
    obtain ⟨other, member, failed⟩ := footed.stranded stranded
    exact ⟨other, List.mem_append_left _ member, failed⟩
  · intro told is
    obtain rfl := Option.some.inj is
    rw [found, table]

/-- The step law: every operation that the protocol permits keeps the footing true. -/
theorem footed_step {spawned : List LikeCall} (permitted : footing.Permitted key moment.op)
    (handled : World.handle setting moment.env moment.op moment.state =
      some (moment.answer, after, spawned))
    (footed : Footed key likes footing moments moment.state) :
    Footed key likes (footing.advance moment.op moment.answer) (moments ++ [moment])
      after := by
  have table := (World.handle_after handled).2.1
  obtain ⟨env, op, answer, world⟩ := moment
  replace handled : World.handle setting env op world = some (answer, after, spawned) := handled
  cases op with
  | dbSave like =>
      obtain ⟨rfl, unwritten⟩ := permitted
      obtain ⟨_, ⟨e, rfl, same, _⟩ | ⟨rfl, present, same⟩ |
        ⟨rfl, absent, newKey, freshId, inserted⟩⟩ := World.handle_save handled
      · exact footed.keep same
      · apply footed.write unwritten present.symm
        · intro _
          exact same
        · intro wrote
          cases wrote
      · apply footed.write unwritten
        · simp [absent]
        · intro wrote
          cases wrote
        · intro _
          rw [inserted]
          exact LikesTable.insert_ne newKey freshId
  | dbRemove userId contentType contentId =>
      obtain ⟨rfl, unwritten⟩ := permitted
      obtain ⟨_, ⟨e, rfl, _, same⟩ | ⟨rfl, erased⟩⟩ := World.handle_remove handled
      · exact footed.keep same
      · apply footed.write unwritten rfl
        · intro absent
          rw [erased]
          exact LikesTable.erase_eq_iff.mpr absent
        · intro present
          rw [erased]
          intro same
          rw [LikesTable.erase_eq_iff.mp same] at present
          cases present
  | dbGetLikesCount contentType contentId =>
      have kept : Footed key likes footing
          (moments ++ [⟨env, .dbGetLikesCount contentType contentId, answer, world⟩]) after :=
        footed.keep table
      cases answer with
      | ok count => exact kept
      | error e =>
          have failed : env.fault ≠ none := by
            intro healthy
            cases World.handle_getLikesCount healthy handled
          refine ⟨kept.unwritten, kept.written, ?_, kept.reported⟩
          intro stranded
          rcases (Bool.or_eq_true _ _).mp stranded with earlier | wrote
          · exact kept.stranded earlier
          · refine ⟨_, List.mem_append_right _ (List.mem_singleton_self _),
              ⟨⟨contentType, contentId, rfl⟩, failed⟩, ?_⟩
            exact footed.written wrote
  | _ => exact footed.keep table

end Footed

/-! ### Failed requests -/

section Failures

variable {α : Type} (setting : Setting) (program : Service (Except DomainError α))
  (reports : α → Bool)

/-- Every `COUNT(*)` of the request that fails finds the table as the request found it. -/
def CountsFailUnchanged (environment : Nat → Surroundings) (world : World) : Prop :=
  ∀ moment ∈ program.moments (World.handle setting) environment world,
    FailedCount moment → moment.state.likes = world.likes

/-- The table is as it was, and the request reports again what it would have reported. -/
structure ChangesNothing (world after : World) : Prop where
  table : after.likes = world.likes
  alike : ∀ environment again (first second : α) last later spawned started,
    program.run (World.handle setting) environment world = some (.ok first, last, spawned) →
    program.run (World.handle setting) again after = some (.ok second, later, started) →
      reports second = reports first

variable {setting program reports} {key : UserId × ContentType × ContentId}
  {environment : Nat → Surroundings} {world after : World} {spawned : List LikeCall}

/-- A request that runs alone ends with a true footing. -/
theorem footed_run {result : Except DomainError α}
    (stands : Footing.Stands key (Footing.Final reports) program .start)
    (ran : program.run (World.handle setting) environment world =
      some (result, after, spawned)) :
    ∃ footing, Footing.Final reports footing result ∧
      Footed key world.likes footing
        (program.moments (World.handle setting) environment world) after :=
  stands.run_keeps (Footed key world.likes)
    (fun _ _ _ _ _ _ permitted handled footed =>
      ⟨trivial, footed_step permitted handled footed⟩) ran (footed_start world)

/-- A request that succeeds reports whether the row was there. -/
theorem reports_found {value : α}
    (stands : Footing.Stands key (Footing.Final reports) program .start)
    (ran : program.run (World.handle setting) environment world =
      some (.ok value, after, spawned)) :
    reports value = (world.likes.find key).isSome := by
  obtain ⟨footing, told, footed⟩ := footed_run stands ran
  exact footed.reported _ told

/-- A failed request changes nothing as long as no `COUNT(*)` fails after its write. -/
theorem changes_nothing_iff {e : DomainError}
    (stands : Footing.Stands key (Footing.Final reports) program .start)
    (failed : program.run (World.handle setting) environment world =
      some (.error e, after, spawned)) :
    ChangesNothing setting program reports world after ↔
      CountsFailUnchanged setting program environment world := by
  obtain ⟨footing, strands, footed⟩ := footed_run stands failed
  constructor
  · intro nothing moment member _
    have unwritten : footing.wrote = false := by
      rw [← Bool.not_eq_true]
      intro wrote
      exact footed.written wrote nothing.table
    exact (footed.unwritten unwritten).2 moment member
  · intro unchanged
    have unwritten : footing.wrote = false := by
      rw [← Bool.not_eq_true]
      intro wrote
      obtain ⟨moment, member, count, changed⟩ := footed.stranded (strands wrote)
      exact changed (unchanged moment member count)
    have table := (footed.unwritten unwritten).1
    refine ⟨table, ?_⟩
    intro _ _ first second _ _ _ _ ranFirst ranAgain
    rw [reports_found stands ranFirst, reports_found stands ranAgain, table]

end Failures

/-- A like or unlike that fails changes nothing, as long as no `COUNT(*)` of it fails once
its insert or delete has changed the table. -/
theorem failed_requests_change_nothing_iff {setting : Setting}
    {environment : Nat → Surroundings} {world after : World} {e : DomainError}
    {spawned : List LikeCall} :
    (∀ likeCmd, (addLike likeCmd).run (World.handle setting) environment world =
        some (.error e, after, spawned) →
      (ChangesNothing setting (addLike likeCmd) AddLikeCommandResult.alreadyExisted world
          after ↔
        CountsFailUnchanged setting (addLike likeCmd) environment world)) ∧
    ∀ userId contentType contentId,
      (removeLike userId contentType contentId).run (World.handle setting) environment
        world = some (.error e, after, spawned) →
      (ChangesNothing setting (removeLike userId contentType contentId)
          UnlikeResponse.wasLiked world after ↔
        CountsFailUnchanged setting (removeLike userId contentType contentId) environment
          world) := by
  constructor
  · intro likeCmd failed
    exact changes_nothing_iff (addLike_stands likeCmd) failed
  · intro userId contentType contentId failed
    exact changes_nothing_iff (removeLike_stands userId contentType contentId) failed

/-- The stores are lost after some steps. -/
def lostAfter (steps : Nat) : Nat → Surroundings := fun n =>
  { Surroundings.calm with
    newId := 3
    fault := if n < steps then none else some .noConnection }

/-- The stores are lost behind a like that was there already, and behind an unlike of a row
that was not there. -/
theorem failed_requests_change_nothing_duplicate :
    (∃ e after spawned, (addLike ⟨⟨2⟩, ⟨9⟩, ⟨"post"⟩⟩).run (World.handle .reference)
        (lostAfter 3) twoLikes = some (.error e, after, spawned) ∧
      ChangesNothing .reference (addLike ⟨⟨2⟩, ⟨9⟩, ⟨"post"⟩⟩)
        AddLikeCommandResult.alreadyExisted twoLikes after) ∧
    ∃ e after spawned, (removeLike ⟨3⟩ ⟨"post"⟩ ⟨9⟩).run (World.handle .reference)
        (lostAfter 2) twoLikes = some (.error e, after, spawned) ∧
      ChangesNothing .reference (removeLike ⟨3⟩ ⟨"post"⟩ ⟨9⟩) UnlikeResponse.wasLiked
        twoLikes after := by
  constructor
  · obtain ⟨⟨result, after, spawned⟩, ran, passed⟩ := (Option.any_eq_true
      (fun reached => reached.1.toBool = false ∧
        ∀ moment ∈ (addLike ⟨⟨2⟩, ⟨9⟩, ⟨"post"⟩⟩).moments (World.handle .reference)
          (lostAfter 3) twoLikes, moment.state.likes = twoLikes.likes)
      ((addLike ⟨⟨2⟩, ⟨9⟩, ⟨"post"⟩⟩).run (World.handle .reference) (lostAfter 3)
        twoLikes)).mp (by decide +kernel)
    obtain ⟨failed, unchanged⟩ := of_decide_eq_true passed
    cases result with
    | ok result => cases failed
    | error e =>
        refine ⟨e, after, spawned, ran, ?_⟩
        apply (failed_requests_change_nothing_iff.1 _ ran).mpr
        intro moment member _
        exact unchanged moment member
  · obtain ⟨⟨result, after, spawned⟩, ran, passed⟩ := (Option.any_eq_true
      (fun reached => reached.1.toBool = false ∧
        ∀ moment ∈ (removeLike ⟨3⟩ ⟨"post"⟩ ⟨9⟩).moments (World.handle .reference)
          (lostAfter 2) twoLikes, moment.state.likes = twoLikes.likes)
      ((removeLike ⟨3⟩ ⟨"post"⟩ ⟨9⟩).run (World.handle .reference) (lostAfter 2)
        twoLikes)).mp (by decide +kernel)
    obtain ⟨failed, unchanged⟩ := of_decide_eq_true passed
    cases result with
    | ok result => cases failed
    | error e =>
        refine ⟨e, after, spawned, ran, ?_⟩
        apply (failed_requests_change_nothing_iff.2 _ _ _ ran).mpr
        intro moment member _
        exact unchanged moment member

/-- The stores are lost behind the insert of a new like, and behind the delete of an old
one: both requests fail, and the row stays inserted or deleted. -/
theorem failed_requests_change_likes :
    (∃ e after spawned, (addLike ⟨⟨3⟩, ⟨9⟩, ⟨"post"⟩⟩).run (World.handle .reference)
        (lostAfter 3) twoLikes = some (.error e, after, spawned) ∧
      after.likes.countOf ⟨"post"⟩ ⟨9⟩ = 3 ∧
      ¬ ChangesNothing .reference (addLike ⟨⟨3⟩, ⟨9⟩, ⟨"post"⟩⟩)
        AddLikeCommandResult.alreadyExisted twoLikes after) ∧
    ∃ e after spawned, (removeLike ⟨2⟩ ⟨"post"⟩ ⟨9⟩).run (World.handle .reference)
        (lostAfter 2) twoLikes = some (.error e, after, spawned) ∧
      after.likes.countOf ⟨"post"⟩ ⟨9⟩ = 1 ∧
      ¬ ChangesNothing .reference (removeLike ⟨2⟩ ⟨"post"⟩ ⟨9⟩) UnlikeResponse.wasLiked
        twoLikes after := by
  constructor
  · obtain ⟨⟨result, after, spawned⟩, ran, passed⟩ := (Option.any_eq_true
      (fun reached => reached.1.toBool = false ∧
        reached.2.1.likes.countOf ⟨"post"⟩ ⟨9⟩ = 3)
      ((addLike ⟨⟨3⟩, ⟨9⟩, ⟨"post"⟩⟩).run (World.handle .reference) (lostAfter 3)
        twoLikes)).mp (by decide +kernel)
    obtain ⟨failed, three⟩ := of_decide_eq_true passed
    cases result with
    | ok result => cases failed
    | error e =>
        refine ⟨e, after, spawned, ran, three, ?_⟩
        intro nothing
        rw [nothing.table] at three
        exact absurd three (by decide)
  · obtain ⟨⟨result, after, spawned⟩, ran, passed⟩ := (Option.any_eq_true
      (fun reached => reached.1.toBool = false ∧
        reached.2.1.likes.countOf ⟨"post"⟩ ⟨9⟩ = 1)
      ((removeLike ⟨2⟩ ⟨"post"⟩ ⟨9⟩).run (World.handle .reference) (lostAfter 2)
        twoLikes)).mp (by decide +kernel)
    obtain ⟨failed, one⟩ := of_decide_eq_true passed
    cases result with
    | ok result => cases failed
    | error e =>
        refine ⟨e, after, spawned, ran, one, ?_⟩
        intro nothing
        rw [nothing.table] at one
        exact absurd one (by decide)

end SocialApi
