/-
Module: SocialApi.Proofs.LikeHistories
Purpose: Likes, unlikes and status reads are linearizable: in every run they answer as a
  book of likes that is asked one request after another.
Trusted boundary: none
Main exports:
  likeWatch, AnswersBook, body_asks, watched_linearizes, likes_linearizable, replies_balance
-/
import SocialApi.Domain.LikeBook
import SocialApi.Proofs.LikeStatus
import SocialApi.Proofs.OverlappingCalls
import SocialApi.Proofs.OwnWrites

namespace SocialApi

open Process
open LikeService
open PostgresLikeRepository (getLike getLikesByPairs)

/-! ### Where the book is asked -/

/-- The step at which a call asks the book. -/
def LikeCall.asksAt : LikeCall → LikeOp → Bool
  | .addLike _, .dbSave _ => true
  | .removeLike _ _ _, .dbRemove _ _ _ => true
  | .getLikeStatus _ _ _, .dbGetLike _ _ _ => true
  | .getBatchStatus _ _, .dbGetLikesByPairs _ _ => true
  | _, _ => false

/-- What the step asks the book, and what the database answered. -/
def LikeOp.asked : (op : LikeOp) → op.Res → Option (BookRequest × BookAnswer)
  | .dbSave like, .ok existed =>
      some (.like like.key (DateTime.toTimestamptz like.createdAt), .existed existed)
  | .dbRemove userId contentType contentId, .ok wasLiked =>
      some (.unlike (userId, contentType, contentId), .taken wasLiked)
  | .dbGetLike userId contentType contentId, answer =>
      some (.status (userId, contentType, contentId),
        .since (answer.toOption.map Like.createdAt))
  | .dbGetLikesByPairs userId items, .ok rows =>
      some (.statuses userId items, .sinceEach (items.map fun item => (statusIn rows item).likedAt))
  | _, _ => none

/-- The rows as a book. -/
def LikesTable.book (table : LikesTable) : LikeBook :=
  fun key => (table.find key).map Like.createdAt

@[reducible] def likeWatch (setting : Setting) : Watch (likeService setting) where
  object := likeBook
  view world := world.likes.book
  point event :=
    if event.call.asksAt event.op ∧ event.env.fault = none then event.op.asked event.res else none

def AddLikeCommand.key (likeCmd : AddLikeCommand) : LikeKey :=
  (likeCmd.userId, likeCmd.contentType, likeCmd.contentId)

/-- The status of an item that is liked since an instant, or not liked. -/
def ContentStatus.since (item : ContentItem) (instant : Option DateTime) : ContentStatus where
  contentType := item.contentType
  contentId := item.contentId
  liked := instant.isSome
  likedAt := instant

/-- What a call has asked the book, by its reply.  A like or an unlike that fails may have
asked before. -/
def AnswersBook : LikeCall → LikeReply → Option (BookRequest × BookAnswer) → Prop
  | .addLike likeCmd, .addLike (.ok result), asked =>
      ∃ instant, asked = some (.like likeCmd.key instant, .existed result.alreadyExisted) ∧
        (result.alreadyExisted = false → instant = DateTime.toTimestamptz result.likedAt)
  | .addLike likeCmd, .addLike (.error _), asked =>
      ∀ one ∈ asked, ∃ instant existed, one = (.like likeCmd.key instant, .existed existed)
  | .removeLike userId contentType contentId, .removeLike (.ok result), asked =>
      asked = some (.unlike (userId, contentType, contentId), .taken result.wasLiked)
  | .removeLike userId contentType contentId, .removeLike (.error _), asked =>
      ∀ one ∈ asked, ∃ wasLiked,
        one = (.unlike (userId, contentType, contentId), .taken wasLiked)
  | .getLikeStatus userId contentType contentId, .getLikeStatus result, asked =>
      ∃ instant, result = .ok { liked := instant.isSome, likedAt := instant } ∧
        asked = some (.status (userId, contentType, contentId), .since instant)
  | .getBatchStatus userId items, .getBatchStatus (.ok statuses), asked =>
      ∃ instants, statuses = List.zipWith ContentStatus.since items instants ∧
        asked = some (.statuses userId items, .sinceEach instants)
  | _, _, asked => asked = none

/-! ### A protocol of requests -/

/-- What a call was made with, and what it has asked. -/
structure Asking where
  call : LikeCall
  asked : Option (BookRequest × BookAnswer)

namespace Asking

def start (call : LikeCall) : Asking := ⟨call, none⟩

def advance (asking : Asking) (op : LikeOp) (answer : op.Res) : Asking :=
  if asking.asked = none ∧ asking.call.asksAt op then { asking with asked := op.asked answer }
  else asking

/-- A call asks once, and changes rows only where it asks. -/
def Permitted (asking : Asking) (op : LikeOp) : Prop :=
  (asking.call.asksAt op → asking.asked = none) ∧
    (op.attempts ≠ none → asking.call.asksAt op)

/-- A call ends with a reply that says what it has asked. -/
def Final (asking : Asking) (outcome : LikeCall ⊕ LikeReply) : Prop :=
  ∃ reply, outcome = .inr reply ∧ AnswersBook asking.call reply asking.asked

/-- The program keeps to the protocol, and ends as stated. -/
abbrev Asks {α : Type} (final : Asking → α → Prop) (program : Service α) (asking : Asking) :
    Prop :=
  program.Obeys advance Permitted (fun _ _ _ => True) final asking

/-- A step that neither asks nor changes rows. -/
def Aside (call : LikeCall) (op : LikeOp) : Prop := LeavesRows op ∧ call.asksAt op = false

variable {asking : Asking} {op : LikeOp}

theorem Aside.permitted (aside : Aside asking.call op) : asking.Permitted op :=
  ⟨fun asks => absurd asks (by simp [aside.2]), fun attempts => absurd aside.1 attempts⟩

theorem Aside.advance (aside : Aside asking.call op) (answer : op.Res) :
    asking.advance op answer = asking := by
  simp [Asking.advance, aside.2]

theorem aside_asks {α : Type} {program : Service α}
    (performs : program.Performs (Aside asking.call)) :
    Asks (fun reached _ => reached = asking) program asking :=
  performs.obeys fun _ aside => ⟨aside.permitted, aside.advance⟩

/-- Where the calls that ask by reading are left out, what writes no row is aside. -/
theorem aside_of_leaves {call : LikeCall} (leaves : LeavesRows op)
    (notStatus : ∀ userId contentType contentId,
      call ≠ .getLikeStatus userId contentType contentId)
    (notBatch : ∀ userId items, call ≠ .getBatchStatus userId items) : Aside call op := by
  refine ⟨leaves, ?_⟩
  cases call with
  | addLike likeCmd => cases op <;> first | rfl | cases leaves
  | removeLike userId contentType contentId => cases op <;> first | rfl | cases leaves
  | getLikeStatus userId contentType contentId => exact absurd rfl (notStatus _ _ _)
  | getBatchStatus userId items => exact absurd rfl (notBatch _ _)
  | _ => cases op <;> rfl

/-- A call that has asked keeps it. -/
theorem advance_asked {one : BookRequest × BookAnswer} (known : asking.asked = some one)
    (answer : op.Res) : asking.advance op answer = asking := by
  simp [advance, known]

theorem call_advance (answer : op.Res) : (asking.advance op answer).call = asking.call := by
  unfold advance
  split <;> rfl

theorem call_controlAfter {setting : Setting} (i : Nat) (call : LikeCall)
    (trace : List (Event (likeService setting))) :
    (controlAfter advance i (start call) trace).call = call :=
  controlAfter_preserves (fun reached : Asking => reached.call = call)
    (fun _ _ _ same => (call_advance _).trans same) rfl

end Asking

section Programs

open Asking

/-- The program has asked, and what is left of it answers by that. -/
theorem aside_bind {α β : Type} {program : Service α} {next : α → Service β} {asking : Asking}
    {final : Asking → β → Prop} (performs : program.Performs (Aside asking.call))
    (rest : ∀ value, Asks final (next value) asking) : Asks final (program >>= next) asking := by
  apply (aside_asks performs).bind
  rintro reached value rfl
  exact rest value

theorem addLike_asks (likeCmd : AddLikeCommand) :
    Asks (fun reached result => AnswersBook (.addLike likeCmd) (.addLike result) reached.asked)
      (addLike likeCmd) (start (.addLike likeCmd)) := by
  have aside : ∀ {α : Type} {program : Service α} (one : Option (BookRequest × BookAnswer)),
      program.Performs LeavesRows →
        program.Performs (Aside (Asking.mk (.addLike likeCmd) one).call) :=
    fun _ performs => performs.mono fun _ leaves =>
      aside_of_leaves leaves (by simp) (by simp)
  simp only [addLike, Program.request_bind, Asks, Program.obeys_perform]
  refine ⟨⟨by simp [LikeCall.asksAt], by simp [LikeOp.attempts]⟩, fun validated _ => ?_⟩
  cases validated with
  | error e => simp [AnswersBook, Asking.advance, start, LikeCall.asksAt]
  | ok id =>
  refine ⟨⟨by simp [LikeCall.asksAt], by simp [LikeOp.attempts]⟩, fun createdAt _ => ?_⟩
  refine ⟨⟨by simp [start, Asking.advance, LikeCall.asksAt],
    by simp [start, Asking.advance, LikeCall.asksAt]⟩, fun saved _ => ?_⟩
  cases saved with
  | error e => simp [AnswersBook, Asking.advance, start, LikeCall.asksAt, LikeOp.asked]
  | ok existed =>
  have known : Asking.advance (Asking.advance (Asking.advance (start (.addLike likeCmd))
        (.validateContent likeCmd.contentType likeCmd.contentId) (.ok id)) .utcNow createdAt)
      (.dbSave ⟨0, likeCmd.userId, likeCmd.contentType, likeCmd.contentId, createdAt⟩)
      (.ok existed) = ⟨.addLike likeCmd,
        some (.like likeCmd.key (DateTime.toTimestamptz createdAt), .existed existed)⟩ := by
    simp [Asking.advance, start, LikeCall.asksAt, LikeOp.asked, Like.key, AddLikeCommand.key]
  rw [known]
  cases existed with
  | true =>
      apply aside_bind (aside _ (getLikeCountWithFallback_leavesRows _ _))
      intro counted
      cases counted with
      | error e => exact fun one is => ⟨_, _, (Option.some.inj is).symm⟩
      | ok count =>
          refine ⟨(aside_of_leaves (by rfl) (by simp) (by simp)).permitted, fun found _ => ?_⟩
          rw [Asking.advance_asked rfl]
          cases found with
          | error e => exact fun one is => ⟨_, _, (Option.some.inj is).symm⟩
          | ok existedLike =>
              apply aside_bind (aside _ ((sendSseEvent_quiet _ _ _ _ _).mono
                fun _ quiet => quiet.leavesRows))
              intro _
              exact ⟨_, rfl, fun fresh => by cases fresh⟩
  | false =>
      have added : ∀ count, Asks (fun reached result =>
          AnswersBook (.addLike likeCmd) (.addLike result) reached.asked)
          (likeAdded likeCmd count createdAt false) ⟨.addLike likeCmd,
            some (.like likeCmd.key (DateTime.toTimestamptz createdAt), .existed false)⟩ := by
        intro count
        apply aside_bind (aside _ ((sendSseEvent_quiet _ _ _ _ _).mono
          fun _ quiet => quiet.leavesRows))
        intro _
        exact ⟨_, rfl, fun _ => rfl⟩
      refine ⟨(aside_of_leaves (by rfl) (by simp) (by simp)).permitted, fun counted _ => ?_⟩
      rw [Asking.advance_asked rfl]
      cases counted with
      | ok count => exact added count
      | error e =>
          refine ⟨(aside_of_leaves (by rfl) (by simp) (by simp)).permitted, fun recounted _ => ?_⟩
          rw [Asking.advance_asked rfl]
          cases recounted with
          | error e => exact fun one is => ⟨_, _, (Option.some.inj is).symm⟩
          | ok count => exact added count

theorem removeLike_asks (userId : UserId) (contentType : ContentType) (contentId : ContentId) :
    Asks (fun reached result => AnswersBook (.removeLike userId contentType contentId)
        (.removeLike result) reached.asked)
      (removeLike userId contentType contentId)
      (start (.removeLike userId contentType contentId)) := by
  have aside : ∀ {α : Type} {program : Service α} (one : Option (BookRequest × BookAnswer)),
      program.Performs LeavesRows → program.Performs
        (Aside (Asking.mk (.removeLike userId contentType contentId) one).call) :=
    fun _ performs => performs.mono fun _ leaves =>
      aside_of_leaves leaves (by simp) (by simp)
  simp only [removeLike, Program.request_bind, Asks, Program.obeys_perform]
  refine ⟨⟨by simp [LikeCall.asksAt], by simp [LikeOp.attempts]⟩, fun validated _ => ?_⟩
  cases validated with
  | error e => simp [AnswersBook, Asking.advance, start, LikeCall.asksAt]
  | ok id =>
  refine ⟨⟨by simp [start, Asking.advance, LikeCall.asksAt],
    by simp [start, Asking.advance, LikeCall.asksAt]⟩, fun deleted _ => ?_⟩
  cases deleted with
  | error e => simp [AnswersBook, Asking.advance, start, LikeCall.asksAt, LikeOp.asked]
  | ok wasLiked =>
  have known : Asking.advance (Asking.advance (start (.removeLike userId contentType contentId))
        (.validateContent contentType contentId) (.ok id))
      (.dbRemove userId contentType contentId) (.ok wasLiked) =
        ⟨.removeLike userId contentType contentId,
          some (.unlike (userId, contentType, contentId), .taken wasLiked)⟩ := by
    simp [Asking.advance, start, LikeCall.asksAt, LikeOp.asked]
  rw [known]
  have removed : ∀ count, wasLiked = true → Asks (fun reached result =>
      AnswersBook (.removeLike userId contentType contentId) (.removeLike result) reached.asked)
      (likeRemoved userId contentType contentId count)
      ⟨.removeLike userId contentType contentId,
        some (.unlike (userId, contentType, contentId), .taken wasLiked)⟩ := by
    rintro count rfl
    apply aside_bind (aside _ ((sendSseEvent_quiet _ _ _ _ _).mono
      fun _ quiet => quiet.leavesRows))
    intro _
    exact rfl
  apply aside_bind (aside _ (getLikeCountWithFallback_leavesRows _ _))
  intro counted
  cases counted with
  | error e => exact fun one is => ⟨_, (Option.some.inj is).symm⟩
  | ok currCount =>
  dsimp only
  cases wasLiked with
  | false => exact rfl
  | true =>
  rw [if_pos rfl]
  split
  · refine ⟨(aside_of_leaves (by rfl) (by simp) (by simp)).permitted, fun decremented _ => ?_⟩
    rw [Asking.advance_asked rfl]
    cases decremented with
    | ok newCount => exact removed newCount rfl
    | error e =>
        refine ⟨(aside_of_leaves (by rfl) (by simp) (by simp)).permitted, fun recounted _ => ?_⟩
        rw [Asking.advance_asked rfl]
        cases recounted with
        | error e => exact fun one is => ⟨_, (Option.some.inj is).symm⟩
        | ok count => exact removed count rfl
  · exact removed currCount rfl

theorem getLikeStatus_asks (userId : UserId) (contentType : ContentType)
    (contentId : ContentId) :
    Asks (fun reached result => AnswersBook (.getLikeStatus userId contentType contentId)
        (.getLikeStatus result) reached.asked)
      (getLikeStatus userId contentType contentId)
      (start (.getLikeStatus userId contentType contentId)) := by
  refine ⟨⟨fun _ => rfl, by simp [LikeOp.attempts]⟩, fun found _ => ?_⟩
  cases found with
  | error e => exact ⟨none, rfl, by simp [Asking.advance, start, LikeCall.asksAt, LikeOp.asked,
      Except.toOption]⟩
  | ok existingLike => exact ⟨some existingLike.createdAt, rfl, by simp [Asking.advance, start,
      LikeCall.asksAt, LikeOp.asked, Except.toOption]⟩

theorem getBatchStatus_asks (userId : UserId) (items : List ContentItem) :
    Asks (fun reached result => AnswersBook (.getBatchStatus userId items)
        (.getBatchStatus result) reached.asked)
      (getBatchStatus userId items) (start (.getBatchStatus userId items)) := by
  unfold getBatchStatus
  split
  · rfl
  · refine ⟨⟨fun _ => rfl, by simp [LikeOp.attempts]⟩, fun found _ => ?_⟩
    cases found with
    | error e => simp [AnswersBook, Asking.advance, start, LikeCall.asksAt, LikeOp.asked]
    | ok rows =>
        refine ⟨items.map fun item => (statusIn rows item).likedAt, ?_, by
          simp [Asking.advance, start, LikeCall.asksAt, LikeOp.asked]⟩
        rw [List.zipWith_map_right, List.zipWith_self]
        rfl

/-- Every call asks as its reply says. -/
theorem body_asks (setting : Setting) (call : LikeCall) :
    Asks Final (call.body setting) (start call) := by
  have wrapped : ∀ {α : Type} {program : Service α} (wrap : α → LikeReply),
      Asks (fun reached result => AnswersBook call (wrap result) reached.asked) program
        (start call) →
      Asks Final (program >>= fun value => pure (.inr (wrap value))) (start call) := by
    intro α program wrap asks
    apply (asks.keeping (fun reached => reached.call = call)
      (fun _ _ _ same => (Asking.call_advance _).trans same) rfl).bind
    rintro reached value ⟨same, answers⟩
    exact ⟨wrap value, rfl, same ▸ answers⟩
  have apart : ∀ {α : Type} {program : Service α} (wrap : α → LikeReply),
      program.Performs (Aside call) → (∀ value, AnswersBook call (wrap value) none) →
      Asks Final (program >>= fun value => pure (.inr (wrap value))) (start call) := by
    intro α program wrap performs answers
    apply aside_bind performs
    intro value
    exact ⟨wrap value, rfl, answers value⟩
  cases call with
  | addLike likeCmd => exact wrapped _ (addLike_asks likeCmd)
  | removeLike userId contentType contentId =>
      exact wrapped _ (removeLike_asks userId contentType contentId)
  | getLikeStatus userId contentType contentId =>
      exact wrapped _ (getLikeStatus_asks userId contentType contentId)
  | getBatchStatus userId items => exact wrapped _ (getBatchStatus_asks userId items)
  | getLikeCount contentType contentId =>
      refine apart _ (Program.Performs.bind ?_ fun counted => ?_) fun _ => rfl
      · exact (getLikeCountWithFallback_leavesRows _ _).mono fun _ leaves =>
          aside_of_leaves leaves (by simp) (by simp)
      · cases counted <;> trivial
  | getLikesCountBatch items =>
      exact apart _ ((getLikesCountBatch_leavesRows items).mono fun _ leaves =>
        aside_of_leaves leaves (by simp) (by simp)) fun _ => rfl
  | getUserLikedItems userId contentType cursorStr limit =>
      exact apart _ ((getUserLikedItems_quiet setting userId contentType cursorStr limit).mono
        fun _ quiet => aside_of_leaves quiet.leavesRows (by simp) (by simp)) fun _ => rfl
  | getTopLikes contentType windowStr limit =>
      exact apart _ ((getTopLikes_quiet contentType windowStr limit).mono
        fun _ quiet => aside_of_leaves quiet.leavesRows (by simp) (by simp)) fun _ => rfl
  | publishLikeEvent event =>
      exact @apart _ (await (.cachePublishLikeEvent event)) _
        ⟨⟨rfl, rfl⟩, fun _ => trivial⟩ fun _ => rfl
  | rehydrate dbCounts lockedKeys rehydrationSet =>
      exact apart _ ⟨⟨rfl, rfl⟩, fun _ => trivial⟩ fun _ => rfl
  | refreshLeaderboard window contentType since limit =>
      exact apart (fun _ => .refreshLeaderboard)
        ((refreshLeaderboard_quiet window contentType since limit).mono
          fun _ quiet => aside_of_leaves quiet.leavesRows (by simp) (by simp)) fun _ => rfl

end Programs

/-! ### The rows as a book -/

namespace LikesTable

variable {table : LikesTable}

theorem find_insert_other {like : Like} {newId : Uuid}
    (newKey : like.key ∉ table.rows.map Like.key)
    (freshId : newId ∉ table.rows.map Like.id) {key : LikeKey} (other : key ≠ like.key) :
    (table.insert like newId newKey freshId).find key = table.find key := by
  have apart : (like.stored newId).key ≠ key := Ne.symm other
  simp [find, insert, apart]

theorem book_insert {like : Like} {newId : Uuid} (newKey : like.key ∉ table.rows.map Like.key)
    (freshId : newId ∉ table.rows.map Like.id) :
    (table.insert like newId newKey freshId).book =
      Function.update table.book like.key (some (DateTime.toTimestamptz like.createdAt)) := by
  funext key
  by_cases same : key = like.key
  · subst same
    rw [book, find_insert newKey freshId, Function.update_self]
    rfl
  · rw [book, find_insert_other newKey freshId same, Function.update_of_ne same]
    rfl

theorem book_erase (key : LikeKey) :
    (table.erase key).book = Function.update table.book key none := by
  funext other
  by_cases same : other = key
  · subst same
    have gone : (table.erase other).find other = none := by
      rw [← Option.not_isSome_iff_eq_none, find_isSome_iff, mem_keys_erase]
      exact fun there => there.2 rfl
    rw [book, gone, Function.update_self]
    rfl
  · rw [Function.update_of_ne same, book, book]
    congr 1
    rw [find, find, erase, List.find?_filter]
    congr 1
    funext like
    by_cases own : like.key = other
    · simp [own, same]
    · simp [own]

/-- A status that is true is the one in the book. -/
theorem likedAt_of_true {userId : UserId} {item : ContentItem} {status : ContentStatus}
    (true_ : TrueStatus table userId item status) :
    status.likedAt = table.book (userId, item.contentType, item.contentId) := by
  cases found : table.find (userId, item.contentType, item.contentId) with
  | some row =>
      have own : row.key = (userId, item.contentType, item.contentId) := by
        simpa using List.find?_some found
      rw [(true_.liked row (List.mem_of_find?_eq_some found) own).2, book, found]
      rfl
  | none =>
      have absent : ∀ row ∈ table.rows,
          row.key ≠ (userId, item.contentType, item.contentId) := by
        intro row member own
        have there := find_isSome_iff.mpr (List.mem_map.mpr ⟨row, member, own⟩)
        rw [found] at there
        cases there
      rw [(true_.notLiked absent).2, book, found]
      rfl

end LikesTable

/-! ### Every step is faithful -/

section Faithful

variable {setting : Setting} {event : Event (likeService setting)} {next : World}
  {spawned : List LikeCall}

/-- Where nothing is attempted, the rows stay. -/
theorem book_kept (leaves : LeavesRows event.op)
    (handled : World.handle setting event.env event.op event.before =
      some (event.res, next, spawned)) : next.likes.book = event.before.likes.book := by
  obtain ⟨thread, call, env, op, res, before⟩ := event
  rw [(World.handle_after handled).2.1]
  cases op <;> first | rfl | cases leaves

/-- The book answers an insert, a delete and the reads as Postgres does. -/
theorem likeWatch_faithful (own : event.op.attempts ≠ none → event.call.asksAt event.op)
    (handled : World.handle setting event.env event.op event.before =
      some (event.res, next, spawned)) : (likeWatch setting).Faithful event next := by
  unfold Watch.Faithful
  have kept : LeavesRows event.op → next.likes.book = event.before.likes.book :=
    fun leaves => book_kept leaves handled
  by_cases asks : event.call.asksAt event.op
  · by_cases healthy : event.env.fault = none
    · simp only [asks, healthy, and_self, if_true]
      obtain ⟨thread, call, env, op, res, before⟩ := event
      dsimp only at *
      unfold LikeCall.asksAt at asks
      split at asks
      case h_1 likeCmd like =>
        obtain ⟨_, ⟨e, rfl, same, _⟩ | ⟨rfl, there, same⟩ |
          ⟨rfl, absent, newKey, freshId, same⟩⟩ := World.handle_save handled
        · simp [LikeOp.asked, same]
        · obtain ⟨row, found⟩ := Option.isSome_iff_exists.mp there
          simp [LikeOp.asked, LikeBook.serve, same, LikesTable.book, found]
        · simp only [LikeOp.asked, LikeBook.serve]
          rw [same, LikesTable.book_insert newKey freshId]
          simp [LikesTable.book, absent]
      case h_2 _ _ _ userId contentType contentId =>
        obtain ⟨_, ⟨e, rfl, _, same⟩ | ⟨rfl, same⟩⟩ := World.handle_remove handled
        · simp [LikeOp.asked, same]
        · simp only [LikeOp.asked, LikeBook.serve]
          rw [same, LikesTable.book_erase]
          simp [LikesTable.book]
      case h_3 _ _ _ userId contentType contentId =>
        simp only [LikeOp.asked, LikeBook.serve]
        rw [kept rfl]
        obtain ⟨answered, _⟩ := Prod.mk.inj (Option.some.inj handled)
        rw [← answered, healthy, LikesTable.book]
        simp only [getLike, World.advance]
        cases before.likes.find (userId, contentType, contentId) <;> rfl
      case h_4 _ _ userId items =>
        obtain ⟨answered, _⟩ := Prod.mk.inj (Option.some.inj handled)
        rw [healthy] at answered
        cases res with
        | error e => cases answered
        | ok rows =>
            simp only [LikeOp.asked, LikeBook.serve]
            rw [kept rfl]
            congr 2
            apply List.map_congr_left
            intro item requested
            exact (LikesTable.likedAt_of_true (statusIn_true answered requested)).symm
      case h_5 => cases asks
    · -- a step that fails leaves the rows, whatever it attempts
      simp only [healthy, and_false, if_false]
      obtain ⟨thread, call, env, op, res, before⟩ := event
      dsimp only at *
      obtain ⟨fault, failed⟩ := Option.ne_none_iff_exists'.mp healthy
      rw [(World.handle_after handled).2.1]
      cases op with
      | dbSave like => simp [World.likesAfter, PostgresLikeRepository.save, failed]
      | dbRemove userId contentType contentId =>
          simp [World.likesAfter, PostgresLikeRepository.remove, failed]
      | _ => rfl
  · simp only [asks, Bool.false_eq_true, false_and, if_false]
    exact kept (not_not.mp fun attempts => asks (own attempts))

/-- A step that fails asks nothing, but for the query of one like, whose error may also say
that there is none. -/
theorem asked_failed (failed : event.env.fault ≠ none)
    (handled : World.handle setting event.env event.op event.before =
      some (event.res, next, spawned)) :
    event.op.asked event.res = none ∨
      ∃ userId contentType contentId, event.op = .dbGetLike userId contentType contentId := by
  obtain ⟨thread, call, env, op, res, before⟩ := event
  dsimp only at *
  obtain ⟨fault, failed⟩ := Option.ne_none_iff_exists'.mp failed
  cases op with
  | dbSave like =>
      obtain ⟨answered, _⟩ := Prod.mk.inj (Option.some.inj handled)
      simp only [failed] at answered
      rw [← answered]
      exact .inl rfl
  | dbRemove userId contentType contentId =>
      obtain ⟨answered, _⟩ := Prod.mk.inj (Option.some.inj handled)
      simp only [failed] at answered
      rw [← answered]
      exact .inl rfl
  | dbGetLikesByPairs userId items =>
      obtain ⟨answered, _⟩ := Prod.mk.inj (Option.some.inj handled)
      simp only [getLikesByPairs, failed] at answered
      rw [← answered]
      exact .inl rfl
  | dbGetLike userId contentType contentId => exact .inr ⟨_, _, _, rfl⟩
  | _ => exact .inl rfl

/-- A status read whose query fails. -/
def MissedStatus (event : Event (likeService setting)) : Prop :=
  (∃ userId contentType contentId, event.call = .getLikeStatus userId contentType contentId) ∧
    event.env.fault ≠ none

/-- A call knows what it has asked, unless it is a status read whose query fails. -/
theorem asking_knows {asking : Asking} (sameCall : asking.call = event.call)
    (permitted : asking.Permitted event.op)
    (handled : World.handle setting event.env event.op event.before =
      some (event.res, next, spawned)) :
    KnowsAsked (likeWatch setting) MissedStatus Asking.advance Asking.asked asking event := by
  unfold KnowsAsked
  cases known : asking.asked with
  | some one =>
      have notAsking : ¬ event.call.asksAt event.op := by
        intro asks
        rw [← sameCall] at asks
        rw [permitted.1 asks] at known
        cases known
      exact ⟨if_neg fun both => notAsking both.1, by rw [Asking.advance_asked known, known]⟩
  | none =>
      simp only [Asking.advance, known, true_and, sameCall]
      by_cases asks : event.call.asksAt event.op
      · rw [if_pos asks]
        by_cases healthy : event.env.fault = none
        · exact .inl (if_pos ⟨asks, healthy⟩).symm
        · rw [if_neg fun both : _ ∧ event.env.fault = none => healthy both.2]
          rcases asked_failed healthy handled with nothing | ⟨userId, contentType, contentId, is⟩
          · exact .inl nothing
          · rw [is] at asks
            refine .inr ⟨rfl, ?_, healthy⟩
            unfold LikeCall.asksAt at asks
            split at asks
            case h_3 userId contentType contentId _ _ _ called _ =>
              exact ⟨userId, contentType, contentId, called⟩
            case h_5 => cases asks
            all_goals next called => cases called
      · rw [if_neg asks, known]
        exact .inl (if_neg fun both => asks both.1).symm

end Faithful

/-! ### Linearizability -/

variable {world : World} {calls : List LikeCall} {trace : List (Event (likeService setting))}
  {last : Pool (likeService setting)}

/-- The points at which the calls ask linearize every run. -/
theorem watched_linearizes
    (run : Run (M := likeService setting) (Pool.start world calls) trace last) :
    Linearizes (likeWatch setting) MissedStatus AnswersBook world trace last
      ((likeWatch setting).history trace) := by
  obtain ⟨governed, permitted⟩ := Run.obeys (M := likeService setting) (body_asks setting)
    (by rintro _ _ ⟨_, ⟨⟩, _⟩) run fun _ _ _ _ => trivial
  have handled : ∀ before event after, trace = before ++ event :: after →
      ∃ next spawned, World.handle setting event.env event.op event.before =
        some (event.res, next, spawned) := by
    intro before event after split
    have replays := run.replays
    rw [split] at replays
    exact replays.until_event.2
  have allowed : ∀ before event after, trace = before ++ event :: after →
      (controlAfter Asking.advance event.thread (Asking.start event.call) before).Permitted
        event.op := permitted
  have unasked : ∀ call, Asking.asked (Asking.start call) = none := fun _ => rfl
  refine run.linearizes governed unasked ?_ ?_ ?_
  · intro event member next spawned step
    obtain ⟨before, after, split⟩ := List.append_of_mem member
    have changes := (allowed before event after split).2
    rw [Asking.call_controlAfter] at changes
    exact likeWatch_faithful changes step
  · intro before event after split
    obtain ⟨next, spawned, step⟩ := handled before event after split
    exact asking_knows (Asking.call_controlAfter _ _ _) (allowed before event after split) step
  · rintro i call reply ⟨_, ⟨⟩, answers⟩
    rwa [Asking.call_controlAfter] at answers

/-- One for a like of the key that is told to be new, minus one for one told to be taken
back. -/
def toldGain (key : LikeKey) : LikeCall → LikeReply → Int
  | .addLike likeCmd, .addLike (.ok result) =>
      if likeCmd.key = key ∧ result.alreadyExisted = false then 1 else 0
  | .removeLike userId contentType contentId, .removeLike (.ok result) =>
      if (userId, contentType, contentId) = key ∧ result.wasLiked = true then -1 else 0
  | _, _ => 0

/-- A like or unlike of the key that came back with an error. -/
def FailedOn (key : LikeKey) : LikeCall → LikeReply → Prop
  | .addLike likeCmd, .addLike (.error _) => likeCmd.key = key
  | .removeLike userId contentType contentId, .removeLike (.error _) =>
      (userId, contentType, contentId) = key
  | _, _ => False

/-- What a call has asked weighs what its reply tells. -/
theorem gain_of_answers {key : LikeKey} {call : LikeCall} {reply : LikeReply}
    {asked : Option (BookRequest × BookAnswer)} (answers : AnswersBook call reply asked)
    (notFailed : ¬ FailedOn key call reply) :
    (asked.toList.map (bookGain key)).sum = toldGain key call reply := by
  unfold AnswersBook at answers
  split at answers
  case h_1 likeCmd result =>
    obtain ⟨instant, rfl, _⟩ := answers
    cases existed : result.alreadyExisted <;> simp [bookGain, toldGain, existed]
  case h_2 likeCmd e =>
    cases asked with
    | none => rfl
    | some one =>
        obtain ⟨instant, existed, rfl⟩ := answers one rfl
        have other : likeCmd.key ≠ key := notFailed
        cases existed <;> simp [bookGain, toldGain, other]
  case h_3 userId contentType contentId result =>
    subst answers
    cases taken : result.wasLiked <;> simp [bookGain, toldGain, taken]
  case h_4 userId contentType contentId e =>
    cases asked with
    | none => rfl
    | some one =>
        obtain ⟨wasLiked, rfl⟩ := answers one rfl
        have other : (userId, contentType, contentId) ≠ key := notFailed
        cases wasLiked <;> simp [bookGain, toldGain, other]
  case h_5 =>
    obtain ⟨instant, rfl, rfl⟩ := answers
    simp [bookGain, toldGain]
  case h_6 =>
    obtain ⟨instants, rfl, rfl⟩ := answers
    simp [bookGain, toldGain]
  case h_7 notAdded _ notTaken _ _ _ =>
    subst answers
    unfold toldGain
    split
    · exact (notAdded _ _ rfl rfl).elim
    · exact (notTaken _ _ _ _ rfl rfl).elim
    · rfl

section Balance

variable {setting : Setting}

/-- What a thread that has come back tells of the key. -/
def gainTold (key : LikeKey) (thread : Thread (likeService setting)) : Int :=
  match thread.rest with
  | .ret (.inr reply) => toldGain key thread.call reply
  | _ => 0

theorem Thread.returned_eq {thread : Thread (likeService setting)} (returned : thread.Returned) :
    ∃ reply, thread = ⟨thread.call, .ret (.inr reply)⟩ := by
  obtain ⟨call, rest⟩ := thread
  obtain ⟨reply, rfl⟩ := returned
  exact ⟨reply, rfl⟩

/-- However the calls interleave, and whatever fails: once all have come back, and none that
likes or unlikes the item for the user with an error, the user likes the item at the end if
and only if the replies add up to it: the like of the start, plus the likes told to be new,
minus the likes told to be taken back. -/
theorem replies_balance (setting : Setting) (world : World) (calls : List LikeCall)
    (trace : List (Event (likeService setting))) (last : Pool (likeService setting))
    (run : Run (M := likeService setting) (Pool.start world calls) trace last)
    (done : last.Done) (key : LikeKey)
    (answered : ∀ thread ∈ last.threads, ∀ reply, thread.rest = .ret (.inr reply) →
      ¬ FailedOn key thread.call reply) :
    last.state.likes.book.weight key =
      world.likes.book.weight key + (last.threads.map (gainTold key)).sum := by
  have linearizes := watched_linearizes run
  rw [LikeBook.serves_weight linearizes.sequential key]
  congr 1
  apply linearizes.sum
  intro i thread at_i
  have member := List.mem_of_getElem? at_i
  obtain ⟨reply, back⟩ := Thread.returned_eq (done thread member)
  have told : gainTold key thread = toldGain key thread.call reply := by
    rw [back]
    rfl
  rw [told, ← Watch.askedBy_of_nodup linearizes.once i]
  rcases linearizes.answered i thread.call reply (back ▸ at_i) with
    answers | ⟨nothing, event, performed, own, ⟨userId, contentType, contentId, called⟩, _⟩
  · exact gain_of_answers answers (answered thread member reply (by rw [back]))
  · obtain ⟨_, there, sameCall⟩ := run.event_thread event performed
    rw [own, at_i] at there
    obtain rfl := Option.some.inj there
    rw [nothing, sameCall, called]
    rfl

/-- The reply of a like or unlike that has failed. -/
def LikeReply.failsChange : LikeReply → Bool
  | .addLike (.error _) => true
  | .removeLike (.error _) => true
  | _ => false

theorem not_failedOn {key : LikeKey} {call : LikeCall} {reply : LikeReply}
    (fine : reply.failsChange = false) : ¬ FailedOn key call reply := by
  intro failed
  unfold FailedOn at failed
  split at failed
  · cases fine
  · cases fine
  · exact failed

/-- User 3 likes the post while user 1 takes the like back; when both and their tasks are done,
the replies add up to the rows of each. -/
theorem replies_balance_two :
    ∃ trace last, Run (M := likeService .reference) (Pool.start twoLikes
        [.addLike ⟨⟨3⟩, postId, postType⟩, .removeLike ⟨1⟩ postType postId]) trace last ∧
      last.Done ∧
      last.state.likes.book.weight (⟨1⟩, postType, postId) =
        twoLikes.likes.book.weight (⟨1⟩, postType, postId) +
          (last.threads.map (gainTold (⟨1⟩, postType, postId))).sum := by
  obtain ⟨trace, last, run, passed⟩ := Run.exists_of_exec (M := likeService .reference)
    (turns 0 3 6 ++ turns 1 3 6 ++ turns 2 3 1 ++ turns 3 3 1)
    (Pool.start twoLikes [.addLike ⟨⟨3⟩, postId, postType⟩, .removeLike ⟨1⟩ postType postId])
    (fun _ last => last.done? && (List.range last.threads.length).all fun i =>
      (replyOf last i).all fun reply => !reply.failsChange) (by decide +kernel)
  obtain ⟨done, fine⟩ := Bool.and_eq_true_iff.mp passed
  have ended := Pool.done_of_done? done
  refine ⟨trace, last, run, ended, ?_⟩
  apply replies_balance _ _ _ _ _ run ended
  intro thread member reply back
  obtain ⟨i, inside, at_i⟩ := List.getElem_of_mem member
  have good := List.all_eq_true.mp fine i (List.mem_range.mpr inside)
  have replied : replyOf last i = some reply := by
    rw [replyOf, List.getElem?_eq_getElem inside, at_i, Option.bind_some, back]
  rw [replied, Option.all_some, Bool.not_eq_true'] at good
  exact not_failedOn good

end Balance

end SocialApi
