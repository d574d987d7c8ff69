/-
Module: SocialApi.Proofs.LikedInstant
Purpose: Since when a user has liked an item, as the table has it and as the replies of calls
  that follow one another report it.
Trusted boundary: none
Main exports:
  LikedSince, Answered, OneByOne, ReportsSince, addLike_since, reportsSince_liked, SameInstant,
  one_instant_iff
-/
import SocialApi.Proofs.LikeStatus
import SocialApi.Proofs.OwnWrites

namespace SocialApi

open Process
open LikeService
open PostgresLikeRepository (getLike getLikesByPairs getUserLikes onPage)

/-! ### The instant in the table -/

/-- The user's row for the item is there, with the instant. -/
def LikedSince (table : LikesTable) (key : UserId × ContentType × ContentId)
    (instant : DateTime) : Prop :=
  ∃ row ∈ table.rows, row.key = key ∧ row.createdAt = instant

section Table

variable {setting : Setting} {key : UserId × ContentType × ContentId} {instant : DateTime}

/-- A row that the query returns is the row of the like. -/
theorem find_of_getLike {fault : Option Fault} {userId : UserId} {contentType : ContentType}
    {contentId : ContentId} {table : LikesTable} {row : Like}
    (answered : getLike fault userId contentType contentId table = .ok row) :
    table.find (userId, contentType, contentId) = some row := by
  unfold getLike at answered
  split at answered
  · cases answered
  · split at answered
    · next found =>
        obtain rfl := Except.ok.inj answered
        exact found
    · cases answered

theorem World.handle_getLike {env : Surroundings} {world after : World} {userId : UserId}
    {contentType : ContentType} {contentId : ContentId} {row : Like} {spawned : List LikeCall}
    (handled : World.handle setting env (.dbGetLike userId contentType contentId) world =
      some (.ok row, after, spawned)) :
    world.likes.find (userId, contentType, contentId) = some row := by
  obtain ⟨answered, _⟩ := Prod.mk.inj (Option.some.inj handled)
  exact find_of_getLike answered

/-- A table has one instant for a like. -/
theorem LikedSince.unique {table : LikesTable} {other : DateTime}
    (since : LikedSince table key instant) (sinceToo : LikedSince table key other) :
    instant = other := by
  obtain ⟨row, member, own, rfl⟩ := since
  obtain ⟨rowToo, memberToo, ownToo, rfl⟩ := sinceToo
  have same : row = rowToo :=
    List.inj_on_of_nodup_map table.uniqueUserContentLike member memberToo
      (own.trans ownToo.symm)
  rw [same]

/-- What an insert stores is there since the instant that Postgres keeps of it. -/
theorem likedSince_insert {table : LikesTable} {like : Like} {newId : Uuid}
    {newKey : like.key ∉ table.rows.map Like.key}
    {freshId : newId ∉ table.rows.map Like.id} :
    LikedSince (table.insert like newId newKey freshId) like.key
      (DateTime.toTimestamptz like.createdAt) :=
  ⟨like.stored newId, List.mem_append_right _ List.mem_cons_self, rfl, rfl⟩

/-- A row that is found is there. -/
theorem likedSince_of_find {table : LikesTable} {row : Like} (found : table.find key = some row) :
    LikedSince table key row.createdAt :=
  ⟨row, List.mem_of_find?_eq_some found, by simpa using List.find?_some found, rfl⟩

/-- A step that does not try to delete the like keeps it, with its instant. -/
theorem LikedSince.step {env : Surroundings} {op : LikeOp} {world after : World}
    {answer : op.Res} {spawned : List LikeCall} (since : LikedSince world.likes key instant)
    (kept : op.attempts ≠ some ⟨.unlike, key⟩)
    (handled : World.handle setting env op world = some (answer, after, spawned)) :
    LikedSince after.likes key instant := by
  obtain ⟨row, member, own, at_instant⟩ := since
  cases op with
  | dbSave like =>
      obtain ⟨_, ⟨_, _, same, _⟩ | ⟨_, _, same⟩ | ⟨_, _, _, _, inserted⟩⟩ :=
        World.handle_save handled
      · exact ⟨row, same ▸ member, own, at_instant⟩
      · exact ⟨row, same ▸ member, own, at_instant⟩
      · exact ⟨row, inserted ▸ List.mem_append_left _ member, own, at_instant⟩
  | dbRemove userId contentType contentId =>
      obtain ⟨_, ⟨_, _, _, same⟩ | ⟨_, erased⟩⟩ := World.handle_remove handled
      · exact ⟨row, same ▸ member, own, at_instant⟩
      · refine ⟨row, ?_, own, at_instant⟩
        rw [erased]
        refine List.mem_filter.mpr ⟨member, decide_eq_true ?_⟩
        intro deleted
        rw [own] at deleted
        exact kept (by rw [LikeOp.attempts, deleted])
  | _ =>
      rw [(World.handle_after handled).2.1]
      exact ⟨row, member, own, at_instant⟩

/-- A call that does not remove the like keeps it, with its instant. -/
theorem LikedSince.run {call : LikeCall} {environment : Nat → Surroundings}
    {world after : World} {outcome : LikeCall ⊕ LikeReply} {spawned : List LikeCall}
    (since : LikedSince world.likes key instant) (kept : call.change ≠ some ⟨.unlike, key⟩)
    (ran : (call.body setting).run (World.handle setting) environment world =
      some (outcome, after, spawned)) : LikedSince after.likes key instant := by
  apply (body_ownWrites setting call).performs.run_preserves
    (fun reached : World => LikedSince reached.likes key instant) _ ran since
  intro env op state answer next started own handled held
  apply held.step _ handled
  intro attempted
  exact kept (own _ attempted)

end Table

/-! ### What `add_like` reports -/

section AddLike

variable {setting : Setting} {environment : Nat → Surroundings} {world after : World}
  {spawned : List LikeCall} {likeCmd : AddLikeCommand}

theorem likeAdded_likedAt {count : Nat} {createdAt : DateTime} {alreadyExists : Bool}
    {answer : Except DomainError AddLikeCommandResult}
    (ran : (likeAdded likeCmd count createdAt alreadyExists).run (World.handle setting)
      environment world = some (answer, after, spawned)) :
    ∃ result, answer = .ok result ∧ result.likedAt = createdAt := by
  obtain ⟨_, _, _, _, _, _, ran, _⟩ := Program.run_bind _ ran
  obtain ⟨rfl, _⟩ := Prod.mk.inj (Option.some.inj ran)
  exact ⟨_, rfl, rfl⟩

/-- A repeated like reports the instant of the row. -/
theorem addExistingLike_since {result : AddLikeCommandResult}
    (ran : (addExistingLike likeCmd).run (World.handle setting) environment world =
      some (.ok result, after, spawned)) :
    LikedSince after.likes likeCmd.change.key result.likedAt := by
  have same := likes_run_left (addExistingLike_leavesRows likeCmd) ran
  obtain ⟨counted, between, _, _, steps, counting, ran, _⟩ := Program.run_bind _ ran
  have kept := likes_run_left (getLikeCountWithFallback_leavesRows _ _) counting
  cases counted with
  | error e => cases ran
  | ok count =>
  obtain ⟨existed, fetched, _, _, fetching, ran, _⟩ := (Program.run_perform _).mp ran
  cases existed with
  | error e => cases ran
  | ok existedLike =>
  obtain ⟨_, ⟨⟩, reported⟩ := likeAdded_likedAt ran
  rw [same, reported, ← kept]
  exact likedSince_of_find (World.handle_getLike fetching)

/-- A new like is reported with the time that the clock said. -/
theorem addNewLike_likedAt {createdAt : DateTime} {result : AddLikeCommandResult}
    (ran : (addNewLike likeCmd createdAt).run (World.handle setting) environment world =
      some (.ok result, after, spawned)) : result.likedAt = createdAt := by
  obtain ⟨counted, _, _, _, _, ran, _⟩ := (Program.run_perform _).mp ran
  cases counted with
  | ok newCount =>
      obtain ⟨_, ⟨⟩, reported⟩ := likeAdded_likedAt ran
      exact reported
  | error e =>
      obtain ⟨recounted, _, _, _, _, ran, _⟩ := (Program.run_perform _).mp ran
      cases recounted with
      | error e => cases ran
      | ok count =>
          obtain ⟨_, ⟨⟩, reported⟩ := likeAdded_likedAt ran
          exact reported

/-- A like that `add_like` reports was there and is reported with its instant, or is new and is
reported with the time that the clock said, before Postgres has kept what it keeps of it. -/
theorem addLike_since {result : AddLikeCommandResult}
    (ran : (addLike likeCmd).run (World.handle setting) environment world =
      some (.ok result, after, spawned)) :
    ((world.likes.find likeCmd.change.key).isSome ∧
        LikedSince after.likes likeCmd.change.key result.likedAt) ∨
      (world.likes.find likeCmd.change.key = none ∧ result.likedAt = (environment 1).now ∧
        LikedSince after.likes likeCmd.change.key
          (DateTime.toTimestamptz (environment 1).now)) := by
  obtain ⟨validated, checked, _, _, checking, ran, _⟩ := (Program.run_perform _).mp ran
  have unchanged : checked.likes = world.likes := (World.handle_after checking).2.1
  cases validated with
  | error e => cases ran
  | ok id =>
  obtain ⟨createdAt, timed, _, _, reading, ran, _⟩ := (Program.run_perform _).mp ran
  have unchangedToo : timed.likes = checked.likes := (World.handle_after reading).2.1
  obtain ⟨rfl, _⟩ := Prod.mk.inj (Option.some.inj reading)
  obtain ⟨saved, stored, _, _, saving, ran, _⟩ := (Program.run_perform _).mp ran
  cases saved with
  | error e => cases ran
  | ok existed =>
  cases existed with
  | true =>
      obtain ⟨_, ⟨_, absurd, _⟩ | ⟨_, found, _⟩ | ⟨absurd, _⟩⟩ := World.handle_save saving
      · cases absurd
      · rw [unchangedToo, unchanged] at found
        exact .inl ⟨found, addExistingLike_since ran⟩
      · cases absurd
  | false =>
      obtain ⟨_, ⟨_, absurd, _⟩ | ⟨absurd, _⟩ | ⟨_, absent, newKey, freshId, inserted⟩⟩ :=
        World.handle_save saving
      · cases absurd
      · cases absurd
      · have rows := likes_run_left (addNewLike_leavesRows likeCmd (environment 1).now) ran
        refine .inr ⟨?_, addNewLike_likedAt ran, ?_⟩
        · rw [← unchanged, ← unchangedToo]
          exact absent
        · rw [rows, inserted]
          exact likedSince_insert

/-- While nothing fails, `add_like` of a like that is not there succeeds. -/
theorem addLike_succeeds {answer : Except DomainError AddLikeCommandResult}
    (healthy : ∀ n, (environment n).fault = none)
    (valid : ∃ id, (environment 0).verdict = .ok id)
    (freshId : (environment 2).newId ∉ world.likes.rows.map Like.id)
    (absent : world.likes.find likeCmd.change.key = none)
    (ran : (addLike likeCmd).run (World.handle setting) environment world =
      some (answer, after, spawned)) : ∃ result, answer = .ok result := by
  obtain ⟨validated, checked, _, _, checking, ran, _⟩ := (Program.run_perform _).mp ran
  have unchanged : checked.likes = world.likes := (World.handle_after checking).2.1
  obtain ⟨verdict, _⟩ := Prod.mk.inj (Option.some.inj checking)
  obtain ⟨id, accepted⟩ := valid
  obtain rfl : validated = .ok id := verdict.symm.trans accepted
  obtain ⟨createdAt, timed, _, _, reading, ran, _⟩ := (Program.run_perform _).mp ran
  have unchangedToo : timed.likes = checked.likes := (World.handle_after reading).2.1
  obtain ⟨saved, stored, _, _, saving, ran, _⟩ := (Program.run_perform _).mp ran
  obtain ⟨_, ⟨_, _, _, cause⟩ | ⟨_, found, _⟩ | ⟨rfl, _⟩⟩ := World.handle_save saving
  · have taken := cause (healthy _)
    rw [unchangedToo, unchanged] at taken
    exact absurd taken freshId
  · rw [unchangedToo, unchanged] at found
    rw [AddLikeCommand.change] at absent
    rw [Like.key, absent] at found
    cases found
  obtain ⟨counted, _, _, _, _, ran, _⟩ := (Program.run_perform _).mp ran
  cases counted with
  | ok newCount =>
      obtain ⟨result, succeeded, _⟩ := likeAdded_likedAt ran
      exact ⟨result, succeeded⟩
  | error e =>
      obtain ⟨recounted, _, _, _, recounting, ran, _⟩ := (Program.run_perform _).mp ran
      rw [World.handle_getLikesCount (healthy _) recounting] at ran
      obtain ⟨result, succeeded, _⟩ := likeAdded_likedAt ran
      exact ⟨result, succeeded⟩

end AddLike

/-! ### Calls that follow one another -/

/-- A call that has come back, with the world it found and the one it left. -/
structure Answered where
  call : LikeCall
  environment : Nat → Surroundings
  before : World
  reply : LikeReply
  after : World

/-- The call runs alone and comes back with the reply. -/
def Answered.Ran (setting : Setting) (answered : Answered) : Prop :=
  ∃ spawned, (answered.call.body setting).run (World.handle setting) answered.environment
    answered.before = some (.inr answered.reply, answered.after, spawned)

/-- The calls run one after another.  Each finds the table that the one before it left; what
happens to Redis in between is left open. -/
def OneByOne (setting : Setting) : LikesTable → List Answered → Prop
  | _, [] => True
  | table, answered :: later =>
      answered.before.likes = table ∧ answered.Ran setting ∧
        OneByOne setting answered.after.likes later

/-- The reply reports that the user has liked the item since the instant. -/
def ReportsSince (key : UserId × ContentType × ContentId) (instant : DateTime) :
    LikeCall → LikeReply → Prop
  | .addLike likeCmd, .addLike (.ok result) =>
      likeCmd.change.key = key ∧ result.likedAt = instant
  | .getLikeStatus userId contentType contentId, .getLikeStatus (.ok response) =>
      (userId, contentType, contentId) = key ∧ response.likedAt = some instant
  | .getBatchStatus userId _, .getBatchStatus (.ok results) =>
      userId = key.1 ∧ ∃ status ∈ results,
        (status.contentType, status.contentId) = key.2 ∧ status.likedAt = some instant
  | .getUserLikedItems userId _ _ _, .getUserLikedItems (.done (.ok response)) =>
      userId = key.1 ∧ ∃ item ∈ response.items, item.contentType = key.2.1.name ∧
        item.contentId = key.2.2.uuid.text ∧ item.likedAt = instant
  | _, _ => False

section Reports

variable {setting : Setting} {environment : Nat → Surroundings} {world after : World}
  {spawned : List LikeCall}

/-- The rows that the page query returns are rows of the user. -/
theorem mem_getUserLikes {fault : Option Fault} {userId : UserId} {contentType : Option String}
    {cursor : Option PaginationCursor} {limit : Nat} {table : LikesTable} {rows : List Like}
    (answered : getUserLikes fault userId contentType cursor limit table = .ok rows) :
    ∀ row ∈ rows, row ∈ table.rows ∧ row.userId = userId := by
  intro row member
  unfold getUserLikes at answered
  split at answered
  · cases answered
  split at answered
  · cases answered
  · obtain rfl := Except.ok.inj answered
    have sorted := List.mem_of_mem_take member
    rw [List.mem_insertionSort, List.mem_filter] at sorted
    exact ⟨sorted.1, (of_decide_eq_true sorted.2).1⟩

/-- An entry of a page is a row of the user. -/
theorem page_rows {userId : UserId} {contentType cursorStr : Option String} {limit : Nat}
    {response : UserLikesResponse}
    (ran : (getUserLikedItems setting userId contentType cursorStr limit).run
      (World.handle setting) environment world = some (.done (.ok response), after, spawned)) :
    after.likes = world.likes ∧ ∀ item ∈ response.items, ∃ row ∈ world.likes.rows,
      row.userId = userId ∧ item = .ofLike row := by
  refine ⟨likes_run_quiet (getUserLikedItems_quiet _ _ _ _ _) ran, ?_⟩
  unfold getUserLikedItems at ran
  split at ran
  · cases ran
  split at ran
  · cases ran
  obtain ⟨answer, fetched, _, _, fetching, ran, _⟩ := (Program.run_perform _).mp ran
  cases answer with
  | error e => cases ran
  | ok rows =>
  have own := mem_getUserLikes (Prod.mk.inj (Option.some.inj fetching)).1
  have shown : ∀ item ∈ response.items, ∃ row ∈ rows, item = .ofLike row := by
    dsimp only [Program.bind] at ran
    split at ran
    · cases kept : lastKept setting rows limit with
      | panicked message =>
          rw [kept] at ran
          cases ran
      | done lastItem =>
          rw [kept] at ran
          cases ran
          intro item member
          obtain ⟨row, among, same⟩ := List.mem_map.mp member
          exact ⟨row, List.mem_of_mem_take among, same.symm⟩
    · cases ran
      intro item member
      obtain ⟨row, among, same⟩ := List.mem_map.mp member
      exact ⟨row, among, same.symm⟩
  intro item member
  obtain ⟨row, among, same⟩ := shown item member
  exact ⟨row, (own row among).1, (own row among).2, same⟩

/-- The single read reports the instant of the row. -/
theorem getLikeStatus_since {userId : UserId} {contentType : ContentType}
    {contentId : ContentId} {response : StatusResponse} {instant : DateTime}
    (ran : (getLikeStatus userId contentType contentId).run (World.handle setting) environment
      world = some (.ok response, after, spawned)) (since : response.likedAt = some instant) :
    LikedSince after.likes (userId, contentType, contentId) instant := by
  rw [getLikeStatus_run] at ran
  obtain ⟨answered, rest⟩ := Prod.mk.inj (Option.some.inj ran)
  obtain ⟨rfl, _⟩ := Prod.mk.inj rest
  cases read : getLike (environment 0).fault userId contentType contentId world.likes with
  | error e =>
      rw [read] at answered
      obtain rfl := Except.ok.inj answered
      cases since
  | ok row =>
      rw [read] at answered
      obtain rfl := Except.ok.inj answered
      obtain rfl := Option.some.inj since
      exact likedSince_of_find (find_of_getLike read)

/-- An entry of the batch read reports the instant of the row. -/
theorem getBatchStatus_since {userId : UserId} {items : List ContentItem}
    {results : List ContentStatus} {status : ContentStatus} {instant : DateTime}
    (ran : (getBatchStatus userId items).run (World.handle setting) environment world =
      some (.ok results, after, spawned)) (member : status ∈ results)
    (since : status.likedAt = some instant) :
    LikedSince after.likes (userId, status.contentType, status.contentId) instant := by
  by_cases small : items.length ≤ 100
  · rw [getBatchStatus_run small] at ran
    obtain ⟨answered, rest⟩ := Prod.mk.inj (Option.some.inj ran)
    obtain ⟨rfl, _⟩ := Prod.mk.inj rest
    cases read : getLikesByPairs (environment 0).fault (environment 0).order userId items
        world.likes with
    | error e =>
        rw [read] at answered
        cases answered
    | ok rows =>
        rw [read] at answered
        obtain rfl := Except.ok.inj answered
        obtain ⟨item, requested, rfl⟩ := List.mem_map.mp member
        cases healthy : (environment 0).fault with
        | some e =>
            rw [healthy] at read
            cases read
        | none =>
            rw [healthy] at read
            have true := statusIn_true read requested
            by_cases there : ∃ row ∈ world.likes.rows,
                row.key = (userId, item.contentType, item.contentId)
            · obtain ⟨row, among, own⟩ := there
              have said := (true.liked row among own).2
              rw [since] at said
              exact ⟨row, among, own, (Option.some.inj said).symm⟩
            · have silent := (true.notLiked fun row among own =>
                there ⟨row, among, own⟩).2
              rw [since] at silent
              cases silent
  · unfold getBatchStatus at ran
    rw [if_pos (not_le.mp small)] at ran
    cases ran

/-- A call that reports an instant has found it in the table, or has just read the clock. -/
theorem reportsSince_liked {key : UserId × ContentType × ContentId} {instant : DateTime}
    {call : LikeCall} {reply : LikeReply}
    (ran : (call.body setting).run (World.handle setting) environment world =
      some (.inr reply, after, spawned)) (reports : ReportsSince key instant call reply) :
    LikedSince after.likes key instant ∨
      ∃ likeCmd, call = .addLike likeCmd ∧ likeCmd.change.key = key ∧
        world.likes.find key = none ∧ instant = (environment 1).now ∧
        LikedSince after.likes key (DateTime.toTimestamptz (environment 1).now) := by
  cases call with
  | addLike likeCmd =>
      obtain ⟨answer, between, _, _, _, adding, ran, _⟩ := Program.run_bind _ ran
      cases ran
      cases answer with
      | error e => exact reports.elim
      | ok result =>
          obtain ⟨rfl, rfl⟩ := reports
          rcases addLike_since adding with ⟨_, since⟩ | ⟨absent, reported, since⟩
          · exact .inl since
          · exact .inr ⟨likeCmd, rfl, rfl, absent, reported, since⟩
  | getLikeStatus userId contentType contentId =>
      obtain ⟨answer, between, _, _, _, reading, ran, _⟩ := Program.run_bind _ ran
      cases ran
      cases answer with
      | error e => exact reports.elim
      | ok response =>
          obtain ⟨rfl, since⟩ := reports
          exact .inl (getLikeStatus_since reading since)
  | getBatchStatus userId items =>
      obtain ⟨answer, between, _, _, _, reading, ran, _⟩ := Program.run_bind _ ran
      cases ran
      cases answer with
      | error e => exact reports.elim
      | ok results =>
          obtain ⟨rfl, status, member, same, since⟩ := reports
          refine .inl ?_
          have listed := getBatchStatus_since reading member since
          rwa [same] at listed
  | getUserLikedItems userId contentType cursorStr limit =>
      obtain ⟨answer, between, _, _, _, reading, ran, _⟩ := Program.run_bind _ ran
      cases ran
      cases answer with
      | panicked message => exact reports.elim
      | done result =>
      cases result with
      | error e => exact reports.elim
      | ok response =>
          obtain ⟨rfl, item, member, sameType, sameId, rfl⟩ := reports
          obtain ⟨rows, listed⟩ := page_rows reading
          obtain ⟨row, among, own, rfl⟩ := listed item member
          refine .inl ⟨row, rows ▸ among, ?_, rfl⟩
          have text : "" ++ row.contentType.asStr ++ ":" ++ row.contentId.uuid.text =
              "" ++ key.2.1.asStr ++ ":" ++ key.2.2.uuid.text := by
            rw [ContentType.asStr, ContentType.asStr, ← sameType, ← sameId]
            rfl
          obtain ⟨ownType, ownId⟩ := ContentId.key_inj _ text
          rw [Like.key, own, ownType, ownId]
  | _ => exact reports.elim

end Reports

/-! ### One instant for a like -/

/-- Reports of the like with no removal of it in between are of one instant. -/
def SameInstant (key : UserId × ContentType × ContentId) (history : List Answered) : Prop :=
  ∀ front one middle two back instant other,
    history = front ++ one :: (middle ++ two :: back) →
    (∀ between ∈ middle, between.call.change ≠ some ⟨.unlike, key⟩) →
    ReportsSince key instant one.call one.reply → ReportsSince key other two.call two.reply →
      instant = other

/-- The call is an `add_like` of the like, which is not there. -/
def Answered.Inserts (key : UserId × ContentType × ContentId) (answered : Answered) : Prop :=
  ∃ likeCmd, answered.call = .addLike likeCmd ∧ likeCmd.change.key = key ∧
    answered.before.likes.find key = none

/-- What `add_like` reads from the clock, in its second step. -/
def Answered.clockRead (answered : Answered) : DateTime := (answered.environment 1).now

/-- The instant is a whole number of microseconds, as Postgres keeps it. -/
def WholeMicroseconds (instant : DateTime) : Prop := DateTime.toTimestamptz instant = instant

instance (instant : DateTime) : Decidable (WholeMicroseconds instant) :=
  inferInstanceAs (Decidable (DateTime.toTimestamptz instant = instant))

section Histories

variable {setting : Setting} {key : UserId × ContentType × ContentId} {table : LikesTable}
  {history : List Answered} {instant : DateTime}

theorem OneByOne.drop {front back : List Answered}
    (turns : OneByOne setting table (front ++ back)) :
    ∃ reached, OneByOne setting reached back := by
  induction front generalizing table with
  | nil => exact ⟨table, turns⟩
  | cons answered front inductionHypothesis => exact inductionHypothesis turns.2.2

/-- A like stays, with its instant, over calls that do not remove it. -/
theorem OneByOne.likedSince {middle back : List Answered} {two : Answered}
    (turns : OneByOne setting table (middle ++ two :: back))
    (kept : ∀ between ∈ middle, between.call.change ≠ some ⟨.unlike, key⟩)
    (since : LikedSince table key instant) :
    LikedSince two.before.likes key instant ∧ two.Ran setting := by
  induction middle generalizing table with
  | nil =>
      obtain ⟨found, ran, _⟩ := turns
      exact ⟨found ▸ since, ran⟩
  | cons between middle inductionHypothesis =>
      obtain ⟨found, ⟨spawned, ran⟩, later⟩ := turns
      apply inductionHypothesis later
      · exact fun other member => kept other (List.mem_cons_of_mem _ member)
      · exact (found.symm ▸ since).run (kept between List.mem_cons_self) ran

/-- A call that reports an instant removes nothing. -/
theorem ReportsSince.keeps {call : LikeCall} {reply : LikeReply}
    (reports : ReportsSince key instant call reply) : call.change ≠ some ⟨.unlike, key⟩ := by
  intro removes
  cases call with
  | removeLike userId contentType contentId => exact reports.elim
  | addLike likeCmd => cases removes
  | _ => cases removes

/-- While the inserting calls read whole microseconds, all reports are of one instant. -/
theorem sameInstant_of_whole (turns : OneByOne setting table history)
    (whole : ∀ answered ∈ history, answered.Inserts key →
      WholeMicroseconds answered.clockRead) : SameInstant key history := by
  rintro front one middle two back instant other rfl kept reports reportsToo
  obtain ⟨_, found, ⟨spawned, ran⟩, later⟩ := turns.drop
  have since : LikedSince one.after.likes key instant := by
    rcases reportsSince_liked ran reports with
      since | ⟨likeCmd, called, own, absent, rfl, since⟩
    · exact since
    · have exact_instant : DateTime.toTimestamptz (one.environment 1).now =
          (one.environment 1).now := whole one (by simp) ⟨likeCmd, called, own, absent⟩
      rwa [exact_instant] at since
  obtain ⟨still, spawnedToo, ranToo⟩ := later.likedSince kept since
  have sinceThen := still.run reportsToo.keeps ranToo
  rcases reportsSince_liked ranToo reportsToo with sinceToo | ⟨_, _, _, absent, _⟩
  · exact sinceThen.unique sinceToo
  · obtain ⟨row, member, own, _⟩ := still
    have there := LikesTable.find_isSome_iff.mpr (List.mem_map.mpr ⟨row, member, own⟩)
    rw [absent] at there
    cases there

/-- A further call that finds the table as it is. -/
theorem OneByOne.followed {front rest : List Answered} {one look : Answered}
    (turns : OneByOne setting table (front ++ one :: rest))
    (found : look.before.likes = one.after.likes) (ran : look.Ran setting) :
    OneByOne setting table (front ++ [one] ++ [look]) := by
  induction front generalizing table with
  | nil =>
      obtain ⟨here, ranHere, _⟩ := turns
      exact ⟨here, ranHere, found, ran, trivial⟩
  | cons answered front inductionHypothesis =>
      obtain ⟨here, ranHere, later⟩ := turns
      exact ⟨here, ranHere, inductionHypothesis later⟩

end Histories

/-- Nothing fails while the call runs: Postgres answers and generates a new id, and the content
is there. -/
structure Answered.Healthy (answered : Answered) : Prop where
  noFault : ∀ n, (answered.environment n).fault = none
  valid : ∃ id, (answered.environment 0).verdict = .ok id
  freshId : (answered.environment 2).newId ∉ answered.before.likes.rows.map Like.id

/-- Whenever the user looks at the like, by `get_like_status` after some of the calls, all
reports so far and what the user then sees are of one instant between two removals. -/
def OneInstant (setting : Setting) (table : LikesTable)
    (key : UserId × ContentType × ContentId) (history : List Answered) : Prop :=
  ∀ seen rest look, history = seen ++ rest →
    look.call = .getLikeStatus key.1 key.2.1 key.2.2 →
    OneByOne setting table (seen ++ [look]) → SameInstant key (seen ++ [look])

/-- The user who looks after an insert sees what Postgres has kept of the clock. -/
theorem look_after_insert {setting : Setting} {key : UserId × ContentType × ContentId}
    {one : Answered} (ran : one.Ran setting) (inserts : one.Inserts key)
    (healthy : one.Healthy) :
    ReportsSince key one.clockRead one.call one.reply ∧
      ∃ look : Answered, look.call = .getLikeStatus key.1 key.2.1 key.2.2 ∧
        look.before.likes = one.after.likes ∧ look.Ran setting ∧
        ReportsSince key (DateTime.toTimestamptz one.clockRead) look.call look.reply := by
  obtain ⟨call, environment, before, reply, after⟩ := one
  obtain ⟨likeCmd, rfl, rfl, absent⟩ := inserts
  obtain ⟨spawned, ran⟩ := ran
  obtain ⟨answer, between, _, _, _, adding, ran, _⟩ := Program.run_bind _ ran
  cases ran
  obtain ⟨result, rfl⟩ :=
    addLike_succeeds healthy.noFault healthy.valid healthy.freshId absent adding
  rcases addLike_since adding with ⟨there, _⟩ | ⟨_, reported, since⟩
  · rw [absent] at there
    cases there
  refine ⟨⟨rfl, reported⟩, ?_⟩
  obtain ⟨row, member, own, kept⟩ := since
  let item : ContentItem := ⟨likeCmd.contentType, likeCmd.contentId⟩
  obtain ⟨response, looks, true⟩ : ∃ response : StatusResponse,
      (getLikeStatus likeCmd.userId item.contentType item.contentId).run (World.handle setting)
          (fun _ => .calm) after = some (.ok response, after.advance .calm, []) ∧
        TrueStatus after.likes likeCmd.userId item (response.about item) :=
    getLikeStatus_true rfl item
  refine ⟨⟨.getLikeStatus likeCmd.userId likeCmd.contentType likeCmd.contentId, fun _ => .calm,
    after, .getLikeStatus (.ok response), after.advance .calm⟩, rfl, rfl, ⟨[], ?_⟩, rfl, ?_⟩
  · have wrapped := Program.run_bind_pure (World.handle setting)
      (getLikeStatus likeCmd.userId likeCmd.contentType likeCmd.contentId)
      (fun result => (.inr (.getLikeStatus result) : LikeCall ⊕ LikeReply)) (fun _ => .calm) after
    rw [looks] at wrapped
    exact wrapped
  · exact kept ▸ (true.liked row member own).2

/-- Where all reports are of one instant, the inserting calls read whole microseconds. -/
theorem whole_of_oneInstant {setting : Setting} {table : LikesTable}
    {key : UserId × ContentType × ContentId} {history : List Answered}
    (turns : OneByOne setting table history) (instant : OneInstant setting table key history)
    {one : Answered} (member : one ∈ history) (inserts : one.Inserts key)
    (healthy : one.Healthy) : WholeMicroseconds one.clockRead := by
  obtain ⟨front, rest, rfl⟩ := List.append_of_mem member
  obtain ⟨_, _, ran, _⟩ := turns.drop
  obtain ⟨reports, look, called, found, ranToo, reportsToo⟩ :=
    look_after_insert ran inserts healthy
  have seen := turns.followed found ranToo
  refine (instant (front ++ [one]) rest look (by simp) called seen front one [] look [] _ _
    (by simp) ?_ reports reportsToo).symm
  intro between absurd
  cases absurd

/-- While nothing fails, all reports are of one instant exactly when every `add_like` that
inserts the like reads a whole number of microseconds from the clock. -/
theorem one_instant_iff (setting : Setting) (table : LikesTable)
    (key : UserId × ContentType × ContentId) (history : List Answered)
    (turns : OneByOne setting table history)
    (healthy : ∀ answered ∈ history, answered.Healthy) :
    OneInstant setting table key history ↔
      ∀ answered ∈ history, answered.Inserts key → WholeMicroseconds answered.clockRead := by
  constructor
  · intro instant one member inserts
    exact whole_of_oneInstant turns instant member inserts (healthy one member)
  · rintro whole seen rest look rfl called looked
    apply sameInstant_of_whole looked
    intro answered member inserts
    rcases List.mem_append.mp member with earlier | last
    · exact whole answered (List.mem_append_left _ earlier) inserts
    · obtain rfl := List.mem_singleton.mp last
      obtain ⟨likeCmd, added, _⟩ := inserts
      rw [called] at added
      cases added

/-- Every call comes back when no mutex is held. -/
theorem exists_answered (setting : Setting) (call : LikeCall)
    (environment : Nat → Surroundings) {world : World}
    (free : ∀ lock, world.held lock = false) :
    ∃ one : Answered, one.call = call ∧ one.environment = environment ∧ one.before = world ∧
      one.Ran setting := by
  obtain ⟨outcome, after, spawned, ran, _⟩ := body_returns setting call environment free
  obtain ⟨reply, rfl⟩ := (body_ownWrites setting call).replies ran
  exact ⟨⟨call, environment, world, reply, after⟩, rfl, rfl, rfl, spawned, ran⟩

/-- The like of a third user. -/
def thirdLike : UserId × ContentType × ContentId := (⟨3⟩, ⟨"post"⟩, ⟨9⟩)

/-- Nothing fails, and the clock says so. -/
def calmAt (now : DateTime) : Nat → Surroundings := fun _ =>
  { Surroundings.calm with now := now, newId := 3 }

/-- The third user likes the post, and the clock says so. -/
theorem thirdLike_answered (now : DateTime) :
    ∃ one : Answered, OneByOne .reference twoLikes.likes [one] ∧ one.Healthy ∧
      one.Inserts thirdLike ∧ one.clockRead = now := by
  have free : ∀ lock, twoLikes.held lock = false := fun _ => rfl
  obtain ⟨one, called, during, found, ran⟩ := exists_answered .reference
    (.addLike ⟨⟨3⟩, ⟨9⟩, ⟨"post"⟩⟩) (calmAt now) free
  refine ⟨one, ⟨by rw [found], ran, trivial⟩, ⟨?_, ?_, ?_⟩, ⟨_, called, rfl, ?_⟩, ?_⟩
  · rw [during]
    exact fun _ => rfl
  · rw [during]
    exact ⟨0, rfl⟩
  · rw [during, found]
    have new : (3 : Uuid) ∉ twoLikes.likes.rows.map Like.id := by decide
    exact new
  · rw [found]
    decide
  · rw [Answered.clockRead, during]
    rfl

/-- A like at a whole number of microseconds keeps its instant. -/
theorem one_instant_microsecond :
    ∃ one : Answered, OneInstant .reference twoLikes.likes thirdLike [one] := by
  obtain ⟨one, turns, healthy, _, clock⟩ := thirdLike_answered 1760000000123456000
  refine ⟨one, (one_instant_iff .reference _ _ [one] turns ?_).mpr ?_⟩
  · simpa using healthy
  · intro answered member _
    obtain rfl := List.mem_singleton.mp member
    rw [clock]
    decide

/-- A like at any other nanosecond does not: `add_like` reports the nanosecond, and every other
call the microsecond before it. -/
theorem nanosecond_not_kept :
    ∃ one : Answered, OneByOne .reference twoLikes.likes [one] ∧ one.Healthy ∧
      one.clockRead = 1760000000123456789 ∧
      ¬ OneInstant .reference twoLikes.likes thirdLike [one] := by
  obtain ⟨one, turns, healthy, inserts, clock⟩ := thirdLike_answered 1760000000123456789
  refine ⟨one, turns, healthy, clock, ?_⟩
  intro instant
  have whole := whole_of_oneInstant turns instant List.mem_cons_self inserts healthy
  rw [clock] at whole
  exact absurd whole (by decide)

end SocialApi
