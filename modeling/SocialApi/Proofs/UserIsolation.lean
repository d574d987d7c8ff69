/-
Module: SocialApi.Proofs.UserIsolation
Purpose: What the calls of other users can do to the rows of a user, and to what the user is
  shown of them.
Trusted boundary: none
Main exports:
  rowsOf, TableWrite, writesBy, rowsOf_step, rowsOf_run, SameView, OwnCall, MakesCalls,
  writesBy_eq, same_view
-/
import SocialApi.Process.Turns
import SocialApi.Proofs.LikeStatus
import SocialApi.Proofs.OwnWrites
import SocialApi.Proofs.PageLimits

namespace SocialApi

open Process
open LikeService
open PostgresLikeRepository (onPage getLikesByPairs getUserLikes)

/-- The user whose like a call adds or removes. -/
def LikeCall.user (call : LikeCall) : Option UserId :=
  call.change.map fun change => change.key.1

/-- A call writes rows of its own user. -/
theorem OwnWrites.user {call : LikeCall} {op : LikeOp} (own : OwnWrites call op)
    {change : Change} (attempted : op.attempts = some change) :
    call.user = some change.key.1 := by
  rw [LikeCall.user, own change attempted]
  rfl

/-! ### The rows of one user -/

/-- The rows of the user. -/
def rowsOf (userId : UserId) (table : LikesTable) : List Like :=
  table.rows.filter fun like => like.userId = userId

/-- A write of the table: a like that is inserted under an id unless its key is there, or a
key that is deleted. -/
inductive TableWrite where
  | insert (like : Like) (newId : Uuid)
  | delete (key : UserId × ContentType × ContentId)
deriving DecidableEq

/-- What a step does to the table. -/
def LikeOp.write (newId : Uuid) : LikeOp → Option TableWrite
  | .dbSave like => some (.insert like newId)
  | .dbRemove userId contentType contentId => some (.delete (userId, contentType, contentId))
  | _ => none

/-- The rows after a write. -/
def TableWrite.onRows : TableWrite → List Like → List Like
  | .insert like newId, rows =>
      if rows.any fun row => row.key = like.key then rows else rows ++ [like.stored newId]
  | .delete key, rows => rows.filter fun like => like.key ≠ key

section Rows

variable {userId : UserId} {table : LikesTable} {key : UserId × ContentType × ContentId}

theorem mem_rowsOf {row : Like} :
    row ∈ rowsOf userId table ↔ row ∈ table.rows ∧ row.userId = userId := by
  rw [rowsOf, List.mem_filter, decide_eq_true_eq]

/-- A key of the user is among the user's rows if it is in the table. -/
theorem mem_keys_rowsOf (own : key.1 = userId) :
    key ∈ (rowsOf userId table).map Like.key ↔ key ∈ table.rows.map Like.key := by
  constructor
  · intro there
    obtain ⟨row, member, rfl⟩ := List.mem_map.mp there
    exact List.mem_map_of_mem (mem_rowsOf.mp member).1
  · intro there
    obtain ⟨row, member, rfl⟩ := List.mem_map.mp there
    exact List.mem_map_of_mem (mem_rowsOf.mpr ⟨member, own⟩)

/-- A key is searched for among the rows of the user as in the table. -/
theorem any_key_rowsOf (own : key.1 = userId) :
    ((rowsOf userId table).any fun row => row.key = key) = true ↔
      key ∈ table.rows.map Like.key := by
  rw [← mem_keys_rowsOf own, List.any_eq_true, List.mem_map]
  simp only [decide_eq_true_eq]

/-- A delete is seen among the rows of the user. -/
theorem rowsOf_erase :
    rowsOf userId (table.erase key) = (TableWrite.delete key).onRows (rowsOf userId table) :=
  List.filter_comm _ _ _

/-- The row of another user is not among the user's rows. -/
theorem rowsOf_erase_other (other : key.1 ≠ userId) :
    rowsOf userId (table.erase key) = rowsOf userId table := by
  rw [rowsOf_erase]
  apply List.filter_eq_self.mpr
  intro row member
  rw [decide_eq_true_eq]
  rintro rfl
  exact other (mem_rowsOf.mp member).2

variable {like : Like} {newId : Uuid} {newKey : like.key ∉ table.rows.map Like.key}
  {freshId : newId ∉ table.rows.map Like.id}

/-- An insert is seen among the rows of its user. -/
theorem rowsOf_insert (own : like.userId = userId) :
    rowsOf userId (table.insert like newId newKey freshId) =
      rowsOf userId table ++ [like.stored newId] := by
  unfold rowsOf LikesTable.insert
  rw [List.filter_append]
  congr 1
  exact List.filter_cons_of_pos (decide_eq_true own)

/-- An insert for another user is not seen among the user's rows. -/
theorem rowsOf_insert_other (other : like.userId ≠ userId) :
    rowsOf userId (table.insert like newId newKey freshId) = rowsOf userId table := by
  unfold rowsOf LikesTable.insert
  rw [List.filter_append, List.filter_cons_of_neg (by rw [decide_eq_true_eq]; exact other)]
  exact List.append_nil _

end Rows

section Runs

variable {setting : Setting} {userId : UserId}

/-- What a step does to the table, where it is a call of the user that takes it. -/
def writeBy (userId : UserId) (event : Event (likeService setting)) : Option TableWrite :=
  if event.call.user = some userId then event.op.write event.env.newId else none

/-- The calls of the user as they come to the table: in which order, which row they insert,
with the time the call has read and the id the database generates, or delete. -/
def writesBy (userId : UserId) (trace : List (Event (likeService setting))) :
    List TableWrite :=
  trace.filterMap (writeBy userId)

/-- The database carries out the writes of the user, and no id is generated twice. -/
def HealthyWrites (userId : UserId) (trace : List (Event (likeService setting))) : Prop :=
  ∀ event ∈ trace, (writeBy userId event).isSome = true →
    event.env.fault = none ∧ event.env.newId ∉ event.before.likes.rows.map Like.id

instance (userId : UserId) (trace : List (Event (likeService setting))) :
    Decidable (HealthyWrites userId trace) :=
  inferInstanceAs (Decidable (∀ event ∈ trace, (writeBy userId event).isSome = true →
    event.env.fault = none ∧ event.env.newId ∉ event.before.likes.rows.map Like.id))

/-- A step of another call leaves the rows of the user alone. -/
theorem rowsOf_stranger {event : Event (likeService setting)} {after : World}
    {spawned : List LikeCall} (stranger : event.call.user ≠ some userId)
    (own : OwnWrites event.call event.op)
    (handled : World.handle setting event.env event.op event.before =
      some (event.res, after, spawned)) :
    rowsOf userId after.likes = rowsOf userId event.before.likes := by
  obtain ⟨thread, call, env, op, res, before⟩ := event
  dsimp only at stranger own handled
  cases op with
  | dbSave like =>
      have other : like.userId ≠ userId := fun same => stranger (same ▸ own.user rfl)
      obtain ⟨_, ⟨_, _, kept, _⟩ | ⟨_, _, kept⟩ | ⟨_, _, _, _, inserted⟩⟩ :=
        World.handle_save handled
      · rw [kept]
      · rw [kept]
      · rw [inserted, rowsOf_insert_other other]
  | dbRemove owner contentType contentId =>
      have other : owner ≠ userId := fun same =>
        stranger (same ▸ own.user rfl)
      obtain ⟨_, ⟨_, _, _, kept⟩ | ⟨_, erased⟩⟩ := World.handle_remove handled
      · rw [kept]
      · rw [erased, rowsOf_erase_other other]
  | _ =>
      rw [(World.handle_after handled).2.1]
      rfl

/-- A step of a call does to the rows of the user what the calls of the user write, and
nothing else. -/
theorem rowsOf_step {event : Event (likeService setting)} {after : World}
    {spawned : List LikeCall} (own : OwnWrites event.call event.op)
    (healthy : (writeBy userId event).isSome = true →
      event.env.fault = none ∧ event.env.newId ∉ event.before.likes.rows.map Like.id)
    (handled : World.handle setting event.env event.op event.before =
      some (event.res, after, spawned)) :
    rowsOf userId after.likes =
      (writeBy userId event).toList.foldl (fun rows write => write.onRows rows)
        (rowsOf userId event.before.likes) := by
  by_cases mine : event.call.user = some userId
  · have written : writeBy userId event = event.op.write event.env.newId := if_pos mine
    obtain ⟨thread, call, env, op, res, before⟩ := event
    dsimp only at mine own healthy handled written
    rw [written] at healthy ⊢
    cases op with
    | dbSave like =>
        obtain ⟨running, fresh⟩ := healthy rfl
        have user : like.userId = userId :=
          Option.some.inj ((own.user rfl).symm.trans mine)
        obtain ⟨_, ⟨_, _, _, cause⟩ | ⟨_, found, kept⟩ | ⟨_, _, newKey, _, inserted⟩⟩ :=
          World.handle_save handled
        · exact absurd (cause running) fresh
        · have there := LikesTable.find_isSome_iff.mp found
          rw [kept]
          exact (if_pos ((any_key_rowsOf user).mpr there)).symm
        · rw [inserted, rowsOf_insert user]
          exact (if_neg (mt (any_key_rowsOf user).mp newKey)).symm
    | dbRemove owner contentType contentId =>
        obtain ⟨running, _⟩ := healthy rfl
        obtain ⟨_, ⟨_, _, failed, _⟩ | ⟨_, erased⟩⟩ := World.handle_remove handled
        · exact absurd running failed
        · rw [erased, rowsOf_erase]
          rfl
    | _ =>
        rw [(World.handle_after handled).2.1]
        rfl
  · have none : writeBy userId event = none := if_neg mine
    rw [none, rowsOf_stranger mine own handled]
    rfl

/-- In every run the rows of the user come from the first ones by the writes of the user's
calls. -/
theorem rowsOf_run {world : World} {calls : List LikeCall}
    {trace : List (Event (likeService setting))} {last : Pool (likeService setting)}
    (run : Run (M := likeService setting) (Pool.start world calls) trace last)
    (healthy : HealthyWrites userId trace) :
    rowsOf userId last.state.likes =
      (writesBy userId trace).foldl (fun rows write => write.onRows rows)
        (rowsOf userId world.likes) := by
  apply run.replays.history fun before (state : World) =>
    rowsOf userId state.likes = (writesBy userId before).foldl
      (fun rows write => write.onRows rows) (rowsOf userId world.likes)
  · intro before event after spawned member handled inductionHypothesis
    rw [rowsOf_step (ownWrites_run run event member) (healthy event member) handled,
      inductionHypothesis, ← List.foldl_append]
    congr 1
    unfold writesBy
    rw [List.filterMap_append]
    congr 1
  · rfl

end Runs

/-! ### What the user is shown -/

/-- The program gives one answer in both worlds, each with its surroundings. -/
def SameAnswer {α : Type} (setting : Setting) (program : Service α)
    (one two : Nat → Surroundings) (world other : World) : Prop :=
  ∃ answer after otherAfter,
    program.run (World.handle setting) one world = some (answer, after, []) ∧
      program.run (World.handle setting) two other = some (answer, otherAfter, [])

/-- With a healthy database the user is shown the same in both worlds: by the single and the
batch read, and by every page, whatever its cursor is. -/
structure SameView (setting : Setting) (userId : UserId) (one two : Nat → Surroundings)
    (world other : World) : Prop where
  status : ∀ contentType contentId,
    SameAnswer setting (getLikeStatus userId contentType contentId) one two world other
  batch : ∀ items, SameAnswer setting (getBatchStatus userId items) one two world other
  page : ∀ contentType cursorStr limit,
    SameAnswer setting (getUserLikedItems setting userId contentType cursorStr limit) one two
      world other

section Views

variable {setting : Setting} {userId : UserId} {one two : Nat → Surroundings}
  {world other : World}

theorem sameAnswer_ret {α : Type} (value : α) :
    SameAnswer setting (.ret value) one two world other :=
  ⟨value, world, other, rfl, rfl⟩

/-- A step that is answered alike in both worlds is followed by the rest in both. -/
theorem sameAnswer_perform {α : Type} {op : LikeOp} {next : op.Res → Service α}
    {answer : op.Res} {after otherAfter : World}
    (handled : World.handle setting (one 0) op world = some (answer, after, []))
    (handledToo : World.handle setting (two 0) op other = some (answer, otherAfter, []))
    (rest : SameAnswer setting (next answer) (fun n => one (n + 1)) (fun n => two (n + 1)) after
      otherAfter) : SameAnswer setting (.perform op next) one two world other := by
  obtain ⟨value, last, otherLast, ran, ranToo⟩ := rest
  refine ⟨value, last, otherLast, ?_, ?_⟩
  · rwa [Program.run_perform_quiet _ handled]
  · rwa [Program.run_perform_quiet _ handledToo]

/-- What is true of an item for one table is true for a table with the same rows of the
user. -/
theorem TrueStatus.of_rowsOf {table otherTable : LikesTable} {item : ContentItem}
    {status : ContentStatus} (true : TrueStatus table userId item status)
    (same : rowsOf userId table = rowsOf userId otherTable) :
    TrueStatus otherTable userId item status := by
  have rows : ∀ row : Like, row.key = (userId, item.contentType, item.contentId) →
      (row ∈ otherTable.rows ↔ row ∈ table.rows) := by
    intro row own
    have user : row.userId = userId := congrArg Prod.fst own
    have member : row ∈ rowsOf userId otherTable ↔ row ∈ rowsOf userId table := by rw [same]
    rwa [mem_rowsOf, mem_rowsOf, and_iff_left user, and_iff_left user] at member
  refine ⟨true.about, ?_, ?_⟩
  · intro row member own
    exact true.liked row ((rows row own).mp member) own
  · intro absent
    apply true.notLiked
    intro row member own
    exact absent row ((rows row own).mpr member) own

/-- A page is made of the rows of the user. -/
theorem getUserLikes_eq_of_rowsOf {table otherTable : LikesTable}
    (same : rowsOf userId table = rowsOf userId otherTable) (contentType : Option String)
    (cursor : Option PaginationCursor) (limit : Nat) :
    getUserLikes none userId contentType cursor limit table =
      getUserLikes none userId contentType cursor limit otherTable := by
  have rows : ∀ table : LikesTable, table.rows.filter (onPage userId contentType cursor) =
      (rowsOf userId table).filter (onPage userId contentType cursor) := by
    intro table
    rw [rowsOf, List.filter_filter]
    apply List.filter_congr
    intro row _
    simp only [onPage]
    grind
  simp only [getUserLikes, rows, same]

/-- The single status is that of the rows of the user. -/
theorem sameAnswer_getLikeStatus (healthy : (one 0).fault = none)
    (healthyToo : (two 0).fault = none)
    (same : rowsOf userId world.likes = rowsOf userId other.likes) (contentType : ContentType)
    (contentId : ContentId) :
    SameAnswer setting (getLikeStatus userId contentType contentId) one two world other := by
  obtain ⟨response, ran, right⟩ := getLikeStatus_true healthy ⟨contentType, contentId⟩
  obtain ⟨answer, ranToo, rightToo⟩ := getLikeStatus_true healthyToo ⟨contentType, contentId⟩
  have equal := (right.of_rowsOf same).unique rightToo
  obtain rfl : response = answer := by
    cases response
    cases answer
    simpa [StatusResponse.about] using equal
  exact ⟨_, _, _, ran, ranToo⟩

/-- So is each status of a batch. -/
theorem sameAnswer_getBatchStatus (healthy : (one 0).fault = none)
    (healthyToo : (two 0).fault = none)
    (same : rowsOf userId world.likes = rowsOf userId other.likes) (items : List ContentItem) :
    SameAnswer setting (getBatchStatus userId items) one two world other := by
  by_cases small : items.length ≤ 100
  · obtain ⟨rows, answered⟩ : ∃ rows,
        getLikesByPairs none (one 0).order userId items world.likes = .ok rows := ⟨_, rfl⟩
    obtain ⟨otherRows, answeredToo⟩ : ∃ rows,
        getLikesByPairs none (two 0).order userId items other.likes = .ok rows := ⟨_, rfl⟩
    have entries : items.map (statusIn rows) = items.map (statusIn otherRows) := by
      apply List.map_congr_left
      intro item requested
      have right := (statusIn_true answered requested).of_rowsOf same
      exact right.unique (statusIn_true answeredToo requested)
    refine ⟨.ok (items.map (statusIn rows)), world.advance (one 0), other.advance (two 0),
      ?_, ?_⟩
    · rw [getBatchStatus_run small, healthy, answered]
      rfl
    · rw [getBatchStatus_run small, healthyToo, answeredToo, entries]
      rfl
  · unfold getBatchStatus
    rw [if_pos (not_le.mp small)]
    exact ⟨_, _, _, rfl, rfl⟩

/-- A page, and its cursor, are made of the rows of the user. -/
theorem sameAnswer_getUserLikedItems (healthy : (one 0).fault = none)
    (healthyToo : (two 0).fault = none)
    (same : rowsOf userId world.likes = rowsOf userId other.likes)
    (contentType : Option String) (cursorStr : Option String) (limit : Nat) :
    SameAnswer setting (getUserLikedItems setting userId contentType cursorStr limit) one two
      world other := by
  unfold getUserLikedItems
  cases PaginationCursor.decodeOpt setting.cursorJson cursorStr with
  | error e => exact ⟨_, _, _, rfl, rfl⟩
  | ok cursor =>
  cases addOne setting limit with
  | panicked message => exact ⟨_, _, _, rfl, rfl⟩
  | done probe =>
  have handled : World.handle setting (one 0) (.dbGetUserLikes userId contentType cursor probe)
      world = some (getUserLikes none userId contentType cursor probe world.likes,
        world.advance (one 0), []) := by
    rw [← healthy]
    rfl
  have handledToo : World.handle setting (two 0)
      (.dbGetUserLikes userId contentType cursor probe) other =
        some (getUserLikes none userId contentType cursor probe world.likes,
          other.advance (two 0), []) := by
    rw [getUserLikes_eq_of_rowsOf same contentType cursor probe, ← healthyToo]
    rfl
  simp only [Program.request_bind]
  apply sameAnswer_perform handled handledToo
  cases getUserLikes none userId contentType cursor probe world.likes with
  | error e => exact sameAnswer_ret _
  | ok items =>
      dsimp only
      split
      · cases lastKept setting items limit <;> exact sameAnswer_ret _
      · exact sameAnswer_ret _

/-- The rows of the user are all that the user is shown. -/
theorem sameView_of_rowsOf (healthy : (one 0).fault = none) (healthyToo : (two 0).fault = none)
    (same : rowsOf userId world.likes = rowsOf userId other.likes) :
    SameView setting userId one two world other where
  status := sameAnswer_getLikeStatus healthy healthyToo same
  batch := sameAnswer_getBatchStatus healthy healthyToo same
  page := sameAnswer_getUserLikedItems healthy healthyToo same

end Views

/-! ### What a call of the user writes -/

/-- A like or an unlike as its user makes it, with what it is told from outside: the verdict
on its content and, if it is a like, the time on the clock and the id that the database
generates for a row.  What becomes of it is not said. -/
structure OwnCall where
  change : Change
  verdict : Except DomainError Uuid
  now : DateTime
  newId : Uuid

/-- The row that the call ought to insert or delete: none if its content is refused. -/
def OwnCall.write (own : OwnCall) : Option TableWrite :=
  match own.verdict, own.change with
  | .ok _, ⟨.like, userId, contentType, contentId⟩ =>
      some (.insert
        { id := 0
          userId := userId
          contentType := contentType
          contentId := contentId
          createdAt := own.now } own.newId)
  | .ok _, ⟨.unlike, key⟩ => some (.delete key)
  | _, _ => none

/-- The verdict, where the step asks for one. -/
def LikeOp.verdict : (op : LikeOp) → op.Res → Option (Except DomainError Uuid)
  | .validateContent _ _, verdict => some verdict
  | _, _ => none

/-- The time, where the step reads the clock. -/
def LikeOp.reading : (op : LikeOp) → op.Res → Option DateTime
  | .utcNow, now => some now
  | _, _ => none

def LikeOp.inserts : LikeOp → Bool
  | .dbSave _ => true
  | _ => false

/-- What a call has been told, and the steps that it has taken. -/
structure Course where
  call : LikeCall
  verdict : Option (Except DomainError Uuid)
  reading : Option DateTime
  ops : List LikeOp

namespace Course

def start (call : LikeCall) : Course := ⟨call, none, none, []⟩

/-- The first verdict and the first time that a call is told stay. -/
def advance (course : Course) (op : LikeOp) (answer : op.Res) : Course where
  call := course.call
  verdict := course.verdict.or (op.verdict answer)
  reading := course.reading.or (op.reading answer)
  ops := course.ops ++ [op]

/-- What the steps write, if the given id is generated. -/
def writes (newId : Uuid) (course : Course) : List TableWrite :=
  course.ops.filterMap (LikeOp.write newId)

/-- The call has been made, and told nothing else than is recorded. -/
structure Matches (own : OwnCall) (course : Course) : Prop where
  call : course.call.change = some own.change
  verdict : ∀ verdict ∈ course.verdict, verdict = own.verdict
  reading : own.change.kind = .like → ∀ now ∈ course.reading, now = own.now

/-- The call has written what it ought to. -/
def Settled (course : Course) : Prop :=
  ∀ own, course.Matches own → course.writes own.newId = own.write.toList

/-- Nothing has been written since, and what had been told is still known. -/
structure Continues (course reached : Course) : Prop where
  call : reached.call = course.call
  verdict : ∀ verdict ∈ course.verdict, verdict ∈ reached.verdict
  reading : ∀ now ∈ course.reading, now ∈ reached.reading
  writes : ∀ newId, reached.writes newId = course.writes newId

theorem Matches.of_continues {own : OwnCall} {course reached : Course}
    (fits : reached.Matches own) (continues : course.Continues reached) : course.Matches own where
  call := continues.call ▸ fits.call
  verdict := fun verdict told => fits.verdict verdict (continues.verdict verdict told)
  reading := fun adds now told => fits.reading adds now (continues.reading now told)

theorem Settled.continues {course reached : Course} (settled : course.Settled)
    (continues : course.Continues reached) : reached.Settled := by
  intro own fits
  rw [continues.writes]
  exact settled own (fits.of_continues continues)

end Course

/-- A step that leaves the rows alone writes nothing. -/
theorem LeavesRows.write {op : LikeOp} (leaves : LeavesRows op) (newId : Uuid) :
    op.write newId = none := by
  cases op with
  | dbSave like => cases leaves
  | dbRemove userId contentType contentId => cases leaves
  | _ => rfl

theorem LeavesRows.continues {op : LikeOp} (leaves : LeavesRows op) (course : Course)
    (answer : op.Res) : course.Continues (course.advance op answer) where
  call := rfl
  verdict := fun verdict told => by simp [Course.advance, Option.mem_def.mp told]
  reading := fun now told => by simp [Course.advance, Option.mem_def.mp told]
  writes := fun newId => by
    rw [Course.writes, Course.advance, List.filterMap_append]
    simp [leaves.write newId, Course.writes]

/-- The program keeps the record, and ends as stated. -/
abbrev Keeps {α : Type} (final : Course → α → Prop) (program : Service α) (course : Course) :
    Prop :=
  program.Obeys Course.advance (fun _ _ => True) (fun _ _ _ => True) final course

/-- Once the call has written what it ought to, steps that leave the rows alone keep it so. -/
theorem settled_of_leavesRows {α : Type} {program : Service α} {course : Course}
    (leaves : program.Performs LeavesRows) (settled : course.Settled) :
    Keeps (fun reached _ => reached.Settled) program course := by
  induction program generalizing course with
  | ret value => exact settled
  | perform op next inductionHypothesis =>
      refine ⟨trivial, fun answer _ => ?_⟩
      exact inductionHypothesis answer (leaves.2 answer)
        (settled.continues (leaves.1.continues course answer))

/-- `add_like` inserts its row once, with the time it has read, unless its content is
refused. -/
theorem addLike_settles (likeCmd : AddLikeCommand) :
    Keeps (fun reached _ => reached.Settled) (LikeService.addLike likeCmd)
      (.start (.addLike likeCmd)) := by
  simp only [LikeService.addLike, Keeps, Program.request_bind, Program.obeys_perform]
  refine ⟨trivial, fun validated _ => ?_⟩
  cases validated with
  | error e =>
      rintro ⟨change, verdict, now, newId⟩ fits
      obtain rfl : likeCmd.change = change := Option.some.inj fits.call
      obtain rfl := fits.verdict _ rfl
      rfl
  | ok id =>
  refine ⟨trivial, fun createdAt _ => ⟨trivial, fun saved _ => ?_⟩⟩
  apply settled_of_leavesRows
  · cases saved with
    | error e => trivial
    | ok existed =>
        cases existed with
        | true => exact addExistingLike_leavesRows likeCmd
        | false => exact addNewLike_leavesRows likeCmd createdAt
  · rintro ⟨change, verdict, now, newId⟩ fits
    obtain rfl : likeCmd.change = change := Option.some.inj fits.call
    obtain rfl := fits.verdict _ rfl
    obtain rfl := fits.reading rfl _ rfl
    rfl

/-- `remove_like` deletes its row once, unless its content is refused. -/
theorem removeLike_settles (userId : UserId) (contentType : ContentType)
    (contentId : ContentId) :
    Keeps (fun reached _ => reached.Settled)
      (LikeService.removeLike userId contentType contentId)
      (.start (.removeLike userId contentType contentId)) := by
  simp only [LikeService.removeLike, Keeps, Program.request_bind, Program.obeys_perform]
  refine ⟨trivial, fun validated _ => ?_⟩
  cases validated with
  | error e =>
      rintro ⟨change, verdict, now, newId⟩ fits
      obtain rfl : ⟨.unlike, userId, contentType, contentId⟩ = change :=
        Option.some.inj fits.call
      obtain rfl := fits.verdict _ rfl
      rfl
  | ok id =>
  refine ⟨trivial, fun deleted _ => ?_⟩
  apply settled_of_leavesRows
  · cases deleted with
    | error e => trivial
    | ok wasLiked =>
        apply (getLikeCountWithFallback_leavesRows _ _).bind
        intro counted
        cases counted with
        | error e => trivial
        | ok currCount => exact removedLike_leavesRows _ _ _ wasLiked currCount
  · rintro ⟨change, verdict, now, newId⟩ fits
    obtain rfl : ⟨.unlike, userId, contentType, contentId⟩ = change :=
      Option.some.inj fits.call
    obtain rfl := fits.verdict _ rfl
    rfl

/-- A call that comes back comes back with a reply, and has written what it ought to. -/
def Course.Ends (course : Course) (outcome : LikeCall ⊕ LikeReply) : Prop :=
  (∃ reply, outcome = .inr reply) ∧ course.Settled

theorem ends_of_settles {α : Type} {program : Service α} {course : Course}
    (wrap : α → LikeReply) (settles : Keeps (fun reached _ => reached.Settled) program course) :
    Keeps Course.Ends (program >>= fun value => pure (.inr (wrap value))) course := by
  apply settles.bind
  intro reached value settled
  exact ⟨⟨wrap value, rfl⟩, settled⟩

/-- A call that is neither a like nor an unlike writes nothing. -/
theorem ends_of_confined {call : LikeCall} {program : Service (LikeCall ⊕ LikeReply)}
    {course : Course} (confined : Confined call program) (reads : call.change = none)
    (settled : course.Settled) : Keeps Course.Ends program course := by
  induction program generalizing course with
  | ret outcome => exact ⟨confined, settled⟩
  | perform op next inductionHypothesis =>
      have leaves : LeavesRows op := by
        apply Option.eq_none_iff_forall_ne_some.mpr
        intro change attempted
        exact absurd (reads.symm.trans (confined.1 change attempted)) (by simp)
      refine ⟨trivial, fun answer _ => ?_⟩
      exact inductionHypothesis answer (confined.2 answer trivial)
        (settled.continues (leaves.continues course answer))

/-- A call that is neither a like nor an unlike is none of those that are recorded. -/
theorem settled_start {call : LikeCall} (reads : call.change = none) :
    (Course.start call).Settled := by
  intro own fits
  exact absurd (reads.symm.trans fits.call) (by simp)

/-- Every call writes what it ought to. -/
theorem body_ends (setting : Setting) (call : LikeCall) :
    Keeps Course.Ends (call.body setting) (.start call) := by
  cases call with
  | addLike likeCmd => exact ends_of_settles _ (addLike_settles likeCmd)
  | removeLike userId contentType contentId =>
      exact ends_of_settles _ (removeLike_settles userId contentType contentId)
  | _ => exact ends_of_confined (body_ownWrites setting _) rfl (settled_start rfl)

section Calls

variable {setting : Setting} {userId : UserId} {world : World} {calls : List LikeCall}
  {trace : List (Event (likeService setting))} {last : Pool (likeService setting)}

/-- What a thread has been told and done, read off the trace. -/
theorem course_of_steps (i : Nat) (call : LikeCall) (trace : List (Event (likeService setting))) :
    controlAfter Course.advance i (.start call) trace =
      { call := call
        verdict := (stepsOf i trace).findSome? fun event => event.op.verdict event.res
        reading := (stepsOf i trace).findSome? fun event => event.op.reading event.res
        ops := (stepsOf i trace).map Event.op } := by
  induction trace using List.reverseRecOn with
  | nil => rfl
  | append_singleton trace event inductionHypothesis =>
      by_cases own : event.thread = i
      · subst own
        rw [controlAfter_concat_self, inductionHypothesis, stepsOf_concat_self]
        simp [Course.advance, List.findSome?_append]
      · rw [controlAfter_concat_other _ trace own, stepsOf_concat_other trace own,
          inductionHypothesis]

/-- The call of the thread is the one recorded, and has come back; what it was told first from
outside is what is recorded. -/
@[mk_iff] structure AnsweredAs (trace : List (Event (likeService setting)))
    (last : Pool (likeService setting)) (i : Nat) (own : OwnCall) : Prop where
  returned : ∃ thread ∈ last.threads[i]?, thread.call.change = some own.change ∧ thread.Returned
  verdict : ∀ verdict ∈ (stepsOf i trace).findSome? fun event => event.op.verdict event.res,
    verdict = own.verdict
  now : own.change.kind = .like →
    ∀ now ∈ (stepsOf i trace).findSome? fun event => event.op.reading event.res, now = own.now
  newId : ∀ event ∈ stepsOf i trace, event.op.inserts = true → event.env.newId = own.newId

instance (trace : List (Event (likeService setting))) (last : Pool (likeService setting))
    (i : Nat) (own : OwnCall) : Decidable (AnsweredAs trace last i own) :=
  decidable_of_iff' _ (answeredAs_iff trace last i own)

/-- A call that has come back has written what it ought to, and nothing else. -/
theorem writes_of_call {i : Nat} {own : OwnCall}
    (run : Run (M := likeService setting) (Pool.start world calls) trace last)
    (answered : AnsweredAs trace last i own) :
    ((stepsOf i trace).filterMap fun event => event.op.write event.env.newId) =
      own.write.toList := by
  obtain ⟨⟨call, rest⟩, at_i, same, reply, returned⟩ := answered.returned
  dsimp only at same returned
  subst returned
  have ended := (Run.obeys (M := likeService setting) (body_ends setting)
    (by rintro _ _ ⟨⟨_, ⟨⟩⟩, _⟩) run (fun _ _ _ _ => trivial)).1.obeys i _ at_i
  rw [course_of_steps] at ended
  have wrote := ended.2 own ⟨same, answered.verdict, answered.now⟩
  rw [← wrote, Course.writes, List.filterMap_map]
  apply List.filterMap_congr
  intro event member
  have sameId := answered.newId event member
  cases op : event.op with
  | dbSave like =>
      rw [Function.comp_apply, op, sameId (by rw [op]; rfl)]
  | _ =>
      rw [Function.comp_apply, op]
      rfl

/-- The threads that run likes and unlikes of the user. -/
def threadsOf (userId : UserId) (pool : Pool (likeService setting)) : List Nat :=
  (List.range pool.threads.length).filter fun i =>
    pool.threads[i]?.any fun thread => thread.call.user = some userId

/-- The likes and unlikes of the user in a run, and the threads that make them, in the order
in which they come to the table: each has come back and was told what is recorded. -/
@[mk_iff] structure MakesCalls (userId : UserId) (asked : List OwnCall) (threads : List Nat)
    (trace : List (Event (likeService setting))) (last : Pool (likeService setting)) :
    Prop where
  all : threads.Perm (threadsOf userId last)
  answered : List.Forall₂ (AnsweredAs trace last) threads asked
  inOrder : (trace.filter fun event => (writeBy userId event).isSome).Pairwise
    fun event later => threads.idxOf event.thread ≤ threads.idxOf later.thread

instance (userId : UserId) (asked : List OwnCall) (threads : List Nat)
    (trace : List (Event (likeService setting))) (last : Pool (likeService setting)) :
    Decidable (MakesCalls userId asked threads trace last) :=
  decidable_of_iff' _ (makesCalls_iff userId asked threads trace last)

theorem mem_threadsOf {i : Nat} :
    i ∈ threadsOf userId last ↔
      ∃ thread, last.threads[i]? = some thread ∧ thread.call.user = some userId := by
  rw [threadsOf, List.mem_filter, List.mem_range, Option.any_eq_true]
  simp only [decide_eq_true_eq]
  constructor
  · rintro ⟨_, thread, at_i, own⟩
    exact ⟨thread, at_i, own⟩
  · rintro ⟨thread, at_i, own⟩
    exact ⟨(List.getElem?_eq_some_iff.mp at_i).1, thread, at_i, own⟩

/-- The steps of a thread of the user, as they are numbered by the order of the calls. -/
theorem steps_by_place {threads : List Nat} (distinct : threads.Nodup) {place i : Nat}
    (at_place : threads[place]? = some i) :
    (trace.filter fun event => threads.idxOf event.thread = place) = stepsOf i trace := by
  apply List.filter_congr
  intro event _
  rw [decide_eq_decide]
  obtain ⟨inside, rfl⟩ := List.getElem?_eq_some_iff.mp at_place
  constructor
  · rintro rfl
    exact (List.getElem_idxOf inside).symm
  · intro same
    rw [same]
    exact distinct.idxOf_getElem place inside

/-- A step belongs to a call of the user if it is taken by one of the threads. -/
theorem MakesCalls.mine {asked : List OwnCall} {threads : List Nat}
    (made : MakesCalls userId asked threads trace last)
    (run : Run (M := likeService setting) (Pool.start world calls) trace last)
    {event : Event (likeService setting)} (member : event ∈ trace) :
    event.call.user = some userId ↔ event.thread ∈ threads := by
  obtain ⟨thread, at_thread, call⟩ := run.event_thread event member
  rw [made.all.mem_iff, mem_threadsOf, ← call]
  constructor
  · intro own
    exact ⟨thread, at_thread, own⟩
  · rintro ⟨other, at_other, own⟩
    rw [at_thread] at at_other
    obtain rfl := Option.some.inj at_other
    exact own

/-- Calls that have come back have written what they ought to. -/
theorem writes_of_calls {asked : List OwnCall} {threads : List Nat}
    (run : Run (M := likeService setting) (Pool.start world calls) trace last)
    (answered : List.Forall₂ (AnsweredAs trace last) threads asked) :
    (threads.flatMap fun i =>
        (stepsOf i trace).filterMap fun event => event.op.write event.env.newId) =
      asked.filterMap OwnCall.write := by
  rw [List.filterMap_eq_flatMap_toList]
  induction answered with
  | nil => rfl
  | cons first _ inductionHypothesis =>
      rw [List.flatMap_cons, List.flatMap_cons, writes_of_call run first, inductionHypothesis]

/-- The table writes of the user are those that the user's calls ought to make, in their
order. -/
theorem writesBy_eq {asked : List OwnCall} {threads : List Nat}
    (run : Run (M := likeService setting) (Pool.start world calls) trace last)
    (made : MakesCalls userId asked threads trace last) :
    writesBy userId trace = asked.filterMap OwnCall.write := by
  have distinct : threads.Nodup :=
    made.all.nodup_iff.mpr (List.nodup_range.filter _)
  have bound : ∀ event ∈ trace, (writeBy userId event).isSome = true →
      threads.idxOf event.thread < threads.length := by
    intro event member written
    apply List.idxOf_lt_length_iff.mpr
    apply (made.mine run member).mp
    by_contra other
    rw [writeBy, if_neg other] at written
    cases written
  rw [writesBy, filterMap_by_key (fun event => threads.idxOf event.thread) bound made.inOrder,
    ← writes_of_calls run made.answered]
  apply flatMap_range_length
  intro place i at_place
  rw [steps_by_place distinct at_place]
  apply List.filterMap_congr
  intro event member
  obtain ⟨among, here⟩ := List.mem_filter.mp member
  rw [decide_eq_true_eq] at here
  exact if_pos ((made.mine run among).mpr (here ▸ List.mem_of_getElem? at_place))

end Calls

/-- What a user is shown does not depend on other users.  Two runs of any calls start from one
table, and the user makes the same likes and unlikes in both, in the same order, with the same
verdicts, at the same times and with the same generated ids; whatever the other calls are, all
reads show the user the same after both. -/
theorem same_view (setting : Setting) (userId : UserId) (world other : World)
    (calls otherCalls : List LikeCall) (trace otherTrace : List (Event (likeService setting)))
    (last otherLast : Pool (likeService setting)) (one two : Nat → Surroundings)
    (asked : List OwnCall) (threads otherThreads : List Nat)
    (sameTable : world.likes = other.likes)
    (run : Run (M := likeService setting) (Pool.start world calls) trace last)
    (otherRun : Run (M := likeService setting) (Pool.start other otherCalls) otherTrace otherLast)
    (made : MakesCalls userId asked threads trace last)
    (madeToo : MakesCalls userId asked otherThreads otherTrace otherLast)
    (healthy : HealthyWrites userId trace) (healthyToo : HealthyWrites userId otherTrace)
    (answered : (one 0).fault = none) (answeredToo : (two 0).fault = none) :
    SameView setting userId one two last.state otherLast.state := by
  apply sameView_of_rowsOf answered answeredToo
  rw [rowsOf_run run healthy, rowsOf_run otherRun healthyToo, writesBy_eq run made,
    writesBy_eq otherRun madeToo, sameTable]

/-- User 1 unlikes the first post and then likes the third. -/
def ownCalls : List OwnCall :=
  [⟨⟨.unlike, ⟨1⟩, ⟨"post"⟩, ⟨1⟩⟩, .ok 0, 4000, 7⟩,
   ⟨⟨.like, ⟨1⟩, ⟨"post"⟩, ⟨3⟩⟩, .ok 0, 5000, 8⟩]

/-- The calls that user 1 makes. -/
def callsOfOne : List LikeCall :=
  [.removeLike ⟨1⟩ ⟨"post"⟩ ⟨1⟩, .addLike ⟨⟨1⟩, ⟨3⟩, ⟨"post"⟩⟩]

/-- User 2 likes the first post and unlikes the second. -/
def callsOfTwo : List LikeCall :=
  [.addLike ⟨⟨2⟩, ⟨1⟩, ⟨"post"⟩⟩, .removeLike ⟨2⟩ ⟨"post"⟩ ⟨2⟩]

/-- The thread takes a number of steps, at a time and with a generated id. -/
def turnsFor (thread steps : Nat) (now : DateTime) (newId : Uuid) : List (Nat × Surroundings) :=
  List.replicate steps (thread, { Surroundings.calm with now := now, newId := newId })

/-- The schedule in which user 1 is alone. -/
def ownTurns : List (Nat × Surroundings) := turnsFor 0 12 4000 7 ++ turnsFor 1 6 5000 8

/-- The schedule in which user 2 unlikes and likes the same posts in between. -/
def sharedTurns : List (Nat × Surroundings) :=
  turnsFor 0 3 1000 9 ++ turnsFor 2 1 4000 7 ++ turnsFor 1 2 1000 9 ++ turnsFor 2 1 4000 7 ++
    turnsFor 3 3 5000 8 ++ turnsFor 0 3 6000 10 ++ turnsFor 2 4 6000 10 ++ turnsFor 3 3 6000 10

/-- User 2 likes the first post and unlikes the second while user 1 is at work, which user 1
is not shown. -/
theorem same_view_crossed :
    ∃ trace last otherTrace otherLast,
      Run (M := likeService .reference)
        (Pool.start (.new crossedLikes .empty 0) callsOfOne) trace last ∧
      Run (M := likeService .reference)
        (Pool.start (.new crossedLikes .empty 0)
          (callsOfTwo ++ callsOfOne)) otherTrace otherLast ∧
      SameView .reference ⟨1⟩ (fun _ => .calm) (fun _ => .calm) last.state otherLast.state := by
  obtain ⟨trace, last, run, passed⟩ := Run.exists_of_exec (M := likeService .reference)
    ownTurns (Pool.start (.new crossedLikes .empty 0) callsOfOne)
    (fun trace last => decide (MakesCalls ⟨1⟩ ownCalls [0, 1] trace last) &&
      decide (HealthyWrites ⟨1⟩ trace))
    (by decide +kernel)
  obtain ⟨otherTrace, otherLast, otherRun, passedToo⟩ := Run.exists_of_exec
    (M := likeService .reference) sharedTurns
    (Pool.start (.new crossedLikes .empty 0) (callsOfTwo ++ callsOfOne))
    (fun trace last => decide (MakesCalls ⟨1⟩ ownCalls [2, 3] trace last) &&
      decide (HealthyWrites ⟨1⟩ trace))
    (by decide +kernel)
  obtain ⟨made, healthy⟩ := Bool.and_eq_true_iff.mp passed
  obtain ⟨madeToo, healthyToo⟩ := Bool.and_eq_true_iff.mp passedToo
  refine ⟨trace, last, otherTrace, otherLast, run, otherRun, ?_⟩
  exact same_view .reference ⟨1⟩ _ _ _ _ _ _ _ _ _ _ ownCalls [0, 1] [2, 3] rfl run otherRun
    (of_decide_eq_true made) (of_decide_eq_true madeToo) (of_decide_eq_true healthy)
    (of_decide_eq_true healthyToo) rfl rfl

end SocialApi
