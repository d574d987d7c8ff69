/-
Module: SocialApi.Proofs.Pagination
Purpose: Following next_cursor through the liked items of a user neither skips nor
  repeats a row, however the table changes between the pages.
Trusted boundary: none
Main exports:
  Answers, Follows, answers_iff, Follows.walk, pages_neither_skip_nor_repeat
-/
import SocialApi.Application.LikeService
import SocialApi.Order.Keyset

namespace SocialApi

open Process
open LikeService
open PostgresLikeRepository (pageKey cursorKey onPage)

/-- A position among the rows of a user. -/
abbrev PagePosition := DateTime ×ₗ Uuid

/-- The user's rows of the asked type. -/
def matching (userId : UserId) (contentType : Option String) (table : LikesTable) :
    List Like :=
  table.rows.filter (onPage userId contentType none)

/-- What one page request finds. -/
structure Visit where
  environment : Nat → Surroundings
  world : World

/-- The request that runs alone comes back with the page. -/
def Answers (setting : Setting) (userId : UserId) (contentType : Option String)
    (limit : Nat) (cursorStr : Option String) (visit : Visit)
    (response : UserLikesResponse) : Prop :=
  ∃ after spawned,
    (getUserLikedItems setting userId contentType cursorStr limit).run
      (World.handle setting) visit.environment visit.world =
        some (.done (.ok response), after, spawned)

/-- A client follows `next_cursor` from one page to the next; every request finds
the table as it then is.  The last index is the `next_cursor` of the last page. -/
inductive Follows (setting : Setting) (userId : UserId) (contentType : Option String)
    (limit : Nat) :
    Option String → List Visit → List UserLikesResponse → Option String → Prop where
  | one {cursorStr : Option String} {visit : Visit} {response : UserLikesResponse}
      (answers : Answers setting userId contentType limit cursorStr visit response) :
      Follows setting userId contentType limit cursorStr [visit] [response]
        response.nextCursor
  | more {cursorStr ending : Option String} {visit : Visit} {visits : List Visit}
      {response : UserLikesResponse} {responses : List UserLikesResponse} {next : String}
      (answers : Answers setting userId contentType limit cursorStr visit response)
      (goesOn : response.nextCursor = some next)
      (rest : Follows setting userId contentType limit (some next) visits responses
        ending) :
      Follows setting userId contentType limit cursorStr (visit :: visits)
        (response :: responses) ending

/-! ### Positions and their texts -/

/-- The cursor that stands for a position. -/
def cursorAt (position : PagePosition) : PaginationCursor :=
  ⟨(ofLex position).1, (ofLex position).2⟩

/-- The text a client is given for a position. -/
def cursorText (json : CursorJson) : Option PagePosition → Option String :=
  Option.map fun position => (cursorAt position).encode json

/-- A position a stored row can have. -/
def Stamped (bound : Option PagePosition) : Prop :=
  ∀ position ∈ bound, DateTime.toTimestamptz (ofLex position).1 = (ofLex position).1

/-- The response for a page of rows. -/
def pageResponse (json : CursorJson) (shown : List Like × Option PagePosition) :
    UserLikesResponse where
  items := shown.1.map .ofLike
  nextCursor := cursorText json shown.2

theorem decodeOpt_cursorText (json : CursorJson) (bound : Option PagePosition) :
    PaginationCursor.decodeOpt json (cursorText json bound) =
      .ok (bound.map cursorAt) := by
  cases bound with
  | none => rfl
  | some position => exact PaginationCursor.decodeOpt_encode json (cursorAt position)

/-- On stored rows the `WHERE` clause asks for what lies below the position. -/
theorem onPage_cursorAt {bound : Option PagePosition} (stamped : Stamped bound)
    (userId : UserId) (contentType : Option String) (row : Like) :
    onPage userId contentType (bound.map cursorAt) row =
      (onPage userId contentType none row &&
        decide (Keyset.Below pageKey bound row)) := by
  cases bound with
  | none => simp [onPage, Keyset.Below]
  | some position =>
      have same : cursorKey (cursorAt position) = position := by
        unfold cursorKey cursorAt
        rw [stamped position rfl]
        rfl
      simp [onPage, Keyset.Below, same, Bool.and_assoc]

theorem matching_distinct (userId : UserId) (contentType : Option String)
    (table : LikesTable) :
    ((matching userId contentType table).map pageKey).Nodup := by
  have ids : ((matching userId contentType table).map Like.id).Nodup :=
    table.primaryKey.sublist (List.filter_sublist.map Like.id)
  apply List.Nodup.of_map (fun position : PagePosition => (ofLex position).2)
  rw [List.map_map]
  exact ids

/-- The position of the page after is one of a stored row. -/
theorem page_stamped {userId : UserId} {contentType : Option String}
    {table : LikesTable} {limit : Nat} {bound : Option PagePosition} {k : PagePosition}
    (positive : 0 < limit)
    (next : (Keyset.page pageKey limit bound
      (matching userId contentType table)).2 = some k) : Stamped (some k) := by
  intro position same
  obtain rfl := Option.some.inj same
  obtain ⟨front, last, _, shown, rfl, _⟩ := Keyset.page_more positive next
  have lastShown : last ∈
      (Keyset.page pageKey limit bound (matching userId contentType table)).1 := by
    simp [shown]
  have stored := (Keyset.mem_of_mem_page lastShown).1
  exact table.timestamps last (List.mem_filter.mp stored).1

/-! ### One page request -/

/-- What a page request makes of the rows that it is given. -/
def pageOf (setting : Setting) (limit : Nat) (items : List Like) :
    Outcome (Except DomainError UserLikesResponse) :=
  if limit < items.length then
    match lastKept setting items limit with
    | .panicked message => .panicked message
    | .done lastItem => .done (.ok
        { items := (items.take limit).map .ofLike
          nextCursor := some (PaginationCursor.encode setting.cursorJson
            { t := lastItem.createdAt, id := lastItem.id }) })
  else .done (.ok { items := items.map .ofLike, nextCursor := none })

/-- A page request with a cursor that can be read asks for one row more than its limit. -/
theorem getUserLikedItems_decoded {setting : Setting} {userId : UserId}
    {contentType cursorStr : Option String} {cursor : Option PaginationCursor} {limit : Nat}
    (decoded : PaginationCursor.decodeOpt setting.cursorJson cursorStr = .ok cursor)
    (fits : limit + 1 < 2 ^ 64) :
    getUserLikedItems setting userId contentType cursorStr limit =
      .perform (.dbGetUserLikes userId contentType cursor (limit + 1))
        fun answer => match answer with
          | .error e => .ret (.done (.error e))
          | .ok items => .ret (pageOf setting limit items) := by
  have probed : addOne setting limit = .done (limit + 1) := if_pos fits
  unfold getUserLikedItems
  rw [decoded, probed]
  simp only [Program.request_bind]
  apply congrArg
  funext answer
  cases answer with
  | error e => rfl
  | ok items =>
      dsimp only [pageOf]
      split
      · cases lastKept setting items limit <;> rfl
      · rfl

section Request

variable {setting : Setting} {userId : UserId} {contentType : Option String}
  {limit : Nat} (positive : 1 ≤ limit) (fits : limit + 1 ≤ 2 ^ 63 - 1)
include positive fits

/-- The query returns the front of what is left below the position. -/
theorem getUserLikes_eq {bound : Option PagePosition} (stamped : Stamped bound)
    (table : LikesTable) :
    PostgresLikeRepository.getUserLikes none userId contentType (bound.map cursorAt)
        (limit + 1) table =
      .ok ((Keyset.remaining pageKey bound (matching userId contentType table)).take
        (limit + 1)) := by
  have accepted : ¬ PostgresLikeRepository.asI64 (limit + 1) < 0 := by
    unfold PostgresLikeRepository.asI64
    rw [if_pos (by omega)]
    omega
  unfold PostgresLikeRepository.getUserLikes Keyset.remaining matching
  dsimp only
  rw [if_neg accepted, List.filter_filter]
  have sameRows : table.rows.filter (onPage userId contentType (bound.map cursorAt)) =
      table.rows.filter fun row => decide (Keyset.Below pageKey bound row) &&
        onPage userId contentType none row := by
    apply List.filter_congr
    intro row _
    rw [onPage_cursorAt stamped, Bool.and_comm]
  rw [sameRows]

/-- What the request makes of the queried rows is the page. -/
theorem getUserLikedItems_eq (bound : Option PagePosition) :
    getUserLikedItems setting userId contentType
        (cursorText setting.cursorJson bound) limit =
      .perform (.dbGetUserLikes userId contentType (bound.map cursorAt) (limit + 1))
        fun answer => match answer with
          | .error e => .ret (.done (.error e))
          | .ok items =>
              .ret (.done (.ok (pageResponse setting.cursorJson
                (if limit < items.length then
                  (items.take limit, items[limit - 1]?.map pageKey)
                else (items, none))))) := by
  rw [getUserLikedItems_decoded (decodeOpt_cursorText _ bound) (by omega)]
  apply congrArg
  funext answer
  cases answer with
  | error e => rfl
  | ok items =>
      dsimp only [pageOf]
      by_cases more : limit < items.length
      · have inside : limit - 1 < items.length := by omega
        have kept : lastKept setting items limit = .done items[limit - 1] := by
          unfold lastKept
          rw [if_neg (by omega), if_neg (by omega)]
          simp only [List.getElem?_eq_getElem inside]
        rw [if_pos more, if_pos more, kept, List.getElem?_eq_getElem inside]
        rfl
      · rw [if_neg more, if_neg more]
        rfl

/-- A page request is answered exactly when the database is, and then with the page
below its position. -/
theorem answers_iff {bound : Option PagePosition} (stamped : Stamped bound)
    {visit : Visit} {response : UserLikesResponse} :
    Answers setting userId contentType limit (cursorText setting.cursorJson bound) visit
        response ↔
      (visit.environment 0).fault = none ∧
        response = pageResponse setting.cursorJson
          (Keyset.page pageKey limit bound
            (matching userId contentType visit.world.likes)) := by
  unfold Answers
  rw [getUserLikedItems_eq positive fits bound]
  simp only [Program.run_perform, World.handle, World.serve, World.advance,
    Option.some.injEq, Prod.mk.injEq]
  cases fault : (visit.environment 0).fault with
  | some e =>
      constructor
      · rintro ⟨_, _, answer, _, _, _, ⟨rfl, _⟩, ran, _⟩
        simp [PostgresLikeRepository.getUserLikes] at ran
      · rintro ⟨absurd, _⟩
        cases absurd
  | none =>
      rw [getUserLikes_eq positive fits stamped]
      constructor
      · rintro ⟨_, _, answer, _, _, _, ⟨rfl, _⟩, ran, _⟩
        simp only [Program.run_ret, Option.some.injEq, Prod.mk.injEq] at ran
        exact ⟨rfl, (Except.ok.inj (Outcome.done.inj ran.1)).symm⟩
      · rintro ⟨_, rfl⟩
        exact ⟨_, [], _, _, [], [], ⟨rfl, rfl, rfl⟩, rfl, rfl⟩

/-! ### Walks -/

/-- Whoever follows `next_cursor` walks over the rows page by page. -/
theorem Follows.walk {bound : Option PagePosition} (stamped : Stamped bound)
    {visits : List Visit} {responses : List UserLikesResponse} {ending : Option String}
    {cursorStr : Option String} (stands : cursorStr = cursorText setting.cursorJson bound)
    (follows : Follows setting userId contentType limit cursorStr visits responses
      ending) :
    ∃ pages last,
      Keyset.Walk pageKey limit bound
        (visits.map fun visit => matching userId contentType visit.world.likes)
        pages last ∧
      responses.map UserLikesResponse.items = pages.map (List.map .ofLike) ∧
      ending = cursorText setting.cursorJson last := by
  induction follows generalizing bound with
  | one answers =>
      subst stands
      obtain ⟨_, rfl⟩ := (answers_iff positive fits stamped).mp answers
      exact ⟨_, _, .one bound _, rfl, rfl⟩
  | more answers goesOn rest inductionHypothesis =>
      subst stands
      obtain ⟨_, rfl⟩ := (answers_iff positive fits stamped).mp answers
      obtain ⟨k, next, text⟩ := Option.map_eq_some_iff.mp goesOn
      obtain ⟨pages, last, walk, shown, ended⟩ :=
        inductionHypothesis (page_stamped positive next) (by rw [← text]; rfl)
      exact ⟨_, last, .more next walk, by rw [List.map_cons, List.map_cons, shown]; rfl,
        ended⟩

/-- Every walk over the rows is followed, as long as the database answers. -/
theorem Follows.of_walk {bound last : Option PagePosition} (stamped : Stamped bound)
    {tables pages : List (List Like)}
    (walk : Keyset.Walk pageKey limit bound tables pages last) {visits : List Visit}
    (found : tables =
      visits.map fun visit => matching userId contentType visit.world.likes)
    (healthy : ∀ visit ∈ visits, (visit.environment 0).fault = none) :
    ∃ responses,
      Follows setting userId contentType limit (cursorText setting.cursorJson bound)
        visits responses (cursorText setting.cursorJson last) ∧
      responses.map UserLikesResponse.items = pages.map (List.map .ofLike) := by
  induction walk generalizing visits with
  | one bound rows =>
      obtain ⟨visit, rfl, rfl⟩ := List.map_eq_singleton_iff.mp found.symm
      have answers : Answers setting userId contentType limit
          (cursorText setting.cursorJson bound) visit _ :=
        (answers_iff positive fits stamped).mpr ⟨healthy visit (by simp), rfl⟩
      exact ⟨[_], .one answers, rfl⟩
  | @more bound rows k tables pages last next rest inductionHypothesis =>
      obtain ⟨visit, visits, rfl, rfl, rfl⟩ := List.map_eq_cons_iff.mp found.symm
      obtain ⟨responses, follows, shown⟩ :=
        inductionHypothesis (page_stamped positive next) rfl
          fun visit member => healthy visit (by simp [member])
      have answers : Answers setting userId contentType limit
          (cursorText setting.cursorJson bound) visit _ :=
        (answers_iff positive fits stamped).mpr ⟨healthy visit (by simp), rfl⟩
      refine ⟨_ :: responses, .more answers ?_ follows, ?_⟩
      · rw [pageResponse, next]
        rfl
      · rw [List.map_cons, List.map_cons, shown]
        rfl

end Request

/-- The pages shown on a walk are rows of the tables they were read from, newest
first and none twice; once the walk has ended, every row that was there all the time
has been shown exactly once. -/
structure NeitherSkipsNorRepeats (userId : UserId) (contentType : Option String)
    (visits : List Visit) (pages : List (List Like)) (ending : Option String) : Prop where
  sound : List.Forall₂ (fun visit shown => ∀ row ∈ shown,
    row ∈ matching userId contentType visit.world.likes) visits pages
  decreasing : pages.flatten.Pairwise fun earlier later => pageKey later < pageKey earlier
  noRepeat : pages.flatten.Nodup
  noSkip : ending = none → ∀ row,
    (∀ visit ∈ visits, row ∈ matching userId contentType visit.world.likes) →
      pages.flatten.count row = 1

section Paging

variable {setting : Setting} {limit : Nat} (positive : 1 ≤ limit) (fits : limit + 1 ≤ 2 ^ 63 - 1)
  {userId : UserId} {contentType : Option String}

include positive fits

/-- The pages shown from the first one on, over any tables. -/
theorem Follows.neitherSkipsNorRepeats {visits : List Visit}
    {responses : List UserLikesResponse} {ending : Option String}
    (follows : Follows setting userId contentType limit none visits responses ending) :
    ∃ pages : List (List Like),
      responses.map UserLikesResponse.items = pages.map (List.map .ofLike) ∧
        NeitherSkipsNorRepeats userId contentType visits pages ending := by
  have unbounded : Stamped none := by simp [Stamped]
  obtain ⟨pages, last, walk, shown, ended⟩ := follows.walk positive fits unbounded rfl
  have distinct : ∀ rows ∈ visits.map fun visit =>
      matching userId contentType visit.world.likes, (rows.map pageKey).Nodup := by
    intro rows member
    obtain ⟨visit, _, rfl⟩ := List.mem_map.mp member
    exact matching_distinct userId contentType visit.world.likes
  have descending := (walk.decreasing positive distinct).1
  refine ⟨pages, shown, ⟨?_, descending, descending.nodup, ?_⟩⟩
  · exact List.forall₂_map_left_iff.mp walk.sound
  · intro noCursor row persistent
    have atEnd : last = none := by
      rw [ended] at noCursor
      exact Option.map_eq_none_iff.mp noCursor
    apply List.count_eq_one_of_mem descending.nodup
    apply walk.complete positive distinct (by simp [Keyset.Below])
    · intro rows member
      obtain ⟨visit, among, rfl⟩ := List.mem_map.mp member
      exact persistent visit among
    · simp [atEnd]

/-- Over a table that does not change, a walk of some length ends and shows the whole table. -/
theorem exists_follows_whole (table : LikesTable) :
    ∃ n, ∀ visits : List Visit, visits.length = n →
      (∀ visit ∈ visits,
        visit.world.likes = table ∧ (visit.environment 0).fault = none) →
        ∃ (responses : List UserLikesResponse) (rows : List Like),
          Follows setting userId contentType limit none visits responses none ∧
          rows.Perm (matching userId contentType table) ∧
          (rows.Pairwise fun earlier later => pageKey later < pageKey earlier) ∧
          responses.flatMap UserLikesResponse.items = rows.map .ofLike := by
  have distinct := matching_distinct userId contentType table
  obtain ⟨n, pages, walk, whole⟩ := Keyset.Walk.exists_whole positive distinct none
  refine ⟨n + 1, ?_⟩
  intro visits size steady
  have found : List.replicate (n + 1) (matching userId contentType table) =
      visits.map fun visit => matching userId contentType visit.world.likes := by
    symm
    apply List.eq_replicate_iff.mpr
    constructor
    · rw [List.length_map, size]
    · intro rows member
      obtain ⟨visit, among, rfl⟩ := List.mem_map.mp member
      rw [(steady visit among).1]
  have unbounded : Stamped none := by simp [Stamped]
  obtain ⟨responses, follows, shown⟩ := Follows.of_walk positive fits unbounded walk
    found fun visit member => (steady visit member).2
  refine ⟨responses, pages.flatten, follows, ?_, ?_, ?_⟩
  · rw [whole]
    exact Keyset.remaining_none_perm _
  · rw [whole]
    exact Keyset.remaining_descending distinct
  · rw [List.flatMap_def, shown, List.map_flatten]

end Paging

/-- Cursor pagination neither skips nor repeats, whatever happens to the table
between the pages.  Over a table that does not change the walk ends, and has shown
exactly the matching rows, in strictly decreasing order of time and id. -/
theorem pages_neither_skip_nor_repeat (setting : Setting) {limit : Nat}
    (positive : 1 ≤ limit) (fits : limit + 1 ≤ 2 ^ 63 - 1) (userId : UserId)
    (contentType : Option String) :
    (∀ visits responses ending,
      Follows setting userId contentType limit none visits responses ending →
        ∃ pages : List (List Like),
          responses.map UserLikesResponse.items = pages.map (List.map .ofLike) ∧
            NeitherSkipsNorRepeats userId contentType visits pages ending) ∧
    ∀ table, ∃ n, ∀ visits : List Visit, visits.length = n →
      (∀ visit ∈ visits,
        visit.world.likes = table ∧ (visit.environment 0).fault = none) →
        ∃ (responses : List UserLikesResponse) (rows : List Like),
          Follows setting userId contentType limit none visits responses none ∧
          rows.Perm (matching userId contentType table) ∧
          (rows.Pairwise fun earlier later => pageKey later < pageKey earlier) ∧
          responses.flatMap UserLikesResponse.items = rows.map .ofLike := by
  constructor
  · intro visits responses ending follows
    exact follows.neitherSkipsNorRepeats positive fits
  · exact exists_follows_whole positive fits

/-- A user who has liked two posts at the same instant. -/
def simultaneousLikes : LikesTable where
  rows :=
    [{ id := 1, userId := ⟨1⟩, contentType := ⟨"post"⟩, contentId := ⟨8⟩, createdAt := 0 },
     { id := 2, userId := ⟨1⟩, contentType := ⟨"post"⟩, contentId := ⟨9⟩, createdAt := 0 }]
  uniqueUserContentLike := by decide
  primaryKey := by decide
  timestamps := by decide

/-- With one row on a page, the tie is shown by descending id. -/
theorem pages_show_tie :
    ∃ visits responses,
      Follows .reference ⟨1⟩ none 1 none visits responses none ∧
        responses.flatMap UserLikesResponse.items =
          simultaneousLikes.rows.reverse.map .ofLike := by
  obtain ⟨n, paged⟩ := (pages_neither_skip_nor_repeat .reference (by decide : 1 ≤ 1)
    (by decide) ⟨1⟩ none).2 simultaneousLikes
  obtain ⟨responses, rows, follows, perm, descending, shown⟩ :=
    paged (List.replicate n ⟨fun _ => .calm, .new simultaneousLikes .empty 0⟩) (by simp)
      (by
        intro visit member
        rw [List.eq_of_mem_replicate member]
        exact ⟨rfl, rfl⟩)
  refine ⟨_, responses, follows, ?_⟩
  have inOrder : simultaneousLikes.rows.reverse.Pairwise
      fun earlier later => pageKey later < pageKey earlier := by decide
  have all : (matching ⟨1⟩ none simultaneousLikes).Perm
      simultaneousLikes.rows.reverse := by decide
  have same : rows = simultaneousLikes.rows.reverse := by
    apply Keyset.Descending.eq_of_mem_iff descending inOrder
    intro row
    exact (perm.trans all).mem_iff
  rw [shown, same]

end SocialApi
