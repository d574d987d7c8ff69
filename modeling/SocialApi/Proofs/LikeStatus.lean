/-
Module: SocialApi.Proofs.LikeStatus
Purpose: What get_like_status and get_batch_status say about the rows of a user, with and
  without a failing database.
Trusted boundary: none
Main exports:
  TrueStatus, getLikeStatus_true, statusIn_true, batch_status_pointwise, SameTruth,
  single_and_batch_agree_iff
-/
import SocialApi.Application.LikeService

namespace SocialApi

open Process
open LikeService
open PostgresLikeRepository (getLike getLikesByPairs)

/-! ### Maps built by a loop -/

section Loop

variable {α κ β : Type} [DecidableEq κ] {key : α → κ} (value : α → β) {entries : List α}

/-- A key that no entry has is left as it was. -/
theorem foldl_update_of_absent {k : κ} (absent : ∀ entry ∈ entries, key entry ≠ k)
    (start : κ → Option β) :
    entries.foldl (fun map entry => Function.update map (key entry) (some (value entry))) start
      k = start k := by
  induction entries generalizing start with
  | nil => rfl
  | cons entry entries inductionHypothesis =>
      rw [List.foldl_cons,
        inductionHypothesis (fun other member => absent other (List.mem_cons_of_mem _ member))]
      exact Function.update_of_ne (absent entry List.mem_cons_self).symm _ _

/-- Where no two entries have one key, a key has the value of its entry. -/
theorem foldl_update_of_mem (distinct : (entries.map key).Nodup) {entry : α}
    (member : entry ∈ entries) (start : κ → Option β) :
    entries.foldl (fun map entry => Function.update map (key entry) (some (value entry))) start
      (key entry) = some (value entry) := by
  induction entries generalizing start with
  | nil => cases member
  | cons first entries inductionHypothesis =>
      obtain ⟨apart, rest⟩ := List.nodup_cons.mp distinct
      rw [List.foldl_cons]
      rcases List.mem_cons.mp member with rfl | later
      · rw [foldl_update_of_absent value]
        · exact Function.update_self _ _ _
        · intro other among same
          exact apart (same ▸ List.mem_map_of_mem among)
      · exact inductionHypothesis rest later _

end Loop

/-! ### Statuses -/

/-- The status says whether the user's row for the item is there, and since when. -/
structure TrueStatus (table : LikesTable) (userId : UserId) (item : ContentItem)
    (status : ContentStatus) : Prop where
  about : status.contentType = item.contentType ∧ status.contentId = item.contentId
  liked : ∀ row ∈ table.rows, row.key = (userId, item.contentType, item.contentId) →
    status.liked = true ∧ status.likedAt = some row.createdAt
  notLiked : (∀ row ∈ table.rows, row.key ≠ (userId, item.contentType, item.contentId)) →
    status.liked = false ∧ status.likedAt = none

/-- The answer of the single read as a status of the item. -/
def StatusResponse.about (response : StatusResponse) (item : ContentItem) : ContentStatus where
  contentType := item.contentType
  contentId := item.contentId
  liked := response.liked
  likedAt := response.likedAt

/-- Two true statuses of an item are the same. -/
theorem TrueStatus.unique {table : LikesTable} {userId : UserId} {item : ContentItem}
    {one two : ContentStatus} (first : TrueStatus table userId item one)
    (second : TrueStatus table userId item two) : one = two := by
  have parts : one.liked = two.liked ∧ one.likedAt = two.likedAt := by
    by_cases there : ∃ row ∈ table.rows,
        row.key = (userId, item.contentType, item.contentId)
    · obtain ⟨row, member, own⟩ := there
      obtain ⟨liked, since⟩ := first.liked row member own
      obtain ⟨likedToo, sinceToo⟩ := second.liked row member own
      exact ⟨liked.trans likedToo.symm, since.trans sinceToo.symm⟩
    · have absent : ∀ row ∈ table.rows,
          row.key ≠ (userId, item.contentType, item.contentId) :=
        fun row member own => there ⟨row, member, own⟩
      obtain ⟨liked, since⟩ := first.notLiked absent
      obtain ⟨likedToo, sinceToo⟩ := second.notLiked absent
      exact ⟨liked.trans likedToo.symm, since.trans sinceToo.symm⟩
  obtain ⟨oneType, oneId, _, _⟩ := one
  obtain ⟨twoType, twoId, _, _⟩ := two
  obtain ⟨sameType, sameId⟩ := first.about
  obtain ⟨sameTypeToo, sameIdToo⟩ := second.about
  obtain ⟨liked, since⟩ := parts
  dsimp only at *
  rw [sameType, sameId, sameTypeToo, sameIdToo, liked, since]

/-! ### The two reads -/

section Reads

variable {setting : Setting} {userId : UserId} {environment : Nat → Surroundings}
  {world : World}

/-- The single read answers with the row it is given, and takes every error for a missing
row. -/
theorem getLikeStatus_run (contentType : ContentType) (contentId : ContentId) :
    (getLikeStatus userId contentType contentId).run (World.handle setting) environment world =
      some (match getLike (environment 0).fault userId contentType contentId world.likes with
          | .error _ => .ok { liked := false, likedAt := none }
          | .ok row => .ok { liked := true, likedAt := some row.createdAt },
        world.advance (environment 0), []) := by
  simp only [getLikeStatus, Program.request_bind]
  rw [Program.run_perform]
  refine ⟨_, _, [], [], rfl, ?_, rfl⟩
  simp only [World.advance]
  cases getLike (environment 0).fault userId contentType contentId world.likes <;> rfl

/-- A single read that the database answers is true. -/
theorem getLikeStatus_true (healthy : (environment 0).fault = none) (item : ContentItem) :
    ∃ response : StatusResponse,
      (getLikeStatus userId item.contentType item.contentId).run (World.handle setting)
          environment world =
        some (.ok response, world.advance (environment 0), []) ∧
      TrueStatus world.likes userId item (response.about item) := by
  rw [getLikeStatus_run, healthy]
  simp only [getLike]
  cases found : world.likes.find (userId, item.contentType, item.contentId) with
  | none =>
      refine ⟨_, rfl, ⟨rfl, rfl⟩, ?_, fun _ => ⟨rfl, rfl⟩⟩
      intro row member own
      have there := List.mem_map_of_mem (f := Like.key) member
      rw [own, ← LikesTable.find_isSome_iff, found] at there
      cases there
  | some row =>
      have member : row ∈ world.likes.rows := List.mem_of_find?_eq_some found
      have own : row.key = (userId, item.contentType, item.contentId) := by
        simpa using List.find?_some found
      refine ⟨_, rfl, ⟨rfl, rfl⟩, ?_, fun absent => absurd own (absent row member)⟩
      intro other among alsoOwn
      have same : other = row :=
        List.inj_on_of_nodup_map world.likes.uniqueUserContentLike among member
          (alsoOwn.trans own.symm)
      rw [same]
      exact ⟨rfl, rfl⟩

/-- A single read that the database fails comes back with `not liked`. -/
theorem getLikeStatus_failed (failed : (environment 0).fault ≠ none)
    (contentType : ContentType) (contentId : ContentId) :
    (getLikeStatus userId contentType contentId).run (World.handle setting) environment world =
      some (.ok { liked := false, likedAt := none }, world.advance (environment 0), []) := by
  rw [getLikeStatus_run]
  cases fault : (environment 0).fault with
  | none => exact absurd fault failed
  | some e => rfl

/-- The user's rows among the pairs, in some order, have one item each. -/
theorem getLikesByPairs_distinct {order : List Nat} {items : List ContentItem}
    {table : LikesTable} {rows : List Like}
    (answered : getLikesByPairs none order userId items table = .ok rows) :
    (rows.map fun row => (⟨row.contentType, row.contentId⟩ : ContentItem)).Nodup ∧
      ∀ row, row ∈ rows ↔ row ∈ table.rows ∧ row.userId = userId ∧
        ⟨row.contentType, row.contentId⟩ ∈ items := by
  obtain rfl := Except.ok.inj answered
  have perm := anyOrder_perm order (table.rows.filter fun like =>
    like.userId = userId ∧ ⟨like.contentType, like.contentId⟩ ∈ items)
  constructor
  · rw [(perm.map _).nodup_iff]
    have keys : ((table.rows.filter fun like => like.userId = userId ∧
        (⟨like.contentType, like.contentId⟩ : ContentItem) ∈ items).map Like.key).Nodup :=
      table.uniqueUserContentLike.sublist (List.filter_sublist.map _)
    apply List.Nodup.map_on _ (List.Nodup.of_map _ keys)
    intro row member other among same
    have own := (of_decide_eq_true (List.mem_filter.mp member).2).1
    have ownToo := (of_decide_eq_true (List.mem_filter.mp among).2).1
    apply List.inj_on_of_nodup_map keys member among
    obtain ⟨sameType, sameId⟩ := ContentItem.mk.inj same
    simp only [Like.key, own, ownToo, sameType, sameId]
  · intro row
    rw [perm.mem_iff, List.mem_filter, decide_eq_true_eq]

/-- What the map of the user's rows says about an item. -/
def statusIn (rows : List Like) (item : ContentItem) : ContentStatus :=
  let likedMap : ContentItem → Option DateTime := rows.foldl
    (fun liked record => Function.update liked ⟨record.contentType, record.contentId⟩
      (some record.createdAt)) fun _ => none
  { contentType := item.contentType
    contentId := item.contentId
    liked := (likedMap item).isSome
    likedAt := likedMap item }

/-- The batch read answers with a status for each item from the rows it is given. -/
theorem getBatchStatus_run {items : List ContentItem} (small : items.length ≤ 100) :
    (getBatchStatus userId items).run (World.handle setting) environment world =
      some ((getLikesByPairs (environment 0).fault (environment 0).order userId items
          world.likes).map fun rows => items.map (statusIn rows),
        world.advance (environment 0), []) := by
  unfold getBatchStatus
  rw [if_neg (Nat.not_lt.mpr small), Program.request_bind, Program.run_perform]
  refine ⟨_, _, [], [], rfl, ?_, rfl⟩
  simp only [World.advance]
  cases getLikesByPairs (environment 0).fault (environment 0).order userId items
    world.likes <;> rfl

/-- The batch read fails where the database does. -/
theorem getBatchStatus_failed {items : List ContentItem} (failed : (environment 0).fault ≠ none)
    {answer : Except DomainError (List ContentStatus)} {after : World}
    {spawned : List LikeCall}
    (ran : (getBatchStatus userId items).run (World.handle setting) environment world =
      some (answer, after, spawned)) : ∃ e, answer = .error e := by
  by_cases small : items.length ≤ 100
  · rw [getBatchStatus_run small] at ran
    obtain ⟨rfl, _⟩ := Prod.mk.inj (Option.some.inj ran)
    cases fault : (environment 0).fault with
    | none => exact absurd fault failed
    | some e => exact ⟨_, rfl⟩
  · unfold getBatchStatus at ran
    rw [if_pos (not_le.mp small)] at ran
    obtain ⟨rfl, _⟩ := Prod.mk.inj (Option.some.inj ran)
    exact ⟨_, rfl⟩

/-- The entry that the user's rows among the pairs give a requested item is true. -/
theorem statusIn_true {order : List Nat} {items : List ContentItem} {table : LikesTable}
    {rows : List Like} (answered : getLikesByPairs none order userId items table = .ok rows)
    {item : ContentItem} (requested : item ∈ items) :
    TrueStatus table userId item (statusIn rows item) := by
  obtain ⟨distinct, exactly⟩ := getLikesByPairs_distinct answered
  refine ⟨⟨rfl, rfl⟩, ?_, ?_⟩
  · intro row member own
    obtain ⟨ownUser, sameType, sameId⟩ : row.userId = userId ∧
        row.contentType = item.contentType ∧ row.contentId = item.contentId := by
      simpa [Like.key] using own
    have here : (⟨row.contentType, row.contentId⟩ : ContentItem) = item := by
      rw [sameType, sameId]
    have found := (exactly row).mpr ⟨member, ownUser, here ▸ requested⟩
    have held := foldl_update_of_mem Like.createdAt distinct found fun _ => none
    rw [here] at held
    exact ⟨by rw [statusIn, held]; rfl, held⟩
  · intro absent
    have elsewhere : ∀ row ∈ rows,
        (⟨row.contentType, row.contentId⟩ : ContentItem) ≠ item := by
      rintro row found rfl
      obtain ⟨member, rfl, _⟩ := (exactly row).mp found
      exact absent row member rfl
    have held := foldl_update_of_absent Like.createdAt elsewhere fun _ => none
    exact ⟨by rw [statusIn, held]; rfl, held⟩

/-- A batch read of at most 100 items that the database answers has one entry for every
requested item, in the order of the request, and every entry tells whether the user has a row
for the item and since when. -/
theorem batch_status_pointwise (setting : Setting) (userId : UserId) (items : List ContentItem)
    (environment : Nat → Surroundings) (world : World) (small : items.length ≤ 100)
    (healthy : (environment 0).fault = none) :
    ∃ results,
      (getBatchStatus userId items).run (World.handle setting) environment world =
        some (.ok results, world.advance (environment 0), []) ∧
      List.Forall₂ (TrueStatus world.likes userId) items results := by
  obtain ⟨rows, answered⟩ : ∃ rows,
      getLikesByPairs none (environment 0).order userId items world.likes = .ok rows := ⟨_, rfl⟩
  refine ⟨items.map (statusIn rows), ?_, ?_⟩
  · rw [getBatchStatus_run small, healthy, answered]
    rfl
  · rw [List.forall₂_map_right_iff, List.forall₂_same]
    intro item requested
    exact statusIn_true answered requested

end Reads

/-- Users 1 and 2 like one post each, and user 1 also likes the comment with the id of the
post of user 2. -/
def crossedLikes : LikesTable where
  rows :=
    [{ id := 1, userId := ⟨1⟩, contentType := ⟨"post"⟩, contentId := ⟨1⟩, createdAt := 1000 },
     { id := 2, userId := ⟨2⟩, contentType := ⟨"post"⟩, contentId := ⟨2⟩, createdAt := 2000 },
     { id := 3, userId := ⟨1⟩, contentType := ⟨"comment"⟩, contentId := ⟨2⟩, createdAt := 3000 }]
  uniqueUserContentLike := by decide
  primaryKey := by decide
  timestamps := by decide

/-- All pairs of the two types and the two ids, and one of them again. -/
def crossedItems : List ContentItem :=
  [⟨⟨"post"⟩, ⟨1⟩⟩, ⟨⟨"post"⟩, ⟨2⟩⟩, ⟨⟨"comment"⟩, ⟨1⟩⟩, ⟨⟨"comment"⟩, ⟨2⟩⟩, ⟨⟨"post"⟩, ⟨1⟩⟩]

/-- User 1 likes the first item, which is asked for twice, and the fourth one. -/
theorem batch_status_pointwise_crossed :
    ∃ results,
      (getBatchStatus ⟨1⟩ crossedItems).run (World.handle .reference) (fun _ => .calm)
          (.new crossedLikes .empty 0) =
        some (.ok results, (World.new crossedLikes .empty 0).advance .calm, []) ∧
      List.Forall₂ (TrueStatus crossedLikes ⟨1⟩) crossedItems results :=
  batch_status_pointwise .reference ⟨1⟩ crossedItems (fun _ => .calm)
    (.new crossedLikes .empty 0) (by decide) rfl

/-! ### Reads that fail -/

/-- The single read and a batch read of one table tell the same truth about an item: what
the single read comes back with is true, and the entry of a batch for the item is the same;
where the database fails, so do they. -/
def SameTruth (setting : Setting) (userId : UserId) (item : ContentItem)
    (single batch : Nat → Surroundings) (world : World) : Prop :=
  ∀ answer after spawned,
    (getLikeStatus userId item.contentType item.contentId).run (World.handle setting) single
      world = some (answer, after, spawned) →
  ∀ (items : List ContentItem) batchAnswer batchAfter batchSpawned,
    (getBatchStatus userId items).run (World.handle setting) batch world =
      some (batchAnswer, batchAfter, batchSpawned) →
    (∀ response, answer = .ok response →
      TrueStatus world.likes userId item (response.about item)) ∧
    (∀ (response : StatusResponse) (results : List ContentStatus), answer = .ok response →
      batchAnswer = .ok results → ∀ i : Nat, items[i]? = some item →
        results[i]? = some (response.about item)) ∧
    ((single 0).fault ≠ none → ∃ e, answer = .error e) ∧
    ((batch 0).fault ≠ none → ∃ e, batchAnswer = .error e)

/-- The two reads tell the same truth exactly when the query of the single read does not
fail. -/
theorem single_and_batch_agree_iff (setting : Setting) (userId : UserId) (item : ContentItem)
    (single batch : Nat → Surroundings) (world : World) :
    SameTruth setting userId item single batch world ↔ (single 0).fault = none := by
  constructor
  · intro truth
    by_contra failed
    have empty : (getBatchStatus userId []).run (World.handle setting) batch world = _ :=
      getBatchStatus_run (by simp)
    obtain ⟨_, _, fails, _⟩ := truth _ _ _ (getLikeStatus_failed failed _ _) [] _ _ _ empty
    obtain ⟨e, absurd⟩ := fails failed
    cases absurd
  · intro healthy answer after spawned ran items batchAnswer batchAfter batchSpawned batchRan
    obtain ⟨response, comes, right⟩ := getLikeStatus_true healthy item
    obtain ⟨rfl, _⟩ := Prod.mk.inj (Option.some.inj (comes.symm.trans ran))
    refine ⟨?_, ?_, fun failed => absurd healthy failed,
      fun failed => getBatchStatus_failed failed batchRan⟩
    · rintro _ ⟨⟩
      exact right
    · rintro _ results ⟨⟩ rfl i requested
      by_cases failed : (batch 0).fault = none
      · by_cases small : items.length ≤ 100
        · rw [getBatchStatus_run small, failed] at batchRan
          obtain ⟨same, _⟩ := Prod.mk.inj (Option.some.inj batchRan)
          obtain rfl := Except.ok.inj same
          have true : TrueStatus world.likes userId item _ :=
            @statusIn_true userId (batch 0).order items world.likes _ rfl item
              (List.mem_of_getElem? requested)
          rw [List.getElem?_map, requested]
          exact congrArg some (true.unique right)
        · unfold getBatchStatus at batchRan
          rw [if_pos (not_le.mp small)] at batchRan
          cases batchRan
      · obtain ⟨e, absurd⟩ := getBatchStatus_failed failed batchRan
        cases absurd

/-- The user has liked the post, Postgres is out of reach, and the single read comes back
with `not liked`. -/
theorem lost_status_not_liked :
    ¬ SameTruth .reference ⟨1⟩ ⟨⟨"post"⟩, ⟨1⟩⟩
        (fun _ => { Surroundings.calm with fault := some .noConnection }) (fun _ => .calm)
        (.new crossedLikes .empty 0) ∧
      ∃ after spawned,
        (getLikeStatus ⟨1⟩ ⟨"post"⟩ ⟨1⟩).run (World.handle .reference)
          (fun _ => { Surroundings.calm with fault := some .noConnection })
          (.new crossedLikes .empty 0) =
            some (.ok { liked := false, likedAt := none }, after, spawned) := by
  constructor
  · intro truth
    obtain ⟨_, _, fails, _⟩ := truth _ _ _ (getLikeStatus_failed (by simp) _ _) [] _ _ _
      (getBatchStatus_run (by simp))
    obtain ⟨e, absurd⟩ := fails (by simp)
    cases absurd
  · exact ⟨_, _, getLikeStatus_failed (by simp) ⟨"post"⟩ ⟨1⟩⟩

end SocialApi
