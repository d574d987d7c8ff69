/-
Module: SocialApi.Infrastructure.Postgres
Purpose: The likes table with its two constraints, and the queries of
  PostgresLikeRepository on it.
Trusted boundary: human-reviewed model of postgres/like_repository.rs and of the
  SQL it sends
Main exports:
  Fault, LikesTable, PostgresLikeRepository.save, remove, getLike,
  getLikesByPairs, getLikesCount, getCountsBatch, getUserLikes, getTopLikes
-/
import SocialApi.Api.Dto

namespace SocialApi

/-- Why a store did not carry out a request, with the two texts its driver
prints for it. -/
inductive Fault where
  | noConnection
  | failed (display debug : String)
deriving DecidableEq, Repr

/-- `to_string()` -/
def Fault.display : Fault → String
  | .noConnection => "no connection"
  | .failed display _ => display

/-- `{:?}` -/
def Fault.debug : Fault → String
  | .noConnection => "NoConnection"
  | .failed _ debug => debug

/-- Rows in an order the database does not promise: each number picks the next
row among those not yet picked. -/
def anyOrder {α : Type} : List Nat → List α → List α
  | [], rows => rows
  | i :: order, rows =>
      match rows[i]? with
      | none => rows
      | some row => row :: anyOrder order (rows.eraseIdx i)

theorem anyOrder_perm {α : Type} (order : List Nat) (rows : List α) :
    (anyOrder order rows).Perm rows := by
  induction order generalizing rows with
  | nil => exact .refl _
  | cons i order inductionHypothesis =>
      unfold anyOrder
      split
      · exact .refl _
      · next row at_i =>
          obtain ⟨bound, rfl⟩ := List.getElem?_eq_some_iff.mp at_i
          exact ((inductionHypothesis _).cons _).trans
            (List.getElem_cons_eraseIdx_perm bound)

/-! ### The table -/

/-- 2000-01-01, from where Postgres counts. -/
def postgresEpoch : DateTime := 946684800000000000

/-- TIMESTAMPTZ keeps whole microseconds since its epoch. -/
def DateTime.toTimestamptz (instant : DateTime) : DateTime :=
  postgresEpoch + (instant - postgresEpoch).tdiv 1000 * 1000

@[simp] theorem DateTime.toTimestamptz_idem (instant : DateTime) :
    DateTime.toTimestamptz (DateTime.toTimestamptz instant) =
      DateTime.toTimestamptz instant := by
  simp [DateTime.toTimestamptz]

/-- The columns of `unique_user_content_like`. -/
def Like.key (like : Like) : UserId × ContentType × ContentId :=
  (like.userId, like.contentType, like.contentId)

/-- The row that stores a like under a generated id. -/
def Like.stored (like : Like) (newId : Uuid) : Like :=
  { like with id := newId, createdAt := DateTime.toTimestamptz like.createdAt }

/-- The likes table: `id` is the primary key, a user likes a content at most
once, and `created_at` is a TIMESTAMPTZ. -/
structure LikesTable where
  rows : List Like
  uniqueUserContentLike : (rows.map Like.key).Nodup
  primaryKey : (rows.map Like.id).Nodup
  timestamps : ∀ like ∈ rows, DateTime.toTimestamptz like.createdAt = like.createdAt

namespace LikesTable

def empty : LikesTable := ⟨[], .nil, .nil, by simp⟩

/-- Tables are equal when their rows are. -/
theorem eq_of_rows {table other : LikesTable} (same : table.rows = other.rows) :
    table = other := by
  cases table
  cases other
  cases same
  rfl

instance : DecidableEq LikesTable := fun _ _ =>
  decidable_of_iff _ ⟨eq_of_rows, congrArg rows⟩

/-- The row a user's like of an item is stored in. -/
def find (table : LikesTable) (key : UserId × ContentType × ContentId) :
    Option Like :=
  table.rows.find? fun like => like.key = key

/-- The item's `COUNT(*)`. -/
def countOf (table : LikesTable) (contentType : ContentType) (contentId : ContentId) :
    Nat :=
  table.rows.countP fun like =>
    like.contentType = contentType ∧ like.contentId = contentId

/-- A like that violates neither constraint is stored in a new last row. -/
def insert (table : LikesTable) (like : Like) (newId : Uuid)
    (newKey : like.key ∉ table.rows.map Like.key)
    (freshId : newId ∉ table.rows.map Like.id) : LikesTable where
  rows := table.rows ++ [like.stored newId]
  uniqueUserContentLike := by
    rw [List.map_append, List.map_singleton, ← List.concat_eq_append]
    exact table.uniqueUserContentLike.concat newKey
  primaryKey := by
    rw [List.map_append, List.map_singleton, ← List.concat_eq_append]
    exact table.primaryKey.concat freshId
  timestamps := by
    intro row member
    rcases List.mem_append.mp member with old | new
    · exact table.timestamps row old
    · obtain rfl := List.mem_singleton.mp new
      exact DateTime.toTimestamptz_idem _

/-- Keep the rows that do not have the key. -/
def erase (table : LikesTable) (key : UserId × ContentType × ContentId) :
    LikesTable where
  rows := table.rows.filter fun like => like.key ≠ key
  uniqueUserContentLike :=
    table.uniqueUserContentLike.sublist (List.filter_sublist.map _)
  primaryKey := table.primaryKey.sublist (List.filter_sublist.map _)
  timestamps := fun like member => table.timestamps like (List.mem_filter.mp member).1

theorem find_isSome_iff {table : LikesTable}
    {key : UserId × ContentType × ContentId} :
    (table.find key).isSome = true ↔ key ∈ table.rows.map Like.key := by
  simp [find, List.find?_isSome, List.mem_map]

theorem mem_keys_insert {table : LikesTable} {like : Like} {newId : Uuid}
    {newKey : like.key ∉ table.rows.map Like.key}
    {freshId : newId ∉ table.rows.map Like.id} {key : UserId × ContentType × ContentId} :
    key ∈ (table.insert like newId newKey freshId).rows.map Like.key ↔
      key ∈ table.rows.map Like.key ∨ like.key = key := by
  simp [insert, Like.stored, Like.key, eq_comm]

theorem mem_keys_erase {table : LikesTable} {key other : UserId × ContentType × ContentId} :
    other ∈ (table.erase key).rows.map Like.key ↔
      other ∈ table.rows.map Like.key ∧ other ≠ key := by
  simp only [erase, List.mem_map, List.mem_filter, decide_eq_true_eq]
  constructor
  · rintro ⟨like, ⟨member, ne⟩, rfl⟩
    exact ⟨⟨like, member, rfl⟩, ne⟩
  · rintro ⟨⟨like, member, rfl⟩, ne⟩
    exact ⟨like, ⟨member, ne⟩, rfl⟩

theorem insert_ne {table : LikesTable} {like : Like} {newId : Uuid}
    (newKey : like.key ∉ table.rows.map Like.key)
    (freshId : newId ∉ table.rows.map Like.id) :
    table.insert like newId newKey freshId ≠ table := by
  intro same
  have there : like.key ∈ (table.insert like newId newKey freshId).rows.map Like.key :=
    mem_keys_insert.mpr (.inr rfl)
  rw [same] at there
  exact newKey there

/-- A delete changes the table if it finds the row. -/
theorem erase_eq_iff {table : LikesTable} {key : UserId × ContentType × ContentId} :
    table.erase key = table ↔ (table.find key).isSome = false := by
  rw [← Bool.not_eq_true, find_isSome_iff]
  constructor
  · intro same present
    rw [← same] at present
    exact (mem_keys_erase.mp present).2 rfl
  · intro absent
    have all : table.rows.filter (fun like => like.key ≠ key) = table.rows := by
      rw [List.filter_eq_self]
      intro like member
      rw [decide_eq_true_eq]
      rintro rfl
      exact absent (List.mem_map_of_mem member)
    exact eq_of_rows all

/-- An inserted row is one more for its own item and for no other. -/
theorem countOf_insert (table : LikesTable) (like : Like) (newId : Uuid)
    (newKey : like.key ∉ table.rows.map Like.key)
    (freshId : newId ∉ table.rows.map Like.id)
    (contentType : ContentType) (contentId : ContentId) :
    (table.insert like newId newKey freshId).countOf contentType contentId =
      table.countOf contentType contentId +
        if like.contentType = contentType ∧ like.contentId = contentId
          then 1 else 0 := by
  simp [countOf, insert, List.countP_cons, Like.stored]

/-- An inserted row changes the count of no other item. -/
theorem countOf_insert_other (table : LikesTable) (like : Like) (newId : Uuid)
    (newKey : like.key ∉ table.rows.map Like.key)
    (freshId : newId ∉ table.rows.map Like.id)
    {contentType : ContentType} {contentId : ContentId}
    (other : (contentType, contentId) ≠ (like.contentType, like.contentId)) :
    (table.insert like newId newKey freshId).countOf contentType contentId =
      table.countOf contentType contentId := by
  rw [countOf_insert, if_neg, Nat.add_zero]
  rintro ⟨rfl, rfl⟩
  exact other rfl

/-- The item has as many rows as there are users with a row for it. -/
theorem countOf_eq_length {table : LikesTable} {contentType : ContentType}
    {contentId : ContentId} {users : List UserId} (nodup : users.Nodup)
    (likers : ∀ userId, (userId, contentType, contentId) ∈ table.rows.map Like.key ↔
      userId ∈ users) :
    table.countOf contentType contentId = users.length := by
  have keys : ((table.rows.map Like.key).filter fun key =>
      key.2 = (contentType, contentId)).Perm
        (users.map fun userId => (userId, contentType, contentId)) := by
    apply (List.perm_ext_iff_of_nodup (table.uniqueUserContentLike.filter _)
      (nodup.map fun first second same => (Prod.mk.inj same).1)).mpr
    rintro ⟨userId, otherType, otherId⟩
    simp only [List.mem_filter, List.mem_map, decide_eq_true_eq, Prod.mk.injEq]
    constructor
    · rintro ⟨member, rfl, rfl⟩
      exact ⟨userId, (likers userId).mp (List.mem_map.mpr member), rfl, rfl, rfl⟩
    · rintro ⟨liker, member, rfl, rfl, rfl⟩
      exact ⟨List.mem_map.mp ((likers liker).mpr member), rfl, rfl⟩
  have lengths := keys.length_eq
  rw [List.filter_map, List.length_map, List.length_map, ← List.countP_eq_length_filter]
    at lengths
  rw [← lengths]
  apply List.countP_congr
  intro like _
  simp [Like.key]

private theorem countP_filter_ne {rows : List Like}
    {key : UserId × ContentType × ContentId} (nodup : (rows.map Like.key).Nodup)
    (p : Like → Bool) (only : ∀ like ∈ rows, like.key = key → p like = true) :
    rows.countP p =
      (rows.filter fun like => like.key ≠ key).countP p +
        if key ∈ rows.map Like.key then 1 else 0 := by
  induction rows with
  | nil => simp
  | cons like rows inductionHypothesis =>
      rw [List.map_cons, List.nodup_cons] at nodup
      have tail := inductionHypothesis nodup.2
        fun other member => only other (by simp [member])
      by_cases hit : like.key = key
      · subst hit
        have here := only like (by simp) rfl
        rw [if_neg nodup.1] at tail
        simp [here, tail]
      · have passed : (key = like.key) = False := by
          simpa using fun same : key = like.key => hit same.symm
        simp only [List.countP_cons, List.map_cons, List.mem_cons, passed, false_or]
        rw [List.filter_cons_of_pos (by simpa using hit), List.countP_cons, tail]
        omega

private theorem countP_filter_other {rows : List Like}
    {key : UserId × ContentType × ContentId} (p : Like → Bool)
    (other : ∀ like ∈ rows, like.key = key → p like = false) :
    (rows.filter fun like => like.key ≠ key).countP p = rows.countP p := by
  rw [List.countP_filter]
  refine List.countP_congr fun like member => ?_
  by_cases hit : like.key = key
  · simp [hit, other like member hit]
  · simp [hit]

/-- A deleted row is one less for its own item. -/
theorem countOf_erase (table : LikesTable) (userId : UserId)
    (contentType : ContentType) (contentId : ContentId) :
    table.countOf contentType contentId =
      (table.erase (userId, contentType, contentId)).countOf contentType contentId +
        if (table.find (userId, contentType, contentId)).isSome then 1 else 0 := by
  simp only [find_isSome_iff]
  refine countP_filter_ne table.uniqueUserContentLike _ fun like _ same => ?_
  simp only [Like.key, Prod.mk.injEq] at same
  simp [same]

/-- A deleted row changes the count of no other item. -/
theorem countOf_erase_other (table : LikesTable) (userId : UserId)
    {contentType otherType : ContentType} {contentId otherId : ContentId}
    (other : (otherType, otherId) ≠ (contentType, contentId)) :
    (table.erase (userId, contentType, contentId)).countOf otherType otherId =
      table.countOf otherType otherId := by
  refine countP_filter_other _ fun like _ same => ?_
  simp only [Like.key, Prod.mk.injEq] at same
  simp only [ne_eq, Prod.mk.injEq] at other
  simp only [decide_eq_false_iff_not]
  rintro ⟨rfl, rfl⟩
  exact other ⟨same.2.1, same.2.2⟩

end LikesTable

/-! ### Queries -/

namespace PostgresLikeRepository

/-- `INSERT … ON CONFLICT (user_id, content_type, content_id) DO NOTHING`; true
when no row was inserted.  `newId` is what `uuid_generate_v4()` returns. -/
def save (fault : Option Fault) (newId : Uuid) (like : Like) (table : LikesTable) :
    Except DomainError Bool × LikesTable :=
  match fault with
  | some e => (.error (.databaseError ("Error on like query " ++ e.debug)), table)
  | none =>
      if newKey : like.key ∉ table.rows.map Like.key then
        if freshId : newId ∉ table.rows.map Like.id then
          (.ok false, table.insert like newId newKey freshId)
        else
          (.error (.databaseError ("Error on like query " ++
            "duplicate key value violates unique constraint \"likes_pkey\"")), table)
      else (.ok true, table)

/-- `fetch_one` of the user's row; a missing row is an error too. -/
def getLike (fault : Option Fault) (userId : UserId) (contentType : ContentType)
    (contentId : ContentId) (table : LikesTable) : Except DomainError Like :=
  match fault with
  | some e => .error (.databaseError e.display)
  | none =>
      match table.find (userId, contentType, contentId) with
      | some like => .ok like
      | none => .error (.databaseError
          "no rows returned by a query that expected to return at least one row")

/-- The user's rows whose (content_type, content_id) is among the pairs. -/
def getLikesByPairs (fault : Option Fault) (order : List Nat) (userId : UserId)
    (items : List ContentItem) (table : LikesTable) : Except DomainError (List Like) :=
  match fault with
  | some e => .error (.databaseError e.display)
  | none => .ok (anyOrder order (table.rows.filter fun like =>
      like.userId = userId ∧ ⟨like.contentType, like.contentId⟩ ∈ items))

/-- `DELETE`; true when a row was deleted. -/
def remove (fault : Option Fault) (userId : UserId) (contentType : ContentType)
    (contentId : ContentId) (table : LikesTable) :
    Except DomainError Bool × LikesTable :=
  match fault with
  | some e => (.error (.databaseError ("Error on unlike query " ++ e.debug)), table)
  | none =>
      (.ok (table.find (userId, contentType, contentId)).isSome,
        table.erase (userId, contentType, contentId))

/-- `SELECT COUNT(*)` -/
def getLikesCount (fault : Option Fault) (contentType : ContentType)
    (contentId : ContentId) (table : LikesTable) : Except DomainError Nat :=
  match fault with
  | some e => .error (.databaseError ("Error on get like count query " ++ e.debug))
  | none => .ok (table.countOf contentType contentId)

/-- `UNNEST` the pairs, `LEFT JOIN` the likes and `GROUP BY` the pair: a pair
that occurs `k` times among the items counts every like `k` times. -/
def getCountsBatch (fault : Option Fault) (order : List Nat)
    (items : List ContentItem) (table : LikesTable) :
    Except DomainError (List ContentCount) :=
  match fault with
  | some e => .error (.databaseError e.display)
  | none => .ok (anyOrder order (items.dedup.map fun item =>
      { contentType := item.contentType
        contentId := item.contentId
        count := items.count item *
          table.countOf item.contentType item.contentId }))

/-- The columns `ORDER BY created_at DESC, id DESC` compares. -/
def pageKey (like : Like) : DateTime ×ₗ Uuid := toLex (like.createdAt, like.id)

/-- The position a cursor stands for. -/
def cursorKey (cursor : PaginationCursor) : DateTime ×ₗ Uuid :=
  toLex (DateTime.toTimestamptz cursor.t, cursor.id)

/-- `usize as i64` -/
def asI64 (n : Nat) : Int := if n < 2 ^ 63 then n else (n : Int) - 2 ^ 64

/-- The `WHERE` clause of the page query. -/
def onPage (userId : UserId) (contentType : Option String)
    (cursor : Option PaginationCursor) (like : Like) : Bool :=
  like.userId = userId ∧
    (∀ name ∈ contentType, like.contentType.asStr = name) ∧
    (∀ c ∈ cursor, pageKey like < cursorKey c)

/-- The user's rows below the cursor, newest first, at most `limit` of them. -/
def getUserLikes (fault : Option Fault) (userId : UserId) (contentType : Option String)
    (cursor : Option PaginationCursor) (limit : Nat) (table : LikesTable) :
    Except DomainError (List Like) :=
  match fault with
  | some e => .error (.databaseError e.display)
  | none =>
      if asI64 limit < 0 then .error (.databaseError "LIMIT must not be negative")
      else .ok (((table.rows.filter (onPage userId contentType cursor)).insertionSort
        fun a b => pageKey b ≤ pageKey a).take limit)

/-- The most liked items since an instant; ties come in any order. -/
def getTopLikes (fault : Option Fault) (order : List Nat) (contentType : Option String)
    (since : Option DateTime) (limit : Int) (table : LikesTable) :
    Except DomainError (List TopLikeItem) :=
  match fault with
  | some e => .error (.databaseError e.display)
  | none =>
      if limit < 0 then .error (.databaseError "LIMIT must not be negative")
      else
        let matching := table.rows.filter fun like =>
          (∀ name ∈ contentType, like.contentType.asStr = name) ∧
            (∀ start ∈ since, DateTime.toTimestamptz start ≤ like.createdAt)
        let pairs := matching.map fun like => (like.contentType, like.contentId)
        let groups := pairs.dedup.map fun pair =>
          { contentType := pair.1.asStr
            contentId := pair.2.uuid.text
            count := (pairs.count pair : Int) : TopLikeItem }
        .ok (((anyOrder order groups).insertionSort fun a b => b.count ≤ a.count).take
          limit.toNat)

/-- What `save` can do: fail without effect, find the row there, or append it. -/
theorem save_cases (fault : Option Fault) (newId : Uuid) (like : Like)
    (table : LikesTable) :
    (∃ text, save fault newId like table = (.error (.databaseError text), table) ∧
        (fault = none → newId ∈ table.rows.map Like.id)) ∨
      (fault = none ∧ like.key ∈ table.rows.map Like.key ∧
        save fault newId like table = (.ok true, table)) ∨
      (fault = none ∧ ∃ newKey freshId,
        save fault newId like table =
          (.ok false, table.insert like newId newKey freshId)) := by
  cases fault with
  | some e => exact .inl ⟨_, rfl, by simp⟩
  | none =>
      by_cases newKey : like.key ∉ table.rows.map Like.key
      · by_cases freshId : newId ∉ table.rows.map Like.id
        · exact .inr (.inr ⟨rfl, newKey, freshId, by simp only [save, dif_pos newKey,
            dif_pos freshId]⟩)
        · refine .inl ⟨_, by simp only [save, dif_pos newKey, dif_neg freshId]; rfl,
            fun _ => not_not.mp freshId⟩
      · exact .inr (.inl ⟨rfl, not_not.mp newKey, by
          simp only [save, dif_neg newKey]⟩)

/-- An insert that finds its row there changes nothing and says so. -/
theorem save_of_mem {newId : Uuid} {like : Like} {table : LikesTable}
    (present : like.key ∈ table.rows.map Like.key) :
    save none newId like table = (.ok true, table) := by
  simp only [save, dif_neg (not_not.mpr present)]

/-- A batch of counts holds exactly one entry for every pair among the items. -/
theorem mem_getCountsBatch {fault : Option Fault} {order : List Nat}
    {items : List ContentItem} {table : LikesTable} {counts : List ContentCount}
    (answered : getCountsBatch fault order items table = .ok counts)
    {entry : ContentCount} :
    entry ∈ counts ↔ ⟨entry.contentType, entry.contentId⟩ ∈ items ∧
      entry.count = items.count ⟨entry.contentType, entry.contentId⟩ *
        table.countOf entry.contentType entry.contentId := by
  cases fault with
  | some e => cases answered
  | none =>
      obtain rfl := Except.ok.inj answered
      rw [(anyOrder_perm _ _).mem_iff]
      obtain ⟨contentType, contentId, count⟩ := entry
      constructor
      · intro member
        obtain ⟨⟨itemType, itemId⟩, among, same⟩ := List.mem_map.mp member
        obtain ⟨rfl, rfl, rfl⟩ := ContentCount.mk.inj same
        exact ⟨List.mem_dedup.mp among, rfl⟩
      · rintro ⟨among, counted⟩
        dsimp only at among counted
        exact List.mem_map.mpr
          ⟨⟨contentType, contentId⟩, List.mem_dedup.mpr among, by rw [counted]⟩

/-- The distinct items with a like in the window. -/
def likedItems (contentType : Option String) (since : Option DateTime)
    (table : LikesTable) : List (ContentType × ContentId) :=
  ((table.rows.filter fun like =>
      (∀ name ∈ contentType, like.contentType.asStr = name) ∧
        (∀ start ∈ since, DateTime.toTimestamptz start ≤ like.createdAt)).map
    fun like => (like.contentType, like.contentId)).dedup

/-- The most liked items are the front of one ranking of the liked items, whatever the
limit. -/
theorem getTopLikes_front (order : List Nat) (contentType : Option String)
    (since : Option DateTime) (table : LikesTable) :
    ∃ ranking : List TopLikeItem,
      ranking.length = (likedItems contentType since table).length ∧
      ∀ limit, getTopLikes none order contentType since limit table =
        if limit < 0 then .error (.databaseError "LIMIT must not be negative")
        else .ok (ranking.take limit.toNat) := by
  refine ⟨_, ?_, fun limit => rfl⟩
  rw [List.length_insertionSort, (anyOrder_perm _ _).length_eq, List.length_map]
  rfl

/-- As many items as there are, up to the limit. -/
theorem getTopLikes_length {order : List Nat} {contentType : Option String}
    {since : Option DateTime} {limit : Int} {table : LikesTable}
    {items : List TopLikeItem}
    (listed : getTopLikes none order contentType since limit table = .ok items) :
    items.length = min limit.toNat (likedItems contentType since table).length := by
  obtain ⟨ranking, length, front⟩ := getTopLikes_front order contentType since table
  rw [front limit] at listed
  split at listed
  · cases listed
  · obtain rfl := Except.ok.inj listed
    rw [List.length_take, length]

/-- A list that is shorter than its limit holds every item, and so is right for every limit
that it does not exceed. -/
theorem getTopLikes_relimit {order : List Nat} {contentType : Option String}
    {since : Option DateTime} {limit other : Int} {table : LikesTable}
    {items : List TopLikeItem}
    (listed : getTopLikes none order contentType since limit table = .ok items)
    (whole : (items.length : Int) < limit) (within : (items.length : Int) ≤ other) :
    getTopLikes none order contentType since other table = .ok items := by
  obtain ⟨ranking, _, front⟩ := getTopLikes_front order contentType since table
  rw [front limit] at listed
  rw [front other, if_neg (by omega)]
  split at listed
  · cases listed
  · obtain rfl := Except.ok.inj listed
    rw [List.length_take] at whole within
    have all : ranking.length ≤ limit.toNat := by omega
    rw [List.take_of_length_le all, List.take_of_length_le (by omega)]

end PostgresLikeRepository

end SocialApi
