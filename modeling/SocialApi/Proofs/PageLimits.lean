/-
Module: SocialApi.Proofs.PageLimits
Purpose: Which limits of a page request are safe: no panic, no overflow, and the page that was
  asked for.
Trusted boundary: none
Main exports:
  pageRows, RightPage, SafePage, getUserLikedItems_run, page_safe_iff
-/
import SocialApi.Proofs.Pagination

namespace SocialApi

open Process
open LikeService
open PostgresLikeRepository (pageKey onPage asI64 getUserLikes)

/-- The rows that a page request is about, newest first. -/
def pageRows (userId : UserId) (contentType : Option String)
    (cursor : Option PaginationCursor) (table : LikesTable) : List Like :=
  (table.rows.filter (onPage userId contentType cursor)).insertionSort
    fun a b => pageKey b ≤ pageKey a

/-- The page holds the first rows, up to the limit, and a cursor if there are more. -/
structure RightPage (limit : Nat) (rows : List Like) (response : UserLikesResponse) : Prop where
  items : response.items = (rows.take limit).map .ofLike
  nextCursor : response.nextCursor.isSome = true ↔ limit < rows.length ∧ response.items ≠ []

/-- The same deployment, built with or without overflow checks. -/
def Setting.built (setting : Setting) (overflowChecks : Bool) : Setting :=
  { setting with overflowChecks := overflowChecks }

/-- The limit is safe for the request: neither `limit + 1` nor its cast to `i64` wraps, the
request comes back without a panic in every build, and its page, if it has one, is right. -/
structure SafePage (setting : Setting) (userId : UserId) (contentType cursorStr : Option String)
    (cursor : Option PaginationCursor) (limit : Nat) (environment : Nat → Surroundings)
    (world : World) : Prop where
  exactLimit : asI64 (limit + 1) = limit + 1
  comesBack : ∀ overflowChecks, ∃ result after,
    (getUserLikedItems (setting.built overflowChecks) userId contentType cursorStr limit).run
        (World.handle (setting.built overflowChecks)) environment world =
      some (.done result, after, []) ∧
    ∀ response, result = .ok response →
      RightPage limit (pageRows userId contentType cursor world.likes) response

section Request

variable {setting : Setting} {userId : UserId} {contentType cursorStr : Option String}
  {cursor : Option PaginationCursor} {limit : Nat} {environment : Nat → Surroundings}
  {world : World}

/-- The cast to `i64` keeps the numbers below 2^63 and no others. -/
theorem asI64_exact_iff {n : Nat} : asI64 n = n ↔ n < 2 ^ 63 := by
  unfold asI64
  split <;> omega

/-- A request runs one query, which fails or returns the front of the rows. -/
theorem getUserLikedItems_run
    (decoded : PaginationCursor.decodeOpt setting.cursorJson cursorStr = .ok cursor)
    (fits : limit + 1 < 2 ^ 63) :
    (getUserLikedItems setting userId contentType cursorStr limit).run (World.handle setting)
        environment world =
      some (match (environment 0).fault with
          | some e => .done (.error (.databaseError e.display))
          | none => pageOf setting limit
              ((pageRows userId contentType cursor world.likes).take (limit + 1)),
        world.advance (environment 0), []) := by
  have accepted : ¬ asI64 (limit + 1) < 0 := by
    unfold asI64
    rw [if_pos (by omega)]
    omega
  rw [getUserLikedItems_decoded decoded (by omega), Program.run_perform]
  refine ⟨_, _, [], [], rfl, ?_, rfl⟩
  simp only [World.advance, getUserLikes, if_neg accepted]
  cases (environment 0).fault with
  | some e => rfl
  | none => rfl

/-- With a positive limit the page is right. -/
theorem pageOf_right (positive : 1 ≤ limit) (rows : List Like) :
    ∃ response, pageOf setting limit (rows.take (limit + 1)) = .done (.ok response) ∧
      RightPage limit rows response := by
  by_cases more : limit < rows.length
  · have size : (rows.take (limit + 1)).length = limit + 1 := by
      rw [List.length_take]
      omega
    have inside : limit - 1 < (rows.take (limit + 1)).length := by omega
    have kept : lastKept setting (rows.take (limit + 1)) limit =
        .done (rows.take (limit + 1))[limit - 1] := by
      unfold lastKept
      rw [if_neg (by omega), if_neg (by omega)]
      simp only [List.getElem?_eq_getElem inside]
    have shown : (rows.take limit).map LikedItemDto.ofLike ≠ [] := by
      intro empty
      have length := congrArg List.length empty
      rw [List.length_map, List.length_take, List.length_nil] at length
      omega
    unfold pageOf
    rw [if_pos (by omega), kept]
    refine ⟨_, rfl, ?_, fun _ => ⟨more, ?_⟩, fun _ => rfl⟩
    · rw [List.take_take, min_eq_left (Nat.le_succ limit)]
    · rwa [List.take_take, min_eq_left (Nat.le_succ limit)]
  · have whole : rows.take (limit + 1) = rows := List.take_of_length_le (by omega)
    unfold pageOf
    rw [whole, if_neg more]
    refine ⟨_, rfl, ?_, ?_⟩
    · rw [List.take_of_length_le (not_lt.mp more)]
    · constructor
      · rintro ⟨⟩
      · rintro ⟨absurd, _⟩
        exact (more absurd).elim

/-- With limit zero and a row, the index before the first one is computed, which panics or
wraps to an index that no list has. -/
theorem pageOf_zero {rows : List Like} (nonempty : rows ≠ []) :
    pageOf setting 0 (rows.take 1) = .panicked (if setting.overflowChecks
      then "attempt to subtract with overflow" else "index out of bounds") := by
  obtain ⟨row, rest, rfl⟩ := List.exists_cons_of_ne_nil nonempty
  simp only [pageOf, lastKept, List.take_succ_cons, List.take_zero, List.length_singleton,
    Nat.lt_one_iff, if_true, true_and]
  cases setting.overflowChecks <;> rfl

/-- A page request with a cursor that can be read is safe exactly when `limit + 1` is an `i64`
and the limit is positive, or no row matches, or the query fails. -/
theorem page_safe_iff (setting : Setting) (userId : UserId)
    (contentType cursorStr : Option String) (cursor : Option PaginationCursor) (limit : Nat)
    (environment : Nat → Surroundings) (world : World)
    (decoded : PaginationCursor.decodeOpt setting.cursorJson cursorStr = .ok cursor) :
    SafePage setting userId contentType cursorStr cursor limit environment world ↔
      limit + 1 < 2 ^ 63 ∧
        (1 ≤ limit ∨ pageRows userId contentType cursor world.likes = [] ∨
          (environment 0).fault ≠ none) := by
  have decodes : ∀ overflowChecks, PaginationCursor.decodeOpt
      (setting.built overflowChecks).cursorJson cursorStr = .ok cursor := fun _ => decoded
  have run : limit + 1 < 2 ^ 63 → ∀ overflowChecks,
      (getUserLikedItems (setting.built overflowChecks) userId contentType cursorStr limit).run
        (World.handle (setting.built overflowChecks)) environment world = _ :=
    fun fits overflowChecks => getUserLikedItems_run (decodes overflowChecks) fits
  constructor
  · rintro ⟨exactLimit, comesBack⟩
    have fits : limit + 1 < 2 ^ 63 := asI64_exact_iff.mp (by exact_mod_cast exactLimit)
    refine ⟨fits, ?_⟩
    by_contra atRisk
    push Not at atRisk
    obtain ⟨zero, rows, healthy⟩ := atRisk
    obtain rfl : limit = 0 := by omega
    obtain ⟨result, after, ran, _⟩ := comesBack true
    rw [run fits true, healthy, Nat.zero_add, pageOf_zero rows] at ran
    cases ran
  · rintro ⟨fits, safe⟩
    refine ⟨by exact_mod_cast asI64_exact_iff.mpr fits, fun overflowChecks => ?_⟩
    rw [run fits overflowChecks]
    cases fault : (environment 0).fault with
    | some e => exact ⟨_, _, rfl, by rintro _ ⟨⟩⟩
    | none =>
        by_cases positive : 1 ≤ limit
        · obtain ⟨response, page, right⟩ := @pageOf_right (setting.built overflowChecks) _
            positive (pageRows userId contentType cursor world.likes)
          refine ⟨.ok response, _, by rw [page], ?_⟩
          rintro _ ⟨⟩
          exact right
        · have empty : pageRows userId contentType cursor world.likes = [] := by
            rcases safe with limited | empty | failed
            · exact absurd limited positive
            · exact empty
            · exact absurd fault failed
          obtain rfl : limit = 0 := by omega
          rw [empty]
          refine ⟨.ok ⟨[], none⟩, _, rfl, ?_⟩
          rintro _ ⟨⟩
          exact ⟨rfl, by simp⟩

end Request

/-- One of two rows, and a cursor. -/
theorem page_safe_of_one :
    SafePage .reference ⟨1⟩ none none none 1 (fun _ => .calm)
      (.new simultaneousLikes .empty 0) :=
  (page_safe_iff .reference ⟨1⟩ none none none 1 (fun _ => .calm)
    (.new simultaneousLikes .empty 0) rfl).mpr ⟨by decide, .inl le_rfl⟩

/-- A request for no rows of a user who has two indexes the rows at `0 - 1`, which wraps in a
release build and panics. -/
theorem page_of_zero_panics :
    ¬ SafePage .reference ⟨1⟩ none none none 0 (fun _ => .calm)
        (.new simultaneousLikes .empty 0) ∧
      ∃ after,
        (getUserLikedItems .reference ⟨1⟩ none none 0).run (World.handle .reference)
          (fun _ => .calm) (.new simultaneousLikes .empty 0) =
            some (.panicked "index out of bounds", after, []) := by
  have rows : pageRows ⟨1⟩ none none simultaneousLikes ≠ [] := by decide
  have decoded : PaginationCursor.decodeOpt Setting.reference.cursorJson none = .ok none := rfl
  have fits : 0 + 1 < 2 ^ 63 := by decide
  have ran : (getUserLikedItems .reference ⟨1⟩ none none 0).run (World.handle .reference)
      (fun _ => .calm) (.new simultaneousLikes .empty 0) =
        some (pageOf .reference 0 ((pageRows ⟨1⟩ none none simultaneousLikes).take 1), _, []) :=
    getUserLikedItems_run decoded fits
  rw [pageOf_zero rows] at ran
  refine ⟨?_, _, ran⟩
  rintro ⟨_, comesBack⟩
  obtain ⟨result, after, returned, _⟩ := comesBack false
  cases ran.symm.trans returned

end SocialApi
