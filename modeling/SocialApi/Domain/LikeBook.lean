/-
Module: SocialApi.Domain.LikeBook
Purpose: What the service is for, as an object that is asked one request at a time: who
  likes which item, and since when.
Trusted boundary: human-reviewed statement of purpose, not translated from the source
Main exports:
  LikeBook, BookRequest, BookAnswer, likeBook, bookGain, LikeBook.serves_weight
-/
import SocialApi.Api.Dto
import SocialApi.Process.Linearization

namespace SocialApi

open Process

/-- A user and an item. -/
abbrev LikeKey := UserId × ContentType × ContentId

/-- Since when each user likes each item. -/
abbrev LikeBook := LikeKey → Option DateTime

inductive BookRequest where
  | like (key : LikeKey) (instant : DateTime)
  | unlike (key : LikeKey)
  | status (key : LikeKey)
  | statuses (userId : UserId) (items : List ContentItem)
deriving DecidableEq, Repr

inductive BookAnswer where
  /-- The item was liked before. -/
  | existed (already : Bool)
  /-- There was a like to take back. -/
  | taken (wasLiked : Bool)
  | since (instant : Option DateTime)
  | sinceEach (instants : List (Option DateTime))
deriving DecidableEq, Repr

/-- A like that is there is kept with its instant. -/
def LikeBook.serve : BookRequest → LikeBook → BookAnswer × LikeBook
  | .like key instant, book =>
      match book key with
      | some _ => (.existed true, book)
      | none => (.existed false, Function.update book key (some instant))
  | .unlike key, book => (.taken (book key).isSome, Function.update book key none)
  | .status key, book => (.since (book key), book)
  | .statuses userId items, book =>
      (.sinceEach (items.map fun item => book (userId, item.contentType, item.contentId)), book)

@[reducible] def likeBook : SequentialObject where
  Request := BookRequest
  Answer := BookAnswer
  State := LikeBook
  serve := LikeBook.serve

/-! ### Likes won and lost -/

/-- One for a like that was new, minus one for a like that was taken back. -/
def bookGain (key : LikeKey) : BookRequest × BookAnswer → Int
  | (.like other _, .existed false) => if other = key then 1 else 0
  | (.unlike other, .taken true) => if other = key then -1 else 0
  | _ => 0

/-- One if the key is liked. -/
def LikeBook.weight (book : LikeBook) (key : LikeKey) : Int := if (book key).isSome then 1 else 0

theorem LikeBook.serve_weight {request : BookRequest} {answer : BookAnswer}
    {book next : LikeBook} (served : LikeBook.serve request book = (answer, next))
    (key : LikeKey) : next.weight key = book.weight key + bookGain key (request, answer) := by
  cases request with
  | like other instant =>
      simp only [serve] at served
      cases there : book other with
      | some since =>
          rw [there] at served
          obtain ⟨rfl, rfl⟩ := Prod.mk.inj served
          simp [bookGain]
      | none =>
          rw [there] at served
          obtain ⟨rfl, rfl⟩ := Prod.mk.inj served
          by_cases same : other = key
          · subst same
            simp [weight, bookGain, there]
          · simp [weight, bookGain, same, Function.update_of_ne (Ne.symm same)]
  | unlike other =>
      obtain ⟨rfl, rfl⟩ := Prod.mk.inj served
      by_cases same : other = key
      · subst same
        cases there : book other <;> simp [weight, bookGain, there]
      · cases (book other).isSome <;>
          simp [weight, bookGain, same, Function.update_of_ne (Ne.symm same)]
  | status other =>
      obtain ⟨rfl, rfl⟩ := Prod.mk.inj served
      simp [bookGain]
  | statuses userId items =>
      obtain ⟨rfl, rfl⟩ := Prod.mk.inj served
      simp [bookGain]

/-- Whether a key is liked is what was won and lost since. -/
theorem LikeBook.serves_weight {first last : LikeBook} {asked : List (BookRequest × BookAnswer)}
    (serves : likeBook.Serves first asked last) (key : LikeKey) :
    last.weight key = first.weight key + (asked.map (bookGain key)).sum :=
  serves.sum (fun book : LikeBook => book.weight key) _
    fun _ _ _ _ served => LikeBook.serve_weight served key

end SocialApi
