/-
Module: SocialApi.Ledger.Books
Purpose: A number of rows and a cached copy of it that is counted up and down beside
  the rows and overwritten now and then: what both are after any sequence of entries.
Trusted boundary: none
Main exports:
  Ledger.Entry, Ledger.Books, Ledger.Books.postAll, Ledger.rows_postAll,
  Ledger.cached_postAll, Ledger.cached_postAll_filled
-/
import Mathlib

namespace Ledger

/-- What can happen to the rows or to the cached number. -/
inductive Entry where
  | inserted
  | deleted
  | countedUp
  | countedDown
  | filled (n : Int)
  | other
deriving DecidableEq, Repr

/-- The rows, and the cached number if there is one. -/
structure Books where
  rows : Int
  cached : Option Int

/-- One entry.  Counting from no number counts from zero. -/
def Books.post (books : Books) : Entry → Books
  | .inserted => { books with rows := books.rows + 1 }
  | .deleted => { books with rows := books.rows - 1 }
  | .countedUp => { books with cached := some (books.cached.getD 0 + 1) }
  | .countedDown => { books with cached := some (books.cached.getD 0 - 1) }
  | .filled n => { books with cached := some n }
  | .other => books

def Books.postAll (books : Books) (entries : List Entry) : Books :=
  entries.foldl Books.post books

def Entry.isFill : Entry → Bool
  | .filled _ => true
  | _ => false

/-- An insert that is counted up makes no difference. -/
def Entry.uncounted : Entry → Int
  | .inserted => 1
  | .countedUp => -1
  | _ => 0

/-- How much the rows grow. -/
def rowsNet (entries : List Entry) : Int :=
  entries.count .inserted - entries.count .deleted

/-- How much the counters count up. -/
def countersNet (entries : List Entry) : Int :=
  entries.count .countedUp - entries.count .countedDown

@[simp] theorem Books.postAll_nil (books : Books) : books.postAll [] = books := rfl

@[simp] theorem Books.postAll_cons (books : Books) (entry : Entry)
    (entries : List Entry) :
    books.postAll (entry :: entries) = (books.post entry).postAll entries := rfl

theorem Books.postAll_append (books : Books) (left right : List Entry) :
    books.postAll (left ++ right) = (books.postAll left).postAll right := by
  simp [postAll]

theorem countersNet_append (left right : List Entry) :
    countersNet (left ++ right) = countersNet left + countersNet right := by
  simp only [countersNet, List.count_append]
  omega

/-- A fill counts nothing. -/
theorem countersNet_filled (left : List Entry) (n : Int) (right : List Entry) :
    countersNet (left ++ .filled n :: right) = countersNet left + countersNet right := by
  rw [countersNet_append]
  simp [countersNet]

theorem sum_uncounted (entries : List Entry) :
    (entries.map Entry.uncounted).sum =
      entries.count .inserted - entries.count .countedUp := by
  induction entries with
  | nil => rfl
  | cons entry entries inductionHypothesis =>
      rw [List.map_cons, List.sum_cons, inductionHypothesis]
      cases entry <;> simp [Entry.uncounted] <;> omega

/-- The rows are what they were, and what has been inserted and not deleted. -/
theorem rows_postAll (books : Books) (entries : List Entry) :
    (books.postAll entries).rows = books.rows + rowsNet entries := by
  induction entries generalizing books with
  | nil => simp [rowsNet]
  | cons entry entries inductionHypothesis =>
      rw [Books.postAll_cons, inductionHypothesis]
      cases entry <;> simp [Books.post, rowsNet] <;> omega

/-- Without a fill, the cached number is what it was, and what has been counted. -/
theorem cached_postAll (books : Books) {entries : List Entry}
    (unfilled : ∀ entry ∈ entries, entry.isFill = false) :
    (books.postAll entries).cached.getD 0 =
      books.cached.getD 0 + countersNet entries := by
  induction entries generalizing books with
  | nil => simp [countersNet]
  | cons entry entries inductionHypothesis =>
      rw [Books.postAll_cons,
        inductionHypothesis _ fun later member => unfilled later (by simp [member])]
      have head := unfilled entry (by simp)
      cases entry with
      | filled n => cases head
      | _ => simp [Books.post, countersNet] <;> omega

/-- A number that is there stays there. -/
theorem cached_isSome_postAll {books : Books} (entries : List Entry)
    (present : books.cached.isSome) : (books.postAll entries).cached.isSome := by
  induction entries generalizing books with
  | nil => exact present
  | cons entry entries inductionHypothesis =>
      rw [Books.postAll_cons]
      apply inductionHypothesis
      cases entry <;> simp [Books.post, present]

/-- After the last fill, the cached number is what was filled in, and what has been
counted since. -/
theorem cached_postAll_filled (books : Books) (earlier : List Entry) (n : Int)
    {later : List Entry} (unfilled : ∀ entry ∈ later, entry.isFill = false) :
    (books.postAll (earlier ++ .filled n :: later)).cached =
      some (n + countersNet later) := by
  rw [Books.postAll_append, Books.postAll_cons]
  have counted := cached_postAll ((books.postAll earlier).post (.filled n)) unfilled
  have filled : (((books.postAll earlier).post (.filled n)).postAll later).cached.isSome :=
    cached_isSome_postAll later rfl
  obtain ⟨value, present⟩ := Option.isSome_iff_exists.mp filled
  rw [present] at counted ⊢
  rw [Option.getD_some] at counted
  rw [counted]
  rfl

end Ledger
