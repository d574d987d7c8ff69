/-
Module: SocialApi.Ledger.Streaks
Purpose: Histories of successes and dated failures: how many failures have come since
  the latest success, and when the last one was.
Trusted boundary: none
Main exports:
  Ledger.Attempt, Ledger.streak, Ledger.lastFailure, Ledger.streak_le_failures,
  Ledger.exists_lastFailure
-/
import Mathlib

namespace Ledger

variable {τ : Type}

/-- How an attempt ended; a failure has a date. -/
inductive Attempt (τ : Type) where
  | succeeded
  | failed (date : τ)
deriving DecidableEq, Repr

def Attempt.isFailure : Attempt τ → Bool
  | .succeeded => false
  | .failed _ => true

/-- The failures since the latest success, or since the beginning. -/
def streak (history : List (Attempt τ)) : Nat :=
  history.foldl (fun count outcome => if outcome.isFailure then count + 1 else 0) 0

/-- The date of the last failure. -/
def lastFailure (history : List (Attempt τ)) : Option τ :=
  history.foldl (fun last outcome => match outcome with
    | .succeeded => last
    | .failed date => some date) none

@[simp] theorem streak_nil : streak ([] : List (Attempt τ)) = 0 := rfl

@[simp] theorem lastFailure_nil : lastFailure ([] : List (Attempt τ)) = none := rfl

@[simp] theorem streak_concat_succeeded (history : List (Attempt τ)) :
    streak (history ++ [.succeeded]) = 0 := by
  simp [streak, Attempt.isFailure]

@[simp] theorem streak_concat_failed (history : List (Attempt τ)) (date : τ) :
    streak (history ++ [.failed date]) = streak history + 1 := by
  simp [streak, Attempt.isFailure]

@[simp] theorem lastFailure_concat_succeeded (history : List (Attempt τ)) :
    lastFailure (history ++ [.succeeded]) = lastFailure history := by
  simp [lastFailure]

@[simp] theorem lastFailure_concat_failed (history : List (Attempt τ)) (date : τ) :
    lastFailure (history ++ [.failed date]) = some date := by
  simp [lastFailure]

/-- A streak is part of the history. -/
theorem streak_le_failures (history : List (Attempt τ)) :
    streak history ≤ history.countP Attempt.isFailure := by
  induction history using List.reverseRecOn with
  | nil => exact le_rfl
  | append_singleton history outcome inductionHypothesis =>
      rw [List.countP_append]
      cases outcome with
      | succeeded =>
          rw [streak_concat_succeeded]
          exact Nat.zero_le _
      | failed date =>
          rw [streak_concat_failed]
          have one : [Attempt.failed date].countP Attempt.isFailure = 1 := rfl
          omega

/-- Where there is a streak, there is a last failure. -/
theorem exists_lastFailure {history : List (Attempt τ)} (positive : 0 < streak history) :
    ∃ date, lastFailure history = some date := by
  induction history using List.reverseRecOn with
  | nil => cases positive
  | append_singleton history outcome inductionHypothesis =>
      cases outcome with
      | succeeded =>
          rw [streak_concat_succeeded] at positive
          cases positive
      | failed date => exact ⟨date, lastFailure_concat_failed history date⟩

end Ledger
