/-
Module: SocialApi.Infrastructure.CircuitBreaker
Purpose: The cells of the circuit breaker and its three operations on them.
Trusted boundary: human-reviewed model of clients/circuit_breaker.rs; each of its
  three operations on the cells is one step
Main exports:
  BreakerState, CircuitBreaker, CircuitBreaker.checkState, reset, recordFailure,
  CircuitBreaker.Untripped
-/
import Mathlib

namespace SocialApi

/-- `State`; `Open` is a keyword here. -/
inductive BreakerState where
  | closed
  | opened
  | halfOpen
deriving DecidableEq, Repr

structure CircuitBreaker where
  threshold : Nat
  timeout : Int
  failures : Nat
  lastFailureTime : Int
  state : BreakerState
deriving DecidableEq, Repr

namespace CircuitBreaker

/-- `from_env`, given the two settings it reads. -/
def fromEnv (threshold : Nat) (timeout : Int) : CircuitBreaker where
  threshold := threshold
  timeout := timeout
  failures := 0
  lastFailureTime := 0
  state := .closed

/-- The state that the failures so far and the time since the last one call for. -/
def finalState (now : Int) (breaker : CircuitBreaker) : BreakerState :=
  if breaker.failures < breaker.threshold then .closed
  else if breaker.timeout ≤ now - breaker.lastFailureTime then .halfOpen
  else .opened

/-- `check_state`: a transition is stored, and one to `Closed` forgets the failures. -/
def checkState (now : Int) (breaker : CircuitBreaker) : BreakerState × CircuitBreaker :=
  if breaker.state ≠ breaker.finalState now then
    (breaker.finalState now,
      { breaker with
        state := breaker.finalState now
        failures := if breaker.finalState now = .closed then 0 else breaker.failures })
  else (breaker.finalState now, breaker)

@[simp] theorem checkState_fst (breaker : CircuitBreaker) (now : Int) :
    (breaker.checkState now).1 = breaker.finalState now := by
  unfold checkState
  split <;> rfl

theorem finalState_closed_iff {breaker : CircuitBreaker} {now : Int} :
    breaker.finalState now = .closed ↔ breaker.failures < breaker.threshold := by
  unfold finalState
  split
  · next few => exact ⟨fun _ => few, fun _ => rfl⟩
  · next many =>
      constructor
      · intro closed
        split at closed <;> cases closed
      · intro few
        exact absurd few many

def reset (breaker : CircuitBreaker) : CircuitBreaker := { breaker with failures := 0 }

/-- `fetch_add` on a `u32`, and the time of the failure. -/
def recordFailure (now : Int) (breaker : CircuitBreaker) : CircuitBreaker :=
  { breaker with
    failures := (breaker.failures + 1) % 2 ^ 32
    lastFailureTime := now }

/-- No failure has been recorded yet. -/
structure Untripped (threshold : Nat) (timeout : Int) (breaker : CircuitBreaker) :
    Prop where
  threshold_eq : breaker.threshold = threshold
  timeout_eq : breaker.timeout = timeout
  failures_eq : breaker.failures = 0
  lastFailureTime_eq : breaker.lastFailureTime = 0

section Untripped

variable {threshold : Nat} {timeout : Int} {breaker : CircuitBreaker}

theorem untripped_fromEnv : (fromEnv threshold timeout).Untripped threshold timeout :=
  ⟨rfl, rfl, rfl, rfl⟩

/-- A check opens the breaker without a failure only where the threshold is zero and
the clock is still below the timeout. -/
theorem Untripped.checkState_opened (untripped : breaker.Untripped threshold timeout)
    (now : Int) :
    (breaker.checkState now).1 = .opened ↔ threshold = 0 ∧ now < timeout := by
  obtain ⟨rfl, rfl, failures, last⟩ := untripped
  rw [checkState_fst]
  unfold finalState
  rw [failures, last, Int.sub_zero]
  split
  · next positive =>
      constructor
      · intro absurd
        cases absurd
      · rintro ⟨zero, _⟩
        exact absurd zero (Nat.ne_of_gt positive)
  · next zero =>
      split
      · next late =>
          constructor
          · intro absurd
            cases absurd
          · rintro ⟨_, early⟩
            exact absurd late (not_le.mpr early)
      · next early => exact ⟨fun _ => ⟨by omega, not_le.mp early⟩, fun _ => rfl⟩

theorem Untripped.checkState (untripped : breaker.Untripped threshold timeout)
    (now : Int) : (breaker.checkState now).2.Untripped threshold timeout := by
  obtain ⟨rfl, rfl, failures, last⟩ := untripped
  unfold CircuitBreaker.checkState
  split
  · refine ⟨rfl, rfl, ?_, last⟩
    dsimp only
    rw [failures, ite_self]
  · exact ⟨rfl, rfl, failures, last⟩

theorem Untripped.reset (untripped : breaker.Untripped threshold timeout) :
    breaker.reset.Untripped threshold timeout :=
  ⟨untripped.threshold_eq, untripped.timeout_eq, rfl, untripped.lastFailureTime_eq⟩

end Untripped

end CircuitBreaker

end SocialApi
