/-
Module: SocialApi.Ledger.TokenBucket
Purpose: A bucket that fills at a constant rate up to a capacity and that is charged a cost
  now and then, over any ordered field: what it holds when it is not written for a while, and
  how many charges its credit can back.
Trusted boundary: none
Main exports:
  Ledger.Bucket, Ledger.Bucket.level, Ledger.Bucket.charge, Ledger.Bucket.ask,
  Ledger.Bucket.level_level, Ledger.Bucket.asks_eq, Ledger.Backed, Ledger.backed_full,
  Ledger.Backed.charge, Ledger.Backed.charged_le
-/
import Mathlib

namespace Ledger

variable {K : Type} [Field K] [LinearOrder K] [IsStrictOrderedRing K]

/-- The tokens that were in the bucket at a time. -/
structure Bucket (K : Type) where
  tokens : K
  stamp : K
deriving DecidableEq

variable {capacity rate cost now : K} {bucket : Bucket K}

/-- The tokens in the bucket now.  A time before the stamp adds nothing. -/
def Bucket.level (capacity rate now : K) (bucket : Bucket K) : K :=
  min capacity (bucket.tokens + max 0 (now - bucket.stamp) * rate)

/-- The bucket after a charge that it had the tokens for. -/
def Bucket.charge (capacity rate cost now : K) (bucket : Bucket K) : Bucket K :=
  ⟨bucket.level capacity rate now - cost, now⟩

/-- Time that goes forward adds its share. -/
theorem Bucket.level_le (forward : bucket.stamp ≤ now) :
    bucket.level capacity rate now ≤ bucket.tokens + rate * (now - bucket.stamp) := by
  have elapsed : max 0 (now - bucket.stamp) = now - bucket.stamp :=
    max_eq_right (sub_nonneg.mpr forward)
  rw [Bucket.level, elapsed, mul_comm]
  exact min_le_right _ _

/-- Time that goes back adds nothing. -/
theorem Bucket.level_of_back (back : now ≤ bucket.stamp)
    (within : bucket.tokens ≤ capacity) :
    bucket.level capacity rate now = bucket.tokens := by
  rw [Bucket.level, max_eq_left (sub_nonpos.mpr back), zero_mul, add_zero]
  exact min_eq_right within

/-- A request for tokens: whether the bucket has them, and the bucket with what it holds now,
less the cost if it has. -/
def Bucket.ask (capacity rate cost now : K) (bucket : Bucket K) : Bool × Bucket K :=
  if cost ≤ bucket.level capacity rate now then (true, bucket.charge capacity rate cost now)
  else (false, ⟨bucket.level capacity rate now, now⟩)

omit [IsStrictOrderedRing K] in
/-- Two buckets that hold the same answer a request the same way. -/
theorem Bucket.ask_congr {other : Bucket K}
    (same : bucket.level capacity rate now = other.level capacity rate now) :
    bucket.ask capacity rate cost now = other.ask capacity rate cost now := by
  simp only [ask, charge, same]

/-- The tokens are not negative and fit in the bucket. -/
def Bucket.Within (capacity : K) (bucket : Bucket K) : Prop :=
  0 ≤ bucket.tokens ∧ bucket.tokens ≤ capacity

/-- A request keeps the tokens within the bucket. -/
theorem Bucket.Within.ask (within : bucket.Within capacity) (flows : 0 ≤ rate)
    (positive : 0 ≤ cost) : (bucket.ask capacity rate cost now).2.Within capacity := by
  have inflow : 0 ≤ max 0 (now - bucket.stamp) * rate := mul_nonneg (le_max_left _ _) flows
  have holds : 0 ≤ bucket.level capacity rate now :=
    le_min (within.1.trans within.2) (add_nonneg within.1 inflow)
  have fits : bucket.level capacity rate now ≤ capacity := min_le_left _ _
  unfold Bucket.ask
  split
  · next enough => exact ⟨sub_nonneg.mpr enough, (sub_le_self _ positive).trans fits⟩
  · exact ⟨holds, fits⟩

/-- A bucket that has filled up stays full. -/
theorem Bucket.level_of_full (full : capacity ≤ bucket.tokens + (now - bucket.stamp) * rate)
    (flows : 0 ≤ rate) {later : K} (forward : now ≤ later) :
    bucket.level capacity rate later = capacity := by
  have inflow : (now - bucket.stamp) * rate ≤ max 0 (later - bucket.stamp) * rate :=
    mul_le_mul_of_nonneg_right
      ((sub_le_sub_right forward bucket.stamp).trans (le_max_right _ _)) flows
  apply min_eq_left
  linarith

/-- Writing the level back with the time it was read at changes no later level. -/
theorem Bucket.level_level (flows : 0 ≤ rate) (behind : bucket.stamp ≤ now) {later : K}
    (forward : now ≤ later) :
    (⟨bucket.level capacity rate now, now⟩ : Bucket K).level capacity rate later =
      bucket.level capacity rate later := by
  have first : max 0 (now - bucket.stamp) = now - bucket.stamp :=
    max_eq_right (sub_nonneg.mpr behind)
  have second : max 0 (later - now) = later - now := max_eq_right (sub_nonneg.mpr forward)
  have whole : max 0 (later - bucket.stamp) = later - bucket.stamp :=
    max_eq_right (sub_nonneg.mpr (behind.trans forward))
  have inflow : 0 ≤ (later - now) * rate := mul_nonneg (sub_nonneg.mpr forward) flows
  have split : bucket.tokens + (later - bucket.stamp) * rate =
      bucket.tokens + (now - bucket.stamp) * rate + (later - now) * rate := by ring
  simp only [level, first, second, whole, split]
  rcases le_total capacity (bucket.tokens + (now - bucket.stamp) * rate) with full | short
  · rw [min_eq_left full, min_eq_left (by linarith), min_eq_left (by linarith)]
  · rw [min_eq_right short]

omit [IsStrictOrderedRing K] in
theorem Bucket.ask_stamp (bucket : Bucket K) (capacity rate cost now : K) :
    (bucket.ask capacity rate cost now).2.stamp = now := by
  unfold Bucket.ask
  split <;> rfl

/-- What is left after a request is what the bucket holds then. -/
theorem Bucket.level_ask (bucket : Bucket K) (capacity rate now : K) (positive : 0 ≤ cost) :
    (bucket.ask capacity rate cost now).2.level capacity rate now =
      (bucket.ask capacity rate cost now).2.tokens := by
  have fits : bucket.level capacity rate now ≤ capacity := min_le_left _ _
  unfold Bucket.ask
  split
  · exact Bucket.level_of_back le_rfl ((sub_le_self _ positive).trans fits)
  · exact Bucket.level_of_back le_rfl fits

/-- The answers to requests that all come now. -/
def Bucket.asks (capacity rate cost now : K) : Nat → Bucket K → List Bool
  | 0, _ => []
  | n + 1, bucket =>
      (bucket.ask capacity rate cost now).1 ::
        asks capacity rate cost now n (bucket.ask capacity rate cost now).2

/-- Requests for one token each are granted as long as there are whole tokens, and then no
more. -/
theorem Bucket.asks_eq [FloorSemiring K] (n : Nat) :
    bucket.asks capacity rate 1 now n =
      List.replicate (min n ⌊bucket.level capacity rate now⌋₊) true ++
        List.replicate (n - ⌊bucket.level capacity rate now⌋₊) false := by
  induction n generalizing bucket with
  | zero => simp [asks]
  | succ n inductionHypothesis =>
      have next := bucket.level_ask capacity rate now zero_le_one
      rw [asks, inductionHypothesis, next]
      by_cases enough : 1 ≤ bucket.level capacity rate now
      · have granted : bucket.ask capacity rate 1 now =
            (true, bucket.charge capacity rate 1 now) := if_pos enough
        have some_left : 1 ≤ ⌊bucket.level capacity rate now⌋₊ := Nat.le_floor (by simpa)
        obtain ⟨left, whole⟩ := Nat.exists_eq_add_of_le' some_left
        have less : ⌊(bucket.charge capacity rate 1 now).tokens⌋₊ = left := by
          rw [charge, Nat.floor_sub_one, whole, Nat.add_sub_cancel]
        rw [granted, less, whole, Nat.add_min_add_right, List.replicate_succ, List.cons_append,
          Nat.add_sub_add_right]
      · have denied : bucket.ask capacity rate 1 now =
            (false, ⟨bucket.level capacity rate now, now⟩) := if_neg enough
        have none_left : ⌊bucket.level capacity rate now⌋₊ = 0 :=
          Nat.floor_eq_zero.mpr (not_le.mp enough)
        rw [denied, none_left]
        simp [List.replicate_succ]

/-- The charges made so far and the tokens left are backed by a full bucket at the start and
what has flowed in from there to the stamp. -/
structure Backed (capacity rate start : K) (charged : K) (bucket : Bucket K) : Prop where
  nonneg : 0 ≤ bucket.tokens
  within : bucket.tokens ≤ capacity
  after_start : start ≤ bucket.stamp
  backed : charged + bucket.tokens ≤ capacity + rate * (bucket.stamp - start)

section Backed

variable {start charged : K}

/-- The first charge of a full bucket. -/
theorem backed_full (affordable : cost ≤ capacity) (positive : 0 ≤ cost) (flows : 0 ≤ rate)
    (after : start ≤ now) : Backed capacity rate start cost ⟨capacity - cost, now⟩ where
  nonneg := sub_nonneg.mpr affordable
  within := sub_le_self capacity positive
  after_start := after
  backed := by
    have inflow : 0 ≤ rate * (now - start) := mul_nonneg flows (sub_nonneg.mpr after)
    linarith

/-- A charge that does not go back in time is backed as well. -/
theorem Backed.charge (holds : Backed capacity rate start charged bucket)
    (enough : cost ≤ bucket.level capacity rate now) (positive : 0 ≤ cost)
    (forward : bucket.stamp ≤ now) :
    Backed capacity rate start (charged + cost) (bucket.charge capacity rate cost now) where
  nonneg := sub_nonneg.mpr enough
  within := (sub_le_self _ positive).trans (min_le_left _ _)
  after_start := holds.after_start.trans forward
  backed := by
    have credit : bucket.level capacity rate now ≤
        bucket.tokens + rate * (now - bucket.stamp) := Bucket.level_le forward
    have before := holds.backed
    have split : rate * (now - start) =
        rate * (bucket.stamp - start) + rate * (now - bucket.stamp) := by ring
    simp only [Bucket.charge]
    rw [split]
    linarith

/-- What has been charged is at most a full bucket and the inflow of the whole time. -/
theorem Backed.charged_le {finish : K} (holds : Backed capacity rate start charged bucket)
    (flows : 0 ≤ rate) (before : bucket.stamp ≤ finish) :
    charged ≤ capacity + rate * (finish - start) := by
  have left := holds.nonneg
  have backed := holds.backed
  have inflow : rate * (bucket.stamp - start) ≤ rate * (finish - start) :=
    mul_le_mul_of_nonneg_left (sub_le_sub_right before start) flows
  linarith

end Backed

end Ledger
