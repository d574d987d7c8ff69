/-
Module: SocialApi.Proofs.RateLimitBound
Purpose: How many requests the rate limit lets through, whatever the clocks of the replicas
  say.
Trusted boundary: none
Main exports:
  TokenBucket.toBucket, rateLimitScript_absent, rateLimitScript_present, Metered,
  allowed_le_of_neverBehind, allowed_beyond_limit
-/
import SocialApi.Infrastructure.RateLimit

namespace SocialApi

open Process
open Ledger (Bucket Backed)

/-! ### The script as a token bucket -/

def TokenBucket.toBucket (bucket : TokenBucket) : Bucket ℚ :=
  ⟨bucket.tokens, bucket.lastUpdate⟩

section Script

variable {clock : Int} {capacity fillRate now cost : ℚ}

/-- An absent key is a full bucket. -/
theorem rateLimitScript_absent (clock : Int) (fillRate now : ℚ)
    (affordable : cost ≤ capacity) :
    (rateLimitScript clock capacity fillRate now cost none).1.2.2 = true ∧
      (rateLimitScript clock capacity fillRate now cost none).2 =
        some ⟨capacity - cost, now, clock + 3600⟩ := by
  have full : min capacity (capacity + max 0 (now - now) * fillRate) = capacity := by
    rw [sub_self, max_self, zero_mul, add_zero, min_self]
  simp only [rateLimitScript, Option.map_none, Option.getD_none, full, if_pos affordable,
    and_self]

/-- A request is let through when the bucket has the tokens for it, and only then are they
taken. -/
theorem rateLimitScript_present (bucket : TokenBucket) :
    (cost ≤ bucket.toBucket.level capacity fillRate now ∧
        (rateLimitScript clock capacity fillRate now cost (some bucket)).1.2.2 = true ∧
        ∃ charged, (rateLimitScript clock capacity fillRate now cost (some bucket)).2 =
            some charged ∧
          charged.toBucket = bucket.toBucket.charge capacity fillRate cost now) ∨
      (bucket.toBucket.level capacity fillRate now < cost ∧
        (rateLimitScript clock capacity fillRate now cost (some bucket)).1.2.2 = false ∧
        (rateLimitScript clock capacity fillRate now cost (some bucket)).2 =
          some bucket) := by
  have level : bucket.toBucket.level capacity fillRate now =
      min capacity (bucket.tokens + max 0 (now - bucket.lastUpdate) * fillRate) := rfl
  rcases le_or_gt cost (bucket.toBucket.level capacity fillRate now) with enough | short
  · refine .inl ⟨enough, ?_⟩
    rw [level] at enough
    simp only [rateLimitScript, Option.map_some, Option.getD_some, if_pos enough]
    exact ⟨trivial, _, rfl, rfl⟩
  · refine .inr ⟨short, ?_⟩
    rw [level] at short
    simp only [rateLimitScript, Option.map_some, Option.getD_some, if_neg (not_le.mpr short),
      and_self]

end Script

/-! ### Calls on one key -/

/-- A check of the key that lets its request through. -/
def allows (key : String) : (op : LimiterOp) → op.Res → Bool
  | .checkLimit checked _ _, .ok status => checked = key ∧ status.allowed
  | _, _ => false

/-- How many requests the checks of the key have let through. -/
def allowedCount (key : String) (trace : List (Event limiterService)) : Nat :=
  trace.countP fun event => allows key event.op event.res

/-- A check of the key. -/
def LimiterOp.Checks (key : String) (op : LimiterOp) : Prop :=
  ∃ limit windowSecs, op = .checkLimit key limit windowSecs

/-- All checks of the key are for one limit and window and happen between two times, and
the key does not expire. -/
structure MeteredRun (key : String) (limit windowSecs low high : Nat)
    (trace : List (Event limiterService)) : Prop where
  checks : ∀ event ∈ trace, event.op.Checks key →
    event.op = .checkLimit key limit windowSecs ∧ low ≤ event.env.now ∧ event.env.now ≤ high
  stays : ∀ event ∈ trace, key ∉ event.env.expired

/-- A check whose clock is behind the stored time finds no token left. -/
def NeverBehind (key : String) (trace : List (Event limiterService)) : Prop :=
  ∀ event ∈ trace, event.op.Checks key → ∀ bucket, event.before.buckets key = some bucket →
    (event.env.now : ℚ) < bucket.lastUpdate → bucket.tokens < 1

/-- The requests let through so far are backed by what the bucket has held. -/
inductive Metered (capacity rate low high : ℚ) (count : Nat) : Option TokenBucket → Prop where
  | absent (none_yet : count = 0) : Metered capacity rate low high count none
  | present {bucket : TokenBucket}
      (backed : Backed capacity rate low count bucket.toBucket)
      (stamped : bucket.lastUpdate ≤ high) :
      Metered capacity rate low high count (some bucket)

section Runs

variable {key : String} {limit windowSecs low high : Nat} {state : LimiterState}
  {calls : List LimitedRequest} {trace : List (Event limiterService)}
  {last : Pool limiterService} {env : LimiterEnv} {before after : LimiterState}
  {spawned : List LimitedRequest}

/-- A check that is answered does what the script does. -/
theorem LimiterState.handle_checkLimit {answer : Except DomainError RateLimitStatus}
    (stays : key ∉ env.expired)
    (handled : LimiterState.handle env (.checkLimit key limit windowSecs) before =
      some (answer, after, spawned)) :
    (allows key (.checkLimit key limit windowSecs) answer = false ∧
        after.buckets key = before.buckets key) ∨
      ∃ clock, allows key (.checkLimit key limit windowSecs) answer =
          (rateLimitScript clock limit (limit / windowSecs) env.now 1
            (before.buckets key)).1.2.2 ∧
        after.buckets key = (rateLimitScript clock limit (limit / windowSecs) env.now 1
          (before.buckets key)).2 := by
  simp only [handle, SocialApi.checkLimit, advance, Option.some.injEq, Prod.mk.injEq] at handled
  obtain ⟨rfl, rfl, -⟩ := handled
  cases env.fault with
  | some e => exact .inl ⟨rfl, if_neg stays⟩
  | none =>
      refine .inr ⟨before.clock + env.elapse, ?_⟩
      simp [stays, allows]

/-- Only a check of the key changes what is under it. -/
theorem LimiterState.handle_other {op : LimiterOp} {answer : op.Res}
    (stays : key ∉ env.expired) (other : ¬ op.Checks key)
    (handled : LimiterState.handle env op before = some (answer, after, spawned)) :
    after.buckets key = before.buckets key ∧ allows key op answer = false := by
  cases op with
  | nextRun =>
      simp only [handle, advance, Option.some.injEq, Prod.mk.injEq] at handled
      obtain ⟨-, rfl, -⟩ := handled
      exact ⟨if_neg stays, rfl⟩
  | checkLimit checked l w =>
      have ne : checked ≠ key := by
        rintro rfl
        exact other ⟨l, w, rfl⟩
      simp only [handle, SocialApi.checkLimit, advance, Option.some.injEq,
        Prod.mk.injEq] at handled
      obtain ⟨rfl, rfl, -⟩ := handled
      cases env.fault with
      | some e => exact ⟨if_neg stays, rfl⟩
      | none =>
          constructor
          · simp [stays, Function.update_of_ne ne.symm]
          · simp [allows, ne]

/-- What one check of the key does to it. -/
theorem Metered.check {answer : Except DomainError RateLimitStatus} {count : Nat}
    (holds : Metered limit (limit / windowSecs) low high count (before.buckets key))
    (positive : 1 ≤ limit) (stays : key ∉ env.expired) (after_low : low ≤ env.now)
    (before_high : env.now ≤ high)
    (ahead : ∀ bucket, before.buckets key = some bucket →
      (env.now : ℚ) < bucket.lastUpdate → bucket.tokens < 1)
    (handled : LimiterState.handle env (.checkLimit key limit windowSecs) before =
      some (answer, after, spawned)) :
    Metered limit (limit / windowSecs) low high
      (count + if allows key (.checkLimit key limit windowSecs) answer then 1 else 0)
      (after.buckets key) := by
  have flows : (0 : ℚ) ≤ limit / windowSecs := by positivity
  have one : (1 : ℚ) ≤ limit := Nat.one_le_cast.mpr positive
  have late : (low : ℚ) ≤ env.now := Nat.cast_le.mpr after_low
  have early : (env.now : ℚ) ≤ high := Nat.cast_le.mpr before_high
  rcases LimiterState.handle_checkLimit stays handled with
    ⟨denied, same⟩ | ⟨clock, verdict, stored⟩
  · rw [denied, same]
    exact holds
  rw [verdict, stored]
  generalize before.buckets key = found at holds ahead
  cases holds with
  | absent none_yet =>
      obtain ⟨allowed, full⟩ :=
        rateLimitScript_absent clock ((limit : ℚ) / windowSecs) env.now one
      rw [allowed, full, if_pos rfl, none_yet]
      refine .present ?_ early
      rw [Nat.zero_add, Nat.cast_one]
      exact Ledger.backed_full one zero_le_one flows late
  | @present bucket backed stamped =>
      rcases rateLimitScript_present bucket with
        ⟨enough, allowed, charged, taken, charged_eq⟩ | ⟨_, denied, kept⟩
      · rw [allowed, taken, if_pos rfl]
        have forward : bucket.lastUpdate ≤ env.now := by
          by_contra behind
          rw [not_le] at behind
          rw [Bucket.level_of_back behind.le backed.within] at enough
          exact absurd enough (not_le.mpr (ahead bucket rfl behind))
        have more := backed.charge enough zero_le_one forward
        rw [← charged_eq] at more
        refine .present (by simpa using more) ?_
        have stamp : charged.lastUpdate = env.now := congrArg Bucket.stamp charged_eq
        rw [stamp]
        exact early
      · rw [denied, kept]
        exact .present backed stamped

/-- When no check that goes back in time finds a token, the requests let through are at most
a full bucket and what flows into it between the first and the last of the timestamps. -/
theorem allowed_le_of_neverBehind (positive : 1 ≤ limit) (ordered : low ≤ high)
    (absent : state.buckets key = none)
    (run : Run (M := limiterService) (Pool.start state calls) trace last)
    (metered : MeteredRun key limit windowSecs low high trace)
    (never : NeverBehind key trace) :
    (allowedCount key trace : ℚ) ≤ limit + (limit / windowSecs) * (high - low) := by
  have flows : (0 : ℚ) ≤ limit / windowSecs := by positivity
  have holds : Metered limit (limit / windowSecs) low high (allowedCount key trace)
      (last.state.buckets key) := by
    apply run.replays.history fun before (found : LimiterState) =>
      Metered limit (limit / windowSecs) low high (allowedCount key before)
        (found.buckets key)
    · intro before event after spawned member handled holds
      have stays := metered.stays event member
      have counted : allowedCount key (before ++ [event]) = allowedCount key before +
          if allows key event.op event.res then 1 else 0 := by
        rw [allowedCount, List.countP_append, List.countP_singleton]
        rfl
      rw [counted]
      by_cases checks : event.op.Checks key
      · obtain ⟨op_eq, after_low, before_high⟩ := metered.checks event member checks
        have ahead := never event member checks
        obtain ⟨thread, call, env, op, res, found⟩ := event
        obtain rfl : op = .checkLimit key limit windowSecs := op_eq
        exact holds.check positive stays after_low before_high ahead handled
      · obtain ⟨same, denied⟩ := LimiterState.handle_other stays checks handled
        rw [same, denied]
        exact holds
    · have empty : (Pool.start (M := limiterService) state calls).state.buckets key = none :=
        absent
      rw [empty]
      exact .absent rfl
  have between : (0 : ℚ) ≤ high - low := sub_nonneg.mpr (Nat.cast_le.mpr ordered)
  generalize last.state.buckets key = found at holds
  cases holds with
  | absent none_yet =>
      rw [none_yet]
      positivity
  | present backed stamped => exact backed.charged_le flows stamped

end Runs

/-! ### Two replicas -/

/-- Requests of one client to a route that lets two through in two seconds. -/
def clientRequests (n : Nat) : List LimitedRequest :=
  List.replicate n { userId := none, ip := some "1.2.3.4", limit := 2, window := 2 }

/-- Each request is checked by a replica whose clock says so. -/
def checksAt (clocks : List Nat) : List (Nat × LimiterEnv) :=
  clocks.zipIdx.map fun entry =>
    (entry.2, { expired := [], elapse := 0, fault := none, now := entry.1 })

/-- The executable form of `MeteredRun` for these requests. -/
def metered? (high : Nat) (trace : List (Event limiterService)) : Bool :=
  trace.all fun event => event.op = .checkLimit "rl:ip:1.2.3.4" 2 2 &&
    event.env.now ≤ high && event.env.expired = []

theorem meteredRun_of_metered? {high : Nat} {trace : List (Event limiterService)}
    (checked : metered? high trace = true) :
    MeteredRun "rl:ip:1.2.3.4" 2 2 0 high trace := by
  simp only [metered?, List.all_eq_true, Bool.and_eq_true, decide_eq_true_eq] at checked
  constructor
  · intro event member _
    exact ⟨(checked event member).1.1, Nat.zero_le _, (checked event member).1.2⟩
  · intro event member
    rw [(checked event member).2]
    exact List.not_mem_nil

/-- Clocks that agree let four of five requests through in two seconds. -/
theorem allowed_le_of_forward :
    ∃ trace last, Run (M := limiterService)
        (Pool.start ⟨fun _ => none, 0⟩ (clientRequests 5)) trace last ∧
      allowedCount "rl:ip:1.2.3.4" trace = 4 ∧
      (allowedCount "rl:ip:1.2.3.4" trace : ℚ) ≤ (2 : Nat) + ((2 : Nat) / (2 : Nat)) *
        ((2 : Nat) - (0 : Nat)) := by
  obtain ⟨trace, last, run, passed⟩ := Run.exists_of_exec (M := limiterService)
    (checksAt [0, 0, 0, 1, 2]) (Pool.start ⟨fun _ => none, 0⟩ (clientRequests 5))
    (fun trace _ => metered? 2 trace && allowedCount "rl:ip:1.2.3.4" trace = 4 &&
      trace.all fun event => (event.before.buckets "rl:ip:1.2.3.4").all fun bucket =>
        bucket.lastUpdate ≤ (event.env.now : ℚ))
    (by decide +kernel)
  simp only [Bool.and_eq_true, decide_eq_true_eq, List.all_eq_true,
    Option.all_eq_true] at passed
  obtain ⟨⟨metered, count⟩, forward⟩ := passed
  refine ⟨trace, last, run, count, ?_⟩
  apply allowed_le_of_neverBehind (by decide) (by decide) rfl run
    (meteredRun_of_metered? metered)
  intro event member _ bucket found behind
  exact absurd (forward event member bucket found) (not_le.mpr behind)

/-- Two replicas whose clocks are two seconds apart let all five requests through where four
is the bound: each time the later clock credits the same two seconds. -/
theorem allowed_beyond_limit :
    ∃ trace last, Run (M := limiterService)
        (Pool.start ⟨fun _ => none, 0⟩ (clientRequests 5)) trace last ∧
      MeteredRun "rl:ip:1.2.3.4" 2 2 0 2 trace ∧
      ¬ (allowedCount "rl:ip:1.2.3.4" trace : ℚ) ≤ (2 : Nat) + ((2 : Nat) / (2 : Nat)) *
        ((2 : Nat) - (0 : Nat)) := by
  obtain ⟨trace, last, run, passed⟩ := Run.exists_of_exec (M := limiterService)
    (checksAt [2, 0, 2, 0, 2]) (Pool.start ⟨fun _ => none, 0⟩ (clientRequests 5))
    (fun trace _ => metered? 2 trace && allowedCount "rl:ip:1.2.3.4" trace = 5)
    (by decide +kernel)
  simp only [Bool.and_eq_true, decide_eq_true_eq] at passed
  refine ⟨trace, last, run, meteredRun_of_metered? passed.1, ?_⟩
  rw [passed.2]
  norm_num

end SocialApi
