/-
Module: SocialApi.Proofs.RateLimitExact
Purpose: The script, which forgets idle keys and writes nothing when it denies, against a bucket
  that is written at every call and never forgotten.
Trusted boundary: none
Main exports:
  heldBucket, rateLimitScript_ask, StandsFor, Mirrors, idealStatuses, statusesOf, ClockedRun,
  statuses_eq_ideal
-/
import SocialApi.Proofs.RateLimitBound

namespace SocialApi

open Process
open Ledger (Bucket)

/-! ### The script as a request to a bucket -/

/-- What the script takes the key to hold: a full bucket where there is none. -/
def heldBucket (capacity now : ℚ) (stored : Option TokenBucket) : Bucket ℚ :=
  (stored.map TokenBucket.toBucket).getD ⟨capacity, now⟩

/-- The numbers of a reply: whole tokens left, seconds until the bucket is full, and whether
the request can be processed. -/
def bucketReply (capacity fillRate : ℚ) (asked : Bool × Bucket ℚ) : Int × Int × Bool :=
  (⌊asked.2.tokens⌋, ⌈(capacity - asked.2.tokens) / fillRate⌉, asked.1)

section Script

variable {capacity fillRate cost : ℚ}

/-- The script replies what a request to the bucket replies, and stores the bucket where the
request is granted. -/
theorem rateLimitScript_ask (clock : Int) (now : ℚ) (stored : Option TokenBucket) :
    let asked := (heldBucket capacity now stored).ask capacity fillRate cost now
    rateLimitScript clock capacity fillRate now cost stored =
      (bucketReply capacity fillRate asked,
        if asked.1 then some ⟨asked.2.tokens, now, clock + 3600⟩ else stored) := by
  have level : (heldBucket capacity now stored).level capacity fillRate now =
      min capacity ((stored.map TokenBucket.tokens).getD capacity +
        max 0 (now - (stored.map TokenBucket.lastUpdate).getD now) * fillRate) := by
    cases stored <;> rfl
  intro asked
  by_cases enough : cost ≤ (heldBucket capacity now stored).level capacity fillRate now
  · have granted : asked = (true,
        (heldBucket capacity now stored).charge capacity fillRate cost now) := if_pos enough
    rw [granted]
    rw [level] at enough
    simp only [rateLimitScript, if_pos enough, bucketReply, Bucket.charge, level, if_true]
  · have denied : asked = (false,
        ⟨(heldBucket capacity now stored).level capacity fillRate now, now⟩) := if_neg enough
    rw [denied]
    rw [level] at enough
    simp only [rateLimitScript, if_neg enough, bucketReply, level]
    rfl

/-- An absent key is a full bucket. -/
theorem heldBucket_none (now : ℚ) :
    (heldBucket capacity now none).level capacity fillRate now = capacity := by
  have full : (⟨capacity, now⟩ : Bucket ℚ).level capacity fillRate now =
      min capacity (capacity + max 0 (now - now) * fillRate) := rfl
  rw [heldBucket, Option.map_none, Option.getD_none, full, sub_self, max_self, zero_mul, add_zero,
    min_self]

end Script

/-! ### What is stored for a bucket -/

/-- The key holds what the bucket holds, from a time on. -/
structure StandsFor (capacity fillRate time : ℚ) (stored : Option TokenBucket)
    (bucket : Bucket ℚ) : Prop where
  behind : bucket.stamp ≤ time
  same : ∀ later, time ≤ later → (heldBucket capacity later stored).level capacity fillRate later =
    bucket.level capacity fillRate later

section StandsFor

variable {capacity fillRate cost time : ℚ} {stored : Option TokenBucket} {bucket : Bucket ℚ}

theorem StandsFor.later (holds : StandsFor capacity fillRate time stored bucket) {now : ℚ}
    (forward : time ≤ now) : StandsFor capacity fillRate now stored bucket where
  behind := holds.behind.trans forward
  same := fun later after => holds.same later (forward.trans after)

/-- A key that has not been written for an hour stands for a full bucket, whatever was left in
it. -/
theorem StandsFor.forget (holds : StandsFor capacity fillRate time stored bucket)
    (flows : 0 ≤ fillRate) (hour : capacity ≤ 3600 * fillRate)
    (idle : ∀ kept ∈ stored, 0 ≤ kept.tokens ∧ kept.lastUpdate + 3600 ≤ time) :
    StandsFor capacity fillRate time none bucket where
  behind := holds.behind
  same := by
    intro later forward
    rw [heldBucket_none, ← holds.same later forward]
    cases stored with
    | none => exact (heldBucket_none later).symm
    | some kept =>
        symm
        apply Bucket.level_of_full _ flows forward
        obtain ⟨tokens, written⟩ := idle kept rfl
        have waited : 3600 ≤ time - kept.lastUpdate := by linarith
        have inflow : 3600 * fillRate ≤ (time - kept.lastUpdate) * fillRate :=
          mul_le_mul_of_nonneg_right waited flows
        exact hour.trans (inflow.trans (le_add_of_nonneg_left tokens))

/-- The script replies what the bucket replies, and what it stores stands for the bucket that
is written back. -/
theorem StandsFor.ask (holds : StandsFor capacity fillRate time stored bucket) (clock : Int)
    (cost : ℚ) (flows : 0 ≤ fillRate) :
    (rateLimitScript clock capacity fillRate time cost stored).1 =
        bucketReply capacity fillRate (bucket.ask capacity fillRate cost time) ∧
      StandsFor capacity fillRate time
        (rateLimitScript clock capacity fillRate time cost stored).2
        (bucket.ask capacity fillRate cost time).2 := by
  have asked : (heldBucket capacity time stored).ask capacity fillRate cost time =
      bucket.ask capacity fillRate cost time := Bucket.ask_congr (holds.same time le_rfl)
  rw [rateLimitScript_ask clock time stored, asked]
  refine ⟨rfl, ?_⟩
  by_cases enough : cost ≤ bucket.level capacity fillRate time
  · have granted : bucket.ask capacity fillRate cost time =
        (true, bucket.charge capacity fillRate cost time) := if_pos enough
    rw [granted]
    exact ⟨le_rfl, fun _ _ => rfl⟩
  · have denied : bucket.ask capacity fillRate cost time =
        (false, ⟨bucket.level capacity fillRate time, time⟩) := if_neg enough
    rw [denied]
    refine ⟨le_rfl, ?_⟩
    intro later forward
    exact (holds.same later forward).trans (Bucket.level_level flows holds.behind forward).symm

/-- What the script stores is what was there, or was written now, is not negative and is due
in an hour. -/
theorem rateLimitScript_stored (clock : Int) (kept : TokenBucket)
    (found : kept ∈ (rateLimitScript clock capacity fillRate time cost stored).2) :
    kept ∈ stored ∨ 0 ≤ kept.tokens ∧ kept.lastUpdate = time ∧ kept.deadline = clock + 3600 := by
  unfold rateLimitScript at found
  dsimp only at found
  split at found
  · next enough =>
    obtain rfl := Option.some.inj found
    exact .inr ⟨sub_nonneg.mpr enough, rfl, rfl⟩
  · exact .inl found

end StandsFor

/-- The key stands for the bucket: it holds the same from a time on.  What is stored may have
been written earlier than the bucket, and may be gone. -/
structure Mirrors (capacity fillRate time : ℚ) (stored : Option TokenBucket)
    (ideal : Bucket ℚ) : Prop where
  behind : ideal.stamp ≤ time
  same : ∀ later, time ≤ later → (heldBucket capacity later stored).level capacity fillRate later =
    ideal.level capacity fillRate later
  nonneg : ∀ bucket ∈ stored, 0 ≤ bucket.tokens
  kept : ∀ bucket ∈ stored, bucket.lastUpdate + 3600 = bucket.deadline

section Mirrors

variable {capacity fillRate time : ℚ} {stored : Option TokenBucket} {ideal : Bucket ℚ}

/-- At the start there is no key, and the bucket is full. -/
theorem mirrors_start (flows : 0 ≤ fillRate) :
    Mirrors capacity fillRate time none ⟨capacity, time⟩ where
  behind := le_rfl
  same := by
    intro later forward
    rw [heldBucket_none]
    apply (Bucket.level_of_full _ flows forward).symm
    rw [sub_self, zero_mul, add_zero]
  nonneg := by simp
  kept := by simp

theorem Mirrors.standsFor (holds : Mirrors capacity fillRate time stored ideal) :
    StandsFor capacity fillRate time stored ideal :=
  ⟨holds.behind, holds.same⟩

theorem Mirrors.later (holds : Mirrors capacity fillRate time stored ideal) {now : ℚ}
    (forward : time ≤ now) : Mirrors capacity fillRate now stored ideal where
  behind := (holds.standsFor.later forward).behind
  same := (holds.standsFor.later forward).same
  nonneg := holds.nonneg
  kept := holds.kept

/-- A key that is due stands for a full bucket, whatever was left in it. -/
theorem Mirrors.forget (holds : Mirrors capacity fillRate time stored ideal)
    (flows : 0 ≤ fillRate) (hour : capacity ≤ 3600 * fillRate)
    (due : ∀ bucket ∈ stored, (bucket.deadline : ℚ) ≤ time) :
    Mirrors capacity fillRate time none ideal := by
  have forgotten : StandsFor capacity fillRate time none ideal := by
    apply holds.standsFor.forget flows hour
    intro bucket found
    refine ⟨holds.nonneg bucket found, ?_⟩
    rw [holds.kept bucket found]
    exact due bucket found
  exact ⟨forgotten.behind, forgotten.same, by simp, by simp⟩

/-- The script replies what the bucket replies, and what it stores stands for the bucket that
is written back. -/
theorem Mirrors.ask {clock : Int} (holds : Mirrors capacity fillRate clock stored ideal)
    (cost : ℚ) (flows : 0 ≤ fillRate) :
    (rateLimitScript clock capacity fillRate clock cost stored).1 =
        bucketReply capacity fillRate (ideal.ask capacity fillRate cost clock) ∧
      Mirrors capacity fillRate clock (rateLimitScript clock capacity fillRate clock cost stored).2
        (ideal.ask capacity fillRate cost clock).2 := by
  obtain ⟨replied, stands⟩ := holds.standsFor.ask clock cost flows
  refine ⟨replied, stands.behind, stands.same, ?_, ?_⟩
  · intro bucket found
    rcases rateLimitScript_stored clock bucket found with old | ⟨nonneg, _⟩
    · exact holds.nonneg bucket old
    · exact nonneg
  · intro bucket found
    rcases rateLimitScript_stored clock bucket found with old | ⟨_, written, due⟩
    · exact holds.kept bucket old
    · rw [written, due]
      push_cast
      rfl

end Mirrors

/-! ### Checks of one key -/

/-- The status that `check_limit` makes of a reply. -/
def RateLimitStatus.ofReply (limit : Nat) (reply : Int × Int × Bool) : RateLimitStatus where
  allowed := reply.2.2
  remaining := castU64 reply.1
  limit := limit
  resetAfter := castU64 reply.2.1

/-- What a bucket that can be read exactly says after a request. -/
def idealStatus (limit windowSecs : Nat) (asked : Bool × Bucket ℚ) : RateLimitStatus where
  allowed := asked.1
  remaining := ⌊asked.2.tokens⌋₊
  limit := limit
  resetAfter := ⌈((limit : ℚ) - asked.2.tokens) / (limit / windowSecs)⌉₊

/-- One call on the bucket that is refilled and written back at every call: the statuses so
far with one more, and the bucket. -/
def idealStep (limit windowSecs : Nat) (reached : List RateLimitStatus × Bucket ℚ) (now : Nat) :
    List RateLimitStatus × Bucket ℚ :=
  let asked := reached.2.ask (limit : ℚ) (limit / windowSecs) 1 now
  (reached.1 ++ [idealStatus limit windowSecs asked], asked.2)

/-- The statuses of the calls on a bucket that starts full and is never forgotten. -/
def idealRun (limit windowSecs : Nat) (start : ℚ) (times : List Nat) :
    List RateLimitStatus × Bucket ℚ :=
  times.foldl (idealStep limit windowSecs) ([], ⟨limit, start⟩)

/-- The answer to a check of the key, with the timestamp of the check. -/
def LimiterOp.checkOf (key : String) (now : Nat) :
    (op : LimiterOp) → op.Res → Option (Nat × Except DomainError RateLimitStatus)
  | .checkLimit checked _ _, answer => if checked = key then some (now, answer) else none
  | .nextRun, _ => none

/-- The checks of the key with their answers. -/
def checksOf (key : String) (trace : List (Event limiterService)) :
    List (Nat × Except DomainError RateLimitStatus) :=
  trace.filterMap fun event => event.op.checkOf key event.env.now event.res

/-- All checks of the key are for one limit and window, Redis answers them, and one clock
gives the timestamps and the expiry: the key leaves Redis only when it is due. -/
structure ClockedRun (key : String) (limit windowSecs : Nat)
    (trace : List (Event limiterService)) : Prop where
  checks : ∀ event ∈ trace, event.op.Checks key →
    event.op = .checkLimit key limit windowSecs ∧ event.env.fault = none ∧
      (event.env.now : Int) = event.before.clock + event.env.elapse
  leaves : ∀ event ∈ trace, key ∈ event.env.expired →
    ∀ bucket, event.before.buckets key = some bucket →
      bucket.deadline ≤ event.before.clock + event.env.elapse

section Runs

variable {key : String} {limit windowSecs : Nat} {state : LimiterState}
  {calls : List LimitedRequest} {trace : List (Event limiterService)}
  {last : Pool limiterService} {env : LimiterEnv} {before after : LimiterState}
  {spawned : List LimitedRequest}

theorem checksOf_concat_check {thread : Nat} {call : LimitedRequest}
    {answer : Except DomainError RateLimitStatus} :
    checksOf key
        (trace ++ [⟨thread, call, env, .checkLimit key limit windowSecs, answer, before⟩]) =
      checksOf key trace ++ [(env.now, answer)] := by
  simp [checksOf, LimiterOp.checkOf]

theorem checksOf_concat_aside {event : Event limiterService}
    (silent : event.op.checkOf key event.env.now event.res = none) :
    checksOf key (trace ++ [event]) = checksOf key trace := by
  simp [checksOf, silent]

theorem idealRun_concat {start : ℚ} {times : List Nat} {now : Nat} :
    idealRun limit windowSecs start (times ++ [now]) =
      idealStep limit windowSecs (idealRun limit windowSecs start times) now := by
  rw [idealRun, List.foldl_append]
  rfl

/-- An hour fills the bucket. -/
theorem hour_fills (limit : Nat) (opened : 1 ≤ windowSecs) (hour : windowSecs ≤ 3600) :
    (limit : ℚ) ≤ 3600 * (limit / windowSecs) := by
  have window : (0 : ℚ) < windowSecs := by exact_mod_cast opened
  rw [← mul_div_assoc, le_div_iff₀ window, mul_comm]
  apply mul_le_mul_of_nonneg_right _ (Nat.cast_nonneg limit)
  exact_mod_cast hour

theorem castU64_of_lt {n : Int} (nonneg : 0 ≤ n) (small : n < 2 ^ 64) :
    castU64 n = n.toNat := by
  rw [castU64, Int.emod_eq_of_lt nonneg small]

/-- While the tokens are within the bucket, no number of a status is cut off. -/
theorem ofReply_eq_ideal {asked : Bool × Bucket ℚ} (within : asked.2.Within (limit : ℚ))
    (positive : 1 ≤ limit) (fits : limit < 2 ^ 64) (opened : 1 ≤ windowSecs)
    (hour : windowSecs ≤ 3600) :
    RateLimitStatus.ofReply limit (bucketReply limit (limit / windowSecs) asked) =
      idealStatus limit windowSecs asked := by
  obtain ⟨granted, tokens, stamp⟩ := asked
  obtain ⟨nonneg, most⟩ := within
  dsimp only at nonneg most
  have capacity : (0 : ℚ) < limit := by exact_mod_cast positive
  have window : (0 : ℚ) < windowSecs := by exact_mod_cast opened
  have rate : (0 : ℚ) < limit / windowSecs := div_pos capacity window
  have whole : castU64 ⌊tokens⌋ = ⌊tokens⌋₊ := by
    rw [← Int.floor_toNat]
    apply castU64_of_lt (Int.floor_nonneg.mpr nonneg)
    apply Int.floor_lt.mpr
    apply most.trans_lt
    exact_mod_cast fits
  have seconds : castU64 ⌈((limit : ℚ) - tokens) / (limit / windowSecs)⌉ =
      ⌈((limit : ℚ) - tokens) / (limit / windowSecs)⌉₊ := by
    rw [← Int.ceil_toNat]
    have wait : (0 : ℚ) ≤ (limit - tokens) / (limit / windowSecs) :=
      div_nonneg (sub_nonneg.mpr most) rate.le
    apply castU64_of_lt (Int.ceil_nonneg wait)
    have soon : ⌈((limit : ℚ) - tokens) / (limit / windowSecs)⌉ ≤ 3600 := by
      apply Int.ceil_le.mpr
      rw [div_le_iff₀ rate]
      push_cast
      exact (sub_le_self _ nonneg).trans (hour_fills limit opened hour)
    exact soon.trans_lt (by norm_num)
  simp only [RateLimitStatus.ofReply, bucketReply, idealStatus, whole, seconds]

/-- A check that Redis answers does what the script does. -/
theorem LimiterState.handle_answered {answer : Except DomainError RateLimitStatus}
    (healthy : env.fault = none)
    (handled : LimiterState.handle env (.checkLimit key limit windowSecs) before =
      some (answer, after, spawned)) :
    let found := before.advance env
    let ran := rateLimitScript found.clock limit (limit / windowSecs) env.now 1
      (found.buckets key)
    answer = .ok (.ofReply limit ran.1) ∧ after.buckets key = ran.2 ∧
      after.clock = found.clock := by
  simp only [handle, SocialApi.checkLimit, healthy, Option.some.injEq, Prod.mk.injEq] at handled
  obtain ⟨rfl, rfl, -⟩ := handled
  exact ⟨rfl, Function.update_self _ _ _, rfl⟩

/-- Any other step leaves the key as it finds it. -/
theorem LimiterState.handle_aside {op : LimiterOp} {answer : op.Res}
    (other : ¬ op.Checks key)
    (handled : LimiterState.handle env op before = some (answer, after, spawned)) :
    after.buckets key = (before.advance env).buckets key ∧
      after.clock = (before.advance env).clock ∧ op.checkOf key env.now answer = none := by
  cases op with
  | nextRun =>
      simp only [handle, Option.some.injEq, Prod.mk.injEq] at handled
      obtain ⟨-, rfl, -⟩ := handled
      exact ⟨rfl, rfl, rfl⟩
  | checkLimit checked l w =>
      have ne : checked ≠ key := by
        rintro rfl
        exact other ⟨l, w, rfl⟩
      simp only [handle, Option.some.injEq, Prod.mk.injEq] at handled
      obtain ⟨rfl, rfl, -⟩ := handled
      refine ⟨?_, rfl, if_neg ne⟩
      unfold SocialApi.checkLimit
      cases env.fault with
      | some e => rfl
      | none => exact Function.update_of_ne ne.symm _ _

/-- Time passes, and the key leaves Redis when it is due. -/
theorem Mirrors.advance {capacity fillRate : ℚ} {ideal : Bucket ℚ}
    (holds : Mirrors capacity fillRate before.clock (before.buckets key) ideal)
    (flows : 0 ≤ fillRate) (hour : capacity ≤ 3600 * fillRate)
    (leaves : key ∈ env.expired → ∀ bucket, before.buckets key = some bucket →
      bucket.deadline ≤ before.clock + env.elapse) :
    Mirrors capacity fillRate (before.advance env).clock ((before.advance env).buckets key)
      ideal := by
  have forward : (before.clock : ℚ) ≤ ((before.advance env).clock : ℚ) := by
    exact_mod_cast Int.le_add_of_nonneg_right (Int.natCast_nonneg env.elapse)
  have passed := holds.later forward
  by_cases gone : key ∈ env.expired
  · have absent : (before.advance env).buckets key = none := if_pos gone
    rw [absent]
    apply passed.forget flows hour
    intro bucket found
    exact_mod_cast leaves gone bucket found
  · have same : (before.advance env).buckets key = before.buckets key := if_neg gone
    rw [same]
    exact passed

/-- The limiter is the bucket.  In every run in which the checks of a key are for one limit and
a window of at most an hour, with one clock, they are answered with the statuses of a bucket
that starts full, is refilled and written back at every check and never forgotten. -/
theorem statuses_eq_ideal (positive : 1 ≤ limit) (fits : limit < 2 ^ 64)
    (opened : 1 ≤ windowSecs) (hour : windowSecs ≤ 3600)
    (absent : state.buckets key = none)
    (run : Run (M := limiterService) (Pool.start state calls) trace last)
    (clocked : ClockedRun key limit windowSecs trace) :
    (checksOf key trace).map Prod.snd =
      (idealRun limit windowSecs state.clock ((checksOf key trace).map Prod.fst)).1.map
        Except.ok := by
  have flows : (0 : ℚ) ≤ limit / windowSecs := by positivity
  have full := hour_fills limit opened hour
  apply (run.replays.history (fun before (found : LimiterState) =>
    (Mirrors limit (limit / windowSecs) found.clock (found.buckets key)
        (idealRun limit windowSecs state.clock ((checksOf key before).map Prod.fst)).2 ∧
      (idealRun limit windowSecs state.clock ((checksOf key before).map Prod.fst)).2.Within
        (limit : ℚ)) ∧
      (checksOf key before).map Prod.snd =
        (idealRun limit windowSecs state.clock ((checksOf key before).map Prod.fst)).1.map
          Except.ok) ?_ ?_).2
  · rintro before event after spawned member handled ⟨⟨holds, within⟩, statuses⟩
    have found := holds.advance flows full (clocked.leaves event member)
    by_cases checks : event.op.Checks key
    · obtain ⟨op_eq, healthy, clock⟩ := clocked.checks event member checks
      obtain ⟨thread, call, env, op, res, world⟩ := event
      obtain rfl : op = .checkLimit key limit windowSecs := op_eq
      dsimp only at handled healthy clock found
      obtain ⟨answered, stored, passed⟩ := LimiterState.handle_answered healthy handled
      have now : (env.now : ℚ) = ((world.advance env).clock : ℚ) := by exact_mod_cast clock
      rw [now] at answered stored
      obtain ⟨replied, mirrors⟩ := found.ask 1 flows
      have kept : (Bucket.ask (limit : ℚ) (limit / windowSecs) 1 (world.advance env).clock
          _).2.Within (limit : ℚ) := within.ask flows zero_le_one
      rw [replied, ofReply_eq_ideal kept positive fits opened hour] at answered
      rw [checksOf_concat_check, List.map_append, List.map_append, List.map_singleton,
        List.map_singleton, idealRun_concat]
      dsimp only [idealStep]
      rw [now, stored, passed, answered, List.map_append, statuses]
      exact ⟨⟨mirrors, kept⟩, rfl⟩
    · obtain ⟨same, passed, silent⟩ := LimiterState.handle_aside checks handled
      rw [checksOf_concat_aside silent, same, passed]
      exact ⟨⟨found, within⟩, statuses⟩
  · refine ⟨⟨?_, Nat.cast_nonneg limit, le_rfl⟩, rfl⟩
    have none : (Pool.start (M := limiterService) state calls).state.buckets key = none := absent
    rw [none]
    exact mirrors_start flows

end Runs

/-- Three requests at once, one that finds the bucket full again, and one after an hour in
which the key has left Redis. -/
def idleHour : List (Nat × LimiterEnv) :=
  [(0, { expired := [], elapse := 0, fault := none, now := 0 }),
   (1, { expired := [], elapse := 0, fault := none, now := 0 }),
   (2, { expired := [], elapse := 0, fault := none, now := 0 }),
   (3, { expired := [], elapse := 3, fault := none, now := 3 }),
   (4, { expired := ["rl:ip:1.2.3.4"], elapse := 3600, fault := none, now := 3603 })]

/-- The executable form of `ClockedRun` for these requests. -/
def clocked? (trace : List (Event limiterService)) : Bool :=
  trace.all fun event => event.op = .checkLimit "rl:ip:1.2.3.4" 2 2 &&
    event.env.fault = none && (event.env.now : Int) = event.before.clock + event.env.elapse &&
    (event.env.expired = [] || (event.before.buckets "rl:ip:1.2.3.4").all fun bucket =>
      bucket.deadline ≤ event.before.clock + event.env.elapse)

theorem clockedRun_of_clocked? {trace : List (Event limiterService)}
    (checked : clocked? trace = true) : ClockedRun "rl:ip:1.2.3.4" 2 2 trace := by
  simp only [clocked?, List.all_eq_true, Bool.and_eq_true, Bool.or_eq_true, decide_eq_true_eq,
    Option.all_eq_true] at checked
  constructor
  · intro event member _
    obtain ⟨⟨⟨op_eq, healthy⟩, clock⟩, _⟩ := checked event member
    exact ⟨op_eq, healthy, clock⟩
  · intro event member expired bucket found
    rcases (checked event member).2 with none | due
    · rw [none] at expired
      cases expired
    · exact due bucket found

/-- The third request is denied without a write, and the last one finds no key; all five are
answered as by the bucket that is never forgotten. -/
theorem statuses_eq_ideal_idle :
    ∃ trace last, Run (M := limiterService)
        (Pool.start ⟨fun _ => none, 0⟩ (clientRequests 5)) trace last ∧
      (checksOf "rl:ip:1.2.3.4" trace).map Prod.fst = [0, 0, 0, 3, 3603] ∧
      (checksOf "rl:ip:1.2.3.4" trace).map Prod.snd =
        (idealRun 2 2 (0 : Int) ((checksOf "rl:ip:1.2.3.4" trace).map Prod.fst)).1.map
          Except.ok := by
  obtain ⟨trace, last, run, passed⟩ := Run.exists_of_exec (M := limiterService)
    idleHour (Pool.start ⟨fun _ => none, 0⟩ (clientRequests 5))
    (fun trace _ => clocked? trace &&
      (checksOf "rl:ip:1.2.3.4" trace).map Prod.fst = [0, 0, 0, 3, 3603])
    (by decide +kernel)
  obtain ⟨clocked, times⟩ := Bool.and_eq_true_iff.mp passed
  refine ⟨trace, last, run, of_decide_eq_true times, ?_⟩
  exact statuses_eq_ideal (by decide) (by decide) (by decide) (by decide) rfl run
    (clockedRun_of_clocked? clocked)

end SocialApi
