/-
Module: SocialApi.Proofs.RateLimitHeaders
Purpose: What the rate limit headers of a response say about later calls on the key.
Trusted boundary: none
Main exports:
  StoredBy, Survives, Calls, currentTokens, Truthful, checkLimit_truthful, headers_truthful
-/
import SocialApi.Proofs.RateLimitExact

namespace SocialApi

open Process
open Ledger (Bucket)

/-! ### Later calls on a key -/

/-- The key is absent, or its bucket holds at most the limit and was not written after now. -/
structure StoredBy (limit now : Nat) (stored : Option TokenBucket) : Prop where
  nonneg : ∀ bucket ∈ stored, 0 ≤ bucket.tokens
  within : ∀ bucket ∈ stored, bucket.tokens ≤ limit
  written : ∀ bucket ∈ stored, bucket.lastUpdate ≤ now

/-- Redis keeps a key for an hour after it was written, and drops it some time later. -/
def Survives (now : Nat) (stored found : Option TokenBucket) : Prop :=
  found = stored ∨ found = none ∧ ∀ bucket ∈ stored, bucket.lastUpdate + 3600 ≤ now

/-- Calls on the key one after another, by their timestamps, with their answers.  In between
nothing is called on the key; what happens to other keys is open. -/
inductive Calls (key : String) (limit windowSecs : Nat) :
    TokenBuckets → List Nat → List RateLimitStatus → Prop where
  | nil (buckets : TokenBuckets) : Calls key limit windowSecs buckets [] []
  | cons {before found after : TokenBuckets} {clock : Int} {now : Nat} {times : List Nat}
      {status : RateLimitStatus} {statuses : List RateLimitStatus}
      (survives : Survives now (before key) (found key))
      (answered : checkLimit none clock now key limit windowSecs found = (.ok status, after))
      (later : Calls key limit windowSecs after times statuses) :
      Calls key limit windowSecs before (now :: times) (status :: statuses)

/-- The tokens that a call at the timestamp finds. -/
def currentTokens (limit windowSecs now : Nat) (stored : Option TokenBucket) : ℚ :=
  (heldBucket limit now stored).level limit (limit / windowSecs) now

/-- The status of a call says what later calls on the key, after the call left `buckets`, will
find. -/
structure Truthful (key : String) (limit windowSecs now : Nat) (status : RateLimitStatus)
    (buckets : TokenBuckets) : Prop where
  /-- Every later call is answered. -/
  answers : ∀ times, ∃ statuses, Calls key limit windowSecs buckets times statuses
  /-- `remaining` calls at the same timestamp are allowed, and then no more. -/
  remaining : ∀ n statuses,
    Calls key limit windowSecs buckets (List.replicate n now) statuses →
      statuses.map RateLimitStatus.allowed =
        List.replicate (min n status.remaining) true ++
          List.replicate (n - status.remaining) false
  /-- `limit` calls are allowed after `reset_after` seconds, and then no more. -/
  reset : ∀ n statuses,
    Calls key limit windowSecs buckets (List.replicate n (now + status.resetAfter)) statuses →
      statuses.map RateLimitStatus.allowed =
        List.replicate (min n limit) true ++ List.replicate (n - limit) false
  /-- A second earlier the bucket is not full. -/
  not_before : 1 ≤ status.resetAfter → ∀ found,
    Survives (now + status.resetAfter - 1) (buckets key) found →
      currentTokens limit windowSecs (now + status.resetAfter - 1) found < limit

section Calls

variable {key : String} {limit windowSecs now : Nat} {before buckets after : TokenBuckets}
  {stored found : Option TokenBucket} {bucket : Bucket ℚ} {status : RateLimitStatus}
  {statuses : List RateLimitStatus}

/-- What the key holds from a time on, in a bucket that is within the limit. -/
structure Holding (limit windowSecs now : Nat) (stored : Option TokenBucket)
    (bucket : Bucket ℚ) : Prop where
  stands : StandsFor limit (limit / windowSecs) now stored bucket
  within : bucket.Within (limit : ℚ)
  nonneg : ∀ kept ∈ stored, 0 ≤ kept.tokens

theorem Holding.of_stored (stored : StoredBy limit now found) :
    Holding limit windowSecs now found (heldBucket limit now found) where
  stands := by
    have flows : (0 : ℚ) ≤ limit / windowSecs := by positivity
    cases found with
    | none => exact (mirrors_start flows).standsFor
    | some bucket => exact ⟨stored.written bucket rfl, fun _ _ => rfl⟩
  within := by
    cases found with
    | none => exact ⟨Nat.cast_nonneg limit, le_rfl⟩
    | some bucket => exact ⟨stored.nonneg bucket rfl, stored.within bucket rfl⟩
  nonneg := stored.nonneg

theorem Holding.later (holding : Holding limit windowSecs now stored bucket) {time : Nat}
    (opened : 1 ≤ windowSecs) (hour : windowSecs ≤ 3600) (forward : now ≤ time)
    (survives : Survives time stored found) : Holding limit windowSecs time found bucket := by
  have flows : (0 : ℚ) ≤ limit / windowSecs := by positivity
  have passed : StandsFor limit (limit / windowSecs) time stored bucket :=
    holding.stands.later (Nat.cast_le.mpr forward)
  rcases survives with rfl | ⟨rfl, idle⟩
  · exact ⟨passed, holding.within, holding.nonneg⟩
  · refine ⟨passed.forget flows (hour_fills limit opened hour) ?_, holding.within, by simp⟩
    exact fun kept there => ⟨holding.nonneg kept there, idle kept there⟩

/-- What a call finds is what the bucket holds. -/
theorem Holding.current (holding : Holding limit windowSecs now stored bucket) :
    currentTokens limit windowSecs now stored =
      bucket.level (limit : ℚ) (limit / windowSecs) now :=
  holding.stands.same now le_rfl

/-- A call answers what a request to the bucket says, and leaves what the request leaves. -/
theorem Holding.check (holding : Holding limit windowSecs now (before key) bucket)
    (positive : 1 ≤ limit) (fits : limit < 2 ^ 64) (opened : 1 ≤ windowSecs)
    (hour : windowSecs ≤ 3600) {clock : Int}
    (answered : checkLimit none clock now key limit windowSecs before = (.ok status, after)) :
    status = idealStatus limit windowSecs
        (bucket.ask (limit : ℚ) (limit / windowSecs) 1 now) ∧
      Holding limit windowSecs now (after key)
        (bucket.ask (limit : ℚ) (limit / windowSecs) 1 now).2 := by
  have flows : (0 : ℚ) ≤ limit / windowSecs := by positivity
  obtain ⟨replied, stands⟩ := holding.stands.ask clock 1 flows
  have within : (bucket.ask (limit : ℚ) (limit / windowSecs) 1 now).2.Within (limit : ℚ) :=
    holding.within.ask flows zero_le_one
  unfold checkLimit at answered
  simp only [Prod.mk.injEq, Except.ok.injEq] at answered
  obtain ⟨rfl, rfl⟩ := answered
  constructor
  · rw [← ofReply_eq_ideal within positive fits opened hour, ← replied]
    rfl
  · rw [Function.update_self]
    refine ⟨stands, within, ?_⟩
    intro kept there
    rcases rateLimitScript_stored clock kept there with old | ⟨nonneg, _⟩
    · exact holding.nonneg kept old
    · exact nonneg

/-- Calls at one time are allowed as requests to the bucket are granted. -/
theorem Holding.calls (holding : Holding limit windowSecs now (before key) bucket)
    (positive : 1 ≤ limit) (fits : limit < 2 ^ 64) (opened : 1 ≤ windowSecs)
    (hour : windowSecs ≤ 3600) {n time : Nat} (forward : now ≤ time)
    (calls : Calls key limit windowSecs before (List.replicate n time) statuses) :
    statuses.map RateLimitStatus.allowed =
      bucket.asks (limit : ℚ) (limit / windowSecs) 1 time n := by
  induction n generalizing now before bucket statuses with
  | zero =>
      cases calls
      rfl
  | succ n inductionHypothesis =>
      rw [List.replicate_succ] at calls
      cases calls with
      | cons survives answered later =>
          have found := holding.later opened hour forward survives
          obtain ⟨rfl, left⟩ := found.check positive fits opened hour answered
          rw [List.map_cons, inductionHypothesis left le_rfl later]
          rfl

theorem exists_calls (key : String) (limit windowSecs : Nat) (buckets : TokenBuckets)
    (times : List Nat) : ∃ statuses, Calls key limit windowSecs buckets times statuses := by
  induction times generalizing buckets with
  | nil => exact ⟨[], .nil buckets⟩
  | cons now times inductionHypothesis =>
      have answered : checkLimit none 0 now key limit windowSecs buckets = (.ok _, _) := rfl
      obtain ⟨statuses, later⟩ :=
        inductionHypothesis (checkLimit none 0 now key limit windowSecs buckets).2
      exact ⟨_ :: statuses, .cons (.inl rfl) answered later⟩

/-- The status of every call is truthful. -/
theorem checkLimit_truthful (positive : 1 ≤ limit) (fits : limit < 2 ^ 64)
    (opened : 1 ≤ windowSecs) (hour : windowSecs ≤ 3600)
    (stored : StoredBy limit now (before key)) {clock : Int}
    (answered : checkLimit none clock now key limit windowSecs before = (.ok status, after)) :
    Truthful key limit windowSecs now status after := by
  have capacity : (0 : ℚ) < limit := by exact_mod_cast positive
  have window : (0 : ℚ) < windowSecs := by exact_mod_cast opened
  have rate : (0 : ℚ) < limit / windowSecs := div_pos capacity window
  obtain ⟨rfl, left⟩ :=
    (Holding.of_stored stored).check positive fits opened hour answered
  have stamp := (heldBucket limit now (before key)).ask_stamp (limit : ℚ) (limit / windowSecs)
    1 now
  have whole := (heldBucket limit now (before key)).level_ask (limit : ℚ) (limit / windowSecs)
    now (zero_le_one)
  unfold idealStatus
  generalize (heldBucket limit now (before key)).ask (limit : ℚ) (limit / windowSecs) 1 now =
    asked at left stamp whole ⊢
  have wait : (0 : ℚ) ≤ (limit - asked.2.tokens) / (limit / windowSecs) :=
    div_nonneg (sub_nonneg.mpr left.within.2) rate.le
  constructor
  · exact exists_calls key limit windowSecs after
  · intro n statuses calls
    rw [left.calls positive fits opened hour le_rfl calls, Bucket.asks_eq, whole]
  · intro n statuses calls
    rw [left.calls positive fits opened hour (Nat.le_add_right _ _) calls, Bucket.asks_eq]
    have full : asked.2.level (limit : ℚ) (limit / windowSecs)
        ((now + ⌈(limit - asked.2.tokens) / (limit / windowSecs)⌉₊ : Nat) : ℚ) = limit := by
      apply Bucket.level_of_full _ rate.le le_rfl
      have enough := (div_le_iff₀ rate).mp
        (Nat.le_ceil (((limit : ℚ) - asked.2.tokens) / (limit / windowSecs)))
      rw [stamp]
      push_cast
      linarith
    rw [full, Nat.floor_natCast]
  · intro some_wait found survives
    dsimp only at some_wait survives ⊢
    obtain ⟨seconds, whole_wait⟩ := Nat.exists_eq_add_of_le' some_wait
    rw [whole_wait, ← Nat.add_assoc, Nat.add_sub_cancel] at survives ⊢
    have early : (seconds : ℚ) < (limit - asked.2.tokens) / (limit / windowSecs) :=
      Nat.lt_ceil.mp (by omega)
    have short : (seconds : ℚ) * (limit / windowSecs) < limit - asked.2.tokens :=
      (lt_div_iff₀ rate).mp early
    have forward : asked.2.stamp ≤ ((now + seconds : Nat) : ℚ) := by
      rw [stamp]
      exact_mod_cast Nat.le_add_right now seconds
    rw [(left.later opened hour (Nat.le_add_right now seconds) survives).current]
    calc asked.2.level (limit : ℚ) (limit / windowSecs) ((now + seconds : Nat) : ℚ)
        ≤ asked.2.tokens + limit / windowSecs * (((now + seconds : Nat) : ℚ) - asked.2.stamp) :=
          Bucket.level_le forward
      _ = asked.2.tokens + seconds * (limit / windowSecs) := by
          rw [stamp]
          push_cast
          ring
      _ < limit := by linarith

end Calls

/-! ### Responses of the layer -/

/-- The headers of a status. -/
def RateLimitStatus.headers (status : RateLimitStatus) : RateLimitHeaders where
  limit := status.limit
  remaining := status.remaining
  reset := status.resetAfter
  retryAfter := if status.allowed then none else some status.resetAfter

/-- A request on the key at the timestamp, from any state that Redis may be in by then, is not
denied. -/
def PassesAt (req : LimitedRequest) (now : Nat) (buckets : TokenBuckets) : Prop :=
  ∀ (environment : Nat → LimiterEnv) (state : LimiterState) (response : LimitedResponse)
    (after : LimiterState) (spawned : List LimitedRequest),
    (environment 0).now = now →
    Survives now (buckets (extractKey req))
      ((state.advance (environment 0)).buckets (extractKey req)) →
    (rateLimitLayer req).run LimiterState.handle environment state =
      some (response, after, spawned) → response.tooManyRequests = false

section Layer

variable {req : LimitedRequest} {environment : Nat → LimiterEnv} {state after : LimiterState}
  {response : LimitedResponse} {spawned : List LimitedRequest}

/-- The response to a request that Redis answers is made from the status. -/
theorem rateLimitLayer_run (healthy : (environment 0).fault = none)
    (ran : (rateLimitLayer req).run LimiterState.handle environment state =
      some (response, after, spawned)) :
    ∃ status checked,
      checkLimit none (state.advance (environment 0)).clock (environment 0).now (extractKey req)
        req.limit req.window (state.advance (environment 0)).buckets = (.ok status, checked) ∧
      response = { tooManyRequests := !status.allowed, headers := some status.headers } := by
  unfold rateLimitLayer at ran
  rw [Program.request_bind, Program.run_perform] at ran
  obtain ⟨answer, middle, _, _, handled, ran, _⟩ := ran
  obtain ⟨status, checked, answered, same⟩ : ∃ status checked,
      checkLimit none (state.advance (environment 0)).clock (environment 0).now (extractKey req)
        req.limit req.window (state.advance (environment 0)).buckets = (.ok status, checked) ∧
        status.limit = req.limit := ⟨_, _, rfl, rfl⟩
  simp only [LimiterState.handle, healthy, answered, Option.some.injEq, Prod.mk.injEq] at handled
  obtain ⟨rfl, _, _⟩ := handled
  refine ⟨status, checked, answered, ?_⟩
  unfold RateLimitStatus.headers
  rw [same]
  cases allowed : status.allowed with
  | true =>
      simp only [allowed, Bool.not_true, Bool.false_eq_true, if_false, Program.request_bind,
        Program.run_perform] at ran
      obtain ⟨_, _, _, _, _, ran, _⟩ := ran
      obtain ⟨rfl, _⟩ := Prod.mk.inj (Option.some.inj ran)
      rfl
  | false =>
      simp only [allowed, Bool.not_false, if_true] at ran
      obtain ⟨rfl, _⟩ := Prod.mk.inj (Option.some.inj ran)
      rfl

/-- A request that Redis does not answer goes through. -/
theorem rateLimitLayer_fault {e : Fault} (failed : (environment 0).fault = some e)
    (ran : (rateLimitLayer req).run LimiterState.handle environment state =
      some (response, after, spawned)) : response.tooManyRequests = false := by
  unfold rateLimitLayer at ran
  rw [Program.request_bind, Program.run_perform] at ran
  obtain ⟨answer, middle, _, _, handled, ran, _⟩ := ran
  simp only [LimiterState.handle, checkLimit, failed, Option.some.injEq, Prod.mk.injEq] at handled
  obtain ⟨rfl, _, _⟩ := handled
  dsimp only at ran
  rw [Program.request_bind, Program.run_perform] at ran
  obtain ⟨_, _, _, _, _, ran, _⟩ := ran
  obtain ⟨rfl, _⟩ := Prod.mk.inj (Option.some.inj ran)
  rfl

/-- After the seconds of its reset the key has a token for a request. -/
theorem Truthful.passes {status : RateLimitStatus} {checked : TokenBuckets} {now : Nat}
    (truthful : Truthful (extractKey req) req.limit req.window now status checked)
    (positive : 1 ≤ req.limit) : PassesAt req (now + status.resetAfter) checked := by
  intro environment state response after spawned clock survives ran
  cases healthy : (environment 0).fault with
  | some e => exact rateLimitLayer_fault healthy ran
  | none =>
      obtain ⟨later, found, answered, rfl⟩ := rateLimitLayer_run healthy ran
      rw [clock] at answered
      have called := truthful.reset 1 [later] (.cons survives answered (.nil found))
      have one : min 1 req.limit = 1 := min_eq_left positive
      rw [one, Nat.sub_eq_zero_of_le positive] at called
      have allowed : later.allowed = true := List.head_eq_of_cons_eq called
      simp only [allowed, Bool.not_true]

/-- The headers are truthful.  Whatever is stored for a client, the numbers in the response to
its request tell exactly how many calls on the key are allowed at the same timestamp, and after
how many seconds the bucket is full and not before; a client that waits the `Retry-After` that
it was given is not denied. -/
theorem headers_truthful (positive : 1 ≤ req.limit) (fits : req.limit < 2 ^ 64)
    (opened : 1 ≤ req.window) (hour : req.window ≤ 3600)
    (healthy : (environment 0).fault = none)
    (stored : StoredBy req.limit (environment 0).now
      ((state.advance (environment 0)).buckets (extractKey req)))
    (ran : (rateLimitLayer req).run LimiterState.handle environment state =
      some (response, after, spawned)) :
    ∃ status checked,
      checkLimit none (state.advance (environment 0)).clock (environment 0).now (extractKey req)
        req.limit req.window (state.advance (environment 0)).buckets = (.ok status, checked) ∧
      response = { tooManyRequests := !status.allowed, headers := some status.headers } ∧
      Truthful (extractKey req) req.limit req.window (environment 0).now status checked ∧
      ∀ wait, status.headers.retryAfter = some wait →
        PassesAt req ((environment 0).now + wait) checked := by
  obtain ⟨status, checked, answered, made⟩ := rateLimitLayer_run healthy ran
  have truthful := checkLimit_truthful positive fits opened hour stored answered
  refine ⟨status, checked, answered, made, truthful, ?_⟩
  intro wait given
  simp only [RateLimitStatus.headers] at given
  split at given
  · cases given
  · obtain rfl := Option.some.inj given
    exact truthful.passes positive

end Layer

/-- A bucket that was emptied this second. -/
def emptied : LimiterState where
  buckets := fun key => if key = "rl:ip:1.2.3.4" then some ⟨0, 10, 3610⟩ else none
  clock := 10

/-- A request of its client to a route that lets two through in a minute. -/
def minuteRequest : LimitedRequest :=
  { userId := none, ip := some "1.2.3.4", limit := 2, window := 60 }

def tenthSecond : LimiterEnv := { expired := [], elapse := 0, fault := none, now := 10 }

/-- A client whose bucket is empty is told to wait a minute, and is not denied then. -/
theorem headers_truthful_emptied :
    ∃ after spawned status checked,
      (rateLimitLayer minuteRequest).run LimiterState.handle (fun _ => tenthSecond) emptied =
        some ({ tooManyRequests := true, headers := some ⟨2, 0, 60, some 60⟩ }, after, spawned) ∧
      Truthful "rl:ip:1.2.3.4" 2 60 10 status checked ∧ PassesAt minuteRequest 70 checked := by
  have first : ((rateLimitLayer minuteRequest).run LimiterState.handle (fun _ => tenthSecond)
      emptied).map Prod.fst =
        some { tooManyRequests := true, headers := some ⟨2, 0, 60, some 60⟩ } := by
    decide +kernel
  obtain ⟨⟨_, after, spawned⟩, ran, rfl⟩ := Option.map_eq_some_iff.mp first
  have stored : StoredBy minuteRequest.limit tenthSecond.now
      ((emptied.advance tenthSecond).buckets (extractKey minuteRequest)) := by
    constructor <;> rintro _ ⟨rfl⟩ <;> norm_num [minuteRequest, tenthSecond]
  obtain ⟨status, checked, _, made, truthful, passes⟩ :=
    @headers_truthful minuteRequest (fun _ => tenthSecond) emptied after _ spawned
      (by decide) (by decide) (by decide) (by decide) rfl stored ran
  have same : some ⟨2, 0, 60, some 60⟩ = some status.headers :=
    congrArg LimitedResponse.headers made
  have given : some 60 = status.headers.retryAfter :=
    congrArg RateLimitHeaders.retryAfter (Option.some.inj same)
  exact ⟨after, spawned, status, checked, ran, truthful, passes 60 given.symm⟩

end SocialApi
