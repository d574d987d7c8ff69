/-
Module: SocialApi.Proofs.CachedVerdicts
Purpose: What validate_content returns, from the cache, by its own request or after
  waiting, beside what call_content_api returns alone.
Trusted boundary: none
Main exports:
  AloneGives, aloneGives_iff, Honest, CachesHonest, honest_step, returns_as_alone
-/
import SocialApi.Proofs.SingleFlight

namespace SocialApi

open Process
open HttpExternalValidator

/-! ### The direct call -/

/-- What `call_content_api` can come back with when it runs alone, on a breaker without
failures, and the API answers so. -/
def AloneGives (setting : ValidatorSetting) (threshold : Nat) (timeout : Int)
    (reply : HttpReply ContentDto) (cType : ContentType) (cId : ContentId)
    (result : Except DomainError Uuid) : Prop :=
  ∃ (environment : Nat → ValidatorEnv) (state final : ValidatorState)
    (spawned : List ValidatorCall),
    state.breaker.Untripped threshold timeout ∧
    (∀ n, (environment n).content = reply) ∧
    (callContentApi setting cType cId).run ValidatorState.handle environment state =
      some (result, final, spawned)

section Alone

variable {setting : ValidatorSetting} {threshold : Nat} {timeout : Int}
  {cType : ContentType} {cId : ContentId} {reply : HttpReply ContentDto}
  {result : Except DomainError Uuid}

/-- What a breaker that is open makes of a call. -/
def refusal : Except DomainError Uuid := .error (.dependencyUnavailable "todo")

/-- A program that runs alone takes its first step and goes on. -/
theorem ValidatorState.run_step {α : Type} {op : ValidatorOp} {next : op.Res → Validator α}
    {environment : Nat → ValidatorEnv} {state : ValidatorState} {value : α}
    (rest : ∃ final, (next ((state.advance (environment 0)).serve (environment 0) op).1).run
      ValidatorState.handle (fun n => environment (n + 1))
      ((state.advance (environment 0)).serve (environment 0) op).2 =
        some (value, final, [])) :
    ∃ final, Program.run ValidatorState.handle environment (.perform op next) state =
      some (value, final, []) := by
  obtain ⟨final, ran⟩ := rest
  exact ⟨final, (Program.run_perform _).mpr ⟨_, _, [], [], rfl, ran, rfl⟩⟩

theorem recordOutcome_run (verdict : Verdict cType cId result)
    (environment : Nat → ValidatorEnv) (state : ValidatorState) :
    ∃ final, (recordOutcome result).run ValidatorState.handle environment state =
      some (result, final, []) := by
  cases verdict with
  | valid uuid => exact ValidatorState.run_step ⟨_, rfl⟩
  | notFound => exact ⟨_, rfl⟩

/-- The direct call, step by step: the breaker is asked first, then the API. -/
theorem callContentApi_run (configured : (setting.contentApis cType.asStr).isSome = true)
    (environment : Nat → ValidatorEnv) (state : ValidatorState)
    (decides : (environment 1).content.Decides) :
    ∃ final, (callContentApi setting cType cId).run ValidatorState.handle environment state =
      some (if state.breaker.finalState (environment 0).now = .opened then refusal
        else contentVerdict (contentService setting cType) cType cId (environment 1).content,
        final, []) := by
  have verdict := decides.verdict (contentService setting cType) cType cId
  obtain ⟨baseUrl, is⟩ := Option.isSome_iff_exists.mp configured
  rw [callContentApi, is]
  apply ValidatorState.run_step
  have asked : ((state.advance (environment 0)).serve (environment 0) .checkState).1 =
      state.breaker.finalState (environment 0).now :=
    CircuitBreaker.checkState_fst _ _
  rw [asked]
  cases state.breaker.finalState (environment 0).now with
  | opened => exact ⟨_, rfl⟩
  | closed =>
      apply ValidatorState.run_step
      exact recordOutcome_run verdict _ _
  | halfOpen =>
      apply ValidatorState.run_step
      exact recordOutcome_run verdict _ _

/-- Alone, the call gives the verdict of the API, or is refused where no failure at all is
too many. -/
theorem aloneGives_iff (configured : (setting.contentApis cType.asStr).isSome = true)
    (decides : reply.Decides) :
    AloneGives setting threshold timeout reply cType cId result ↔
      result = contentVerdict (contentService setting cType) cType cId reply ∨
        (threshold = 0 ∧ result = refusal) := by
  constructor
  · intro alone
    obtain ⟨environment, state, final, spawned, untripped, answers, ran⟩ := alone
    obtain ⟨last, direct⟩ := callContentApi_run configured environment state
      (answers 1 ▸ decides)
    rw [direct, answers 1] at ran
    have same := (Prod.mk.inj (Option.some.inj ran)).1
    split at same
    · next opened =>
        rw [← CircuitBreaker.checkState_fst] at opened
        exact .inr ⟨((untripped.checkState_opened _).mp opened).1, same.symm⟩
    · exact .inl same.symm
  · intro given
    have gives : ∀ now, AloneGives setting threshold timeout reply cType cId
        (if (CircuitBreaker.fromEnv threshold timeout).finalState now = .opened then refusal
          else contentVerdict (contentService setting cType) cType cId reply) := by
      intro now
      obtain ⟨final, ran⟩ := callContentApi_run configured
        (fun _ => { ValidatorEnv.calm with now := now, content := reply })
        (.new threshold timeout .empty 0) decides
      exact ⟨_, _, final, [], CircuitBreaker.untripped_fromEnv, fun _ => rfl, ran⟩
    have opens : ∀ now, (CircuitBreaker.fromEnv threshold timeout).finalState now = .opened ↔
        threshold = 0 ∧ now < timeout := by
      intro now
      rw [← CircuitBreaker.checkState_fst]
      exact CircuitBreaker.untripped_fromEnv.checkState_opened now
    rcases given with rfl | ⟨rfl, rfl⟩
    · have passes := gives timeout
      rwa [if_neg (by simp [opens])] at passes
    · have refuses := gives (timeout - 1)
      rwa [if_pos (by simp [opens])] at refuses

end Alone

/-! ### The cache -/

section Runs

variable {setting : ValidatorSetting} (threshold : Nat) (timeout : Int)
  (api : ContentType → ContentId → HttpReply ContentDto)

/-- What the API says of a content. -/
def directResult (setting : ValidatorSetting)
    (api : ContentType → ContentId → HttpReply ContentDto) (cType : ContentType)
    (cId : ContentId) : Except DomainError Uuid :=
  contentVerdict (contentService setting cType) cType cId (api cType cId)

/-- A call for a content whose type is configured. -/
def ForConfigured (setting : ValidatorSetting) (call : ValidatorCall) : Prop :=
  ∃ cType cId, call = .validateContent cType cId ∧
    (setting.contentApis cType.asStr).isSome = true

/-- Under the key of a content there is its verdict, or nothing. -/
def CachesHonest (setting : ValidatorSetting)
    (api : ContentType → ContentId → HttpReply ContentDto) (redis : Redis) : Prop :=
  ∀ cType cId entry, redis (contentKey cType cId) = some entry →
    entry.value =
      .text (setting.verdictJson.toText (keptVerdict (directResult setting api cType cId)).1)

/-- The result that a call carries is what the API says of its content, or a refusal. -/
def Honest (setting : ValidatorSetting) (threshold : Nat)
    (api : ContentType → ContentId → HttpReply ContentDto) (flight : Flight) : Prop :=
  match flight.stage with
  | .recording result =>
      result = directResult setting api flight.cType flight.cId ∧ ∃ uuid, result = .ok uuid
  | .storing result => result = directResult setting api flight.cType flight.cId
  | .leaving result | .returned result =>
      result = directResult setting api flight.cType flight.cId ∨
        (threshold = 0 ∧ result = refusal)
  | _ => True

variable {threshold timeout api} {cType : ContentType} {cId : ContentId}

theorem directResult_verdict (decides : (api cType cId).Decides) :
    Verdict cType cId (directResult setting api cType cId) :=
  decides.verdict _ _ _

/-- What is dropped is not there to be wrong. -/
theorem CachesHonest.drop {redis : Redis} (caches : CachesHonest setting api redis)
    (keys : List String) : CachesHonest setting api (redis.drop keys) := by
  intro cType cId entry present
  exact caches cType cId entry (Redis.drop_some present)

/-- A call that reads finds nothing, or what the API says. -/
theorem CachesHonest.read {redis : Redis} (caches : CachesHonest setting api redis)
    (fault : Option Fault) :
    answeredVerdict setting
        (RedisLikeRepository.getString fault (contentKey cType cId) redis) = none ∨
      answeredVerdict setting
        (RedisLikeRepository.getString fault (contentKey cType cId) redis) =
          some (keptVerdict (directResult setting api cType cId)).1 := by
  cases found : redis (contentKey cType cId) with
  | none =>
      have holds : (redis (contentKey cType cId)).map RedisEntry.value =
          (none : Option ValidationResult).map fun verdict =>
            .text (setting.verdictJson.toText verdict) := by
        rw [found]
        rfl
      rw [answeredVerdict_getString holds, ite_self]
      exact .inl rfl
  | some entry =>
      have holds : (redis (contentKey cType cId)).map RedisEntry.value =
          (some (keptVerdict (directResult setting api cType cId)).1).map fun verdict =>
            .text (setting.verdictJson.toText verdict) := by
        rw [found]
        exact congrArg some (caches cType cId entry found)
      rw [answeredVerdict_getString holds]
      cases fault with
      | none => exact .inr rfl
      | some failure => exact .inl rfl

/-- A verdict that is written is what the API says. -/
theorem CachesHonest.setString {redis : Redis} (caches : CachesHonest setting api redis)
    (fault : Option Fault) (now : Int) (ttl : Nat) :
    CachesHonest setting api (RedisLikeRepository.setString fault now (contentKey cType cId)
      (setting.verdictJson.toText (keptVerdict (directResult setting api cType cId)).1) ttl
      redis).2 := by
  intro otherType otherId entry present
  rcases RedisLikeRepository.setString_present present with old | ⟨same, rfl⟩
  · exact caches otherType otherId entry old
  · obtain ⟨rfl, rfl⟩ := ContentId.key_inj "val:content:" same
    rfl

section Step

variable {env : ValidatorEnv} {op : ValidatorOp} {answer : op.Res} {flight : Flight}
  {state after : ValidatorState} {spawned : List ValidatorCall}

/-- No failure is recorded by a call whose result is honest. -/
theorem Honest.calm (honest : Honest setting threshold api flight)
    (permitted : flight.Permitted setting op) : op ≠ .recordFailure := by
  rintro rfl
  obtain ⟨cType, cId, stage⟩ := flight
  cases stage with
  | recording result =>
      obtain ⟨_, uuid, rfl⟩ := honest
      cases permitted
  | asking =>
      obtain ⟨url, _, asks⟩ := Option.map_eq_some_iff.mp permitted
      cases asks
  | _ => cases permitted

theorem untripped_step (untripped : state.breaker.Untripped threshold timeout)
    (handled : ValidatorState.handle env op state = some (answer, after, spawned))
    (calm : op ≠ .recordFailure) : after.breaker.Untripped threshold timeout := by
  rw [ValidatorState.handle_breaker handled]
  cases op with
  | checkState => exact untripped.checkState _
  | reset => exact untripped.reset
  | recordFailure => exact absurd rfl calm
  | _ => exact untripped

theorem caches_step (caches : CachesHonest setting api state.redis)
    (honest : Honest setting threshold api flight) (permitted : flight.Permitted setting op)
    (handled : ValidatorState.handle env op state = some (answer, after, spawned)) :
    CachesHonest setting api after.redis := by
  have kept : CachesHonest setting api (state.advance env).redis := caches.drop env.expired
  rw [(ValidatorState.handle_redis handled).1]
  obtain ⟨cType, cId, stage⟩ := flight
  cases stage with
  | storing result =>
      obtain rfl : result = directResult setting api cType cId := honest
      rw [← Option.some.inj permitted]
      exact kept.setString _ _ _
  | asking =>
      obtain ⟨url, _, asks⟩ := Option.map_eq_some_iff.mp permitted
      rw [← asks]
      exact kept
  | recording result =>
      obtain ⟨_, uuid, rfl⟩ := honest
      rw [← Option.some.inj permitted]
      exact kept
  | returned result => cases permitted
  | _ =>
      rw [← Option.some.inj permitted]
      exact kept

/-- A call goes on with an honest result. -/
theorem honest_step (configured : (setting.contentApis flight.cType.asStr).isSome = true)
    (decides : (api flight.cType flight.cId).Decides)
    (answers : ∀ url, op = .getContent url → env.content = api flight.cType flight.cId)
    (untripped : state.breaker.Untripped threshold timeout)
    (caches : CachesHonest setting api state.redis)
    (honest : Honest setting threshold api flight) (permitted : flight.Permitted setting op)
    (handled : ValidatorState.handle env op state = some (answer, after, spawned)) :
    Honest setting threshold api (flight.advance setting op answer) := by
  obtain ⟨cType, cId, stage⟩ := flight
  have verdict : Verdict cType cId (directResult setting api cType cId) :=
    directResult_verdict decides
  cases stage with
  | reading =>
      obtain rfl := Option.some.inj permitted
      obtain rfl := ValidatorState.handle_getString handled
      simp only [Flight.advance, Flight.nextStage]
      rcases (caches.drop env.expired).read env.fault with nothing | found
      · rw [Flight.key, ValidatorState.advance, nothing]
        exact trivial
      · rw [Flight.key, ValidatorState.advance, found]
        exact .inl verdict.read
  | missed =>
      obtain rfl := Option.some.inj permitted
      simp only [Flight.advance, Flight.nextStage, configured, if_true]
      split <;> exact trivial
  | waiting =>
      obtain rfl := Option.some.inj permitted
      exact trivial
  | checking =>
      obtain rfl := Option.some.inj permitted
      obtain rfl := ValidatorState.handle_checkState handled
      simp only [Flight.advance, Flight.nextStage]
      split
      · next opened =>
          exact .inr ⟨((untripped.checkState_opened env.now).mp opened).1, rfl⟩
      · exact trivial
  | asking =>
      obtain ⟨url, _, rfl⟩ := Option.map_eq_some_iff.mp permitted
      obtain rfl := ValidatorState.handle_getContent handled
      have told : contentVerdict (contentService setting cType) cType cId env.content =
          directResult setting api cType cId := by
        rw [answers url rfl]
        rfl
      simp only [Flight.advance, Flight.nextStage, told]
      generalize direct : directResult setting api cType cId = result at verdict
      cases verdict with
      | valid uuid => exact ⟨direct.symm, uuid, rfl⟩
      | notFound => exact direct.symm
  | recording result =>
      obtain ⟨is, uuid, rfl⟩ := honest
      obtain rfl := Option.some.inj permitted
      exact is
  | storing result =>
      obtain rfl := Option.some.inj permitted
      exact .inl honest
  | leaving result =>
      obtain rfl := Option.some.inj permitted
      exact honest
  | returned result => cases permitted

end Step

/-- A call stays with its content. -/
theorem controlAfter_item (i : Nat) (trace : List (Event (validatorService setting)))
    (cType : ContentType) (cId : ContentId) :
    (controlAfter (M := validatorService setting) (Flight.advance setting) i
        (Flight.initial (.validateContent cType cId)) trace).cType = cType ∧
      (controlAfter (M := validatorService setting) (Flight.advance setting) i
        (Flight.initial (.validateContent cType cId)) trace).cId = cId := by
  apply controlAfter_preserves (M := validatorService setting)
    (fun flight : Flight => flight.cType = cType ∧ flight.cId = cId)
  · intro event _ flight same
    exact same
  · exact ⟨rfl, rfl⟩

variable {state : ValidatorState} {calls : List ValidatorCall}
  {trace : List (Event (validatorService setting))} {last : Pool (validatorService setting)}

/-- The run law: breaker, cache and calls stay honest, whatever Redis does. -/
theorem honest_run (configured : ∀ call ∈ calls, ForConfigured setting call)
    (decides : ∀ cType cId, (api cType cId).Decides)
    (untripped : state.breaker.Untripped threshold timeout)
    (caches : CachesHonest setting api state.redis)
    (run : Run (M := validatorService setting) (Pool.start state calls) trace last)
    (answers : ∀ event ∈ trace, ∀ cType cId, event.call = .validateContent cType cId →
      ∀ url, event.op = .getContent url → event.env.content = api cType cId) :
    ∃ phases : List Flight,
      Phased (M := validatorService setting) (Flight.advance setting)
        (Flight.Permitted setting) (fun _ _ _ => True) Flight.Final phases last ∧
      (∀ (i : Nat) (thread : Thread (validatorService setting)),
        last.threads[i]? = some thread → thread.call ∈ calls ∧
          phases[i]? = some (controlAfter (M := validatorService setting)
            (Flight.advance setting) i (Flight.initial thread.call) trace)) ∧
      ∀ flight ∈ phases, Honest setting threshold api flight := by
  have contents : ∀ call ∈ calls, call.IsContent := by
    intro call called
    obtain ⟨cType, cId, is, _⟩ := configured call called
    exact ⟨cType, cId, is⟩
  have start : state.breaker.Untripped threshold timeout ∧
      CachesHonest setting api state.redis ∧
      ∀ flight ∈ calls.map Flight.initial, Honest setting threshold api flight := by
    refine ⟨untripped, caches, ?_⟩
    intro flight member
    obtain ⟨call, called, rfl⟩ := List.mem_map.mp member
    obtain ⟨cType, cId, rfl⟩ := contents call called
    exact trivial
  have law := Run.phases (M := validatorService setting)
    (fun _ phases (state : ValidatorState) =>
      state.breaker.Untripped threshold timeout ∧ CachesHonest setting api state.redis ∧
        ∀ flight ∈ phases, Honest setting threshold api flight)
    (fun _ isContent => body_flies isContent) (fun _ _ final => Flight.Final.tail final)
    contents run start
  obtain ⟨phases, phased, led, _, _, honest⟩ := law (by
    intro before event after phases flight next spawned split called stands at_i permitted
      handled invariant
    obtain ⟨untripped, caches, honest⟩ := invariant
    have own := honest flight (List.mem_of_getElem? at_i)
    obtain ⟨cType, cId, is, known⟩ := configured event.call called
    have item := controlAfter_item event.thread before cType cId
    rw [← is, ← stands] at item
    obtain ⟨rfl, rfl⟩ := item
    have moved := honest_step known (decides _ _)
      (answers event (by simp [split]) _ _ is) untripped caches own permitted handled
    refine ⟨(ValidatorState.handle_lock handled).1, trivial, ?_, ?_, ?_⟩
    · exact untripped_step untripped handled (own.calm permitted)
    · exact caches_step caches own permitted handled
    · intro other member
      rcases List.mem_or_eq_of_mem_set member with old | rfl
      · exact honest other old
      · exact moved)
  exact ⟨phases, phased, led, honest⟩

/-- Every call that comes back gives what `call_content_api` alone gives for its content,
and with a threshold above zero there is just one such result. -/
theorem returns_as_alone (configured : ∀ call ∈ calls, ForConfigured setting call)
    (decides : ∀ cType cId, (api cType cId).Decides)
    (untripped : state.breaker.Untripped threshold timeout)
    (caches : CachesHonest setting api state.redis)
    (run : Run (M := validatorService setting) (Pool.start state calls) trace last)
    (answers : ∀ event ∈ trace, ∀ cType cId, event.call = .validateContent cType cId →
      ∀ url, event.op = .getContent url → event.env.content = api cType cId) :
    ∀ thread ∈ last.threads, thread.Returned → ∃ cType cId result,
      thread.call = .validateContent cType cId ∧
      thread.rest = .ret (.inr (.validateContent result)) ∧
      AloneGives setting threshold timeout (api cType cId) cType cId result ∧
      (0 < threshold → ∀ other,
        AloneGives setting threshold timeout (api cType cId) cType cId other →
          other = result) := by
  obtain ⟨phases, phased, led, honest⟩ :=
    honest_run configured decides untripped caches run answers
  intro thread member returned
  obtain ⟨reply, ended⟩ := returned
  obtain ⟨i, at_i⟩ := List.getElem?_of_mem member
  obtain ⟨called, at_phase⟩ := led i thread at_i
  obtain ⟨cType, cId, is, known⟩ := configured thread.call called
  rw [is] at at_phase
  obtain ⟨sameType, sameId⟩ := controlAfter_item i trace cType cId
  obtain ⟨result, stands, rfl⟩ := phased.returned at_i at_phase ended
  have own := honest _ (List.mem_of_getElem? at_phase)
  rw [Honest, stands, sameType, sameId] at own
  have given : result = directResult setting api cType cId ∨
      (threshold = 0 ∧ result = refusal) := own
  refine ⟨cType, cId, result, is, ended, ?_, ?_⟩
  · exact (aloneGives_iff known (decides cType cId)).mpr given
  · intro positive other alone
    have single : ∀ some, some = directResult setting api cType cId ∨
        (threshold = 0 ∧ some = refusal) → some = directResult setting api cType cId := by
      intro some either
      rcases either with direct | ⟨zero, _⟩
      · exact direct
      · exact absurd zero positive.ne'
    rw [single result given]
    exact single other ((aloneGives_iff known (decides cType cId)).mp alone)

end Runs

/-- One content is there, and no other. -/
def onlyFirst (_ : ContentType) (cId : ContentId) : HttpReply ContentDto :=
  if cId = ⟨1⟩ then contentAnswers.content else contentMissing.content

/-- Two contents are validated while Redis is down: one is there, and one is not. -/
theorem returns_as_alone_redis_down :
    ∃ trace last,
      Run (M := validatorService .reference)
        (Pool.start (.new 5 30 .empty 0)
          [.validateContent ⟨"post"⟩ ⟨1⟩, .validateContent ⟨"post"⟩ ⟨2⟩]) trace last ∧
      last.Done ∧
      ∀ thread ∈ last.threads, thread.Returned → ∃ cType cId result,
        thread.call = .validateContent cType cId ∧
        thread.rest = .ret (.inr (.validateContent result)) ∧
        AloneGives .reference 5 30 (onlyFirst cType cId) cType cId result ∧
        (0 < 5 → ∀ other,
          AloneGives .reference 5 30 (onlyFirst cType cId) cType cId other →
            other = result) := by
  obtain ⟨trace, last, run, passed⟩ := Run.exists_of_exec (M := validatorService .reference)
    ([0, 1, 0, 1, 0, 1, 0, 1, 0, 1, 1, 0, 0].map fun i =>
      (i, { (if i = 0 then contentAnswers else contentMissing) with
        fault := some .noConnection }))
    (Pool.start (.new 5 30 .empty 0)
      [.validateContent ⟨"post"⟩ ⟨1⟩, .validateContent ⟨"post"⟩ ⟨2⟩])
    (fun trace last => last.done? && trace.all fun event =>
      (event.call = .validateContent ⟨"post"⟩ ⟨1⟩ &&
        event.env.content = contentAnswers.content) ||
      (event.call = .validateContent ⟨"post"⟩ ⟨2⟩ &&
        event.env.content = contentMissing.content))
    (by decide +kernel)
  simp only [Bool.and_eq_true, Bool.or_eq_true, decide_eq_true_eq, List.all_eq_true]
    at passed
  obtain ⟨ended, answered⟩ := passed
  refine ⟨trace, last, run, Pool.done_of_done? ended, ?_⟩
  apply returns_as_alone _ _ _ _ run
  · intro event member cType cId is url _
    rcases answered event member with ⟨first, content⟩ | ⟨second, content⟩
    · obtain ⟨rfl, rfl⟩ : cType = ⟨"post"⟩ ∧ cId = ⟨1⟩ := by simpa [is] using first
      exact content
    · obtain ⟨rfl, rfl⟩ : cType = ⟨"post"⟩ ∧ cId = ⟨2⟩ := by simpa [is] using second
      exact content
  · intro call called
    rcases List.mem_pair.mp called with rfl | rfl
    · exact ⟨_, _, rfl, rfl⟩
    · exact ⟨_, _, rfl, rfl⟩
  · intro cType cId
    unfold onlyFirst
    split
    · exact .inl ⟨rfl, rfl⟩
    · exact .inr rfl
  · exact CircuitBreaker.untripped_fromEnv
  · intro cType cId entry present
    cases present

end SocialApi
