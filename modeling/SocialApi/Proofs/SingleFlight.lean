/-
Module: SocialApi.Proofs.SingleFlight
Purpose: How many requests the API gets for one content while its calls share the
  single-flight lock and the verdict in Redis.
Trusted boundary: none
Main exports:
  requests, Undisturbed, NoLateInsert, Story, SingleFlight, single_step,
  one_request_per_content, second_request_after_verdict
-/
import SocialApi.Proofs.ContentFlights

namespace SocialApi

open Process
open HttpExternalValidator

section Runs

variable {setting : ValidatorSetting}

/-- What the API answered, request by request. -/
def requests (trace : List (Event (validatorService setting))) :
    List (HttpReply ContentDto) :=
  trace.filterMap fun event => match event.op with
    | .getContent _ => some event.env.content
    | _ => none

/-- Redis is up and keeps the verdict, and the API knows of the content. -/
structure Undisturbed (cType : ContentType) (cId : ContentId)
    (event : Event (validatorService setting)) : Prop where
  up : event.env.fault = none
  kept : contentKey cType cId ∉ event.env.expired
  decides : event.env.content.Decides

/-- No call takes the lock of a content whose verdict is in Redis already. -/
def NoLateInsert (cType : ContentType) (cId : ContentId)
    (trace : List (Event (validatorService setting))) : Prop :=
  ∀ event ∈ trace, event.op = .singleFlightInsert (contentKey cType cId) →
    event.before.singleFlightLock (contentKey cType cId) = false →
      event.before.redis (contentKey cType cId) = none

instance (cType : ContentType) (cId : ContentId) (event : Event (validatorService setting)) :
    Decidable (Undisturbed cType cId event) :=
  decidable_of_iff (event.env.fault = none ∧ contentKey cType cId ∉ event.env.expired ∧
      event.env.content.Decides)
    ⟨fun ⟨up, kept, decides⟩ => ⟨up, kept, decides⟩,
      fun ⟨up, kept, decides⟩ => ⟨up, kept, decides⟩⟩

instance (cType : ContentType) (cId : ContentId)
    (trace : List (Event (validatorService setting))) :
    Decidable (NoLateInsert cType cId trace) :=
  inferInstanceAs (Decidable (∀ event ∈ trace, _ → _ → _))

/-- How far a content has come: no one has asked for it, the API has answered, or the
verdict is in Redis. -/
inductive Story where
  | cold
  | answered (result : Except DomainError Uuid)
  | warm (result : Except DomainError Uuid)

/-- The stages that calls can be in. -/
def Story.Allows : Story → Stage → Prop
  | _, .reading | _, .missed | _, .waiting => True
  | .cold, .checking | .cold, .asking => True
  | .answered result, .recording held => held = result ∧ ∃ uuid, held = .ok uuid
  | .answered result, .storing held => held = result
  | .warm result, .leaving held | .warm result, .returned held => held = result
  | _, _ => False

/-- The verdict in Redis. -/
def Story.cached : Story → Option ValidationResult
  | .cold | .answered _ => none
  | .warm result => some (keptVerdict result).1

/-- The requests that have been made. -/
def Story.Told (setting : ValidatorSetting) (cType : ContentType) (cId : ContentId)
    (trace : List (Event (validatorService setting))) : Story → Prop
  | .cold => requests trace = []
  | .answered result | .warm result =>
      Verdict cType cId result ∧ ∃ reply, requests trace = [reply] ∧
        result = contentVerdict (contentService setting cType) cType cId reply

/-- The calls for one content, the lock and Redis tell the same story. -/
structure SingleFlight (setting : ValidatorSetting) (cType : ContentType) (cId : ContentId)
    (story : Story) (trace : List (Event (validatorService setting)))
    (phases : List Flight) (state : ValidatorState) : Prop where
  told : story.Told setting cType cId trace
  cached : (state.redis (contentKey cType cId)).map RedisEntry.value =
    story.cached.map fun verdict => .text (setting.verdictJson.toText verdict)
  closed : state.breaker.failures < state.breaker.threshold
  allows : ∀ flight ∈ phases, flight.cType = cType ∧ flight.cId = cId ∧
    story.Allows flight.stage
  owned : Owned Flight.owns state.singleFlightLock phases
  locked : ∀ result, story = .answered result →
    state.singleFlightLock (contentKey cType cId) = true

variable {cType : ContentType} {cId : ContentId} {story next : Story}
  {trace : List (Event (validatorService setting))} {phases : List Flight}
  {state after : ValidatorState}

/-- Calls that do not hold the lock, and have not come back, may be where they are in any
story. -/
theorem Story.Allows.change {flight : Flight} (allows : story.Allows flight.stage)
    (free : flight.owns = none) (fresh : ∀ result, story ≠ .warm result) :
    next.Allows flight.stage := by
  obtain ⟨cType, cId, stage⟩ := flight
  cases stage with
  | reading | missed | waiting => cases next <;> exact trivial
  | returned held =>
      cases story with
      | warm result => exact absurd rfl (fresh result)
      | cold => exact allows.elim
      | answered result => exact allows.elim
  | _ => cases free

/-- A verdict goes to the breaker first if the content is there. -/
theorem Verdict.allows {result : Except DomainError Uuid} (verdict : Verdict cType cId result) :
    (Story.answered result).Allows (.ofResult result) := by
  cases verdict with
  | valid uuid => exact ⟨rfl, uuid, rfl⟩
  | notFound => exact rfl

/-- The step of the one call that holds the lock moves the story on for all. -/
theorem SingleFlight.others (single : SingleFlight setting cType cId story trace phases state)
    {i : Nat} {flight : Flight} (at_i : phases[i]? = some flight)
    (holds : flight.owns = some (contentKey cType cId))
    (fresh : ∀ result, story ≠ .warm result) {moved : Flight}
    (same : moved.cType = cType ∧ moved.cId = cId ∧ next.Allows moved.stage) :
    ∀ other ∈ phases.set i moved, other.cType = cType ∧ other.cId = cId ∧
      next.Allows other.stage := by
  intro other member
  obtain ⟨j, at_j⟩ := List.getElem?_of_mem member
  rcases phase_of_set at_j with ⟨rfl, rfl⟩ | ⟨elsewhere, old_j⟩
  · exact same
  · obtain ⟨sameType, sameId, allows⟩ := single.allows other (List.mem_of_getElem? old_j)
    refine ⟨sameType, sameId, allows.change ?_ fresh⟩
    cases owning : other.owns with
    | none => rfl
    | some key =>
        obtain rfl := Flight.key_of_owns owning
        rw [Flight.key, sameType, sameId] at owning
        exact absurd (single.owned.unique i j _ _ _ at_i old_j holds owning) elsewhere

theorem requests_append (left right : List (Event (validatorService setting))) :
    requests (left ++ right) = requests left ++ requests right :=
  List.filterMap_append

theorem Story.Told.quiet {event : Event (validatorService setting)}
    (told : story.Told setting cType cId trace) (none_asked : requests [event] = []) :
    story.Told setting cType cId (trace ++ [event]) := by
  have same : requests (trace ++ [event]) = requests trace := by
    rw [requests_append, none_asked, List.append_nil]
  cases story with
  | cold => exact same.trans told
  | answered result =>
      obtain ⟨verdict, reply, asked, is⟩ := told
      exact ⟨verdict, reply, same.trans asked, is⟩
  | warm result =>
      obtain ⟨verdict, reply, asked, is⟩ := told
      exact ⟨verdict, reply, same.trans asked, is⟩

/-! ### One step -/

section Step

variable {event : Event (validatorService setting)} {flight : Flight}
  {spawned : List ValidatorCall}

/-- The steps that neither ask the API nor write the verdict, and leave the lock taken. -/
def ValidatorOp.Bystands : ValidatorOp → Prop
  | .getContent _ | .setString _ _ _ | .singleFlightRemove _ | .recordFailure => False
  | _ => True

theorem requests_of_bystands (bystands : event.op.Bystands) : requests [event] = [] := by
  obtain ⟨thread, call, env, op, res, before⟩ := event
  cases op with
  | getContent url => exact bystands.elim
  | _ => rfl

/-- The verdict stays in Redis, unless the step writes it. -/
theorem Undisturbed.redis (undisturbed : Undisturbed cType cId event)
    (handled : ValidatorState.handle event.env event.op event.before =
      some (event.res, after, spawned)) :
    (∀ key value ttl, event.op ≠ .setString key value ttl) →
      after.redis (contentKey cType cId) = event.before.redis (contentKey cType cId) := by
  intro unwritten
  rw [(ValidatorState.handle_redis handled).1, ← ValidatorState.advance_redis undisturbed.kept]
  cases written : event.op with
  | setString key value ttl => exact absurd written (unwritten key value ttl)
  | _ => rfl

/-- A breaker that lets calls through goes on doing so until a failure is recorded. -/
theorem closed_after (closed : event.before.breaker.failures < event.before.breaker.threshold)
    (handled : ValidatorState.handle event.env event.op event.before =
      some (event.res, after, spawned)) (calm : event.op ≠ .recordFailure) :
    after.breaker.failures < after.breaker.threshold := by
  rw [ValidatorState.handle_breaker handled]
  obtain ⟨thread, call, env, op, res, before⟩ := event
  cases op with
  | checkState =>
      have final : before.breaker.finalState env.now = .closed := if_pos closed
      simp only [ValidatorState.breakerAfter, CircuitBreaker.checkState, final]
      split
      · exact Nat.zero_lt_of_lt closed
      · exact closed
  | reset => exact Nat.zero_lt_of_lt closed
  | recordFailure => exact absurd rfl calm
  | _ => exact closed

/-- A step that moves only its own call. -/
theorem SingleFlight.bystander
    (single : SingleFlight setting cType cId story trace phases event.before)
    (undisturbed : Undisturbed cType cId event)
    (at_i : phases[event.thread]? = some flight)
    (permitted : flight.Permitted setting event.op)
    (handled : ValidatorState.handle event.env event.op event.before =
      some (event.res, after, spawned))
    (bystands : event.op.Bystands)
    (allows : story.Allows (flight.nextStage setting event.op event.res)) :
    SingleFlight setting cType cId story (trace ++ [event])
      (phases.set event.thread (flight.advance setting event.op event.res)) after where
  told := single.told.quiet (requests_of_bystands bystands)
  cached := by
    rw [undisturbed.redis handled]
    · exact single.cached
    · intro key value ttl written
      rw [written] at bystands
      exact bystands
  closed := by
    apply closed_after single.closed handled
    intro failed
    rw [failed] at bystands
    exact bystands
  allows := by
    intro other member
    obtain ⟨sameType, sameId, _⟩ := single.allows flight (List.mem_of_getElem? at_i)
    rcases List.mem_or_eq_of_mem_set member with old | rfl
    · exact single.allows other old
    · exact ⟨sameType, sameId, allows⟩
  owned := single.owned.move at_i (Flight.lockMove permitted handled).2
  locked := by
    intro result is
    have locked := single.locked result is
    rw [(ValidatorState.handle_lock handled).2]
    cases taken : event.op with
    | singleFlightInsert cacheKey =>
        rw [ValidatorState.lockAfter, Function.update_apply, locked, ite_self]
    | singleFlightRemove cacheKey =>
        rw [taken] at bystands
        exact bystands.elim
    | _ => exact locked

/-- The API answers the one call that has asked. -/
theorem SingleFlight.answer
    (single : SingleFlight setting cType cId .cold trace phases event.before)
    (undisturbed : Undisturbed cType cId event)
    (at_i : phases[event.thread]? = some ⟨cType, cId, .asking⟩)
    (permitted : (Flight.mk cType cId .asking).Permitted setting event.op)
    (handled : ValidatorState.handle event.env event.op event.before =
      some (event.res, after, spawned)) :
    SingleFlight setting cType cId
      (.answered (contentVerdict (contentService setting cType) cType cId event.env.content))
      (trace ++ [event])
      (phases.set event.thread
        ((Flight.mk cType cId .asking).advance setting event.op event.res)) after := by
  have redis := undisturbed.redis handled
  have locks := (ValidatorState.handle_lock handled).2
  have moves := (Flight.lockMove permitted handled).2
  have closed := closed_after single.closed handled
  have verdict := undisturbed.decides.verdict (contentService setting cType) cType cId
  obtain ⟨thread, call, env, op, res, before⟩ := event
  obtain ⟨url, _, rfl⟩ := Option.map_eq_some_iff.mp permitted
  have answered : res = env.content := ValidatorState.handle_getContent handled
  subst answered
  have none_asked : requests trace = [] := single.told
  constructor
  · refine ⟨verdict, env.content, ?_, rfl⟩
    rw [requests_append, none_asked]
    rfl
  · rw [redis (by simp)]
    exact single.cached
  · exact closed (by simp)
  · apply single.others at_i rfl (by simp)
    refine ⟨rfl, rfl, ?_⟩
    exact verdict.allows
  · exact single.owned.move at_i moves
  · intro result _
    rw [locks]
    exact single.owned.locked thread _ _ at_i rfl

/-- The call that was answered writes the verdict to Redis. -/
theorem SingleFlight.store {result : Except DomainError Uuid}
    (single : SingleFlight setting cType cId (.answered result) trace phases event.before)
    (undisturbed : Undisturbed cType cId event)
    (at_i : phases[event.thread]? = some ⟨cType, cId, .storing result⟩)
    (permitted : (Flight.mk cType cId (.storing result)).Permitted setting event.op)
    (handled : ValidatorState.handle event.env event.op event.before =
      some (event.res, after, spawned)) :
    SingleFlight setting cType cId (.warm result) (trace ++ [event])
      (phases.set event.thread
        ((Flight.mk cType cId (.storing result)).advance setting event.op event.res))
      after := by
  have written := (ValidatorState.handle_redis handled).1
  have moves := (Flight.lockMove permitted handled).2
  have closed := closed_after single.closed handled
  obtain ⟨thread, call, env, op, res, before⟩ := event
  obtain rfl := Option.some.inj permitted
  have up : env.fault = none := undisturbed.up
  constructor
  · have told : (Story.warm result).Told setting cType cId trace := single.told
    exact told.quiet rfl
  · rw [written]
    simp only [ValidatorState.redisAfter, RedisLikeRepository.setString, up, Flight.key,
      Redis.put_self]
    rfl
  · exact closed (by simp)
  · apply single.others at_i rfl (by simp)
    exact ⟨rfl, rfl, rfl⟩
  · exact single.owned.move at_i moves
  · intro other same
    cases same

/-- The call that was answered gives the lock back. -/
theorem SingleFlight.leave {result : Except DomainError Uuid}
    (single : SingleFlight setting cType cId (.warm result) trace phases event.before)
    (undisturbed : Undisturbed cType cId event)
    (at_i : phases[event.thread]? = some ⟨cType, cId, .leaving result⟩)
    (permitted : (Flight.mk cType cId (.leaving result)).Permitted setting event.op)
    (handled : ValidatorState.handle event.env event.op event.before =
      some (event.res, after, spawned)) :
    SingleFlight setting cType cId (.warm result) (trace ++ [event])
      (phases.set event.thread
        ((Flight.mk cType cId (.leaving result)).advance setting event.op event.res))
      after := by
  have redis := undisturbed.redis handled
  have moves := (Flight.lockMove permitted handled).2
  have closed := closed_after single.closed handled
  obtain ⟨thread, call, env, op, res, before⟩ := event
  obtain rfl := Option.some.inj permitted
  constructor
  · exact single.told.quiet rfl
  · rw [redis (by simp)]
    exact single.cached
  · exact closed (by simp)
  · intro other member
    rcases List.mem_or_eq_of_mem_set member with old | rfl
    · exact single.allows other old
    · exact ⟨rfl, rfl, rfl⟩
  · exact single.owned.move at_i moves
  · intro other same
    cases same

/-- What a call reads while Redis is up and keeps the verdict. -/
theorem SingleFlight.reads {env : ValidatorEnv}
    {read : Except DomainError (Option String)}
    (single : SingleFlight setting cType cId story trace phases state)
    (up : env.fault = none) (kept : contentKey cType cId ∉ env.expired)
    (handled : ValidatorState.handle env (.getString (contentKey cType cId)) state =
      some (read, after, spawned)) : answeredVerdict setting read = story.cached := by
  have holds : ((state.advance env).redis (contentKey cType cId)).map RedisEntry.value =
      story.cached.map fun verdict => .text (setting.verdictJson.toText verdict) := by
    rw [ValidatorState.advance_redis kept]
    exact single.cached
  rw [ValidatorState.handle_getString handled, answeredVerdict_getString holds, up]
  rfl

/-- The step law: whatever call takes the next step, lock, Redis and calls go on telling one
story. -/
theorem single_step (configured : (setting.contentApis cType.asStr).isSome = true)
    (single : SingleFlight setting cType cId story trace phases event.before)
    (undisturbed : Undisturbed cType cId event)
    (early : event.op = .singleFlightInsert (contentKey cType cId) →
      event.before.singleFlightLock (contentKey cType cId) = false →
        event.before.redis (contentKey cType cId) = none)
    (at_i : phases[event.thread]? = some flight)
    (permitted : flight.Permitted setting event.op)
    (handled : ValidatorState.handle event.env event.op event.before =
      some (event.res, after, spawned)) :
    ∃ next, SingleFlight setting cType cId next (trace ++ [event])
      (phases.set event.thread (flight.advance setting event.op event.res)) after := by
  have bystander := single.bystander undisturbed at_i permitted handled
  obtain ⟨sameType, sameId, allows⟩ := single.allows flight (List.mem_of_getElem? at_i)
  obtain ⟨flightType, flightId, stage⟩ := flight
  obtain rfl : flightType = cType := sameType
  obtain rfl : flightId = cId := sameId
  cases stage with
  | reading =>
      obtain ⟨thread, call, env, op, res, before⟩ := event
      obtain rfl := Option.some.inj permitted
      have read := single.reads undisturbed.up undisturbed.kept handled
      apply Exists.intro story
      apply bystander trivial
      simp only [Flight.nextStage, read]
      cases story with
      | cold => exact trivial
      | answered result => exact trivial
      | warm result => exact single.told.1.read
  | missed =>
      obtain ⟨thread, call, env, op, res, before⟩ := event
      obtain rfl := Option.some.inj permitted
      have inserted : res = !before.singleFlightLock (contentKey flightType flightId) :=
        ValidatorState.handle_insert handled
      apply Exists.intro story
      apply bystander trivial
      simp only [Flight.nextStage, inserted, configured, if_true]
      cases lock : before.singleFlightLock (contentKey flightType flightId) with
      | true => cases story <;> exact trivial
      | false =>
          have uncached := early rfl lock
          cases story with
          | cold => exact trivial
          | answered result =>
              rw [single.locked result rfl] at lock
              cases lock
          | warm result =>
              have cached := single.cached
              rw [uncached] at cached
              cases cached
  | waiting =>
      obtain ⟨thread, call, env, op, res, before⟩ := event
      obtain rfl := Option.some.inj permitted
      apply Exists.intro story
      apply bystander trivial
      cases story <;> exact trivial
  | checking =>
      cases story with
      | cold =>
          obtain ⟨thread, call, env, op, res, before⟩ := event
          obtain rfl := Option.some.inj permitted
          have passed : res = (before.breaker.checkState env.now).1 :=
            ValidatorState.handle_checkState handled
          rw [CircuitBreaker.checkState_fst,
            CircuitBreaker.finalState_closed_iff.mpr single.closed] at passed
          subst passed
          exact ⟨.cold, bystander trivial trivial⟩
      | answered result => exact allows.elim
      | warm result => exact allows.elim
  | asking =>
      cases story with
      | cold => exact ⟨_, single.answer undisturbed at_i permitted handled⟩
      | answered result => exact allows.elim
      | warm result => exact allows.elim
  | recording result =>
      cases story with
      | cold => exact allows.elim
      | answered held =>
          obtain ⟨rfl, uuid, rfl⟩ := allows
          obtain ⟨thread, call, env, op, res, before⟩ := event
          obtain rfl := Option.some.inj permitted
          exact ⟨_, bystander trivial rfl⟩
      | warm held => exact allows.elim
  | storing result =>
      cases story with
      | cold => exact allows.elim
      | answered held =>
          obtain rfl : result = held := allows
          exact ⟨_, single.store undisturbed at_i permitted handled⟩
      | warm held => exact allows.elim
  | leaving result =>
      cases story with
      | cold => exact allows.elim
      | answered held => exact allows.elim
      | warm held =>
          obtain rfl : result = held := allows
          exact ⟨_, single.leave undisturbed at_i permitted handled⟩
  | returned result => cases permitted

end Step

/-! ### Runs -/

variable {calls : List ValidatorCall} {last : Pool (validatorService setting)}

/-- The run law: from an empty lock and no verdict, one story is told to the end. -/
theorem single_run (configured : (setting.contentApis cType.asStr).isSome = true)
    (same : ∀ call ∈ calls, call = .validateContent cType cId)
    (uncached : state.redis (contentKey cType cId) = none)
    (free : ∀ key, state.singleFlightLock key = false)
    (closed : state.breaker.failures < state.breaker.threshold)
    (run : Run (M := validatorService setting) (Pool.start state calls) trace last)
    (undisturbed : ∀ event ∈ trace, Undisturbed cType cId event)
    (early : NoLateInsert cType cId trace) :
    ∃ (phases : List Flight) (story : Story),
      Phased (M := validatorService setting) (Flight.advance setting)
        (Flight.Permitted setting) (fun _ _ _ => True) Flight.Final phases last ∧
      SingleFlight setting cType cId story trace phases last.state := by
  have contents : ∀ call ∈ calls, call.IsContent :=
    fun call called => ⟨cType, cId, same call called⟩
  have starts : ∀ flight ∈ calls.map Flight.initial, flight = ⟨cType, cId, .reading⟩ := by
    intro flight member
    obtain ⟨call, called, rfl⟩ := List.mem_map.mp member
    rw [same call called]
    rfl
  have start : ∃ story, SingleFlight setting cType cId story [] (calls.map Flight.initial)
      state := by
    apply Exists.intro .cold
    constructor
    · rfl
    · rw [uncached]
      rfl
    · exact closed
    · intro flight member
      rw [starts flight member]
      exact ⟨rfl, rfl, trivial⟩
    · apply owned_start free
      intro flight member
      rw [starts flight member]
      rfl
    · intro result cold
      cases cold
  have law := Run.phases (M := validatorService setting)
    (fun trace phases state => ∃ story, SingleFlight setting cType cId story trace phases state)
    (fun _ isContent => body_flies isContent) (fun _ _ final => Flight.Final.tail final)
    contents run start
  obtain ⟨phases, phased, _, story, single⟩ := law (by
    intro before event after phases flight next spawned split _ _ at_i permitted handled told
    obtain ⟨story, single⟩ := told
    have member : event ∈ trace := by simp [split]
    refine ⟨(ValidatorState.handle_lock handled).1, trivial, ?_⟩
    exact single_step configured single (undisturbed event member) (early event member) at_i
      permitted handled)
  exact ⟨phases, story, phased, single⟩

/-- One request is made for a content, and every call that comes back gives its verdict, as
long as no call takes the lock once the verdict is in Redis. -/
theorem one_request_per_content (configured : (setting.contentApis cType.asStr).isSome = true)
    (same : ∀ call ∈ calls, call = .validateContent cType cId)
    (uncached : state.redis (contentKey cType cId) = none)
    (free : ∀ key, state.singleFlightLock key = false)
    (closed : state.breaker.failures < state.breaker.threshold)
    (run : Run (M := validatorService setting) (Pool.start state calls) trace last)
    (undisturbed : ∀ event ∈ trace, Undisturbed cType cId event)
    (early : NoLateInsert cType cId trace) :
    (requests trace).length ≤ 1 ∧
      ∀ thread ∈ last.threads, thread.Returned → ∃ reply, requests trace = [reply] ∧
        thread.rest = .ret (.inr (.validateContent
          (contentVerdict (contentService setting cType) cType cId reply))) := by
  obtain ⟨phases, story, phased, single⟩ :=
    single_run configured same uncached free closed run undisturbed early
  constructor
  · cases story with
    | cold =>
        have none_asked : requests trace = [] := single.told
        simp [none_asked]
    | answered result =>
        obtain ⟨_, reply, asked, _⟩ := single.told
        simp [asked]
    | warm result =>
        obtain ⟨_, reply, asked, _⟩ := single.told
        simp [asked]
  · intro thread member returned
    obtain ⟨reply, ended⟩ := returned
    obtain ⟨i, at_i⟩ := List.getElem?_of_mem member
    obtain ⟨flight, at_phase⟩ := phased.exists_phase at_i
    obtain ⟨result, stands, rfl⟩ := phased.returned at_i at_phase ended
    obtain ⟨_, _, allows⟩ := single.allows flight (List.mem_of_getElem? at_phase)
    rw [stands] at allows
    cases story with
    | cold => exact allows.elim
    | answered held => exact allows.elim
    | warm held =>
        obtain ⟨_, answer, asked, is⟩ := single.told
        refine ⟨answer, asked, ?_⟩
        rw [ended, ← is, ← allows]

end Runs

/-- The content is there. -/
def contentAnswers : ValidatorEnv :=
  { ValidatorEnv.calm with
    content := .answered 200 (some { id := 7, contentType := "post" }) }

/-- The content is not there. -/
def contentMissing : ValidatorEnv :=
  { ValidatorEnv.calm with content := .answered 404 none }

/-- Two calls for one content. -/
def twoContents : List ValidatorCall :=
  List.replicate 2 (.validateContent ⟨"post"⟩ ⟨1⟩)

/-- The second call finds the lock taken, and waits until the first has come back. -/
theorem one_request_for_two_calls :
    ∃ trace last,
      Run (M := validatorService .reference)
        (Pool.start (.new 5 30 .empty 0) twoContents) trace last ∧
      (∀ thread ∈ last.threads.take 1, thread.Returned) ∧ (requests trace).length ≤ 1 ∧
      ∀ thread ∈ last.threads, thread.Returned → ∃ reply, requests trace = [reply] ∧
        thread.rest = .ret (.inr (.validateContent
          (contentVerdict (contentService .reference ⟨"post"⟩) ⟨"post"⟩ ⟨1⟩ reply))) := by
  obtain ⟨trace, last, run, passed⟩ := Run.exists_of_exec (M := validatorService .reference)
    ([0, 0, 1, 1, 1, 0, 0, 0, 0, 0, 1].map fun i => (i, contentAnswers))
    (Pool.start (.new 5 30 .empty 0) twoContents)
    (fun trace last => (Pool.mk last.state (last.threads.take 1)).done? &&
      NoLateInsert ⟨"post"⟩ ⟨1⟩ trace &&
      trace.all fun event => Undisturbed ⟨"post"⟩ ⟨1⟩ event)
    (by decide +kernel)
  simp only [Bool.and_eq_true, decide_eq_true_eq, List.all_eq_true] at passed
  obtain ⟨⟨ended, early⟩, undisturbed⟩ := passed
  refine ⟨trace, last, run, Pool.done_of_done? ended, ?_⟩
  apply one_request_per_content _ _ _ _ _ run undisturbed early
  · rfl
  · intro call called
    exact List.eq_of_mem_replicate called
  · rfl
  · intro key
    rfl
  · decide

/-- A call has read the cache, and takes the lock when another has come and gone: the API
is asked twice, and the two calls come back with different results. -/
theorem second_request_after_verdict :
    ∃ trace last,
      Run (M := validatorService .reference)
        (Pool.start (.new 5 30 .empty 0) twoContents) trace last ∧
      (∀ event ∈ trace, Undisturbed ⟨"post"⟩ ⟨1⟩ event) ∧ last.Done ∧
      requests trace = [contentAnswers.content, contentMissing.content] := by
  obtain ⟨trace, last, run, passed⟩ := Run.exists_of_exec (M := validatorService .reference)
    ([0, 1, 1, 1, 1, 1, 1, 1].map (fun i => (i, contentAnswers)) ++
      List.replicate 5 (0, contentMissing))
    (Pool.start (.new 5 30 .empty 0) twoContents)
    (fun trace last => last.done? &&
      (trace.all fun event => Undisturbed ⟨"post"⟩ ⟨1⟩ event) &&
      requests trace = [contentAnswers.content, contentMissing.content])
    (by decide +kernel)
  simp only [Bool.and_eq_true, decide_eq_true_eq, List.all_eq_true] at passed
  obtain ⟨⟨ended, undisturbed⟩, asked⟩ := passed
  exact ⟨trace, last, run, undisturbed, Pool.done_of_done? ended, asked⟩

end SocialApi
