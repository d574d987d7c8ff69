/-
Module: SocialApi.Proofs.ContentFlights
Purpose: validate_content as a machine that goes from stage to stage, one operation at each,
  and what its stages have to do with the single-flight lock.
Trusted boundary: none
Main exports:
  Stage, Flight, Flight.nextOp, Flight.advance, validateContent_flies, Flight.owns,
  Flight.lockMove, HttpReply.Decides, Verdict
-/
import SocialApi.Api.Middleware
import SocialApi.Process.Phases

namespace SocialApi

open Process
open HttpExternalValidator

/-- Where a call of `validate_content` stands.  Those from `checking` to `leaving` are
between the insert into the lock and the remove. -/
inductive Stage where
  | reading
  | missed
  | waiting
  | checking
  | asking
  | recording (result : Except DomainError Uuid)
  | storing (result : Except DomainError Uuid)
  | leaving (result : Except DomainError Uuid)
  | returned (result : Except DomainError Uuid)

/-- A call for a content, and where it stands. -/
structure Flight where
  cType : ContentType
  cId : ContentId
  stage : Stage

/-- The URL of a content, if its type is configured. -/
def contentUrl (setting : ValidatorSetting) (cType : ContentType) (cId : ContentId) :
    Option String :=
  (setting.contentApis cType.asStr).map fun baseUrl =>
    baseUrl ++ "/v1/" ++ cType.asStr ++ "/" ++ cId.uuid.text

/-- The name of the API in errors. -/
def contentService (setting : ValidatorSetting) (cType : ContentType) : String :=
  setting.toUppercase cType.asStr ++ " API"

/-- Where a call goes on with the result of its request. -/
def Stage.ofResult : Except DomainError Uuid → Stage
  | .ok uuid => .recording (.ok uuid)
  | .error (.dependencyUnavailable service) =>
      .recording (.error (.dependencyUnavailable service))
  | .error (.contentNotFound contentType contentId) =>
      .storing (.error (.contentNotFound contentType contentId))
  | .error err => .leaving (.error err)

/-- Where a call goes on with a result that the breaker has been told of: verdicts are
stored, other errors are not. -/
def Stage.ofOutcome : Except DomainError Uuid → Stage
  | .ok uuid => .storing (.ok uuid)
  | .error (.contentNotFound contentType contentId) =>
      .storing (.error (.contentNotFound contentType contentId))
  | .error err => .leaving (.error err)

/-- The verdict that is stored for a result, and for how long. -/
def keptVerdict : Except DomainError Uuid → ValidationResult × Nat
  | .ok uuid => (.valid uuid, 3600)
  | .error _ => (.notFound, 300)

/-- What `validate_content` returns for a stored verdict. -/
def readVerdict (cType : ContentType) (cId : ContentId) :
    ValidationResult → Except DomainError Uuid
  | .valid uuid => .ok uuid
  | .notFound => .error (.contentNotFound cType.asStr cId.uuid.text)

/-- The verdict in the answer of Redis, if it can be read. -/
def answeredVerdict (setting : ValidatorSetting) :
    Except DomainError (Option String) → Option ValidationResult
  | .ok (some s) => setting.verdictJson.fromText s
  | _ => none

namespace Flight

variable (setting : ValidatorSetting)

def key (flight : Flight) : String := contentKey flight.cType flight.cId

/-- The one operation that a call performs next. -/
def nextOp (flight : Flight) : Option ValidatorOp :=
  match flight.stage with
  | .reading => some (.getString flight.key)
  | .missed => some (.singleFlightInsert flight.key)
  | .waiting => some (.sleep 50)
  | .checking => some .checkState
  | .asking => (contentUrl setting flight.cType flight.cId).map .getContent
  | .recording (.ok _) => some .reset
  | .recording (.error _) => some .recordFailure
  | .storing result =>
      some (.setString flight.key (setting.verdictJson.toText (keptVerdict result).1)
        (keptVerdict result).2)
  | .leaving _ => some (.singleFlightRemove flight.key)
  | .returned _ => none

/-- The stage after an operation and its answer. -/
def nextStage (flight : Flight) : (op : ValidatorOp) → op.Res → Stage
  | .getString _, answer =>
      match answeredVerdict setting answer with
      | none => .missed
      | some verdict => .returned (readVerdict flight.cType flight.cId verdict)
  | .singleFlightInsert _, inserted =>
      if inserted then
        if (setting.contentApis flight.cType.asStr).isSome then .checking
        else .leaving (.error (.unknownContentType flight.cType.name))
      else .waiting
  | .sleep _, _ => .reading
  | .checkState, state =>
      if state = .opened then .leaving (.error (.dependencyUnavailable "todo")) else .asking
  | .getContent _, reply =>
      .ofResult (contentVerdict (contentService setting flight.cType) flight.cType flight.cId
        reply)
  | .reset, _ =>
      match flight.stage with
      | .recording result => .storing result
      | stage => stage
  | .recordFailure, _ =>
      match flight.stage with
      | .recording result => .leaving result
      | stage => stage
  | .setString _ _ _, _ =>
      match flight.stage with
      | .storing result => .leaving result
      | stage => stage
  | .singleFlightRemove _, _ =>
      match flight.stage with
      | .leaving result => .returned result
      | stage => stage
  | _, _ => flight.stage

def advance (flight : Flight) (op : ValidatorOp) (answer : op.Res) : Flight :=
  { flight with stage := flight.nextStage setting op answer }

def Permitted (flight : Flight) (op : ValidatorOp) : Prop :=
  flight.nextOp setting = some op

/-- A call comes back with its result, or starts over. -/
def Final (flight : Flight) : ValidatorCall ⊕ ValidatorReply → Prop
  | .inl target =>
      flight.stage = .reading ∧ target = .validateContent flight.cType flight.cId
  | .inr reply => ∃ result, flight.stage = .returned result ∧ reply = .validateContent result

/-- Where a call starts. -/
def initial : ValidatorCall → Flight
  | .validateContent cType cId => ⟨cType, cId, .reading⟩
  | _ => ⟨⟨""⟩, ⟨0⟩, .reading⟩

/-- The program goes through the stages from here. -/
abbrev Flies {α : Type} (final : Flight → α → Prop) (program : Validator α)
    (flight : Flight) : Prop :=
  program.Obeys (advance setting) (Permitted setting) (fun _ _ _ => True) final flight

end Flight

/-- The calls of `validate_content`. -/
def ValidatorCall.IsContent (call : ValidatorCall) : Prop :=
  ∃ cType cId, call = .validateContent cType cId

section Flies

open Flight

variable {setting : ValidatorSetting} {cType : ContentType} {cId : ContentId}

theorem getCachedValidation_flies :
    Flies setting (fun flight verdict => flight = ⟨cType, cId, match verdict with
        | none => .missed
        | some verdict => .returned (readVerdict cType cId verdict)⟩)
      (getCachedValidation setting (contentKey cType cId)) ⟨cType, cId, .reading⟩ := by
  refine ⟨rfl, ?_⟩
  intro answer _
  rcases answer with e | (_ | s)
  · rfl
  · rfl
  · rfl

theorem recordOutcome_flies (result : Except DomainError Uuid) :
    Flies setting (fun flight outcome =>
        outcome = result ∧ flight = ⟨cType, cId, .ofOutcome result⟩)
      (recordOutcome result) ⟨cType, cId, .ofResult result⟩ := by
  cases result with
  | ok uuid => exact ⟨rfl, fun _ _ => ⟨rfl, rfl⟩⟩
  | error err =>
      cases err with
      | dependencyUnavailable service => exact ⟨rfl, fun _ _ => ⟨rfl, rfl⟩⟩
      | _ => exact ⟨rfl, rfl⟩

/-- The stage of a call that has just put its key into the lock. -/
def Stage.ofLocked (setting : ValidatorSetting) (cType : ContentType) : Stage :=
  if (setting.contentApis cType.asStr).isSome then .checking
  else .leaving (.error (.unknownContentType cType.name))

theorem callContentApi_flies :
    Flies setting (fun flight result => flight = ⟨cType, cId, .ofOutcome result⟩)
      (callContentApi setting cType cId) ⟨cType, cId, .ofLocked setting cType⟩ := by
  unfold callContentApi Stage.ofLocked
  cases configured : setting.contentApis cType.asStr with
  | none => exact rfl
  | some baseUrl =>
      have url : contentUrl setting cType cId =
          some (baseUrl ++ "/v1/" ++ cType.asStr ++ "/" ++ cId.uuid.text) := by
        rw [contentUrl, configured]
        rfl
      have ask : Flies setting (fun flight result => flight = ⟨cType, cId, .ofOutcome result⟩)
          (do
            let response ← perform
              (.getContent (baseUrl ++ "/v1/" ++ cType.asStr ++ "/" ++ cId.uuid.text))
            recordOutcome (contentVerdict (contentService setting cType) cType cId response))
          ⟨cType, cId, .asking⟩ := by
        refine ⟨?_, fun reply _ => ?_⟩
        · rw [Permitted, nextOp, url]
          rfl
        · apply (recordOutcome_flies _).weaken
          rintro flight outcome ⟨rfl, rfl⟩
          rfl
      refine ⟨rfl, fun state _ => ?_⟩
      cases state with
      | opened => exact rfl
      | closed => exact ask
      | halfOpen => exact ask

theorem cacheVerdict_flies (result : Except DomainError Uuid) :
    Flies setting (fun flight _ => flight = ⟨cType, cId, .leaving result⟩)
      (cacheVerdict setting (contentKey cType cId) result)
      ⟨cType, cId, .ofOutcome result⟩ := by
  cases result with
  | ok uuid => exact ⟨rfl, fun _ _ => rfl⟩
  | error err =>
      cases err with
      | contentNotFound contentType contentId => exact ⟨rfl, fun _ _ => rfl⟩
      | _ => exact rfl

theorem fetchContent_flies :
    Flies setting (fun flight result => flight = ⟨cType, cId, .returned result⟩)
      (fetchContent setting cType cId) ⟨cType, cId, .ofLocked setting cType⟩ := by
  apply callContentApi_flies.bind
  rintro _ result rfl
  apply (cacheVerdict_flies result).bind
  rintro _ _ rfl
  exact ⟨rfl, fun _ _ => rfl⟩

theorem validateContent_flies :
    Flies setting (fun flight outcome => flight = ⟨cType, cId, match outcome with
        | none => .reading
        | some result => .returned result⟩)
      (HttpExternalValidator.validateContent setting cType cId) ⟨cType, cId, .reading⟩ := by
  apply getCachedValidation_flies.bind
  rintro _ verdict rfl
  rcases verdict with _ | (uuid | _)
  · refine ⟨rfl, fun inserted _ => ?_⟩
    cases inserted with
    | true =>
        apply fetchContent_flies.bind
        rintro _ result rfl
        rfl
    | false => exact ⟨rfl, fun _ _ => rfl⟩
  · exact rfl
  · exact rfl

/-- A call of `validate_content` goes through its stages. -/
theorem body_flies {call : ValidatorCall} (isContent : call.IsContent) :
    Flies setting Final (call.body setting) (initial call) := by
  obtain ⟨cType, cId, rfl⟩ := isContent
  apply validateContent_flies.bind
  rintro _ outcome rfl
  cases outcome with
  | none => exact ⟨rfl, rfl⟩
  | some result => exact ⟨result, rfl, rfl⟩

/-- A tail call starts a content call again. -/
theorem Flight.Final.tail {flight : Flight} {target : ValidatorCall}
    (final : flight.Final (.inl target)) : target.IsContent ∧ flight = initial target := by
  obtain ⟨cType, cId, stage⟩ := flight
  obtain ⟨reading, rfl⟩ := final
  obtain rfl : stage = .reading := reading
  exact ⟨⟨cType, cId, rfl⟩, rfl⟩

end Flies

/-! ### The lock -/

/-- The key that a call has put into the lock and not yet removed. -/
def Flight.owns (flight : Flight) : Option String :=
  match flight.stage with
  | .checking | .asking | .recording _ | .storing _ | .leaving _ => some flight.key
  | .reading | .missed | .waiting | .returned _ => none

theorem Flight.key_of_owns {flight : Flight} {key : String} (owning : flight.owns = some key) :
    key = flight.key := by
  obtain ⟨cType, cId, stage⟩ := flight
  cases stage with
  | reading | missed | waiting | returned result => cases owning
  | _ => exact (Option.some.inj owning).symm

theorem Flight.owns_ofResult (cType : ContentType) (cId : ContentId)
    (result : Except DomainError Uuid) :
    (Flight.mk cType cId (.ofResult result)).owns = some (contentKey cType cId) := by
  cases result with
  | ok uuid => rfl
  | error err => cases err <;> rfl

/-- The lock is moved by the insert of a call that has missed and by the remove of one that
leaves. -/
theorem Flight.lockMove {setting : ValidatorSetting} {flight : Flight} {op : ValidatorOp}
    {env : ValidatorEnv} {state after : ValidatorState} {answer : op.Res}
    {spawned : List ValidatorCall} (permitted : flight.Permitted setting op)
    (handled : ValidatorState.handle env op state = some (answer, after, spawned)) :
    spawned = [] ∧
      LockMove flight.owns (flight.advance setting op answer).owns state.singleFlightLock
        after.singleFlightLock := by
  obtain ⟨started, lock⟩ := ValidatorState.handle_lock handled
  refine ⟨started, ?_⟩
  rw [lock]
  obtain ⟨cType, cId, stage⟩ := flight
  cases stage with
  | reading =>
      obtain rfl := Option.some.inj permitted
      simp only [Flight.advance, Flight.nextStage]
      cases answeredVerdict setting answer <;> exact .keep
  | missed =>
      obtain rfl := Option.some.inj permitted
      have inserted := ValidatorState.handle_insert handled
      simp only [Flight.advance, Flight.nextStage]
      cases taken : state.singleFlightLock (contentKey cType cId) with
      | true =>
          rw [Flight.key, taken] at inserted
          subst inserted
          have same : Function.update state.singleFlightLock (contentKey cType cId) true =
              state.singleFlightLock := by
            rw [← taken]
            exact Function.update_eq_self _ _
          rw [ValidatorState.lockAfter, Flight.key, same]
          exact .keep
      | false =>
          rw [Flight.key, taken] at inserted
          subst inserted
          have owns : (Flight.mk cType cId (if (setting.contentApis cType.asStr).isSome then
              .checking else .leaving (.error (.unknownContentType cType.name)))).owns =
              some (contentKey cType cId) := by
            split <;> rfl
          rw [Bool.not_false, if_pos rfl, owns]
          exact .acquire taken
  | waiting =>
      obtain rfl := Option.some.inj permitted
      exact .keep
  | checking =>
      obtain rfl := Option.some.inj permitted
      simp only [Flight.advance, Flight.nextStage]
      split <;> exact .keep
  | asking =>
      obtain ⟨url, _, rfl⟩ := Option.map_eq_some_iff.mp permitted
      simp only [Flight.advance, Flight.nextStage, Flight.owns_ofResult]
      exact .keep
  | recording result =>
      cases result with
      | ok uuid =>
          obtain rfl := Option.some.inj permitted
          exact .keep
      | error err =>
          obtain rfl := Option.some.inj permitted
          exact .keep
  | storing result =>
      obtain rfl := Option.some.inj permitted
      exact .keep
  | leaving result =>
      obtain rfl := Option.some.inj permitted
      exact .release
  | returned result => cases permitted

/-! ### Verdicts -/

/-- The API knows of the content: it is there, in a body that can be read, or it is not. -/
def HttpReply.Decides : HttpReply ContentDto → Prop
  | .unreachable => False
  | .answered status body => (isSuccess status = true ∧ body.isSome = true) ∨ status = 404

instance : (reply : HttpReply ContentDto) → Decidable reply.Decides
  | .unreachable => .isFalse id
  | .answered status body =>
      inferInstanceAs (Decidable ((isSuccess status = true ∧ body.isSome = true) ∨ status = 404))

/-- The results that are kept as verdicts. -/
inductive Verdict (cType : ContentType) (cId : ContentId) : Except DomainError Uuid → Prop
  where
  | valid (uuid : Uuid) : Verdict cType cId (.ok uuid)
  | notFound : Verdict cType cId (.error (.contentNotFound cType.name cId.uuid.text))

section Verdicts

variable {cType : ContentType} {cId : ContentId} {result : Except DomainError Uuid}

theorem HttpReply.Decides.verdict {reply : HttpReply ContentDto} (decides : reply.Decides)
    (serviceName : String) (cType : ContentType) (cId : ContentId) :
    Verdict cType cId (contentVerdict serviceName cType cId reply) := by
  cases reply with
  | unreachable => exact decides.elim
  | answered status body =>
      rcases decides with ⟨success, present⟩ | rfl
      · obtain ⟨content, rfl⟩ := Option.isSome_iff_exists.mp present
        simp only [contentVerdict, success, if_true]
        exact .valid content.id
      · exact .notFound

/-- What is read for a kept verdict is the verdict. -/
theorem Verdict.read (verdict : Verdict cType cId result) :
    readVerdict cType cId (keptVerdict result).1 = result := by
  cases verdict with
  | valid uuid => rfl
  | notFound => rfl

/-- Where Redis holds a verdict or nothing, this is what a call reads, unless Redis fails. -/
theorem answeredVerdict_getString {setting : ValidatorSetting} {fault : Option Fault}
    {key : String} {store : Redis} {kept : Option ValidationResult}
    (holds : (store key).map RedisEntry.value =
      kept.map fun verdict => .text (setting.verdictJson.toText verdict)) :
    answeredVerdict setting (RedisLikeRepository.getString fault key store) =
      if fault.isNone then kept else none := by
  cases fault with
  | some failure => rfl
  | none =>
      cases found : store key with
      | none =>
          rw [found] at holds
          cases kept with
          | none => simp [RedisLikeRepository.getString, found, answeredVerdict]
          | some verdict => cases holds
      | some entry =>
          obtain ⟨value, deadline⟩ := entry
          rw [found] at holds
          cases kept with
          | none => cases holds
          | some verdict =>
              obtain rfl : value = .text (setting.verdictJson.toText verdict) :=
                Option.some.inj holds
              simp [RedisLikeRepository.getString, found, answeredVerdict,
                setting.verdictJson.readBack]

end Verdicts

end SocialApi
