/-
Module: SocialApi.Proofs.NegativeCaching
Purpose: How long a 404 of an external API stands for later calls about the same token or
  the same content, in a run of validations that follow one another.
Trusted boundary: none
Main exports:
  Subject, Validated, OneAfterAnother, CachesNotFound, Inquiry, Inquired,
  Validated.inquired, negative_caching_iff
-/
import SocialApi.Proofs.ContentFlights

namespace SocialApi

open Process
open HttpExternalValidator

/-! ### Validations that follow one another -/

/-- What a validation is about. -/
inductive Subject where
  | user (token : UserId)
  | content (cType : ContentType) (cId : ContentId)
deriving DecidableEq

namespace Subject

def call : Subject → ValidatorCall
  | .user token => .validateUser token
  | .content cType cId => .validateContent cType cId

/-- The key of its verdict. -/
def key : Subject → String
  | .user token => userKey token
  | .content cType cId => contentKey cType cId

/-- Verdicts about two subjects are kept under two keys. -/
theorem key_inj {a b : Subject} (same : a.key = b.key) : a = b := by
  cases a with
  | user token =>
      cases b with
      | user other => rw [userKey_inj same]
      | content cType cId => exact absurd same.symm (contentKey_ne_userKey _ _ _)
  | content cType cId =>
      cases b with
      | user token => exact absurd same (contentKey_ne_userKey _ _ _)
      | content otherType otherId =>
          obtain ⟨rfl, rfl⟩ := ContentId.key_inj "val:content:" same
          rfl

end Subject

/-- A step of a validation that runs alone. -/
abbrev ValidatorMoment :=
  Program.Moment ValidatorOp ValidatorOp.Res ValidatorState ValidatorEnv

/-- When a step is taken. -/
def instantOf (moment : ValidatorMoment) : Int := (moment.state.advance moment.env).clock

/-- The step is an HTTP request. -/
def asksApi : ValidatorOp → Bool
  | .getProfile _ _ | .getContent _ => true
  | _ => false

/-- The step is an HTTP request that is answered 404. -/
def rejects : (op : ValidatorOp) → op.Res → Bool
  | .getProfile _ _, .answered status _ | .getContent _, .answered status _ => status = 404
  | _, _ => false

/-- The steps that follow a reply: its outcome is recorded, the verdict written, the lock
left. -/
def followsReply : ValidatorOp → Bool
  | .reset | .recordFailure | .setString _ _ _ | .singleFlightRemove _ => true
  | _ => false

/-- Redis is up and loses a key when it is due, the breaker is not open, and nothing that
follows a reply takes time. -/
structure Calm (moment : ValidatorMoment) : Prop where
  up : moment.env.fault = none
  due : ∀ key ∈ moment.env.expired, ∀ entry, moment.state.redis key = some entry →
    ∃ deadline ≤ instantOf moment, entry.deadline = some deadline
  passes : moment.op = .checkState →
    moment.state.breaker.finalState moment.env.now ≠ .opened
  prompt : followsReply moment.op = true → moment.env.elapse = 0

/-- A validation with the states it finds and leaves. -/
structure Validated where
  subject : Subject
  environment : Nat → ValidatorEnv
  before : ValidatorState
  reply : ValidatorReply
  after : ValidatorState

section History

variable (setting : ValidatorSetting)

def Validated.moments (validated : Validated) : List ValidatorMoment :=
  (validated.subject.call.body setting).moments ValidatorState.handle validated.environment
    validated.before

structure Validated.Ran (validated : Validated) : Prop where
  replies : (validated.subject.call.body setting).run ValidatorState.handle
    validated.environment validated.before = some (.inr validated.reply, validated.after, [])
  calm : ∀ moment ∈ validated.moments setting, Calm moment

/-- Each validation finds what the one before it left; what time there is between two of them
passes before the first step of the second. -/
def OneAfterAnother : ValidatorState → List Validated → Prop
  | _, [] => True
  | state, one :: rest =>
      one.before = state ∧ one.Ran setting ∧ OneAfterAnother one.after rest

/-- The API is asked at the instant. -/
def Validated.AsksAt (validated : Validated) (instant : Int) : Prop :=
  ∃ moment ∈ validated.moments setting,
    asksApi moment.op = true ∧ instantOf moment = instant

/-- The API answers 404 at the instant. -/
def Validated.RejectedAt (validated : Validated) (instant : Int) : Prop :=
  ∃ moment ∈ validated.moments setting,
    rejects moment.op moment.answer = true ∧ instantOf moment = instant

/-- The error of a reply. -/
def ValidatorReply.error? : ValidatorReply → Option DomainError
  | .validateUser (.error e) | .validateContent (.error e) | .authMiddleware (.error e) => some e
  | _ => none

/-- Two replies are errors of one kind. -/
def SameKind (one two : ValidatorReply) : Prop :=
  ∃ first second, one.error? = some first ∧ two.error? = some second ∧
    first.ctorIdx = second.ctorIdx

/-- For 300 seconds after a 404, the second validation does not ask about the same subject
again, and it returns the same kind of error if it comes back by then. -/
def KeepsRejection (one two : Validated) : Prop :=
  ∀ instant, one.RejectedAt setting instant → two.subject = one.subject →
    (∀ asked, two.AsksAt setting asked → instant + 300 ≤ asked) ∧
      (two.after.clock < instant + 300 → SameKind one.reply two.reply)

/-- Definite rejections are cached: neither the validation that was answered 404 nor any later
one asks again too soon. -/
structure CachesNotFound (history : List Validated) : Prop where
  once : ∀ one ∈ history, (one.moments setting).Pairwise fun moment later =>
    rejects moment.op moment.answer = true → asksApi later.op = false
  keeps : history.Pairwise (KeepsRejection setting)

/-- The second validation is not about a token that was answered 404 less than 300 seconds
before it comes back. -/
def TokenNotSoon (one two : Validated) : Prop :=
  ∀ token instant, one.subject = .user token → two.subject = .user token →
    one.RejectedAt setting instant → instant + 300 ≤ two.after.clock

end History

/-! ### What stays in Redis -/

/-- What was found under a key is still there, or it was due by then. -/
def KeptUntil (clock : Int) (found left : Option RedisEntry) : Prop :=
  left = found ∨
    left = none ∧ ∃ entry deadline, found = some entry ∧ entry.deadline = some deadline ∧
      deadline ≤ clock

section Kept

variable {clock later : Int} {found middle left : Option RedisEntry}

theorem KeptUntil.refl : KeptUntil clock found found := .inl rfl

theorem KeptUntil.trans (first : KeptUntil clock found middle)
    (second : KeptUntil later middle left) (forward : clock ≤ later) :
    KeptUntil later found left := by
  rcases first with rfl | ⟨rfl, entry, deadline, present, due, past⟩
  · exact second
  · rcases second with rfl | ⟨_, _, _, absent, _⟩
    · exact .inr ⟨rfl, entry, deadline, present, due, past.trans forward⟩
    · cases absent

/-- What is not due is still there. -/
theorem KeptUntil.not_due {value : RedisValue} {deadline : Int}
    (kept : KeptUntil clock (some ⟨value, some deadline⟩) left) (early : clock < deadline) :
    left = some ⟨value, some deadline⟩ := by
  rcases kept with same | ⟨_, _, _, ⟨rfl⟩, ⟨rfl⟩, past⟩
  · exact same
  · exact absurd past (not_le.mpr early)

end Kept

/-- The verdict that a read of the entry gives. -/
def verdictOf (setting : ValidatorSetting) (entry : Option RedisEntry) :
    Option ValidationResult :=
  answeredVerdict setting (RedisLikeRepository.getString none "" fun _ => entry)

/-- The verdict lets a user pass. -/
def vouches : Option ValidationResult → Bool
  | some (.valid _) => true
  | _ => false

theorem verdictOf_getString (setting : ValidatorSetting) (key : String) (store : Redis) :
    answeredVerdict setting (RedisLikeRepository.getString none key store) =
      verdictOf setting (store key) := by
  unfold verdictOf RedisLikeRepository.getString
  cases store key with
  | none => rfl
  | some entry =>
      obtain ⟨value, deadline⟩ := entry
      cases value <;> rfl

/-- What is not there vouches for nobody. -/
theorem KeptUntil.vouches {setting : ValidatorSetting} {clock : Int}
    {found left : Option RedisEntry} (kept : KeptUntil clock found left)
    (none_vouched : vouches (verdictOf setting found) = false) :
    vouches (verdictOf setting left) = false := by
  rcases kept with rfl | ⟨rfl, _⟩
  · exact none_vouched
  · rfl

/-! ### How a validation goes -/

/-- How far a validation is: the verdict it has read, whether the API has been asked and has
answered 404, whether a verdict has been written, and whether the lock is held. -/
structure Inquiry where
  cached : Option (Option ValidationResult)
  answered : Option Bool
  stored : Bool
  holds : Bool

namespace Inquiry

def start : Inquiry := ⟨none, none, false, false⟩

variable (setting : ValidatorSetting)

def advance (inquiry : Inquiry) : (op : ValidatorOp) → op.Res → Inquiry
  | .getString _, read => { inquiry with cached := some (answeredVerdict setting read) }
  | .getProfile url token, reply =>
      { inquiry with answered := some (rejects (.getProfile url token) reply) }
  | .getContent url, reply =>
      { inquiry with answered := some (rejects (.getContent url) reply) }
  | .setString _ _ _, _ => { inquiry with stored := true }
  | .singleFlightInsert _, _ => { inquiry with holds := true }
  | .singleFlightRemove _, _ => { inquiry with holds := false }
  | _, _ => inquiry

/-- What a validation may do next.  After a 404 it writes that verdict, for 300 seconds, or
nothing. -/
def Permitted (subject : Subject) (inquiry : Inquiry) : ValidatorOp → Prop
  | .getString key => key = subject.key ∧ inquiry.cached = none ∧ inquiry.answered = none
  | .checkState => inquiry.answered = none
  | .getProfile _ _ | .getContent _ => inquiry.answered = none ∧ inquiry.stored = false
  | .reset | .recordFailure => True
  | .setString key value ttl =>
      key = subject.key ∧ inquiry.cached ≠ none ∧
        (inquiry.answered = some true →
          value = setting.verdictJson.toText .notFound ∧ ttl = 300)
  | .singleFlightInsert key =>
      key = subject.key ∧ inquiry.answered = none ∧ inquiry.holds = false
  | .singleFlightRemove key => key = subject.key ∧ inquiry.holds = true
  | .sleep _ | .nextRun _ => False

/-- The breaker lets every call through, and the lock is free. -/
def Possible (_ : Inquiry) : (op : ValidatorOp) → op.Res → Prop
  | .checkState, verdict => verdict ≠ .opened
  | .singleFlightInsert _, inserted => inserted = true
  | _, _ => True

/-- A token that no verdict vouches for is asked about, and its 404 is not written.  A content
is asked about only where no verdict is read, and its 404 is written. -/
def Final (inquiry : Inquiry) : Subject → ValidatorCall ⊕ ValidatorReply → Prop
  | .user _, _ => ∃ verdict, inquiry.cached = some verdict ∧ inquiry.holds = false ∧
      (vouches verdict = false ↔ inquiry.answered ≠ none) ∧
      (inquiry.answered = some true → inquiry.stored = false)
  | .content _ _, outcome => ∃ verdict, inquiry.cached = some verdict ∧
      inquiry.holds = false ∧ (inquiry.answered ≠ none → verdict = none) ∧
      (inquiry.answered = none → inquiry.stored = false) ∧
      (inquiry.answered = some true → inquiry.stored = true) ∧
      (inquiry.answered = some true ∨ verdict = some .notFound →
        ∃ contentType contentId,
          outcome = .inr (.validateContent (.error (.contentNotFound contentType contentId))))

end Inquiry

/-- The result is what a 404 is made of. -/
def isRejection : Except DomainError Uuid → Bool
  | .error (.dependencyNotFound _) | .error (.contentNotFound _ _) => true
  | _ => false

section Obeys

variable {setting : ValidatorSetting} {subject : Subject} {inquiry : Inquiry}

theorem not_404_of_isSuccess {status : Nat} (success : isSuccess status = true) :
    status ≠ 404 := by
  rintro rfl
  cases success

theorem profileVerdict_rejection (url : String) (token : UserId) (reply : HttpReply UserDto) :
    isRejection (profileVerdict reply) = rejects (.getProfile url token) reply := by
  cases reply with
  | unreachable => rfl
  | answered status body =>
      simp only [profileVerdict, rejects]
      split
      · next success =>
          rw [decide_eq_false (not_404_of_isSuccess success)]
          cases body <;> rfl
      · split
        · next is => rw [decide_eq_true is]; rfl
        · next is_not => rw [decide_eq_false is_not]; rfl

theorem contentVerdict_rejection (url serviceName : String) (cType : ContentType)
    (cId : ContentId) (reply : HttpReply ContentDto) :
    isRejection (contentVerdict serviceName cType cId reply) =
      rejects (.getContent url) reply := by
  cases reply with
  | unreachable => rfl
  | answered status body =>
      simp only [contentVerdict, rejects]
      split
      · next success =>
          rw [decide_eq_false (not_404_of_isSuccess success)]
          cases body <;> rfl
      · split
        · next is => rw [decide_eq_true is]; rfl
        · next is_not => rw [decide_eq_false is_not]; rfl

theorem getCachedValidation_inquires (subject : Subject) :
    Program.Obeys (Inquiry.advance setting) (Inquiry.Permitted setting subject)
      Inquiry.Possible
      (fun reached verdict => reached = { Inquiry.start with cached := some verdict })
      (getCachedValidation setting subject.key) .start := by
  refine ⟨⟨rfl, rfl, rfl⟩, ?_⟩
  intro read _
  cases read with
  | error e => rfl
  | ok found =>
      cases found with
      | none => rfl
      | some text => rfl

/-- The end of a call of the breaker leaves the inquiry as it is. -/
theorem recordOutcome_inquires (result : Except DomainError Uuid) :
    Program.Obeys (Inquiry.advance setting) (Inquiry.Permitted setting subject)
      Inquiry.Possible (fun reached value => reached = inquiry ∧ value = result)
      (recordOutcome result) inquiry := by
  cases result with
  | ok data => exact ⟨trivial, fun _ _ => ⟨rfl, rfl⟩⟩
  | error e =>
      cases e with
      | dependencyUnavailable service => exact ⟨trivial, fun _ _ => ⟨rfl, rfl⟩⟩
      | _ => exact ⟨rfl, rfl⟩

/-- What the API has been asked and what is made of its answer agree. -/
def Inquiry.Told (inquiry reached : Inquiry) (result : Except DomainError Uuid) : Prop :=
  reached = { inquiry with answered := some (isRejection result) }

theorem call_inquires {f : Validator (Except DomainError Uuid)}
    {told : Inquiry → Except DomainError Uuid → Prop} (unanswered : inquiry.answered = none)
    (asked : f.Obeys (Inquiry.advance setting) (Inquiry.Permitted setting subject)
      Inquiry.Possible told inquiry) :
    (HttpExternalValidator.call f).Obeys (Inquiry.advance setting)
      (Inquiry.Permitted setting subject) Inquiry.Possible told inquiry := by
  refine ⟨unanswered, ?_⟩
  intro verdict passes
  have goes : Program.Obeys (Inquiry.advance setting) (Inquiry.Permitted setting subject)
      Inquiry.Possible told (f >>= recordOutcome) inquiry := by
    apply asked.bind
    intro reached result tells
    apply (recordOutcome_inquires result).weaken
    rintro _ _ ⟨rfl, rfl⟩
    exact tells
  cases verdict with
  | opened => exact absurd rfl passes
  | closed => exact goes
  | halfOpen => exact goes

theorem callProfileApi_inquires {token : UserId} (unanswered : inquiry.answered = none)
    (unstored : inquiry.stored = false) :
    (callProfileApi setting token).Obeys (Inquiry.advance setting)
      (Inquiry.Permitted setting subject) Inquiry.Possible inquiry.Told inquiry := by
  apply call_inquires unanswered
  refine ⟨⟨unanswered, unstored⟩, ?_⟩
  intro reply _
  show _ = _
  rw [profileVerdict_rejection]
  rfl

/-- A content of an unknown type is not asked about, and a 404 says that there is no such
content. -/
def Inquiry.ToldOfContent (inquiry reached : Inquiry) (result : Except DomainError Uuid) :
    Prop :=
  (inquiry.Told reached result ∧ ∀ service, result ≠ .error (.dependencyNotFound service)) ∨
    (reached = inquiry ∧ ∃ name, result = .error (.unknownContentType name))

theorem contentVerdict_ne_dependencyNotFound (serviceName service : String)
    (cType : ContentType) (cId : ContentId) (reply : HttpReply ContentDto) :
    contentVerdict serviceName cType cId reply ≠ .error (.dependencyNotFound service) := by
  cases reply with
  | unreachable => simp [contentVerdict]
  | answered status body =>
      simp only [contentVerdict]
      split
      · cases body <;> simp
      · split <;> simp

theorem callContentApi_inquires {cType : ContentType} {cId : ContentId}
    (unanswered : inquiry.answered = none) (unstored : inquiry.stored = false) :
    (callContentApi setting cType cId).Obeys (Inquiry.advance setting)
      (Inquiry.Permitted setting subject) Inquiry.Possible inquiry.ToldOfContent inquiry := by
  unfold callContentApi
  cases setting.contentApis cType.asStr with
  | none => exact .inr ⟨rfl, _, rfl⟩
  | some baseUrl =>
      apply call_inquires unanswered
      refine ⟨⟨unanswered, unstored⟩, ?_⟩
      intro reply _
      refine .inl ⟨?_, fun service => contentVerdict_ne_dependencyNotFound _ _ _ _ _⟩
      show _ = _
      rw [contentVerdict_rejection]
      rfl

theorem validateUser_inquires (token : UserId) :
    ((Subject.user token).call.body setting).Obeys (Inquiry.advance setting)
      (Inquiry.Permitted setting (.user token)) Inquiry.Possible
      (fun reached outcome => reached.Final (.user token) outcome) .start := by
  have fetches : ∀ verdict, vouches verdict = false →
      (fetchUser setting token).Obeys (Inquiry.advance setting)
        (Inquiry.Permitted setting (.user token)) Inquiry.Possible
        (fun reached _ => ∀ outcome, reached.Final (.user token) outcome)
        { Inquiry.start with cached := some verdict } := by
    intro verdict no_pass
    apply (callProfileApi_inquires rfl rfl).bind
    rintro _ result rfl
    cases result with
    | ok userId =>
        refine ⟨⟨rfl, by simp, by simp [isRejection]⟩, fun _ _ _ => ?_⟩
        exact ⟨verdict, rfl, rfl, by simp [Inquiry.advance, no_pass], by simp [Inquiry.advance,
          isRejection]⟩
    | error e =>
        intro outcome
        exact ⟨verdict, rfl, rfl, by simp [no_pass], fun _ => rfl⟩
  have validates : (validateUser setting token).Obeys (Inquiry.advance setting)
      (Inquiry.Permitted setting (.user token)) Inquiry.Possible
      (fun reached _ => ∀ outcome, reached.Final (.user token) outcome) .start := by
    apply (getCachedValidation_inquires (.user token)).bind
    rintro _ verdict rfl
    cases verdict with
    | none => exact fetches none rfl
    | some kept =>
        cases kept with
        | notFound => exact fetches (some .notFound) rfl
        | valid userId =>
            intro outcome
            exact ⟨_, rfl, rfl, by simp [vouches, Inquiry.start], by simp [Inquiry.start]⟩
  apply validates.bind
  intro reached result final
  exact final (.inr (.validateUser result))

theorem validateContent_inquires (cType : ContentType) (cId : ContentId) :
    ((Subject.content cType cId).call.body setting).Obeys (Inquiry.advance setting)
      (Inquiry.Permitted setting (.content cType cId)) Inquiry.Possible
      (fun reached outcome => reached.Final (.content cType cId) outcome) .start := by
  have fetches : (fetchContent setting cType cId).Obeys (Inquiry.advance setting)
      (Inquiry.Permitted setting (.content cType cId)) Inquiry.Possible
      (fun reached result =>
        reached.Final (.content cType cId) (.inr (.validateContent result)))
      { Inquiry.start with cached := some none, holds := true } := by
    apply (callContentApi_inquires rfl rfl).bind
    rintro reached result (⟨rfl, content⟩ | ⟨rfl, name, rfl⟩)
    · cases result with
      | ok uuid =>
          refine ⟨⟨rfl, by simp, by simp [isRejection]⟩,
            fun _ _ => ⟨⟨rfl, rfl⟩, fun _ _ => ?_⟩⟩
          exact ⟨none, rfl, rfl, fun _ => rfl, by simp [Inquiry.advance],
            by simp [Inquiry.advance], by simp [Inquiry.advance, isRejection]⟩
      | error e =>
          cases e with
          | contentNotFound contentType contentId =>
              refine ⟨⟨rfl, by simp, fun _ => ⟨rfl, rfl⟩⟩,
                fun _ _ => ⟨⟨rfl, rfl⟩, fun _ _ => ?_⟩⟩
              exact ⟨none, rfl, rfl, fun _ => rfl, by simp [Inquiry.advance], fun _ => rfl,
                fun _ => ⟨contentType, contentId, rfl⟩⟩
          | dependencyNotFound service => exact absurd rfl (content service)
          | _ =>
              refine ⟨⟨rfl, rfl⟩, fun _ _ => ?_⟩
              exact ⟨none, rfl, rfl, fun _ => rfl, fun _ => rfl,
                by simp [Inquiry.advance, isRejection], by simp [Inquiry.advance, isRejection]⟩
    · refine ⟨⟨rfl, rfl⟩, fun _ _ => ?_⟩
      exact ⟨none, rfl, rfl, fun _ => rfl, fun _ => rfl, by simp [Inquiry.advance, Inquiry.start],
        by simp [Inquiry.advance, Inquiry.start]⟩
  have validates : (validateContent setting cType cId).Obeys (Inquiry.advance setting)
      (Inquiry.Permitted setting (.content cType cId)) Inquiry.Possible
      (fun reached value => ∃ result, value = some result ∧
        reached.Final (.content cType cId) (.inr (.validateContent result))) .start := by
    apply (getCachedValidation_inquires (.content cType cId)).bind
    rintro _ verdict rfl
    cases verdict with
    | none =>
        refine ⟨⟨rfl, rfl, rfl⟩, ?_⟩
        rintro _ rfl
        apply fetches.bind
        intro reached result final
        exact ⟨result, rfl, final⟩
    | some kept =>
        cases kept with
        | valid uuid =>
            exact ⟨_, rfl, _, rfl, rfl, by simp [Inquiry.start], fun _ => rfl,
              by simp [Inquiry.start], by simp [Inquiry.start]⟩
        | notFound =>
            exact ⟨_, rfl, _, rfl, rfl, by simp [Inquiry.start], fun _ => rfl,
              by simp [Inquiry.start], fun _ => ⟨_, _, rfl⟩⟩
  apply validates.bind
  rintro reached _ ⟨result, rfl, final⟩
  exact final

end Obeys

/-! ### One step of a validation -/

section Step

variable {setting : ValidatorSetting} {subject : Subject} {inquiry : Inquiry}
  {before : List ValidatorMoment} {moment : ValidatorMoment}

theorem asksApi_of_rejects {op : ValidatorOp} {answer : op.Res}
    (rejected : rejects op answer = true) : asksApi op = true := by
  cases op <;> first | rfl | cases rejected

theorem Inquiry.advance_answered (setting : ValidatorSetting) (inquiry : Inquiry)
    (op : ValidatorOp) (answer : op.Res) : (inquiry.advance setting op answer).answered =
      if asksApi op = true then some (rejects op answer) else inquiry.answered := by
  cases op <;> rfl

theorem Inquiry.Permitted.unanswered {op : ValidatorOp} (asks : asksApi op = true)
    (permitted : inquiry.Permitted setting subject op) : inquiry.answered = none := by
  cases op <;> first | exact permitted.1 | cases asks

/-- No time passes any more once the API has been asked. -/
theorem Inquiry.Permitted.still (permitted : inquiry.Permitted setting subject moment.op)
    (calm : Calm moment) : inquiry.answered = none ∨ moment.env.elapse = 0 := by
  obtain ⟨env, op, answer, state⟩ := moment
  cases op with
  | getString key => exact .inl permitted.2.2
  | checkState => exact .inl permitted
  | getProfile url token => exact .inl permitted.1
  | getContent url => exact .inl permitted.1
  | singleFlightInsert key => exact .inl permitted.2.1
  | sleep milliseconds => exact permitted.elim
  | nextRun userId => exact permitted.elim
  | reset => exact .inr (calm.prompt rfl)
  | recordFailure => exact .inr (calm.prompt rfl)
  | setString key value ttl => exact .inr (calm.prompt rfl)
  | singleFlightRemove key => exact .inr (calm.prompt rfl)

/-- What the steps so far have asked of the API, and when. -/
structure Recorded (inquiry : Inquiry) (before : List ValidatorMoment) (clock : Int) :
    Prop where
  asked : (∃ moment ∈ before, asksApi moment.op = true) ↔ inquiry.answered ≠ none
  rejected : (∃ moment ∈ before, rejects moment.op moment.answer = true) ↔
    inquiry.answered = some true
  frozen : ∀ moment ∈ before, asksApi moment.op = true → instantOf moment = clock
  once : before.Pairwise fun moment later =>
    rejects moment.op moment.answer = true → asksApi later.op = false

theorem Recorded.step (recorded : Recorded inquiry before moment.state.clock)
    (permitted : inquiry.Permitted setting subject moment.op) (calm : Calm moment) :
    Recorded (inquiry.advance setting moment.op moment.answer) (before ++ [moment])
      (instantOf moment) := by
  have answered := Inquiry.advance_answered setting inquiry moment.op moment.answer
  by_cases asks : asksApi moment.op = true
  · have first : ∀ earlier ∈ before, asksApi earlier.op = false := by
      intro earlier member
      by_contra also
      exact recorded.asked.mp ⟨earlier, member, by simpa using also⟩ (permitted.unanswered asks)
    rw [if_pos asks] at answered
    constructor
    · rw [answered]
      simp [asks]
    · rw [answered]
      constructor
      · rintro ⟨one, member, rejected⟩
        rcases List.mem_append.mp member with earlier | own
        · have none_asked := first one earlier
          rw [asksApi_of_rejects rejected] at none_asked
          cases none_asked
        · rw [List.mem_singleton.mp own] at rejected
          rw [rejected]
      · intro rejected
        exact ⟨moment, by simp, by simpa using rejected⟩
    · intro one member also
      rcases List.mem_append.mp member with earlier | own
      · rw [first one earlier] at also
        cases also
      · rw [List.mem_singleton.mp own]
    · refine List.pairwise_append.mpr ⟨recorded.once, List.pairwise_singleton _ _, ?_⟩
      intro one member _ _ rejected
      have none_asked := first one member
      rw [asksApi_of_rejects rejected] at none_asked
      cases none_asked
  · have quiet : rejects moment.op moment.answer ≠ true :=
      fun also => asks (asksApi_of_rejects also)
    rw [if_neg asks] at answered
    constructor
    · rw [answered, ← recorded.asked]
      simp [asks]
    · rw [answered, ← recorded.rejected]
      simp [quiet]
    · intro one member also
      rcases List.mem_append.mp member with earlier | own
      · have same := recorded.frozen one earlier also
        rcases permitted.still calm with unanswered | still
        · exact absurd unanswered (recorded.asked.mp ⟨one, earlier, also⟩)
        · simp [instantOf, ValidatorState.advance, still] at same ⊢
          exact same
      · rw [List.mem_singleton.mp own] at also
        exact absurd also asks
    · refine List.pairwise_append.mpr ⟨recorded.once, List.pairwise_singleton _ _, ?_⟩
      intro one _ later own _
      rw [List.mem_singleton.mp own]
      simpa using asks

/-- What a validation has left of the state that it found. -/
structure Inquired (setting : ValidatorSetting) (subject : Subject) (found : ValidatorState)
    (inquiry : Inquiry) (state : ValidatorState) : Prop where
  forward : found.clock ≤ state.clock
  others : ∀ key, key ≠ subject.key →
    KeptUntil state.clock (found.redis key) (state.redis key)
  unread : inquiry.cached = none →
    KeptUntil state.clock (found.redis subject.key) (state.redis subject.key)
  read : ∀ verdict, inquiry.cached = some verdict → ∃ entry,
    KeptUntil state.clock (found.redis subject.key) entry ∧
      verdict = verdictOf setting entry ∧
      (inquiry.stored = false → KeptUntil state.clock entry (state.redis subject.key))
  written : inquiry.stored = true → inquiry.answered = some true →
    state.redis subject.key =
      some ⟨.text (setting.verdictJson.toText .notFound), some (state.clock + 300)⟩
  lock : ∀ key, state.singleFlightLock key = (inquiry.holds && decide (key = subject.key))

variable {found : ValidatorState}

/-- Time passes, and what is due may leave. -/
theorem Inquired.advance (inquired : Inquired setting subject found inquiry moment.state)
    (calm : Calm moment) (still : inquiry.answered = none ∨ moment.env.elapse = 0) :
    Inquired setting subject found inquiry (moment.state.advance moment.env) := by
  have forward : moment.state.clock ≤ (moment.state.advance moment.env).clock :=
    Int.le_add_of_nonneg_right (Int.natCast_nonneg _)
  have kept : ∀ key, KeptUntil (moment.state.advance moment.env).clock
      (moment.state.redis key) ((moment.state.advance moment.env).redis key) := by
    intro key
    by_cases expired : key ∈ moment.env.expired
    · have gone : (moment.state.advance moment.env).redis key = none :=
        Redis.drop_eq_none_iff.mpr (.inl expired)
      rw [gone]
      cases present : moment.state.redis key with
      | none => exact .refl
      | some entry =>
          obtain ⟨deadline, past, due⟩ := calm.due key expired entry present
          exact .inr ⟨rfl, entry, deadline, rfl, due, past⟩
    · exact .inl (ValidatorState.advance_redis expired)
  constructor
  · exact inquired.forward.trans forward
  · intro key other
    exact (inquired.others key other).trans (kept key) forward
  · intro unread
    exact (inquired.unread unread).trans (kept _) forward
  · intro verdict read
    obtain ⟨entry, was, is, left⟩ := inquired.read verdict read
    refine ⟨entry, was.trans .refl forward, is, fun unstored => ?_⟩
    exact (left unstored).trans (kept _) forward
  · intro stored rejected
    rcases still with unanswered | still
    · rw [unanswered] at rejected
      cases rejected
    · have same : (moment.state.advance moment.env).clock = moment.state.clock := by
        simp [ValidatorState.advance, still]
      have stays := kept subject.key
      rw [inquired.written stored rejected, same] at stays
      rw [same]
      exact stays.not_due (by omega)
  · exact inquired.lock

/-- To insert or remove the key of the validation leaves the other locks alone. -/
theorem Inquired.lock_update {state : ValidatorState}
    (inquired : Inquired setting subject found inquiry state) (taken : Bool) (key : String) :
    Function.update state.singleFlightLock subject.key taken key =
      (taken && decide (key = subject.key)) := by
  by_cases own : key = subject.key
  · subst own
    simp
  · rw [Function.update_of_ne own, inquired.lock key]
    simp [own]

/-- An answer of the API changes nothing that is stored. -/
theorem Inquired.told {state : ValidatorState}
    (inquired : Inquired setting subject found inquiry state)
    (unstored : inquiry.stored = false) (rejected : Option Bool) :
    Inquired setting subject found { inquiry with answered := rejected } state := by
  refine { inquired with written := ?_ }
  intro stored
  rw [show inquiry.stored = true from stored] at unstored
  cases unstored

/-- The verdict that is written is in the cache from then on, and no other key changes. -/
theorem Inquired.put {state : ValidatorState} {value : String} {ttl : Nat}
    (inquired : Inquired setting subject found inquiry state) (read : inquiry.cached ≠ none)
    (writes : inquiry.answered = some true →
      value = setting.verdictJson.toText .notFound ∧ ttl = 300) :
    Inquired setting subject found { inquiry with stored := true }
      { state with
        redis := state.redis.put subject.key ⟨.text value, some (state.clock + ttl)⟩ } := by
  refine ⟨inquired.forward, ?_, ?_, ?_, ?_, inquired.lock⟩
  · intro other elsewhere
    dsimp only
    rw [Redis.put_of_ne _ _ elsewhere]
    exact inquired.others other elsewhere
  · intro unread
    exact absurd unread read
  · intro verdict is
    obtain ⟨entry, was, same, _⟩ := inquired.read verdict is
    refine ⟨entry, was, same, fun unstored => ?_⟩
    cases unstored
  · intro _ rejected
    obtain ⟨rfl, rfl⟩ := writes rejected
    exact Redis.put_self _ _ _

/-- A step of a validation, from the state that the surroundings left. -/
theorem Inquired.serve {after : ValidatorState} {spawned : List ValidatorCall}
    (inquired : Inquired setting subject found inquiry (moment.state.advance moment.env))
    (permitted : inquiry.Permitted setting subject moment.op) (calm : Calm moment)
    (handled : ValidatorState.handle moment.env moment.op moment.state =
      some (moment.answer, after, spawned)) :
    Inquiry.Possible inquiry moment.op moment.answer ∧
      Inquired setting subject found (inquiry.advance setting moment.op moment.answer) after ∧
      after.clock = instantOf moment := by
  obtain ⟨env, op, answer, state⟩ := moment
  have up : env.fault = none := calm.up
  cases op with
  | getString key =>
      have reads : answer = _ := ValidatorState.handle_getString handled
      obtain ⟨_, rfl, _⟩ := by simpa [ValidatorState.handle, ValidatorState.serve] using handled
      obtain ⟨rfl, unread, _⟩ := permitted
      refine ⟨trivial, { inquired with unread := ?_, read := ?_ }, rfl⟩
      · intro absurd
        cases absurd
      · rintro _ ⟨rfl⟩
        refine ⟨_, inquired.unread unread, ?_, fun _ => .refl⟩
        rw [reads, up]
        exact verdictOf_getString _ _ _
  | setString key value ttl =>
      obtain ⟨_, rfl, _⟩ := by simpa [ValidatorState.handle, ValidatorState.serve] using handled
      obtain ⟨rfl, read, writes⟩ := permitted
      refine ⟨trivial, ?_, rfl⟩
      have stored := inquired.put read writes
      rw [up]
      exact stored
  | checkState =>
      have checked : answer = _ := ValidatorState.handle_checkState handled
      obtain ⟨_, rfl, _⟩ := by simpa [ValidatorState.handle, ValidatorState.serve] using handled
      refine ⟨?_, { inquired with }, rfl⟩
      show answer ≠ _
      rw [checked, CircuitBreaker.checkState_fst]
      exact calm.passes rfl
  | singleFlightInsert key =>
      have inserted : answer = _ := ValidatorState.handle_insert handled
      obtain ⟨_, rfl, _⟩ := by simpa [ValidatorState.handle, ValidatorState.serve] using handled
      obtain ⟨rfl, _, free⟩ := permitted
      refine ⟨?_, { inquired with lock := ?_ }, rfl⟩
      · show answer = true
        have unlocked := inquired.lock subject.key
        rw [free] at unlocked
        rw [inserted]
        simpa [ValidatorState.advance] using unlocked
      · exact inquired.lock_update true
  | singleFlightRemove key =>
      obtain ⟨rfl, _⟩ := by simpa [ValidatorState.handle, ValidatorState.serve] using handled
      obtain ⟨rfl, _⟩ := permitted
      exact ⟨trivial, { inquired with lock := inquired.lock_update false }, rfl⟩
  | getProfile url token =>
      obtain ⟨_, rfl, _⟩ := by simpa [ValidatorState.handle, ValidatorState.serve] using handled
      exact ⟨trivial, inquired.told permitted.2 _, rfl⟩
  | getContent url =>
      obtain ⟨_, rfl, _⟩ := by simpa [ValidatorState.handle, ValidatorState.serve] using handled
      exact ⟨trivial, inquired.told permitted.2 _, rfl⟩
  | reset | recordFailure =>
      obtain ⟨rfl, _⟩ := by simpa [ValidatorState.handle, ValidatorState.serve] using handled
      exact ⟨trivial, { inquired with }, rfl⟩
  | sleep milliseconds => exact permitted.elim
  | nextRun userId => exact permitted.elim

end Step

/-! ### A whole validation -/

section Run

variable {setting : ValidatorSetting}

theorem Subject.body_inquires (subject : Subject) :
    (subject.call.body setting).Obeys (Inquiry.advance setting)
      (Inquiry.Permitted setting subject) Inquiry.Possible
      (fun reached outcome => reached.Final subject outcome) .start := by
  cases subject with
  | user token => exact validateUser_inquires token
  | content cType cId => exact validateContent_inquires cType cId

variable {validated : Validated}

/-- What a whole validation has read, asked, written and returned. -/
theorem Validated.Ran.inquired (ran : validated.Ran setting)
    (free : ∀ key, validated.before.singleFlightLock key = false) :
    ∃ reached : Inquiry, reached.Final validated.subject (.inr validated.reply) ∧
      Inquired setting validated.subject validated.before reached validated.after ∧
      Recorded reached (validated.moments setting) validated.after.clock := by
  have start : Inquired setting validated.subject validated.before .start validated.before :=
    ⟨le_rfl, fun _ _ => .refl, fun _ => .refl, by rintro _ ⟨⟩, by rintro ⟨⟩,
      fun key => by simp [free, Inquiry.start]⟩
  have unasked : Recorded .start [] validated.before.clock :=
    ⟨by simp [Inquiry.start], by simp [Inquiry.start], by simp, .nil⟩
  apply (Subject.body_inquires validated.subject).run_keeps
    (fun inquiry before state =>
      Inquired setting validated.subject validated.before inquiry state ∧
        Recorded inquiry before state.clock) _ ran.replies ⟨start, unasked⟩
  rintro inquiry before moment after spawned member permitted handled ⟨inquired, recorded⟩
  have calm := ran.calm moment member
  obtain ⟨possible, kept, clock⟩ :=
    (inquired.advance calm (permitted.still calm)).serve permitted calm handled
  refine ⟨possible, kept, ?_⟩
  rw [clock]
  exact recorded.step permitted calm

theorem Validated.Ran.free (ran : validated.Ran setting)
    (free : ∀ key, validated.before.singleFlightLock key = false) (key : String) :
    validated.after.singleFlightLock key = false := by
  obtain ⟨reached, final, inquired, _⟩ := ran.inquired free
  have left : reached.holds = false := by
    cases is : validated.subject with
    | user token =>
        rw [is] at final
        obtain ⟨_, _, left, _⟩ := final
        exact left
    | content cType cId =>
        rw [is] at final
        obtain ⟨_, _, left, _⟩ := final
        exact left
  rw [inquired.lock, left, Bool.false_and]

/-- When the API has been asked, the validation comes back at once. -/
theorem Validated.Ran.asked_at {asked : Int} (ran : validated.Ran setting)
    (free : ∀ key, validated.before.singleFlightLock key = false)
    (asks : validated.AsksAt setting asked) : asked = validated.after.clock := by
  obtain ⟨_, _, _, recorded⟩ := ran.inquired free
  obtain ⟨moment, member, asks, rfl⟩ := asks
  exact recorded.frozen moment member asks

theorem Validated.RejectedAt.asks {instant : Int}
    (rejected : validated.RejectedAt setting instant) : validated.AsksAt setting instant := by
  obtain ⟨moment, member, rejects, at_instant⟩ := rejected
  exact ⟨moment, member, asksApi_of_rejects rejects, at_instant⟩

/-- What another validation leaves of an entry. -/
theorem Validated.Ran.kept {key : String} (ran : validated.Ran setting)
    (free : ∀ key, validated.before.singleFlightLock key = false)
    (elsewhere : key ≠ validated.subject.key) :
    KeptUntil validated.after.clock (validated.before.redis key) (validated.after.redis key) := by
  obtain ⟨_, _, inquired, _⟩ := ran.inquired free
  exact inquired.others key elsewhere

/-- A token that no verdict vouches for is asked about. -/
theorem Validated.Ran.user_asks {token : UserId} (ran : validated.Ran setting)
    (free : ∀ key, validated.before.singleFlightLock key = false)
    (is : validated.subject = .user token)
    (unvouched : vouches (verdictOf setting (validated.before.redis (userKey token))) = false) :
    validated.AsksAt setting validated.after.clock := by
  obtain ⟨reached, final, inquired, recorded⟩ := ran.inquired free
  rw [is] at final inquired
  obtain ⟨verdict, read, _, asks, _⟩ := final
  obtain ⟨entry, was, rfl, _⟩ := inquired.read verdict read
  obtain ⟨moment, member, own⟩ := recorded.asked.mpr (asks.mp (was.vouches unvouched))
  exact ⟨moment, member, own, recorded.frozen moment member own⟩

/-- The 404 of a token leaves nothing that vouches for it. -/
theorem Validated.Ran.user_rejected {token : UserId} {instant : Int}
    (ran : validated.Ran setting)
    (free : ∀ key, validated.before.singleFlightLock key = false)
    (is : validated.subject = .user token) (rejected : validated.RejectedAt setting instant) :
    vouches (verdictOf setting (validated.after.redis (userKey token))) = false := by
  obtain ⟨reached, final, inquired, recorded⟩ := ran.inquired free
  rw [is] at final inquired
  obtain ⟨verdict, read, _, asks, unwritten⟩ := final
  obtain ⟨moment, member, own, _⟩ := rejected
  have answered := recorded.rejected.mp ⟨moment, member, own⟩
  obtain ⟨entry, _, rfl, left⟩ := inquired.read verdict read
  exact (left (unwritten answered)).vouches (asks.mpr (by simp [answered]))

/-- The reply says that there is no such content. -/
def SaysNotFound (reply : ValidatorReply) : Prop :=
  ∃ contentType contentId,
    reply = .validateContent (.error (.contentNotFound contentType contentId))

theorem SaysNotFound.sameKind {one two : ValidatorReply} (first : SaysNotFound one)
    (second : SaysNotFound two) : SameKind one two := by
  obtain ⟨_, _, rfl⟩ := first
  obtain ⟨_, _, rfl⟩ := second
  exact ⟨_, _, rfl, rfl, rfl⟩

/-- What a 404 of a content leaves, due at the deadline. -/
def rejectionEntry (setting : ValidatorSetting) (deadline : Int) : RedisEntry :=
  ⟨.text (setting.verdictJson.toText .notFound), some deadline⟩

theorem verdictOf_rejectionEntry (deadline : Int) :
    verdictOf setting (some (rejectionEntry setting deadline)) = some .notFound :=
  setting.verdictJson.readBack _

/-- The 404 of a content is told and kept for 300 seconds. -/
theorem Validated.Ran.content_rejected {cType : ContentType} {cId : ContentId} {instant : Int}
    (ran : validated.Ran setting)
    (free : ∀ key, validated.before.singleFlightLock key = false)
    (is : validated.subject = .content cType cId)
    (rejected : validated.RejectedAt setting instant) :
    SaysNotFound validated.reply ∧
      validated.after.redis (contentKey cType cId) =
        some (rejectionEntry setting (instant + 300)) := by
  have at_once := ran.asked_at free rejected.asks
  obtain ⟨reached, final, inquired, recorded⟩ := ran.inquired free
  rw [is] at final inquired
  obtain ⟨_, _, _, _, _, writes, tells⟩ := final
  obtain ⟨moment, member, own, _⟩ := rejected
  have answered := recorded.rejected.mp ⟨moment, member, own⟩
  obtain ⟨contentType, contentId, told⟩ := tells (.inl answered)
  refine ⟨⟨contentType, contentId, Sum.inr.inj told⟩, ?_⟩
  rw [at_once]
  exact inquired.written (writes answered) answered

/-- A content whose 404 is kept is not asked about before that is due, and the 404 is told
again. -/
theorem Validated.Ran.content_reads {cType : ContentType} {cId : ContentId} {deadline : Int}
    (ran : validated.Ran setting)
    (free : ∀ key, validated.before.singleFlightLock key = false)
    (is : validated.subject = .content cType cId)
    (kept : validated.before.redis (contentKey cType cId) =
      some (rejectionEntry setting deadline)) :
    (∀ asked, validated.AsksAt setting asked → deadline ≤ asked) ∧
      (validated.after.clock < deadline → SaysNotFound validated.reply ∧
        validated.after.redis (contentKey cType cId) =
          some (rejectionEntry setting deadline)) := by
  obtain ⟨reached, final, inquired, recorded⟩ := ran.inquired free
  rw [is] at final inquired
  obtain ⟨verdict, read, _, asks, unwritten, _, tells⟩ := final
  obtain ⟨entry, was, rfl, left⟩ := inquired.read verdict read
  rw [Subject.key, kept] at was
  have reads : validated.after.clock < deadline → verdictOf setting entry = some .notFound ∧
      reached.answered = none ∧ entry = some (rejectionEntry setting deadline) := by
    intro early
    have same := was.not_due early
    have verdict : verdictOf setting entry = some .notFound := by
      rw [same]
      exact verdictOf_rejectionEntry deadline
    refine ⟨verdict, ?_, same⟩
    by_contra asked
    rw [asks asked] at verdict
    cases verdict
  constructor
  · intro asked asks_at
    rw [ran.asked_at free asks_at]
    by_contra early
    obtain ⟨_, unasked, _⟩ := reads (not_le.mp early)
    obtain ⟨moment, member, own, _⟩ := asks_at
    exact recorded.asked.mp ⟨moment, member, own⟩ unasked
  · intro early
    obtain ⟨verdict, unasked, same⟩ := reads early
    obtain ⟨contentType, contentId, told⟩ := tells (.inr verdict)
    refine ⟨⟨contentType, contentId, Sum.inr.inj told⟩, ?_⟩
    have stays := left (unwritten unasked)
    rw [same] at stays
    exact stays.not_due early

end Run

/-! ### Runs of validations -/

section History

variable {setting : ValidatorSetting} {state : ValidatorState} {history : List Validated}

theorem Validated.Ran.forward {validated : Validated} (ran : validated.Ran setting)
    (free : ∀ key, validated.before.singleFlightLock key = false) :
    validated.before.clock ≤ validated.after.clock := by
  obtain ⟨_, _, inquired, _⟩ := ran.inquired free
  exact inquired.forward

/-- Every validation of the run finds the lock free. -/
theorem OneAfterAnother.each (run : OneAfterAnother setting state history)
    (free : ∀ key, state.singleFlightLock key = false) {two : Validated}
    (member : two ∈ history) :
    two.Ran setting ∧ (∀ key, two.before.singleFlightLock key = false) ∧
      state.clock ≤ two.after.clock := by
  induction history generalizing state with
  | nil => cases member
  | cons one rest inductionHypothesis =>
      obtain ⟨rfl, ran, run⟩ := run
      rcases List.mem_cons.mp member with rfl | later
      · exact ⟨ran, free, ran.forward free⟩
      · obtain ⟨own, still, forward⟩ := inductionHypothesis run (ran.free free) later
        exact ⟨own, still, (ran.forward free).trans forward⟩

/-- A token that no verdict vouches for is asked about by the first validation of it, before
any other comes back. -/
theorem OneAfterAnother.user_asks {token : UserId}
    (run : OneAfterAnother setting state history)
    (free : ∀ key, state.singleFlightLock key = false)
    (unvouched : vouches (verdictOf setting (state.redis (userKey token))) = false)
    {two : Validated} (member : two ∈ history) (is : two.subject = .user token) :
    ∃ first ∈ history, first.subject = .user token ∧
      ∃ asked ≤ two.after.clock, first.AsksAt setting asked := by
  induction history generalizing state with
  | nil => cases member
  | cons one rest inductionHypothesis =>
      obtain ⟨rfl, ran, run⟩ := run
      by_cases own : one.subject = .user token
      · refine ⟨one, List.mem_cons_self, own, one.after.clock, ?_,
          ran.user_asks free own unvouched⟩
        rcases List.mem_cons.mp member with rfl | later
        · exact le_rfl
        · exact (run.each (ran.free free) later).2.2
      · rcases List.mem_cons.mp member with rfl | later
        · exact absurd is own
        · have elsewhere : userKey token ≠ one.subject.key :=
            fun same => own (Subject.key_inj (b := .user token) same.symm)
          obtain ⟨first, among, about, asks⟩ := inductionHypothesis run (ran.free free)
            ((ran.kept free elsewhere).vouches unvouched) later
          exact ⟨first, List.mem_cons_of_mem _ among, about, asks⟩

/-- A content whose 404 is kept is not asked about before that is due, whatever validations
come between, and every validation of it that comes back by then tells the 404. -/
theorem OneAfterAnother.content_reads {cType : ContentType} {cId : ContentId} {deadline : Int}
    (run : OneAfterAnother setting state history)
    (free : ∀ key, state.singleFlightLock key = false)
    (kept : state.redis (contentKey cType cId) = some (rejectionEntry setting deadline))
    {two : Validated} (member : two ∈ history) (is : two.subject = .content cType cId) :
    (∀ asked, two.AsksAt setting asked → deadline ≤ asked) ∧
      (two.after.clock < deadline → SaysNotFound two.reply) := by
  induction history generalizing state with
  | nil => cases member
  | cons one rest inductionHypothesis =>
      obtain ⟨rfl, ran, run⟩ := run
      by_cases early : one.after.clock < deadline
      · rcases List.mem_cons.mp member with rfl | later
        · obtain ⟨none_asked, told⟩ := ran.content_reads free is kept
          exact ⟨none_asked, fun soon => (told soon).1⟩
        · apply inductionHypothesis run (ran.free free) _ later
          by_cases own : one.subject = .content cType cId
          · exact ((ran.content_reads free own kept).2 early).2
          · have elsewhere : contentKey cType cId ≠ one.subject.key :=
              fun same => own (Subject.key_inj (b := .content cType cId) same.symm)
            have left := ran.kept free elsewhere
            rw [kept] at left
            exact left.not_due early
      · rcases List.mem_cons.mp member with rfl | later
        · obtain ⟨none_asked, _⟩ := ran.content_reads free is kept
          exact ⟨none_asked, fun soon => absurd soon early⟩
        · obtain ⟨own, still, forward⟩ := run.each (ran.free free) later
          have late := (not_lt.mp early).trans forward
          refine ⟨fun asked asks => ?_, fun soon => absurd soon (not_lt.mpr late)⟩
          rw [own.asked_at still asks]
          exact late

/-- Every 404 of a content stands for 300 seconds, and that of a token stands where nobody
asks about the token by then. -/
theorem OneAfterAnother.keeps_iff (run : OneAfterAnother setting state history)
    (free : ∀ key, state.singleFlightLock key = false) :
    history.Pairwise (KeepsRejection setting) ↔ history.Pairwise (TokenNotSoon setting) := by
  induction history generalizing state with
  | nil => exact ⟨fun _ => .nil, fun _ => .nil⟩
  | cons one rest inductionHypothesis =>
      obtain ⟨rfl, ran, run⟩ := run
      have left := ran.free free
      rw [List.pairwise_cons, List.pairwise_cons, inductionHypothesis run left]
      apply and_congr_left
      intro _
      constructor
      · intro keeps two member token instant is also rejected
        by_contra soon
        obtain ⟨first, among, about, asked, before, asks⟩ := run.user_asks left
          (ran.user_rejected free is rejected) member also
        have late := (keeps first among instant rejected (about.trans is.symm)).1 asked asks
        omega
      · intro apart two member instant rejected same
        cases is : one.subject with
        | user token =>
            rw [is] at same
            have late := apart two member token instant is same rejected
            obtain ⟨own, still, _⟩ := run.each left member
            refine ⟨fun asked asks => ?_, fun soon => absurd soon (not_lt.mpr late)⟩
            rw [own.asked_at still asks]
            exact late
        | content cType cId =>
            rw [is] at same
            obtain ⟨told, kept⟩ := ran.content_rejected free is rejected
            obtain ⟨none_asked, tells⟩ := run.content_reads left kept member same
            exact ⟨none_asked, fun soon => told.sameKind (tells soon)⟩

end History

/-- A 404 stands for 300 seconds for contents.  For tokens it is not kept: it stands exactly
where no validation of the token comes back within 300 seconds of it. -/
theorem negative_caching_iff (setting : ValidatorSetting) (threshold : Nat) (timeout : Int)
    (redis : Redis) (clock : Int) {history : List Validated}
    (run : OneAfterAnother setting (.new threshold timeout redis clock) history) :
    CachesNotFound setting history ↔ history.Pairwise (TokenNotSoon setting) := by
  have free : ∀ key, (ValidatorState.new threshold timeout redis clock).singleFlightLock key =
      false := fun _ => rfl
  rw [← run.keeps_iff free]
  constructor
  · intro caches
    exact caches.keeps
  · intro keeps
    refine ⟨fun one member => ?_, keeps⟩
    obtain ⟨ran, still, _⟩ := run.each free member
    obtain ⟨_, _, _, recorded⟩ := ran.inquired still
    exact recorded.once

/-! ### A token asked about twice -/

/-- Time passes before the first step, and the Profile API answers 404. -/
def unknownAfter (wait n : Nat) : ValidatorEnv :=
  { ValidatorEnv.calm with
    elapse := if n = 0 then wait else 0
    profile := .answered 404 none }

/-- An empty Redis and an untripped breaker at a time. -/
def quietAt (clock : Nat) : ValidatorState := .new 5 30 .empty clock

/-- A validation of the token that is answered 404 after a while. -/
def unknownToken (clock wait : Nat) : Validated :=
  ⟨.user ⟨7⟩, unknownAfter wait, quietAt clock,
    .validateUser (.error (.dependencyNotFound profileApi)), quietAt (clock + wait)⟩

/-- Both validations of the token are answered 404; so much time passes between them. -/
def askedTwice (wait : Nat) : List Validated := [unknownToken 0 0, unknownToken 0 wait]

theorem unknownToken_moments (clock wait : Nat) :
    (unknownToken clock wait).moments .reference =
      [⟨unknownAfter wait 0, .getString (userKey ⟨7⟩), .ok none, quietAt clock⟩,
        ⟨unknownAfter wait 1, .checkState, .closed, quietAt (clock + wait)⟩,
        ⟨unknownAfter wait 2, .getProfile "http://profile-api/v1/auth/validate" ⟨7⟩,
          .answered 404 none, quietAt (clock + wait)⟩] := rfl

theorem unknownToken_rejected (clock wait : Nat) :
    (unknownToken clock wait).RejectedAt .reference (clock + wait : Nat) := by
  refine ⟨⟨unknownAfter wait 2, .getProfile "http://profile-api/v1/auth/validate" ⟨7⟩,
    .answered 404 none, quietAt (clock + wait)⟩, ?_, rfl, rfl⟩
  rw [unknownToken_moments]
  simp

theorem unknownToken_ran (clock wait : Nat) : (unknownToken clock wait).Ran .reference := by
  constructor
  · rfl
  · intro moment member
    have lets_through : (CircuitBreaker.fromEnv 5 30).finalState 0 ≠ .opened := by decide
    rw [unknownToken_moments] at member
    fin_cases member
    · exact ⟨rfl, by rintro _ ⟨⟩, by rintro ⟨⟩, by rintro ⟨⟩⟩
    · exact ⟨rfl, by rintro _ ⟨⟩, fun _ => lets_through, by rintro ⟨⟩⟩
    · exact ⟨rfl, by rintro _ ⟨⟩, by rintro ⟨⟩, by rintro ⟨⟩⟩

theorem askedTwice_run (wait : Nat) :
    OneAfterAnother .reference (.new 5 30 .empty 0) (askedTwice wait) :=
  ⟨rfl, unknownToken_ran 0 0, rfl, unknownToken_ran 0 wait, trivial⟩

theorem negative_caching_five_minutes :
    OneAfterAnother .reference (.new 5 30 .empty 0) (askedTwice 300) ∧
      CachesNotFound .reference (askedTwice 300) := by
  refine ⟨askedTwice_run 300, (negative_caching_iff _ _ _ _ _ (askedTwice_run 300)).mpr ?_⟩
  refine List.pairwise_pair.mpr ?_
  rintro _ instant ⟨⟩ _ rejected
  rw [(unknownToken_ran 0 0).asked_at (fun _ => rfl) rejected.asks]
  decide

/-- A token that was answered 404 is asked about again after ten seconds. -/
theorem token_rejection_not_kept :
    OneAfterAnother .reference (.new 5 30 .empty 0) (askedTwice 10) ∧
      ¬ CachesNotFound .reference (askedTwice 10) := by
  refine ⟨askedTwice_run 10, fun caches => ?_⟩
  have keeps := List.pairwise_pair.mp caches.keeps
  have late := (keeps 0 (unknownToken_rejected 0 0) rfl).1 10 (unknownToken_rejected 0 10).asks
  omega

end SocialApi
