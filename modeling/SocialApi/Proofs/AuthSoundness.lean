/-
Module: SocialApi.Proofs.AuthSoundness
Purpose: What stands behind the user id that a protected handler runs with, over whole
  runs with cached verdicts.
Trusted boundary: none
Main exports:
  acceptedBody, cachedVerdict, VouchedFor, HandlersVouched, EveryAnswerValid,
  HonoursTtl, AuthProtocol.body_tracks, handlers_vouched
-/
import SocialApi.Api.Middleware

namespace SocialApi

open Process
open HttpExternalValidator

/-! ### What vouches for a user id -/

/-- The token asked about and the body, where the step is a Profile API request that is
answered with success and a body that can be read. -/
def acceptedBody : (op : ValidatorOp) → op.Res → Option (UserId × UserDto)
  | .getProfile _ token, .answered status (some body) =>
      if isSuccess status then some (token, body) else none
  | _, _ => none

/-- The key and the user id, where the step reads a verdict that a user is valid. -/
def cachedVerdict (setting : ValidatorSetting) :
    (op : ValidatorOp) → op.Res → Option (String × Uuid)
  | .getString key, .ok (some s) =>
      match setting.verdictJson.fromText s with
      | some (.valid userId) => some (key, userId)
      | _ => none
  | _, _ => none

section Statements

variable {setting : ValidatorSetting}

/-- The time at Redis when the step is taken. -/
def stepClock (event : Event (validatorService setting)) : Int :=
  (event.before.advance event.env).clock

/-- The event is a Profile API answer that the token is valid and belongs to the
user. -/
def Vouches (event : Event (validatorService setting)) (token : UserId) (userId : Uuid) :
    Prop :=
  ∃ body, acceptedBody event.op event.res = some (token, body) ∧ body.valid = true ∧
    body.userId = userId

/-- What may stand behind an acceptance by a thread: an answer of the Profile API that
it got itself, or a verdict it read that was written because of such an answer at most
300 seconds before. -/
inductive VouchedFor (before : List (Event (validatorService setting))) (thread : Nat)
    (token : UserId) (userId : Uuid) : Prop where
  | answered {front back : List (Event (validatorService setting))}
      {answer : Event (validatorService setting)}
      (split : before = front ++ answer :: back) (own : answer.thread = thread)
      (vouches : Vouches answer token userId)
  | cached {first second third fourth : List (Event (validatorService setting))}
      {answer write read : Event (validatorService setting)}
      (split : before = first ++ answer :: (second ++ write :: (third ++ read :: fourth)))
      (own : read.thread = thread)
      (reads : cachedVerdict setting read.op read.res = some (userKey token, userId))
      (writes : write.op = .setString (userKey token)
        (setting.verdictJson.toText (.valid userId)) 300)
      (because : answer.thread = write.thread) (vouches : Vouches answer token userId)
      (recent : stepClock read ≤ stepClock write + 300)

/-- A protected handler runs only for a request whose header holds a token that has been
vouched for, and with the user id it was vouched for. -/
def HandlersVouched (trace : List (Event (validatorService setting))) : Prop :=
  ∀ before event after userId, trace = before ++ event :: after →
    event.op = .nextRun userId → ∃ header token,
      event.call = .authMiddleware header ∧ bearerToken setting header = some token ∧
        VouchedFor before event.thread token userId.uuid

/-- Every successful answer of the Profile API with a body that can be read says that
the token is valid. -/
def EveryAnswerValid (trace : List (Event (validatorService setting))) : Prop :=
  ∀ event ∈ trace, ∀ token body,
    acceptedBody event.op event.res = some (token, body) → body.valid = true

/-- Redis hands out no entry after its time to live. -/
def HonoursTtl (trace : List (Event (validatorService setting))) : Prop :=
  ∀ event ∈ trace, ∀ key entry deadline,
    (event.before.advance event.env).redis key = some entry →
      entry.deadline = some deadline → stepClock event ≤ deadline

end Statements

/-! ### The protocol

A call's control state holds what it was called with, the last answer of the Profile API
it accepted and the last verdict it read. -/

structure AuthTrack where
  call : ValidatorCall
  answered : Option (UserId × UserDto)
  cached : Option (String × Uuid)

namespace AuthProtocol

variable (setting : ValidatorSetting)

def initial (call : ValidatorCall) : AuthTrack := ⟨call, none, none⟩

def advance (track : AuthTrack) (op : ValidatorOp) (answer : op.Res) : AuthTrack :=
  match op, answer with
  | .getProfile url token, reply =>
      { track with answered := acceptedBody (.getProfile url token) reply }
  | .getString key, reply =>
      { track with cached := cachedVerdict setting (.getString key) reply }
  | _, _ => track

theorem advance_call (track : AuthTrack) (op : ValidatorOp) (answer : op.Res) :
    (advance setting track op answer).call = track.call := by
  cases op <;> rfl

/-- A user verdict is written only for the last accepted answer, and the handler runs
only for an accepted answer or a verdict that was read. -/
def permitted (track : AuthTrack) : ValidatorOp → Prop
  | .setString key value ttl => ∀ token, key = userKey token → ∃ body,
      track.answered = some (token, body) ∧
        value = setting.verdictJson.toText (.valid body.userId) ∧ ttl = 300
  | .nextRun userId => ∃ header token, track.call = .authMiddleware header ∧
      bearerToken setting header = some token ∧
        ((∃ body, track.answered = some (token, body) ∧ body.userId = userId.uuid) ∨
          track.cached = some (userKey token, userId.uuid))
  | _ => True

def possible (_ : AuthTrack) (op : ValidatorOp) (_ : op.Res) : Prop := True

def final (track : AuthTrack) : ValidatorCall ⊕ ValidatorReply → Prop
  | .inl target => track = initial target
  | .inr _ => True

/-- The program keeps the protocol, and ends as stated. -/
abbrev Tracks {α : Type} (final : AuthTrack → α → Prop) (program : Validator α)
    (track : AuthTrack) : Prop :=
  program.Obeys (advance setting) (permitted setting) possible final track

/-- A step that touches no user verdict. -/
def Aside : ValidatorOp → Prop
  | .getProfile _ _ | .getString _ | .nextRun _ => False
  | .setString key _ _ => ∀ token, key ≠ userKey token
  | _ => True

variable {setting}

theorem Aside.tracks {α : Type} {program : Validator α} {track : AuthTrack}
    (performs : program.Performs Aside) :
    Tracks setting (fun reached _ => reached = track) program track := by
  apply performs.obeys
  intro op aside
  cases op with
  | getProfile url token => exact aside.elim
  | getString key => exact aside.elim
  | nextRun userId => exact aside.elim
  | setString key value ttl =>
      constructor
      · intro token same
        exact absurd same (aside token)
      · intro _
        rfl
  | _ => exact ⟨trivial, fun _ => rfl⟩

theorem getCachedValidation_tracks (key : String) (track : AuthTrack) :
    Tracks setting (fun reached verdict =>
        reached.call = track.call ∧ reached.answered = track.answered ∧
          reached.cached = match verdict with
            | some (.valid userId) => some (key, userId)
            | _ => none)
      (getCachedValidation setting key) track := by
  refine ⟨trivial, ?_⟩
  intro answer _
  rcases answer with e | _ | s
  · exact ⟨rfl, rfl, rfl⟩
  · exact ⟨rfl, rfl, rfl⟩
  · refine ⟨rfl, rfl, ?_⟩
    simp only [advance, cachedVerdict]

/-- An accepted reply is a success with a body. -/
theorem profileVerdict_ok {url : String} {token : UserId} {reply : HttpReply UserDto}
    {userId : Uuid} (accepted : profileVerdict reply = .ok userId) :
    ∃ body, acceptedBody (.getProfile url token) reply = some (token, body) ∧
      body.userId = userId := by
  cases reply with
  | unreachable => cases accepted
  | answered status body =>
      simp only [profileVerdict] at accepted
      split at accepted
      · next success =>
          cases body with
          | none => cases accepted
          | some body => exact ⟨body, if_pos success, Except.ok.inj accepted⟩
      · split at accepted <;> cases accepted

theorem recordOutcome_tracks {result : Except DomainError Uuid} {track : AuthTrack} :
    Tracks setting (fun reached outcome => reached = track ∧ outcome = result)
      (recordOutcome result) track := by
  cases result with
  | ok data => exact ⟨trivial, fun _ _ => ⟨rfl, rfl⟩⟩
  | error err =>
      cases err with
      | dependencyUnavailable service => exact ⟨trivial, fun _ _ => ⟨rfl, rfl⟩⟩
      | _ => exact ⟨rfl, rfl⟩

theorem callProfileApi_tracks (token : UserId) (track : AuthTrack) :
    Tracks setting (fun reached result =>
        reached.call = track.call ∧ ∀ userId, result = .ok userId →
          ∃ body, reached.answered = some (token, body) ∧ body.userId = userId)
      (callProfileApi setting token) track := by
  refine ⟨trivial, ?_⟩
  intro state _
  cases state with
  | opened => exact ⟨rfl, fun userId accepted => by cases accepted⟩
  | _ =>
      refine ⟨trivial, ?_⟩
      intro reply _
      apply recordOutcome_tracks.weaken
      rintro reached outcome ⟨rfl, rfl⟩
      exact ⟨rfl, fun userId accepted => profileVerdict_ok accepted⟩

theorem setCachedValidation_tracks {key : String} {result : ValidationResult} {ttl : Nat}
    {track : AuthTrack}
    (allowed : permitted setting track
      (.setString key (setting.verdictJson.toText result) ttl)) :
    Tracks setting (fun reached _ => reached = track)
      (setCachedValidation setting key result ttl) track :=
  ⟨allowed, fun _ _ => rfl⟩

/-- What a validated user id stands on: the last accepted answer, or the last verdict
read. -/
def Stands (token : UserId) (track : AuthTrack) (userId : Uuid) : Prop :=
  (∃ body, track.answered = some (token, body) ∧ body.userId = userId) ∨
    track.cached = some (userKey token, userId)

theorem fetchUser_tracks (token : UserId) (track : AuthTrack) :
    Tracks setting (fun reached result =>
        reached.call = track.call ∧ ∀ userId, result = .ok userId →
          Stands token reached userId)
      (fetchUser setting token) track := by
  apply (callProfileApi_tracks token track).bind
  intro reached result accepted
  obtain ⟨called, vouched⟩ := accepted
  cases result with
  | error e =>
      refine ⟨called, ?_⟩
      intro userId same
      cases same
  | ok userId =>
      obtain ⟨body, answered, named⟩ := vouched userId rfl
      have allowed : permitted setting reached (.setString (userKey token)
          (setting.verdictJson.toText (.valid userId)) 300) := by
        intro other same
        obtain rfl := userKey_inj same
        exact ⟨body, answered, by rw [named], rfl⟩
      apply (setCachedValidation_tracks allowed).bind
      rintro written _ rfl
      refine ⟨called, ?_⟩
      intro other same
      obtain rfl := Except.ok.inj same
      exact .inl ⟨body, answered, named⟩

/-- The user id that a token is validated to is vouched for by the last answer or by the
last verdict found. -/
theorem validateUser_tracks (token : UserId) (track : AuthTrack) :
    Tracks setting (fun reached result =>
        reached.call = track.call ∧ ∀ userId, result = .ok userId →
          Stands token reached userId)
      (HttpExternalValidator.validateUser setting token) track := by
  apply (getCachedValidation_tracks (userKey token) track).bind
  rintro reached verdict ⟨called, _, cached⟩
  rcases verdict with _ | userId | _
  · rw [← called]
    exact fetchUser_tracks token reached
  · refine ⟨called, ?_⟩
    intro other same
    obtain rfl := Except.ok.inj same
    exact .inr cached
  · rw [← called]
    exact fetchUser_tracks token reached

theorem recordOutcome_aside {α : Type} (result : Except DomainError α) :
    (recordOutcome result).Performs Aside := by
  cases result with
  | ok data => exact ⟨trivial, fun _ => trivial⟩
  | error err =>
      cases err with
      | dependencyUnavailable service => exact ⟨trivial, fun _ => trivial⟩
      | _ => trivial

theorem callContentApi_aside (setting : ValidatorSetting) (cType : ContentType)
    (cId : ContentId) : (callContentApi setting cType cId).Performs Aside := by
  unfold callContentApi
  split
  · trivial
  · refine ⟨trivial, ?_⟩
    intro state
    cases state with
    | opened => trivial
    | _ => exact ⟨trivial, fun reply => recordOutcome_aside _⟩

theorem cacheVerdict_aside (setting : ValidatorSetting) (cType : ContentType)
    (cId : ContentId) (result : Except DomainError Uuid) :
    (cacheVerdict setting (contentKey cType cId) result).Performs Aside := by
  have apart : ∀ token, contentKey cType cId ≠ userKey token :=
    contentKey_ne_userKey cType cId
  unfold cacheVerdict
  split
  · exact ⟨apart, fun _ => trivial⟩
  · exact ⟨apart, fun _ => trivial⟩
  · trivial

theorem fetchContent_aside (setting : ValidatorSetting) (cType : ContentType)
    (cId : ContentId) : (fetchContent setting cType cId).Performs Aside := by
  apply (callContentApi_aside setting cType cId).bind
  intro result
  apply (cacheVerdict_aside setting cType cId result).bind
  intro _
  exact ⟨trivial, fun _ => trivial⟩

/-- A content validation that starts over has read no verdict. -/
theorem validateContent_tracks (cType : ContentType) (cId : ContentId)
    (track : AuthTrack) (fresh : track.answered = none) :
    Tracks setting (fun reached result => result = none →
        reached = initial track.call)
      (HttpExternalValidator.validateContent setting cType cId) track := by
  apply (getCachedValidation_tracks (contentKey cType cId) track).bind
  rintro reached verdict ⟨called, answered, cached⟩
  rcases verdict with _ | uuid | _
  · refine ⟨trivial, ?_⟩
    intro entered _
    cases entered with
    | true =>
        apply (Aside.tracks (fetchContent_aside setting cType cId)).bind
        intro after _ _ absurd
        cases absurd
    | false =>
        refine ⟨trivial, ?_⟩
        intro _ _ _
        obtain ⟨call, answeredNow, cachedNow⟩ := reached
        rw [fresh] at answered
        dsimp only at called answered cached
        rw [called, answered, cached]
        rfl
  · intro absurd
    cases absurd
  · intro absurd
    cases absurd

theorem authMiddleware_tracks (header : Option (List UInt8)) :
    Tracks setting (fun _ _ => True) (SocialApi.authMiddleware setting header)
      (initial (.authMiddleware header)) := by
  unfold SocialApi.authMiddleware
  split
  · trivial
  · next token parsed =>
      apply (validateUser_tracks token _).bind
      rintro reached result ⟨called, stands⟩
      cases result with
      | error e => trivial
      | ok userId =>
          refine ⟨⟨header, token, called, parsed, stands userId rfl⟩, ?_⟩
          intro _ _
          trivial

/-- Every call keeps the protocol. -/
theorem body_tracks (call : ValidatorCall) :
    Tracks setting final (call.body setting) (initial call) := by
  cases call with
  | validateUser token =>
      apply (validateUser_tracks token _).bind
      intro _ _ _
      trivial
  | validateContent cType cId =>
      apply (validateContent_tracks cType cId _ rfl).bind
      intro reached result startsAgain
      cases result with
      | none => exact startsAgain rfl
      | some result => trivial
  | authMiddleware header =>
      apply (authMiddleware_tracks header).bind
      intro _ _ _
      trivial

end AuthProtocol

/-! ### The verdicts in Redis -/

section Runs

variable {setting : ValidatorSetting} {threshold : Nat} {timeout : Int} {redis : Redis}
  {clock : Int} {calls : List ValidatorCall} {trace : List (Event (validatorService setting))}
  {last : Pool (validatorService setting)}

/-- The entry has been put under the key by one of the events. -/
def WrittenBy (before : List (Event (validatorService setting))) (key : String)
    (entry : RedisEntry) : Prop :=
  ∃ front write back text ttl, before = front ++ write :: back ∧
    write.op = .setString key text ttl ∧
    entry = ⟨.text text, some (stepClock write + (ttl : Nat))⟩

/-- Every user verdict in Redis has been written by one of the events. -/
def VerdictsWritten (before : List (Event (validatorService setting)))
    (state : ValidatorState) : Prop :=
  ∀ token entry, state.redis (userKey token) = some entry →
    WrittenBy before (userKey token) entry

theorem WrittenBy.concat {before : List (Event (validatorService setting))} {key : String}
    {entry : RedisEntry} (written : WrittenBy before key entry)
    (event : Event (validatorService setting)) : WrittenBy (before ++ [event]) key entry := by
  obtain ⟨front, write, back, text, ttl, split, same, stored⟩ := written
  exact ⟨front, write, back ++ [event], text, ttl, by simp [split], same, stored⟩

theorem VerdictsWritten.step {before : List (Event (validatorService setting))}
    {event : Event (validatorService setting)} {after : ValidatorState}
    {spawned : List ValidatorCall}
    (handled : ValidatorState.handle event.env event.op event.before =
      some (event.res, after, spawned))
    (verdicts : VerdictsWritten before event.before) :
    VerdictsWritten (before ++ [event]) after := by
  intro token entry present
  rw [(ValidatorState.handle_redis handled).1] at present
  have old : (event.before.advance event.env).redis (userKey token) = some entry →
      WrittenBy (before ++ [event]) (userKey token) entry := by
    intro found
    exact (verdicts token entry (Redis.drop_some found)).concat event
  cases op : event.op with
  | setString key value ttl =>
      rw [op] at present
      rcases RedisLikeRepository.setString_present present with found | ⟨rfl, put⟩
      · exact old found
      · exact ⟨before, event, [], value, ttl, rfl, op, put⟩
  | _ =>
      rw [op] at present
      exact old present

theorem cachedVerdict_getString {asked key : String}
    {res : Except DomainError (Option String)} {userId : Uuid}
    (reads : cachedVerdict setting (.getString asked) res = some (key, userId)) :
    asked = key ∧ ∃ text, res = .ok (some text) ∧
      setting.verdictJson.fromText text = some (.valid userId) := by
  rcases res with e | _ | text
  · cases reads
  · cases reads
  · simp only [cachedVerdict] at reads
    split at reads
    · next verdict =>
        obtain ⟨rfl, rfl⟩ := Prod.mk.inj (Option.some.inj reads)
        exact ⟨rfl, text, rfl, verdict⟩
    · cases reads

/-- A verdict that is read is the text of an entry of Redis. -/
theorem cachedVerdict_found {event : Event (validatorService setting)}
    {next : ValidatorState} {spawned : List ValidatorCall} {key : String} {userId : Uuid}
    (handled : ValidatorState.handle event.env event.op event.before =
      some (event.res, next, spawned))
    (reads : cachedVerdict setting event.op event.res = some (key, userId)) :
    ∃ entry, (event.before.advance event.env).redis key = some entry ∧
      ∀ text, entry.value = .text text →
        setting.verdictJson.fromText text = some (.valid userId) := by
  obtain ⟨thread, call, env, op, res, state⟩ := event
  cases op with
  | getString asked =>
      obtain ⟨rfl, text, answer, verdict⟩ := cachedVerdict_getString reads
      rw [answer] at handled
      obtain ⟨entry, present, same⟩ := RedisLikeRepository.getString_some
        (ValidatorState.handle_getString handled).symm
      refine ⟨entry, present, ?_⟩
      intro stored isText
      rw [same stored isText]
      exact verdict
  | _ => cases reads

/-- The run law of the protocol. -/
theorem validator_tracks
    (run : Run (M := validatorService setting)
      (Pool.start (.new threshold timeout redis clock) calls) trace last)
    {before after : List (Event (validatorService setting))}
    {event : Event (validatorService setting)}
    (split : trace = before ++ event :: after) :
    AuthProtocol.permitted setting (controlAfter (AuthProtocol.advance setting)
      event.thread (AuthProtocol.initial event.call) before) event.op :=
  (Run.obeys (M := validatorService setting) AuthProtocol.body_tracks
    (fun _ _ never => never) run (fun _ _ _ _ => trivial)).2 before event after split

/-- The answer a thread has accepted last is one of the events before. -/
theorem answered_origin {before : List (Event (validatorService setting))} {thread : Nat}
    {call : ValidatorCall} {token : UserId} {body : UserDto}
    (answered : (controlAfter (AuthProtocol.advance setting) thread
      (AuthProtocol.initial call) before).answered = some (token, body)) :
    ∃ front answer back, before = front ++ answer :: back ∧ answer.thread = thread ∧
      acceptedBody answer.op answer.res = some (token, body) := by
  apply controlAfter_origin AuthTrack.answered
    (fun op answer value => acceptedBody op answer = some value) _ rfl answered
  intro reached op answer value seen
  cases op with
  | getProfile url token => exact .inr seen
  | _ => exact .inl seen

/-- The verdict a thread has read last is one of the events before. -/
theorem cached_origin {before : List (Event (validatorService setting))} {thread : Nat}
    {call : ValidatorCall} {key : String} {userId : Uuid}
    (cached : (controlAfter (AuthProtocol.advance setting) thread
      (AuthProtocol.initial call) before).cached = some (key, userId)) :
    ∃ front read back, before = front ++ read :: back ∧ read.thread = thread ∧
      cachedVerdict setting read.op read.res = some (key, userId) := by
  apply controlAfter_origin AuthTrack.cached
    (fun op answer value => cachedVerdict setting op answer = some value) _ rfl cached
  intro reached op answer value seen
  cases op with
  | getString key => exact .inr seen
  | _ => exact .inl seen

/-- What stands in Redis when an event comes has been written by one before it. -/
theorem verdicts_written (noVerdict : ∀ token, redis (userKey token) = none)
    (run : Run (M := validatorService setting)
      (Pool.start (.new threshold timeout redis clock) calls) trace last)
    {before after : List (Event (validatorService setting))}
    {event : Event (validatorService setting)} (split : trace = before ++ event :: after) :
    VerdictsWritten before event.before := by
  subst split
  apply run.replays.until_event.1.history VerdictsWritten
  · intro earlier step next spawned _ handled verdicts
    exact verdicts.step handled
  · intro token entry present
    exact absurd ((noVerdict token).symm.trans present) (by simp)

/-- A user verdict is written because of an answer its thread has accepted. -/
theorem written_because
    (run : Run (M := validatorService setting)
      (Pool.start (.new threshold timeout redis clock) calls) trace last)
    {before after : List (Event (validatorService setting))}
    {write : Event (validatorService setting)} (split : trace = before ++ write :: after)
    {token : UserId} {text : String} {ttl : Nat}
    (writes : write.op = .setString (userKey token) text ttl) :
    ttl = 300 ∧ ∃ front answer back body,
      before = front ++ answer :: back ∧ answer.thread = write.thread ∧
        acceptedBody answer.op answer.res = some (token, body) ∧
        text = setting.verdictJson.toText (.valid body.userId) := by
  have allowed := validator_tracks run split
  rw [writes] at allowed
  obtain ⟨body, answered, same, ttlSame⟩ := allowed token rfl
  obtain ⟨front, answer, back, splitBefore, own, accepted⟩ := answered_origin answered
  exact ⟨ttlSame, front, answer, back, body, splitBefore, own, accepted, same⟩

/-- Authentication is sound over whole runs as long as no successful answer of the
Profile API says that its token is not valid. -/
theorem handlers_vouched
    (noVerdict : ∀ token, redis (userKey token) = none)
    (run : Run (M := validatorService setting)
      (Pool.start (.new threshold timeout redis clock) calls) trace last)
    (honours : HonoursTtl trace) (valid : EveryAnswerValid trace) :
    HandlersVouched trace := by
  intro before event after userId split runs
  have allowed := validator_tracks run split
  rw [runs] at allowed
  obtain ⟨header, token, called, parsed, stands⟩ := allowed
  have sameCall : event.call = .authMiddleware header := by
    rw [← called]
    symm
    apply controlAfter_preserves (fun track : AuthTrack => track.call = event.call) _ rfl
    intro other _ reached same
    rw [AuthProtocol.advance_call, same]
  refine ⟨header, token, sameCall, parsed, ?_⟩
  rcases stands with ⟨body, answered, named⟩ | cached
  · obtain ⟨front, answer, back, splitBefore, own, accepted⟩ := answered_origin answered
    have isValid := valid answer (by simp [split, splitBefore]) token body accepted
    exact .answered splitBefore own ⟨body, accepted, isValid, named⟩
  · obtain ⟨front, read, back, splitBefore, own, reads⟩ := cached_origin cached
    have splitRead : trace = front ++ read :: (back ++ event :: after) := by
      simp [split, splitBefore]
    have replays := run.replays
    rw [splitRead] at replays
    obtain ⟨_, next, spawned, handled⟩ := replays.until_event
    obtain ⟨entry, present, verdict⟩ := cachedVerdict_found handled reads
    obtain ⟨first, write, third, text, ttl, splitFront, writes, rfl⟩ :=
      verdicts_written noVerdict run splitRead token entry (Redis.drop_some present)
    have splitWrite : trace = first ++ write :: (third ++ read :: (back ++ event :: after)) := by
      simp [splitRead, splitFront]
    obtain ⟨rfl, lead, answer, second, body, splitFirst, because, accepted, rfl⟩ :=
      written_because run splitWrite writes
    have sameUser : body.userId = userId.uuid := by
      have readBack := verdict _ rfl
      rw [setting.verdictJson.readBack] at readBack
      exact ValidationResult.valid.inj (Option.some.inj readBack)
    have isValid := valid answer (by simp [splitWrite, splitFirst]) token body accepted
    have recent := honours read (by simp [splitRead]) _ _ _ present rfl
    rw [sameUser] at writes
    have whole : before =
        lead ++ answer :: (second ++ write :: (third ++ read :: back)) := by
      simp [splitBefore, splitFront, splitFirst]
    exact .cached whole own reads writes because ⟨body, accepted, isValid, sameUser⟩ recent

/-- Behind every acceptance stands an answer of the Profile API. -/
theorem VouchedFor.exists_answer {before : List (Event (validatorService setting))}
    {thread : Nat} {token : UserId} {userId : Uuid}
    (vouched : VouchedFor before thread token userId) :
    ∃ answer ∈ before, Vouches answer token userId := by
  cases vouched with
  | answered split own vouches => exact ⟨_, by simp [split], vouches⟩
  | cached split own reads writes because vouches recent =>
      exact ⟨_, by simp [split], vouches⟩

/-- Nothing in Redis is due before the time. -/
def NothingDue (now : Int) (store : Redis) : Prop :=
  ∀ key entry deadline, store key = some entry → entry.deadline = some deadline →
    now ≤ deadline

theorem NothingDue.step {env : ValidatorEnv} {op : ValidatorOp}
    {state after : ValidatorState} {answer : op.Res} {spawned : List ValidatorCall}
    {now : Int} (nothing : NothingDue now state.redis) (still : state.clock = now)
    (instant : env.elapse = 0)
    (handled : ValidatorState.handle env op state = some (answer, after, spawned)) :
    after.clock = now ∧ NothingDue now after.redis := by
  obtain ⟨store, time⟩ := ValidatorState.handle_redis handled
  have clockNow : (state.advance env).clock = now := by
    simp [ValidatorState.advance, instant, still]
  have dropped : NothingDue now (state.advance env).redis := by
    intro key entry deadline present
    exact nothing key entry deadline (Redis.drop_some present)
  refine ⟨time.trans clockNow, ?_⟩
  rw [store]
  cases op with
  | setString key value ttl =>
      intro other entry deadline present due
      rcases RedisLikeRepository.setString_present present with found | ⟨_, rfl⟩
      · exact dropped other entry deadline found due
      · obtain rfl := Option.some.inj due
        omega
  | _ => exact dropped

/-- While no time passes, no time to live runs out. -/
theorem honoursTtl_of_instant (fresh : NothingDue clock redis)
    (run : Run (M := validatorService setting)
      (Pool.start (.new threshold timeout redis clock) calls) trace last)
    (instant : ∀ event ∈ trace, event.env.elapse = 0) : HonoursTtl trace := by
  intro event member key entry deadline present due
  obtain ⟨before, after, rfl⟩ := List.append_of_mem member
  obtain ⟨still, nothing⟩ := run.replays.until_event.1.invariant
    (fun state : ValidatorState => state.clock = clock ∧ NothingDue clock state.redis)
    (fun earlier among next spawned handled ⟨still, nothing⟩ =>
      nothing.step still (instant earlier (by simp [among])) handled)
    ⟨rfl, fresh⟩
  have clockNow : stepClock event = clock := by
    simp [stepClock, ValidatorState.advance, instant event member, still]
  rw [clockNow]
  exact nothing key entry deadline (Redis.drop_some present) due

end Runs

/-- A request with the token of the first user. -/
def bearerOne : ValidatorCall :=
  .authMiddleware (some (utf8 "Bearer 00000000-0000-0000-0000-000000000001"))

/-- The request runs alone, and the Profile API answers with this body. -/
def askProfile (body : UserDto) : List (Nat × ValidatorEnv) :=
  List.replicate 6 (0, { ValidatorEnv.calm with profile := .answered 200 (some body) })

/-- A user the Profile API vouches for gets through. -/
theorem handlers_vouched_valid :
    ∃ trace last, Run (M := validatorService .reference)
        (Pool.start (.new 5 30 .empty 0) [bearerOne]) trace last ∧
      (∃ event ∈ trace, event.op = .nextRun ⟨7⟩) ∧ HandlersVouched trace := by
  obtain ⟨trace, last, run, passed⟩ := Run.exists_of_exec (M := validatorService .reference)
    (askProfile { userId := 7, displayName := "A", valid := true })
    (Pool.start (.new 5 30 .empty 0) [bearerOne])
    (fun trace _ => trace.any (fun event => event.op = .nextRun ⟨7⟩) &&
      trace.all fun event => event.env.elapse = 0 &&
        (acceptedBody event.op event.res).all fun answer => answer.2.valid)
    (by decide +kernel)
  simp only [Bool.and_eq_true, List.all_eq_true, List.any_eq_true, decide_eq_true_eq,
    Option.all_eq_true] at passed
  obtain ⟨handled, answers⟩ := passed
  have honours : HonoursTtl trace := honoursTtl_of_instant (by intro _ _ _ absurd; cases absurd)
    run fun event member => (answers event member).1
  refine ⟨trace, last, run, handled, ?_⟩
  apply handlers_vouched (fun _ => rfl) run honours
  intro event member token body accepted
  exact (answers event member).2 _ accepted

/-- The Profile API says that the token is not valid, and the handler runs with the user
id of its answer. -/
theorem handler_runs_invalid :
    ∃ trace last, Run (M := validatorService .reference)
        (Pool.start (.new 5 30 .empty 0) [bearerOne]) trace last ∧ HonoursTtl trace ∧
      (∃ event ∈ trace, event.op = .nextRun ⟨7⟩) ∧ ¬ HandlersVouched trace := by
  obtain ⟨trace, last, run, passed⟩ := Run.exists_of_exec (M := validatorService .reference)
    (askProfile { userId := 7, displayName := "A", valid := false })
    (Pool.start (.new 5 30 .empty 0) [bearerOne])
    (fun trace _ => trace.any (fun event => event.op = .nextRun ⟨7⟩) &&
      trace.all fun event => event.env.elapse = 0 &&
        (acceptedBody event.op event.res).all fun answer => !answer.2.valid)
    (by decide +kernel)
  simp only [Bool.and_eq_true, List.all_eq_true, List.any_eq_true, decide_eq_true_eq,
    Option.all_eq_true, Bool.not_eq_true'] at passed
  obtain ⟨⟨event, member, runs⟩, answers⟩ := passed
  have honours : HonoursTtl trace := honoursTtl_of_instant (by intro _ _ _ absurd; cases absurd)
    run fun event member => (answers event member).1
  refine ⟨trace, last, run, honours, ⟨event, member, runs⟩, ?_⟩
  intro vouched
  obtain ⟨before, after, split⟩ := List.append_of_mem member
  obtain ⟨_, token, _, _, behind⟩ := vouched before event after ⟨7⟩ split runs
  obtain ⟨answer, among, body, accepted, isValid, _⟩ := behind.exists_answer
  rw [(answers answer (by simp [split, among])).2 _ accepted] at isValid
  cases isValid

end SocialApi
