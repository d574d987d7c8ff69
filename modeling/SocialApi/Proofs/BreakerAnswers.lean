/-
Module: SocialApi.Proofs.BreakerAnswers
Purpose: Which answers of a live dependency the circuit breaker counts as failures.
Trusted boundary: none
Main exports:
  Definite, Untroubled, NeverTripped, validator_obeys, definite_answers_trip_iff
-/
import SocialApi.Api.Middleware

namespace SocialApi

open Process
open HttpExternalValidator

/-! ### Answers -/

/-- A definite answer of a live dependency: success with a body that can be read, an
invalid token, or not found. -/
def HttpReply.Definite {Body : Type} : HttpReply Body → Prop
  | .unreachable => False
  | .answered status body =>
      (isSuccess status ∧ body.isSome) ∨ status = 401 ∨ status = 404

instance {Body : Type} (reply : HttpReply Body) : Decidable reply.Definite :=
  match reply with
  | .unreachable => inferInstanceAs (Decidable False)
  | .answered status body => inferInstanceAs (Decidable
      ((isSuccess status ∧ body.isSome) ∨ status = 401 ∨ status = 404))

/-- The answer for an invalid token. -/
def HttpReply.isUnauthorized {Body : Type} : HttpReply Body → Bool
  | .unreachable => false
  | .answered status _ => status = 401

/-- Where the step is an HTTP request, it gets a definite answer. -/
def Definite : (op : ValidatorOp) → op.Res → Prop
  | .getProfile _ _, reply => reply.Definite
  | .getContent _, reply => reply.Definite
  | _, _ => True

instance : (op : ValidatorOp) → (answer : op.Res) → Decidable (Definite op answer)
  | .getProfile _ _, reply => inferInstanceAs (Decidable reply.Definite)
  | .getContent _, reply => inferInstanceAs (Decidable reply.Definite)
  | .getString _, _ | .setString _ _ _, _ | .checkState, _ | .reset, _
  | .recordFailure, _ | .singleFlightInsert _, _ | .singleFlightRemove _, _
  | .sleep _, _ | .nextRun _, _ => inferInstanceAs (Decidable True)

/-- The step is an HTTP request that is answered 401. -/
def unauthorized : (op : ValidatorOp) → op.Res → Bool
  | .getProfile _ _, reply => reply.isUnauthorized
  | .getContent _, reply => reply.isUnauthorized
  | _, _ => false

/-- The step is a check that refuses its call. -/
def refuses : (op : ValidatorOp) → op.Res → Bool
  | .checkState, state => state = .opened
  | _, _ => false

section Runs

variable {setting : ValidatorSetting}

/-- No failure is recorded, and no call is refused. -/
def NeverTripped (trace : List (Event (validatorService setting))) : Prop :=
  ∀ event ∈ trace, event.op ≠ .recordFailure ∧ refuses event.op event.res = false

/-- No request is answered 401, and where the threshold is zero, every check comes
after the timeout has passed since the epoch. -/
def Untroubled (threshold : Nat) (timeout : Int)
    (trace : List (Event (validatorService setting))) : Prop :=
  ∀ event ∈ trace, unauthorized event.op event.res = false ∧
    (event.op = .checkState → threshold = 0 → timeout ≤ event.env.now)

end Runs

/-- Of the definite answers, the Profile client takes 401 for an outage. -/
theorem profileVerdict_unavailable_iff {reply : HttpReply UserDto}
    (definite : reply.Definite) :
    (∃ service, profileVerdict reply = .error (.dependencyUnavailable service)) ↔
      reply.isUnauthorized = true := by
  cases reply with
  | unreachable => exact definite.elim
  | answered status body =>
      simp only [profileVerdict, HttpReply.isUnauthorized]
      rcases definite with ⟨success, read⟩ | rfl | rfl
      · obtain ⟨userData, rfl⟩ := Option.isSome_iff_exists.mp read
        rw [if_pos success]
        have other : status ≠ 401 := by
          rintro rfl
          exact absurd success (by decide)
        simp [other]
      · simp [isSuccess]
      · simp [isSuccess]

theorem contentVerdict_unavailable_iff {serviceName : String} {cType : ContentType}
    {cId : ContentId} {reply : HttpReply ContentDto} (definite : reply.Definite) :
    (∃ service, contentVerdict serviceName cType cId reply =
        .error (.dependencyUnavailable service)) ↔ reply.isUnauthorized = true := by
  cases reply with
  | unreachable => exact definite.elim
  | answered status body =>
      simp only [contentVerdict, HttpReply.isUnauthorized]
      rcases definite with ⟨success, read⟩ | rfl | rfl
      · obtain ⟨content, rfl⟩ := Option.isSome_iff_exists.mp read
        rw [if_pos success]
        have other : status ≠ 401 := by
          rintro rfl
          exact absurd success (by decide)
        simp [other]
      · simp [isSuccess]
      · simp [isSuccess]

/-! ### The protocol

A call's control state says whether it has an answer 401 that it has not yet recorded
as a failure. -/

namespace BreakerProtocol

def advance (pending : Bool) : (op : ValidatorOp) → op.Res → Bool
  | .getProfile _ _, reply => pending || reply.isUnauthorized
  | .getContent _, reply => pending || reply.isUnauthorized
  | .recordFailure, _ => false
  | _, _ => pending

theorem advance_settled {op : ValidatorOp} {answer : op.Res}
    (other : unauthorized op answer = false) : advance false op answer = false := by
  cases op with
  | getProfile url token => exact other
  | getContent url => exact other
  | _ => rfl

theorem advance_hit {pending : Bool} {op : ValidatorOp} {answer : op.Res}
    (hit : unauthorized op answer = true) : advance pending op answer = true := by
  cases op with
  | getProfile url token => exact (congrArg _ hit).trans (Bool.or_true pending)
  | getContent url => exact (congrArg _ hit).trans (Bool.or_true pending)
  | _ => cases hit

theorem advance_pending {op : ValidatorOp} {answer : op.Res}
    (notRecord : op ≠ .recordFailure) : advance true op answer = true := by
  cases op with
  | recordFailure => exact absurd rfl notRecord
  | _ => rfl

/-- A failure is recorded only for such an answer. -/
def permitted (pending : Bool) (op : ValidatorOp) : Prop :=
  op = .recordFailure → pending = true

def possible (_ : Bool) (op : ValidatorOp) (answer : op.Res) : Prop := Definite op answer

/-- The program records every such answer before it ends. -/
abbrev Settles {α : Type} (program : Validator α) : Prop :=
  program.Obeys advance permitted possible (fun pending _ => pending = false) false

/-- A step that neither asks an API nor records a failure. -/
def Local : ValidatorOp → Prop
  | .getProfile _ _ | .getContent _ | .recordFailure => False
  | _ => True

theorem Local.settles {α : Type} {program : Validator α}
    (performs : program.Performs Local) : Settles program := by
  apply performs.obeys
  intro op isLocal
  constructor
  · rintro rfl
    exact isLocal.elim
  · intro answer
    cases op with
    | getProfile url token => exact isLocal.elim
    | getContent url => exact isLocal.elim
    | recordFailure => exact isLocal.elim
    | _ => rfl

theorem Settles.bind {α β : Type} {program : Validator α} {next : α → Validator β}
    (first : Settles program) (rest : ∀ value, Settles (next value)) :
    Settles (program >>= next) := by
  apply Program.Obeys.bind first
  rintro reached value rfl
  exact rest value

/-- The end of a call settles an answer 401 that its result stands for. -/
theorem recordOutcome_settles {pending : Bool} {result : Except DomainError Uuid}
    (stands : (∃ service, result = .error (.dependencyUnavailable service)) ↔
      pending = true) :
    (recordOutcome result).Obeys advance permitted possible
      (fun reached _ => reached = false) pending := by
  cases result with
  | ok data =>
      have settled : pending = false := by simpa using stands
      exact ⟨by simp [permitted], fun _ _ => settled⟩
  | error err =>
      cases err with
      | dependencyUnavailable service =>
          refine ⟨fun _ => stands.mp ⟨service, rfl⟩, ?_⟩
          intro _ _
          rfl
      | _ =>
          have settled : pending = false := by simpa using stands
          exact settled

/-- The breaker records a 401 answer to its request, and nothing else. -/
theorem call_settles {op : ValidatorOp} {verdict : op.Res → Except DomainError Uuid}
    (notRecord : op ≠ .recordFailure)
    (counted : ∀ reply, Definite op reply →
      ((∃ service, verdict reply = .error (.dependencyUnavailable service)) ↔
        advance false op reply = true)) :
    Settles (call do
      let response ← perform op
      return verdict response) := by
  unfold call
  simp only [Program.request_bind, Program.pure_eq_ret, Program.bind_perform,
    Program.bind_ret]
  refine ⟨by simp [permitted], ?_⟩
  intro state _
  cases state with
  | opened => rfl
  | closed => exact ⟨fun same => absurd same notRecord, fun reply definite =>
      recordOutcome_settles (counted reply definite)⟩
  | halfOpen => exact ⟨fun same => absurd same notRecord, fun reply definite =>
      recordOutcome_settles (counted reply definite)⟩

theorem callProfileApi_settles (setting : ValidatorSetting) (token : UserId) :
    Settles (callProfileApi setting token) := by
  unfold callProfileApi
  apply call_settles
  · simp
  · intro reply definite
    exact profileVerdict_unavailable_iff definite

theorem callContentApi_settles (setting : ValidatorSetting) (cType : ContentType)
    (cId : ContentId) : Settles (callContentApi setting cType cId) := by
  unfold callContentApi
  split
  · rfl
  · apply call_settles
    · simp
    · intro reply definite
      exact contentVerdict_unavailable_iff definite

theorem getCachedValidation_settles (setting : ValidatorSetting) (key : String) :
    Settles (getCachedValidation setting key) := by
  apply Local.settles
  refine ⟨trivial, ?_⟩
  intro answer
  rcases answer with e | _ | s <;> trivial

theorem setCachedValidation_settles (setting : ValidatorSetting) (key : String)
    (result : ValidationResult) (ttl : Nat) :
    Settles (setCachedValidation setting key result ttl) := by
  apply Local.settles
  exact ⟨trivial, fun _ => trivial⟩

theorem fetchUser_settles (setting : ValidatorSetting) (token : UserId) :
    Settles (fetchUser setting token) := by
  apply (callProfileApi_settles setting token).bind
  intro result
  cases result with
  | error e => rfl
  | ok userId =>
      apply (setCachedValidation_settles setting (userKey token) (.valid userId) 300).bind
      intro _
      rfl

theorem validateUser_settles (setting : ValidatorSetting) (token : UserId) :
    Settles (HttpExternalValidator.validateUser setting token) := by
  unfold HttpExternalValidator.validateUser
  apply (getCachedValidation_settles setting (userKey token)).bind
  intro cached
  rcases cached with _ | userId | _
  · exact fetchUser_settles setting token
  · rfl
  · exact fetchUser_settles setting token

theorem cacheVerdict_settles (setting : ValidatorSetting) (cacheKey : String)
    (result : Except DomainError Uuid) :
    Settles (cacheVerdict setting cacheKey result) := by
  unfold cacheVerdict
  split
  · exact setCachedValidation_settles _ _ _ _
  · exact setCachedValidation_settles _ _ _ _
  · rfl

theorem fetchContent_settles (setting : ValidatorSetting) (cType : ContentType)
    (cId : ContentId) : Settles (fetchContent setting cType cId) := by
  apply (callContentApi_settles setting cType cId).bind
  intro result
  apply (cacheVerdict_settles setting _ result).bind
  intro _
  apply Local.settles
  exact ⟨trivial, fun _ => trivial⟩

theorem validateContent_settles (setting : ValidatorSetting) (cType : ContentType)
    (cId : ContentId) :
    Settles (HttpExternalValidator.validateContent setting cType cId) := by
  unfold HttpExternalValidator.validateContent
  apply (getCachedValidation_settles setting (contentKey cType cId)).bind
  intro cached
  rcases cached with _ | uuid | _
  · refine ⟨by simp [permitted], ?_⟩
    intro entered _
    cases entered with
    | true =>
        apply (fetchContent_settles setting cType cId).bind
        intro _
        rfl
    | false => exact ⟨by simp [permitted], fun _ _ => rfl⟩
  · rfl
  · rfl

theorem authMiddleware_settles (setting : ValidatorSetting)
    (header : Option (List UInt8)) :
    Settles (SocialApi.authMiddleware setting header) := by
  unfold SocialApi.authMiddleware
  split
  · rfl
  · next token _ =>
      apply (validateUser_settles setting token).bind
      intro result
      apply Local.settles
      cases result with
      | error e => trivial
      | ok userId => exact ⟨trivial, fun _ => trivial⟩

/-- Every call records the answers 401 it gets, and no other failure. -/
theorem body_settles (setting : ValidatorSetting) (call : ValidatorCall) :
    Settles (call.body setting) := by
  cases call with
  | validateUser token =>
      apply (validateUser_settles setting token).bind
      intro _
      rfl
  | validateContent cType cId =>
      apply (validateContent_settles setting cType cId).bind
      intro result
      cases result <;> rfl
  | authMiddleware header =>
      apply (authMiddleware_settles setting header).bind
      intro _
      rfl

end BreakerProtocol

section Runs

variable {setting : ValidatorSetting} {threshold : Nat} {timeout : Int} {redis : Redis}
  {clock : Int} {calls : List ValidatorCall} {trace : List (Event (validatorService setting))}
  {last : Pool (validatorService setting)}

/-- The run law of the protocol. -/
theorem validator_obeys
    (run : Run (M := validatorService setting)
      (Pool.start (.new threshold timeout redis clock) calls) trace last)
    (definite : ∀ event ∈ trace, Definite event.op event.res) :
    Governed (M := validatorService setting) BreakerProtocol.advance
        BreakerProtocol.permitted BreakerProtocol.possible
        (fun pending _ => pending = false) (fun _ => false) trace last ∧
      ∀ before event after, trace = before ++ event :: after →
        event.op = .recordFailure →
          controlAfter BreakerProtocol.advance event.thread false before = true := by
  have allowed : ∀ before event after, trace = before ++ event :: after →
      Definite event.op event.res := by
    rintro before event after rfl
    exact definite event (by simp)
  exact Run.obeys (M := validatorService setting)
    (BreakerProtocol.body_settles setting) (fun _ _ settled => settled) run allowed

/-- As long as no failure is recorded, the breaker is as good as new. -/
theorem untripped_until
    (run : Run (M := validatorService setting)
      (Pool.start (.new threshold timeout redis clock) calls) trace last)
    (never : ∀ event ∈ trace, event.op ≠ .recordFailure)
    {before after : List (Event (validatorService setting))}
    {event : Event (validatorService setting)}
    (split : trace = before ++ event :: after) :
    event.before.breaker.Untripped threshold timeout := by
  subst split
  obtain ⟨replays, _⟩ := run.replays.until_event
  apply replays.invariant
    (fun state : ValidatorState => state.breaker.Untripped threshold timeout) _
    CircuitBreaker.untripped_fromEnv
  intro earlier member next spawned handled untripped
  have other := never earlier (by simp [member])
  rw [ValidatorState.handle_breaker handled]
  cases op : earlier.op with
  | recordFailure => exact absurd op other
  | checkState => exact untripped.checkState _
  | reset => exact untripped.reset
  | _ => exact untripped

/-- A check on a breaker that is as good as new refuses only where the threshold is
zero and the timeout has not passed since the epoch. -/
theorem refuses_iff
    (run : Run (M := validatorService setting)
      (Pool.start (.new threshold timeout redis clock) calls) trace last)
    (never : ∀ event ∈ trace, event.op ≠ .recordFailure)
    {event : Event (validatorService setting)} (member : event ∈ trace) :
    refuses event.op event.res = true ↔
      event.op = .checkState ∧ threshold = 0 ∧ event.env.now < timeout := by
  obtain ⟨before, after, split⟩ := List.append_of_mem member
  have untripped := untripped_until run never split
  rw [split] at run
  obtain ⟨_, next, spawned, handled⟩ := run.replays.until_event
  obtain ⟨thread, call, env, op, res, state⟩ := event
  cases op with
  | checkState =>
      rw [ValidatorState.handle_checkState handled]
      simp only [refuses, decide_eq_true_eq, true_and]
      exact untripped.checkState_opened env.now
  | _ => simp [refuses]

/-- Definite answers never trip the breaker as long as none of them is 401, which the
client takes for an outage; and in a run that has come to its end, only then.  A
breaker with threshold zero refuses by itself until its timeout has passed. -/
theorem definite_answers_trip_iff
    (run : Run (M := validatorService setting)
      (Pool.start (.new threshold timeout redis clock) calls) trace last)
    (definite : ∀ event ∈ trace, Definite event.op event.res) :
    (Untroubled threshold timeout trace → NeverTripped trace) ∧
      (last.Done → NeverTripped trace → Untroubled threshold timeout trace) := by
  obtain ⟨governed, recorded⟩ := validator_obeys run definite
  constructor
  · intro untroubled
    have never : ∀ event ∈ trace, event.op ≠ .recordFailure := by
      intro event member isRecord
      obtain ⟨before, after, split⟩ := List.append_of_mem member
      have pending := recorded before event after split isRecord
      have settled : controlAfter BreakerProtocol.advance event.thread false before =
          false := by
        apply controlAfter_preserves (· = false) _ rfl
        rintro earlier memberEarlier reached rfl
        exact BreakerProtocol.advance_settled
          (untroubled earlier (by simp [split, memberEarlier])).1
      rw [settled] at pending
      cases pending
    intro event member
    refine ⟨never event member, ?_⟩
    rw [← Bool.not_eq_true, refuses_iff run never member]
    rintro ⟨isCheck, zero, early⟩
    exact absurd ((untroubled event member).2 isCheck zero) (not_le.mpr early)
  · intro done neverTripped event member
    have never : ∀ event ∈ trace, event.op ≠ .recordFailure :=
      fun event member => (neverTripped event member).1
    constructor
    · by_contra hit
      obtain ⟨before, after, split⟩ := List.append_of_mem member
      have pending : controlAfter BreakerProtocol.advance event.thread false trace =
          true := by
        rw [split, List.append_cons, controlAfter_append, controlAfter_concat_self,
          BreakerProtocol.advance_hit (Bool.eq_true_of_not_eq_false hit)]
        apply controlAfter_preserves (· = true) _ rfl
        rintro later memberLater reached rfl
        exact BreakerProtocol.advance_pending (never later (by simp [split, memberLater]))
      have known := governed.known event member
      have obeys := governed.obeys event.thread _ (List.getElem?_eq_getElem known)
      obtain ⟨reply, returned⟩ := done _ (List.getElem_mem known)
      rw [returned, Program.obeys_ret, pending] at obeys
      cases obeys
    · intro isCheck zero
      by_contra early
      have refused := (refuses_iff run never member).mpr
        ⟨isCheck, zero, not_le.mp early⟩
      rw [(neverTripped event member).2] at refused
      cases refused

end Runs

/-- A token whose user is not found is an answer that is not counted. -/
theorem definite_answers_not_found :
    ∃ trace last, Run (M := validatorService .reference)
        (Pool.start (.new 5 30 .empty 0) [.validateUser ⟨1⟩]) trace last ∧
      last.Done ∧ NeverTripped trace := by
  let answered := { ValidatorEnv.calm with profile := .answered 404 none }
  obtain ⟨trace, last, run, passed⟩ := Run.exists_of_exec (M := validatorService .reference)
    [(0, answered), (0, answered), (0, answered)]
    (Pool.start (.new 5 30 .empty 0) [.validateUser ⟨1⟩])
    (fun trace last => last.done? && trace.all fun event =>
      Definite event.op event.res && !unauthorized event.op event.res)
    (by decide +kernel)
  simp only [Bool.and_eq_true, List.all_eq_true, decide_eq_true_eq,
    Bool.not_eq_true'] at passed
  obtain ⟨done, answers⟩ := passed
  refine ⟨trace, last, run, Pool.done_of_done? done, ?_⟩
  apply (definite_answers_trip_iff run fun event member => (answers event member).1).1
  intro event member
  exact ⟨(answers event member).2, fun _ zero => absurd zero (by decide)⟩

/-- Six tokens somebody has made up. -/
def madeUpTokens : List ValidatorCall :=
  [1, 2, 3, 4, 5, 6].map fun token => .validateUser ⟨token⟩

/-- Five of them are tried one after the other, and the Profile API answers 401 to each;
then the sixth is tried. -/
def tryTokens : List (Nat × ValidatorEnv) :=
  let rejected := { ValidatorEnv.calm with profile := .answered 401 none }
  ([0, 1, 2, 3, 4].flatMap fun i => [(i, rejected), (i, rejected), (i, rejected),
    (i, rejected)]) ++ [(5, rejected), (5, rejected)]

/-- The Profile API has answered every request, and the sixth is refused. -/
theorem definite_answers_trip :
    ∃ trace last, Run (M := validatorService .reference)
        (Pool.start (.new 5 30 .empty 0) madeUpTokens) trace last ∧
      (∀ event ∈ trace, Definite event.op event.res) ∧
      (∃ event ∈ trace, event.op = .recordFailure) ∧
      ∃ event ∈ trace, refuses event.op event.res = true := by
  obtain ⟨trace, last, run, passed⟩ := Run.exists_of_exec (M := validatorService .reference)
    tryTokens (Pool.start (.new 5 30 .empty 0) madeUpTokens)
    (fun trace _ => trace.all (fun event => Definite event.op event.res) &&
      trace.any (fun event => event.op = .recordFailure) &&
      trace.any fun event => refuses event.op event.res)
    (by decide +kernel)
  simp only [Bool.and_eq_true, List.all_eq_true, List.any_eq_true,
    decide_eq_true_eq] at passed
  exact ⟨trace, last, run, passed.1.1, passed.1.2, passed.2⟩

end SocialApi
