/-
Module: SocialApi.Proofs.AppLimits
Purpose: No request gets to the service past its rate limit: in every run a request is counted
  once, in its own bucket, and before its handler runs.
Trusted boundary: none
Main exports:
  letsPast, HttpRequest.counted, Gate, GateProtocol, application_gated,
  served_requests_were_let_past
-/
import SocialApi.Proofs.AppAuthorization

namespace SocialApi

open Process

/-- A check of the limiter that lets its request through. -/
def letsPast : (op : AppOp) → op.Res → Bool
  | .limiter (.checkLimit ..), .error _ => true
  | .limiter (.checkLimit ..), .ok status => status.allowed
  | _, _ => false

/-- What a request is counted as: behind authentication, as one of its user. -/
def HttpRequest.counted (setting : AppSetting) (req : HttpRequest) (userId : Option UserId) :
    Option LimitedRequest :=
  match req.route, userId with
  | .guarded _, some userId => some (req.limited (some userId) setting.rateLimitWritePerMinute)
  | .free _, _ => some (req.limited none setting.rateLimitReadPerMinute)
  | _, _ => none

/-- The check of a request. -/
def LimitedRequest.check (req : LimitedRequest) : AppOp :=
  .limiter (.checkLimit (extractKey req) req.limit req.window)

def AppOp.Checks : AppOp → Prop
  | .limiter (.checkLimit ..) => True
  | _ => False

theorem checks_of_letsPast {op : AppOp} {answer : op.Res} (lets : letsPast op answer = true) :
    op.Checks := by
  unfold letsPast at lets
  split at lets
  · trivial
  · trivial
  · cases lets

/-- How far a call has come: a request before its check, with the user it has been validated
for, a request that has been let through by a check, or refused, or a task. -/
inductive Gate where
  | waiting (req : HttpRequest) (userId : Option UserId)
  | passed (check : AppOp)
  | refused
  | task

/-- A gate of the request. -/
def Gate.Of (req : HttpRequest) : Gate → Prop
  | .waiting other _ => other = req
  | .task => False
  | _ => True

/-- The check that a gate was passed by. -/
def Gate.check : Gate → Option AppOp
  | .passed check => some check
  | _ => none

/-- The user that a request has been validated for. -/
def Gate.user : Gate → Option UserId
  | .waiting _ userId => userId
  | _ => none

namespace GateProtocol

variable (setting : AppSetting)

def initial : AppCall → Gate
  | .request req => .waiting req none
  | _ => .task

def advance : Gate → (op : AppOp) → op.Res → Gate
  | .waiting req _, .validator (.nextRun userId), _ => .waiting req (some userId)
  | .waiting _ _, .limiter (.checkLimit key limit windowSecs), answer =>
      if letsPast (.limiter (.checkLimit key limit windowSecs)) answer then
        .passed (.limiter (.checkLimit key limit windowSecs))
      else .refused
  | gate, _, _ => gate

def permitted : Gate → AppOp → Prop
  | .waiting req userId, .limiter op => ∃ counted, req.counted setting userId = some counted ∧
      AppOp.limiter op = counted.check
  | .waiting _ _, op =>
      (∃ asked, op = .validator asked) ∨ ∃ dependency, op = .healthCheck dependency
  | .refused, _ => False
  | .passed _, op => ¬ op.Checks
  | .task, op => ¬ op.Checks

def possible (_ : Gate) (op : AppOp) (_ : op.Res) : Prop := True

/-- The call is behind its check, or has none. -/
def Open : Gate → Prop
  | .passed _ | .task => True
  | _ => False

/-- Only what is behind its check waits for a verdict. -/
def final (gate : Gate) : AppCall ⊕ AppReply → Prop
  | .inl (.validating ..) => Open gate
  | .inl _ => False
  | .inr _ => True

/-- The program keeps the protocol, and ends as stated. -/
abbrev Gated {α : Type} (final : Gate → α → Prop) (program : AppProgram α) (gate : Gate) :
    Prop :=
  program.Obeys advance (permitted setting) possible final gate

variable {setting}

theorem Open.permits {gate : Gate} (isOpen : Open gate) {op : AppOp} (checks : ¬ op.Checks) :
    permitted setting gate op := by
  cases gate with
  | passed check => exact checks
  | task => exact checks
  | waiting req userId => exact isOpen.elim
  | refused => exact isOpen.elim

theorem Open.advance {gate : Gate} (isOpen : Open gate) (op : AppOp) (answer : op.Res) :
    GateProtocol.advance gate op answer = gate := by
  cases gate with
  | passed check => rfl
  | task => rfl
  | waiting req userId => exact isOpen.elim
  | refused => exact isOpen.elim

theorem advance_of {req : HttpRequest} {gate : Gate} (op : AppOp) (answer : op.Res)
    (own : gate.Of req) : (advance gate op answer).Of req := by
  cases gate with
  | waiting other userId =>
      unfold advance
      split
      · next same =>
        obtain ⟨rfl, _⟩ := Gate.waiting.inj same
        exact own
      · split <;> trivial
      · exact own
  | passed check => trivial
  | refused => trivial
  | task => exact own.elim

theorem advance_check (gate : Gate) (op : AppOp) (answer : op.Res) (check : AppOp)
    (seen : (advance gate op answer).check = some check) :
    gate.check = some check ∨ op = check ∧ letsPast op answer = true := by
  cases gate with
  | waiting req userId =>
      unfold advance at seen
      split at seen
      · cases seen
      · split at seen
        · next lets => exact .inr ⟨Option.some.inj seen, lets⟩
        · cases seen
      · exact .inl seen
  | _ => exact .inl seen

theorem advance_user (gate : Gate) (op : AppOp) (answer : op.Res) (userId : UserId)
    (seen : (advance gate op answer).user = some userId) :
    gate.user = some userId ∨ op = .validator (.nextRun userId) := by
  cases gate with
  | waiting req found =>
      unfold advance at seen
      split at seen
      · obtain rfl := Option.some.inj seen
        exact .inr rfl
      · split at seen <;> cases seen
      · exact .inl seen
  | _ => exact .inl seen

theorem advance_at_check (req : HttpRequest) (userId : Option UserId) {op : AppOp}
    (answer : op.Res) (checks : op.Checks) :
    advance (.waiting req userId) op answer =
      if letsPast op answer then .passed op else .refused := by
  cases op with
  | limiter op =>
      cases op with
      | checkLimit key limit windowSecs => rfl
      | nextRun => exact checks.elim
  | _ => exact checks.elim

/-- A validation leaves a request where it is. -/
theorem inValidator_gated {α : Type} {program : Validator α} {gate : Gate}
    (keeps : program.Performs ValidatorOp.KeepsApart) (here : gate ≠ .refused) :
    Gated setting (fun reached _ => reached = gate) (inValidator program) gate := by
  induction program with
  | ret value => rfl
  | perform op next inductionHypothesis =>
      have permits : permitted setting gate (.validator op) := by
        cases gate with
        | waiting req userId => exact .inl ⟨op, rfl⟩
        | refused => exact absurd rfl here
        | _ => exact id
      refine ⟨permits, fun answer _ => ?_⟩
      have stays : advance gate (.validator op) answer = gate := by
        cases op with
        | nextRun userId => exact keeps.1.elim
        | _ => cases gate <;> rfl
      rw [stays]
      exact inductionHypothesis answer (keeps.2 answer)

/-- A program of the service runs behind the check. -/
theorem runService_gated {service : Service AppReply} {gate : Gate} (isOpen : Open gate) :
    Gated setting final (runService setting.validator service) gate := by
  have here : gate ≠ .refused := by
    rintro rfl
    exact isOpen
  induction service with
  | ret reply => trivial
  | perform op next inductionHypothesis =>
      cases op with
      | validateContent cType cId =>
          rw [runService]
          apply (inValidator_gated (validateContent_keepsApart setting.validator cType cId)
            here).bind
          rintro reached result rfl
          cases result with
          | none => exact isOpen
          | some verdict =>
              refine ⟨isOpen.permits id, fun _ _ => ?_⟩
              rw [isOpen.advance]
              exact inductionHypothesis verdict
      | _ =>
          refine ⟨isOpen.permits id, fun answer _ => ?_⟩
          rw [isOpen.advance]
          exact inductionHypothesis answer

/-- The layer counts the request, and runs the handler when it is let through. -/
theorem rateLimited_gated {req : HttpRequest} {userId : Option UserId} {counted : LimitedRequest}
    (counts : req.counted setting userId = some counted) (handler : Service AppReply) :
    Gated setting final (rateLimited setting.validator counted handler)
      (.waiting req userId) := by
  refine ⟨⟨counted, counts, rfl⟩, fun answer _ => ?_⟩
  cases answer with
  | error e => exact ⟨id, fun _ _ => runService_gated trivial⟩
  | ok status =>
      obtain ⟨allowed, remaining, resetAfter⟩ := status
      cases allowed with
      | false => trivial
      | true => exact ⟨id, fun _ _ => runService_gated trivial⟩

theorem serve_gated (req : HttpRequest) :
    Gated setting final (req.serve setting) (initial (.request req)) := by
  unfold HttpRequest.serve
  split
  · next route guards =>
    unfold authenticated
    cases parsed : bearerToken setting.validator req.authorization with
    | none => trivial
    | some token =>
        apply (inValidator_gated (validateUser_keepsApart setting.validator token)
          Gate.noConfusion).bind
        rintro reached result rfl
        cases result with
        | error e => trivial
        | ok userId =>
            refine ⟨.inl ⟨_, rfl⟩, fun _ _ => rateLimited_gated ?_ _⟩
            simp [HttpRequest.counted, guards]
  · next route free =>
    apply rateLimited_gated
    simp [HttpRequest.counted, free]
  · trivial
  · refine ⟨.inr ⟨_, rfl⟩, fun first _ => ?_⟩
    cases first with
    | error e => trivial
    | ok _ =>
        refine ⟨.inr ⟨_, rfl⟩, fun second _ => ?_⟩
        cases second with
        | error e => trivial
        | ok _ =>
            refine ⟨.inr ⟨_, rfl⟩, fun third _ => ?_⟩
            cases third <;> trivial

/-- Every call that starts keeps the protocol. -/
theorem body_gated (call : AppCall) (starts : call.Starts) :
    Gated setting final (call.body setting) (initial call) := by
  cases call with
  | request req => exact serve_gated req
  | validating cType cId next => exact starts.elim
  | task task => exact runService_gated trivial

/-- So does a handler that has waited for a verdict. -/
theorem tail_gated (gate : Gate) (target : AppCall) (ended : final gate (.inl target)) :
    Gated setting final (target.body setting) gate := by
  cases target with
  | validating cType cId next => exact runService_gated ended
  | _ => exact ended.elim

end GateProtocol

/-! ### Runs -/

section Runs

variable {setting : AppSetting} {start : AppState} {requests : List HttpRequest}
  {trace before after : List (Event (application setting))} {last : Pool (application setting)}
  {event : Event (application setting)}

/-- Where a call has come to after a trace. -/
def gateAfter (thread : Nat) (call : AppCall) (trace : List (Event (application setting))) :
    Gate :=
  controlAfter (M := application setting) GateProtocol.advance thread (GateProtocol.initial call)
    trace

/-- The run law of the protocol. -/
theorem application_gated
    (run : Run (M := application setting) (Pool.start start (requests.map .request)) trace last)
    (split : trace = before ++ event :: after) :
    GateProtocol.permitted setting (gateAfter event.thread event.call before) event.op := by
  have among : ∀ call ∈ requests.map AppCall.request, call.Starts := by
    intro call member
    obtain ⟨req, _, rfl⟩ := List.mem_map.mp member
    trivial
  refine (Run.obeys_among (M := application setting) GateProtocol.body_gated
    GateProtocol.tail_gated ?_ among run (fun _ _ _ _ => trivial)).2 before event after split
  intro earlier performed later next spawned parts _ handled call started
  obtain ⟨task, is, rfl⟩ := AppState.handle_spawned handled started
  have permits := application_obeys run parts
  rw [is] at permits
  exact permits.2 task rfl

theorem gate_of_request (thread : Nat) (req : HttpRequest)
    (trace : List (Event (application setting))) :
    (gateAfter thread (.request req) trace).Of req :=
  controlAfter_preserves (M := application setting) (Gate.Of req)
    (fun event _ _ own => GateProtocol.advance_of event.op event.res own) rfl

/-- A gate is passed by a check of the thread. -/
theorem passed_origin {thread : Nat} {call : AppCall} {check : AppOp}
    (passed : gateAfter thread call before = .passed check) :
    ∃ front checked back, before = front ++ checked :: back ∧ checked.thread = thread ∧
      checked.op = check ∧ letsPast checked.op checked.res = true := by
  have seen : (gateAfter thread call before).check = some check := by
    rw [passed]
    rfl
  obtain ⟨front, checked, back, split, own, is, lets⟩ := controlAfter_origin
    (M := application setting) Gate.check
    (fun (op : AppOp) (answer : op.Res) check => op = check ∧ letsPast op answer = true)
    GateProtocol.advance_check (by cases call <;> rfl) seen
  exact ⟨front, checked, back, split, own, is, lets⟩

/-- A request waits for its check as one of a user once it has been validated for them. -/
theorem waiting_origin {thread : Nat} {call : AppCall} {req : HttpRequest} {userId : UserId}
    (waits : gateAfter thread call before = .waiting req (some userId)) :
    ∃ validated ∈ before, validated.thread = thread ∧
      validated.op = .validator (.nextRun userId) := by
  have seen : (gateAfter thread call before).user = some userId := by
    rw [waits]
    rfl
  obtain ⟨front, validated, back, rfl, own, is⟩ := controlAfter_origin
    (M := application setting) Gate.user
    (fun (op : AppOp) (_ : op.Res) userId => op = .validator (.nextRun userId))
    GateProtocol.advance_user (by cases call <;> rfl) seen
  exact ⟨validated, by simp, own, is⟩

/-- A check is made once its request waits for it, as what the request is counted as. -/
theorem waits_at_check
    (run : Run (M := application setting) (Pool.start start (requests.map .request)) trace last)
    (split : trace = before ++ event :: after) (checks : event.op.Checks) :
    ∃ req userId counted, gateAfter event.thread event.call before = .waiting req userId ∧
      req.counted setting userId = some counted ∧ event.op = counted.check := by
  have permits := application_gated run split
  generalize gateAfter event.thread event.call before = gate at permits
  cases gate with
  | waiting req userId =>
      cases is : event.op with
      | limiter op =>
          rw [is] at permits
          obtain ⟨counted, counts, checked⟩ := permits
          exact ⟨req, userId, counted, rfl, counts, checked⟩
      | _ =>
          rw [is] at checks
          exact checks.elim
  | passed check => exact absurd checks permits
  | refused => exact permits.elim
  | task => exact absurd checks permits

/-- From its check on, a request stays let through or refused. -/
theorem gate_after_check
    (run : Run (M := application setting) (Pool.start start (requests.map .request)) trace last)
    (split : trace = before ++ event :: after) (checks : event.op.Checks)
    (middle : List (Event (application setting))) :
    gateAfter event.thread event.call (before ++ event :: middle) =
      if letsPast event.op event.res then .passed event.op else .refused := by
  obtain ⟨req, userId, counted, waits, _, _⟩ := waits_at_check run split checks
  have here : gateAfter event.thread event.call (before ++ [event]) =
      if letsPast event.op event.res then .passed event.op else .refused := by
    rw [gateAfter, controlAfter_concat_self]
    rw [gateAfter] at waits
    rw [waits, GateProtocol.advance_at_check req userId event.res checks]
  have parts : before ++ event :: middle = (before ++ [event]) ++ middle := by simp
  rw [parts, gateAfter, controlAfter_append]
  rw [gateAfter] at here
  rw [here]
  refine controlAfter_preserves (M := application setting) (fun gate => gate = _) ?_ rfl
  rintro later _ gate rfl
  split <;> rfl

/-- After its check a request makes no other, and a refused request does nothing at all. -/
theorem only_check
    (run : Run (M := application setting) (Pool.start start (requests.map .request)) trace last)
    (split : trace = before ++ event :: after) (checks : event.op.Checks)
    {later : Event (application setting)} (among : later ∈ after)
    (same : later.thread = event.thread) :
    letsPast event.op event.res = true ∧ ¬ later.op.Checks := by
  obtain ⟨middle, rest, rfl⟩ := List.append_of_mem among
  have one := run.same_call (by simp [split]) (by simp [split]) same
  have permits := application_gated run
    (show trace = (before ++ event :: middle) ++ later :: rest by simp [split])
  rw [same, one, gate_after_check run split checks] at permits
  split at permits
  · next lets => exact ⟨lets, permits⟩
  · exact permits.elim

/-- What a request is counted as by a check: as one of the user that it has been validated for
before, or of its address. -/
structure CountedBy (setting : AppSetting) (req : HttpRequest)
    (before : List (Event (application setting))) (check : Event (application setting)) :
    Prop where
  counts : ∃ userId counted, req.counted setting userId = some counted ∧
    check.op = counted.check ∧ ∀ user, userId = some user →
      ∃ validated ∈ before, validated.thread = check.thread ∧
        validated.op = .validator (.nextRun user)

/-- In every interleaving of requests and tasks: before its first step of the service, a request
has made one check of the limiter, in the bucket that is its own, and has been let through by
it; it makes no other check; and a request that its check refuses takes no further step. -/
theorem served_requests_were_let_past (setting : AppSetting) (start : AppState)
    (requests : List HttpRequest) (trace : List (Event (application setting)))
    (last : Pool (application setting))
    (run : Run (M := application setting) (Pool.start start (requests.map .request)) trace
      last) :
    (∀ before event after req op, trace = before ++ event :: after →
      event.call = .request req → event.op = .like op →
        ∃ front check back, before = front ++ check :: back ∧ check.thread = event.thread ∧
          CountedBy setting req front check ∧ letsPast check.op check.res = true ∧
          ∀ other ∈ front ++ back ++ event :: after, other.thread = event.thread →
            ¬ other.op.Checks) ∧
      ∀ before check after, trace = before ++ check :: after → check.op.Checks →
        letsPast check.op check.res = false → ∀ later ∈ after, later.thread ≠ check.thread := by
  constructor
  · intro before event after req op split request serves
    have permits := application_gated run split
    rw [serves, request] at permits
    have own := gate_of_request event.thread req before
    cases gate : gateAfter event.thread (.request req) before with
    | waiting other userId =>
        rw [gate] at permits
        rcases permits with ⟨_, is⟩ | ⟨_, is⟩ <;> cases is
    | refused =>
        rw [gate] at permits
        exact permits.elim
    | task =>
        rw [gate] at own
        exact own.elim
    | passed checked =>
        obtain ⟨front, check, back, rfl, thread, is, lets⟩ := passed_origin gate
        have parts : trace = front ++ check :: (back ++ event :: after) := by simp [split]
        have checks := checks_of_letsPast lets
        obtain ⟨other, userId, counted, waits, counts, asks⟩ := waits_at_check run parts checks
        have call : check.call = .request req :=
          (run.same_call (by simp [parts]) (by simp [parts]) thread).trans request
        have mine := gate_of_request check.thread req front
        rw [call] at waits
        rw [waits] at mine
        obtain rfl : other = req := mine
        refine ⟨front, check, back, rfl, thread, ⟨userId, counted, counts, asks, ?_⟩, lets, ?_⟩
        · rintro user rfl
          exact waiting_origin waits
        · intro another member same
          rw [List.append_assoc] at member
          rcases List.mem_append.mp member with earlier | later
          · intro checksToo
            obtain ⟨start, middle, rfl⟩ := List.append_of_mem earlier
            have earlier_parts : trace =
                start ++ another :: (middle ++ check :: (back ++ event :: after)) := by
              simp [parts]
            exact (only_check run earlier_parts checksToo (by simp)
              (thread.trans same.symm)).2 checks
          · exact (only_check run parts checks later (same.trans thread.symm)).2
  · intro before check after split checks refused later among same
    have lets := (only_check run split checks among same).1
    rw [refused] at lets
    cases lets

/-- A step of the service for a request. -/
def servesRequest (event : Event (application setting)) : Bool :=
  match event.call, event.op with
  | .request _, .like _ => true
  | _, _ => false

theorem of_servesRequest {event : Event (application setting)}
    (serves : servesRequest event = true) :
    ∃ req op, event.call = .request req ∧ event.op = .like op := by
  unfold servesRequest at serves
  split at serves
  · next req op call is => exact ⟨req, op, call, is⟩
  · cases serves

end Runs

/-- A request to like the post is let past, as one of the user that its token is taken for. -/
theorem served_requests_were_let_past_like :
    ∃ trace last, Run (M := application .reference)
        (Pool.start (.new twoLikes 5 30)
          ([.from (some 3) (.guarded (.postLike (.ok ⟨postType, postId⟩)))].map .request))
        trace last ∧
      ∃ check ∈ trace, ∃ event ∈ trace, servesRequest event = true ∧
        check.thread = event.thread ∧ letsPast check.op check.res = true := by
  obtain ⟨trace, last, run, passed⟩ := Run.exists_of_exec (M := application .reference)
    (List.replicate 18 (0, .knowing 5 9))
    (Pool.start (.new twoLikes 5 30)
      ([.from (some 3) (.guarded (.postLike (.ok ⟨postType, postId⟩)))].map .request))
    (fun trace _ => trace.any servesRequest) (by decide +kernel)
  obtain ⟨event, member, serves⟩ := List.any_eq_true.mp passed
  obtain ⟨before, after, split⟩ := List.append_of_mem member
  obtain ⟨req, op, call, is⟩ := of_servesRequest serves
  obtain ⟨front, check, back, rfl, thread, _, lets, _⟩ :=
    (served_requests_were_let_past .reference (.new twoLikes 5 30) _ trace last run).1 before
      event after req op split call is
  exact ⟨trace, last, run, check, by simp [split], event, member, serves, thread, lets⟩

end SocialApi
