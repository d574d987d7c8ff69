/-
Module: SocialApi.Proofs.BreakerHistory
Purpose: What the cells of the breaker know about the outcomes recorded so far, and
  which of the overlapping calls it lets through because of that.
Trusted boundary: none
Main exports:
  CircuitBreaker.KeepsFailures, Remembers, remembers_followAll, failures_eq_streak,
  Refused, LetThrough, failing_streak_refused, refusal_has_cause
-/
import SocialApi.Infrastructure.BreakerCalls

namespace SocialApi

open Process
open Ledger (Attempt streak lastFailure)

/-! ### The cells and the outcomes -/

namespace CircuitBreaker

/-- A check in these cells leaves the failures counted so far alone. -/
def KeepsFailures (breaker : CircuitBreaker) : Prop :=
  breaker.state = .closed ∨ breaker.failures = 0 ∨ breaker.threshold ≤ breaker.failures

instance (breaker : CircuitBreaker) : Decidable breaker.KeepsFailures :=
  inferInstanceAs (Decidable (_ ∨ _ ∨ _))

theorem finalState_opened {breaker : CircuitBreaker} {now : Int} :
    breaker.finalState now = .opened ↔
      breaker.threshold ≤ breaker.failures ∧
        now - breaker.lastFailureTime < breaker.timeout := by
  unfold finalState
  split
  · next few =>
      constructor
      · intro absurd
        cases absurd
      · rintro ⟨many, _⟩
        exact absurd few (Nat.not_lt.mpr many)
  · next many =>
      split
      · next late =>
          constructor
          · intro absurd
            cases absurd
          · rintro ⟨_, early⟩
            exact absurd late (not_le.mpr early)
      · next early => exact ⟨fun _ => ⟨Nat.not_lt.mp many, not_le.mp early⟩, fun _ => rfl⟩

/-- A transition to `Closed` forgets failures that have been counted since the breaker
left that state; every other check keeps the counter. -/
theorem checkState_failures_iff {breaker : CircuitBreaker} {now : Int} :
    (breaker.checkState now).2.failures = breaker.failures ↔ breaker.KeepsFailures := by
  unfold checkState KeepsFailures
  split
  · next moved =>
      dsimp only
      split
      · next closed =>
          have few := finalState_closed_iff.mp closed
          rw [closed] at moved
          constructor
          · intro same
            exact .inr (.inl same.symm)
          · rintro (still | zero | many)
            · exact absurd still moved
            · exact zero.symm
            · exact absurd few (Nat.not_lt.mpr many)
      · next notClosed =>
          have many := Nat.not_lt.mp (mt finalState_closed_iff.mpr notClosed)
          exact ⟨fun _ => .inr (.inr many), fun _ => rfl⟩
  · next stayed =>
      have same : breaker.state = breaker.finalState now := not_not.mp stayed
      refine ⟨fun _ => ?_, fun _ => rfl⟩
      rcases Nat.lt_or_ge breaker.failures breaker.threshold with few | many
      · exact .inl (same.trans (finalState_closed_iff.mpr few))
      · exact .inr (.inr many)

/-- A check that refuses changes no more than the stored state. -/
theorem checkState_of_opened {breaker : CircuitBreaker} {now : Int}
    (opened : breaker.finalState now = .opened) :
    (breaker.checkState now).2 = { breaker with state := .opened } := by
  unfold checkState
  rw [opened]
  split
  · rw [if_neg (by decide)]
  · next stayed => rw [← not_not.mp stayed]

theorem checkState_failures_le (breaker : CircuitBreaker) (now : Int) :
    (breaker.checkState now).2.failures ≤ breaker.failures := by
  unfold checkState
  split
  · dsimp only
    split
    · exact Nat.zero_le _
    · exact le_rfl
  · exact le_rfl

theorem checkState_kept (breaker : CircuitBreaker) (now : Int) :
    (breaker.checkState now).2.threshold = breaker.threshold ∧
      (breaker.checkState now).2.timeout = breaker.timeout ∧
      (breaker.checkState now).2.lastFailureTime = breaker.lastFailureTime := by
  unfold checkState
  split <;> exact ⟨rfl, rfl, rfl⟩

end CircuitBreaker

/-- What the cells always know of the outcomes: the counter is at most the streak of
failures, and the date is that of the last failure. -/
structure Remembers (threshold : Nat) (timeout : Int) (history : List (Attempt Int))
    (breaker : CircuitBreaker) : Prop where
  threshold_eq : breaker.threshold = threshold
  timeout_eq : breaker.timeout = timeout
  counted : breaker.failures ≤ streak history
  dated : ∀ date, lastFailure history = some date → breaker.lastFailureTime = date

section Remembers

theorem remembers_followAll (threshold : Nat) (timeout : Int) (steps : List BreakerStep) :
    Remembers threshold timeout (outcomes steps)
      ((CircuitBreaker.fromEnv threshold timeout).followAll steps) := by
  induction steps using List.reverseRecOn with
  | nil =>
      refine ⟨rfl, rfl, le_rfl, ?_⟩
      intro date absurd
      cases absurd
  | append_singleton steps step inductionHypothesis =>
      obtain ⟨threshold_eq, timeout_eq, counted, dated⟩ := inductionHypothesis
      rw [CircuitBreaker.followAll_concat]
      generalize (CircuitBreaker.fromEnv threshold timeout).followAll steps = breaker at *
      cases step with
      | checkState now =>
          obtain ⟨sameThreshold, sameTimeout, sameDate⟩ := breaker.checkState_kept now
          rw [outcomes_concat_checkState]
          constructor
          · exact sameThreshold.trans threshold_eq
          · exact sameTimeout.trans timeout_eq
          · exact (breaker.checkState_failures_le now).trans counted
          · intro date last
            exact sameDate.trans (dated date last)
      | reset =>
          rw [outcomes_concat_reset]
          constructor
          · exact threshold_eq
          · exact timeout_eq
          · exact Nat.zero_le _
          · intro date last
            rw [Ledger.lastFailure_concat_succeeded] at last
            exact dated date last
      | recordFailure now =>
          rw [outcomes_concat_recordFailure]
          constructor
          · exact threshold_eq
          · exact timeout_eq
          · rw [Ledger.streak_concat_failed]
            exact (Nat.mod_le _ _).trans (Nat.succ_le_succ counted)
          · intro date last
            rw [Ledger.lastFailure_concat_failed] at last
            exact Option.some.inj last

variable {threshold : Nat} {timeout : Int}

/-- Behind a refusal there are enough failures since the latest success, and the last of
them is recent. -/
theorem Remembers.cause {history : List (Attempt Int)} {breaker : CircuitBreaker} {now : Int}
    (remembers : Remembers threshold timeout history breaker) (positive : 0 < threshold)
    (opened : breaker.finalState now = .opened) :
    threshold ≤ streak history ∧
      ∃ date, lastFailure history = some date ∧ now - date < timeout := by
  obtain ⟨many, recent⟩ := CircuitBreaker.finalState_opened.mp opened
  have enough : threshold ≤ streak history :=
    remembers.threshold_eq ▸ many.trans remembers.counted
  obtain ⟨date, last⟩ := Ledger.exists_lastFailure (positive.trans_le enough)
  rw [remembers.dated date last, remembers.timeout_eq] at recent
  exact ⟨enough, date, last, recent⟩

/-- As long as no check forgets failures, the counter is the streak. -/
theorem failures_eq_streak {steps : List BreakerStep}
    (few : (outcomes steps).countP Attempt.isFailure < 2 ^ 32)
    (kept : ∀ before now after, steps = before ++ .checkState now :: after →
      ((CircuitBreaker.fromEnv threshold timeout).followAll before).KeepsFailures) :
    ((CircuitBreaker.fromEnv threshold timeout).followAll steps).failures =
      streak (outcomes steps) := by
  induction steps using List.reverseRecOn with
  | nil => rfl
  | append_singleton steps step inductionHypothesis =>
      have keptBefore : ∀ before now after, steps = before ++ .checkState now :: after →
          ((CircuitBreaker.fromEnv threshold timeout).followAll before).KeepsFailures := by
        intro before now after split
        exact kept before now (after ++ [step]) (by simp [split])
      rw [CircuitBreaker.followAll_concat]
      cases step with
      | checkState now =>
          rw [outcomes_concat_checkState] at few ⊢
          rw [← inductionHypothesis few keptBefore]
          exact CircuitBreaker.checkState_failures_iff.mpr (kept steps now [] rfl)
      | reset =>
          rw [outcomes_concat_reset, Ledger.streak_concat_succeeded]
          rfl
      | recordFailure now =>
          rw [outcomes_concat_recordFailure] at few ⊢
          rw [List.countP_append] at few
          have fewBefore : (outcomes steps).countP Attempt.isFailure + 1 < 2 ^ 32 := few
          have counted := inductionHypothesis (Nat.lt_of_succ_lt fewBefore) keptBefore
          have short := Ledger.streak_le_failures (outcomes steps)
          rw [Ledger.streak_concat_failed, CircuitBreaker.follow,
            CircuitBreaker.recordFailure, counted]
          exact Nat.mod_eq_of_lt (by omega)

end Remembers

/-! ### A call that starts -/

namespace BreakerCall

variable {T : Type}

/-- The rest of a call after its future. -/
def awaited : Except DomainError T → BreakerCall T (Unit ⊕ Except DomainError T)
  | .ok data => .perform .reset fun _ => .ret (.inr (.ok data))
  | .error (.dependencyUnavailable service) =>
      .perform .recordFailure fun _ => .ret (.inr (.error (.dependencyUnavailable service)))
  | .error err => .ret (.inr (.error err))

/-- The rest of a call after its check. -/
def checked : BreakerState → BreakerCall T (Unit ⊕ Except DomainError T)
  | .opened => .ret (.inr (.error (.dependencyUnavailable "todo")))
  | .closed | .halfOpen => .perform .awaitFuture awaited

theorem body_eq : (breakerService T).body () = .perform .checkState checked := by
  have rest : (fun result : Except DomainError T =>
      (CircuitBreaker.recordOutcome result >>= fun value => pure (.inr value) :
        BreakerCall T (Unit ⊕ Except DomainError T))) = awaited := by
    funext result
    cases result with
    | ok data => rfl
    | error err => cases err <;> rfl
  simp only [CircuitBreaker.call, Program.request_bind, Program.bind_perform]
  congr 1
  funext state
  cases state with
  | opened => rfl
  | closed => exact congrArg _ rest
  | halfOpen => exact congrArg _ rest

/-- What can be left of a call. -/
inductive AtPoint (rest : BreakerCall T (Unit ⊕ Except DomainError T)) : Prop where
  | start (here : rest = .perform .checkState checked)
  | awaiting (here : rest = .perform .awaitFuture awaited)
  | resetting (data : T) (here : rest = .perform .reset fun _ => .ret (.inr (.ok data)))
  | recording (error : DomainError)
      (here : rest = .perform .recordFailure fun _ => .ret (.inr (.error error)))
  | returned (result : Except DomainError T) (here : rest = .ret (.inr result))

theorem AtPoint.checked (state : BreakerState) :
    AtPoint (BreakerCall.checked state : BreakerCall T _) := by
  cases state with
  | opened => exact .returned _ rfl
  | closed => exact .awaiting rfl
  | halfOpen => exact .awaiting rfl

theorem AtPoint.awaited (result : Except DomainError T) :
    AtPoint (BreakerCall.awaited result) := by
  cases result with
  | ok data => exact .resetting data rfl
  | error err =>
      cases err with
      | dependencyUnavailable service => exact .recording _ rfl
      | _ => exact .returned _ rfl

theorem AtPoint.perform {op : BreakerOp}
    {next : op.Res T → BreakerCall T (Unit ⊕ Except DomainError T)} (answer : op.Res T)
    (point : AtPoint (.perform op next)) : AtPoint (next answer) := by
  cases point with
  | start here =>
      obtain ⟨rfl, same⟩ := Program.perform.inj here
      rw [eq_of_heq same]
      exact .checked answer
  | awaiting here =>
      obtain ⟨rfl, same⟩ := Program.perform.inj here
      rw [eq_of_heq same]
      exact .awaited answer
  | resetting data here =>
      obtain ⟨rfl, same⟩ := Program.perform.inj here
      rw [eq_of_heq same]
      exact .returned _ rfl
  | recording error here =>
      obtain ⟨rfl, same⟩ := Program.perform.inj here
      rw [eq_of_heq same]
      exact .returned _ rfl
  | returned result here => cases here

/-- Only the first step of a call is a check. -/
theorem AtPoint.of_check {next : BreakerState → BreakerCall T (Unit ⊕ Except DomainError T)}
    (point : AtPoint (.perform .checkState next)) : next = BreakerCall.checked := by
  cases point with
  | start here => exact eq_of_heq (Program.perform.inj here).2
  | awaiting here => cases (Program.perform.inj here).1
  | resetting data here => cases (Program.perform.inj here).1
  | recording error here => cases (Program.perform.inj here).1
  | returned result here => cases here

theorem AtPoint.not_tail {target : Unit}
    (point : AtPoint (.ret (.inl target) : BreakerCall T (Unit ⊕ Except DomainError T))) :
    False := by
  cases point with
  | returned result here => cases here
  | _ => contradiction

end BreakerCall

section Runs

variable {T : Type} {threshold : Nat} {timeout clock : Int} {calls : List Unit}
  {trace : List (Event (breakerService T))} {last next : Pool (breakerService T)}
  {event : Event (breakerService T)}

/-- The outcomes recorded in a trace. -/
def recorded (trace : List (Event (breakerService T))) : List (Attempt Int) :=
  outcomes (breakerSteps trace)

/-- The call has come back with the error of an open breaker. -/
def Refused (i : Nat) (pool : Pool (breakerService T)) : Prop :=
  ∃ call, pool.threads[i]? =
    some ⟨call, .ret (.inr (.error (.dependencyUnavailable "todo")))⟩

/-- The call is about to run its future. -/
def LetThrough (i : Nat) (pool : Pool (breakerService T)) : Prop :=
  ∃ call rest, pool.threads[i]? = some ⟨call, .perform .awaitFuture rest⟩

theorem BreakerCall.checked_cases {i : Nat} {call : Unit} {state : BreakerState}
    {pool : Pool (breakerService T)}
    (at_i : pool.threads[i]? = some ⟨call, BreakerCall.checked state⟩) :
    (state = .opened ∧ Refused i pool ∧ ¬ LetThrough i pool) ∨
      (state ≠ .opened ∧ ¬ Refused i pool ∧ LetThrough i pool) := by
  have through : state ≠ .opened → ¬ Refused i pool ∧ LetThrough i pool := by
    intro notOpened
    have rest : (BreakerCall.checked state : BreakerCall T _) =
        .perform .awaitFuture BreakerCall.awaited := by
      cases state with
      | opened => exact absurd rfl notOpened
      | closed => rfl
      | halfOpen => rfl
    rw [rest] at at_i
    refine ⟨?_, call, _, at_i⟩
    rintro ⟨_, refused⟩
    rw [at_i] at refused
    cases refused
  by_cases opened : state = .opened
  · subst opened
    refine .inl ⟨rfl, ⟨call, at_i⟩, ?_⟩
    rintro ⟨_, _, awaiting⟩
    rw [at_i] at awaiting
    cases awaiting
  · exact .inr ⟨opened, through opened⟩

/-- What the cells are after a run. -/
theorem breaker_after (run : Run (M := breakerService T)
      (Pool.start (.new threshold timeout clock) calls) trace last) :
    last.state.breaker =
      (CircuitBreaker.fromEnv threshold timeout).followAll (breakerSteps trace) :=
  followAll_breakerSteps run.replays

/-- The first step of a call: it goes on as its check of the cells says. -/
theorem check_step (run : Run (M := breakerService T)
      (Pool.start (.new threshold timeout clock) calls) trace last)
    (step : Pool.Step last (some event) next) (starts : event.op = .checkState) :
    next.threads[event.thread]? = some ⟨event.call, BreakerCall.checked
        (last.state.breaker.finalState (breakerTime event))⟩ ∧
      next.state.breaker = (last.state.breaker.checkState (breakerTime event)).2 := by
  cases step with
  | @perform i call op rest env answer after spawned at_op handled =>
      obtain rfl : op = .checkState := starts
      have point := run.points (M := breakerService T)
        (P := fun _ rest => BreakerCall.AtPoint rest)
        (fun _ => BreakerCall.body_eq ▸ .start rfl)
        (fun _ _ _ answer point => point.perform answer)
        (fun _ _ point => point.not_tail.elim) _ (List.mem_of_getElem? at_op)
      have continues : rest = BreakerCall.checked := BreakerCall.AtPoint.of_check point
      simp only [BreakerWorld.handle, Option.some.injEq, Prod.mk.injEq] at handled
      obtain ⟨rfl, rfl, rfl⟩ := handled
      have bound := (List.getElem?_eq_some_iff.mp at_op).1
      constructor
      · rw [List.map_nil, List.append_nil, List.getElem?_set_self bound, continues,
          CircuitBreaker.checkState_fst]
        rfl
      · rfl

/-- Every check of the run leaves the failures counted so far alone. -/
def ChecksKeepFailures (trace : List (Event (breakerService T))) : Prop :=
  ∀ event ∈ trace, event.op = .checkState → event.before.breaker.KeepsFailures

theorem ChecksKeepFailures.steps (run : Run (M := breakerService T)
      (Pool.start (.new threshold timeout clock) calls) trace last)
    (kept : ChecksKeepFailures trace) {before after : List BreakerStep} {now : Int}
    (split : breakerSteps trace = before ++ .checkState now :: after) :
    ((CircuitBreaker.fromEnv threshold timeout).followAll before).KeepsFailures := by
  obtain ⟨front, back, rfl, rfl, rest⟩ := List.filterMap_eq_append_iff.mp split
  obtain ⟨skipped, event, later, rfl, quiet, isCheck, -⟩ := List.filterMap_eq_cons_iff.mp rest
  have checks : event.op = .checkState := by
    unfold BreakerStep.ofEvent at isCheck
    split at isCheck
    · assumption
    · cases isCheck
    · cases isCheck
    · cases isCheck
  have replays := run.replays
  rw [← List.append_assoc] at replays
  have cells := followAll_breakerSteps replays.until_event.1
  have unchanged : breakerSteps (front ++ skipped) = List.filterMap BreakerStep.ofEvent front := by
    rw [breakerSteps, List.filterMap_append, List.filterMap_eq_nil_iff.mpr quiet,
      List.append_nil]
  rw [unchanged] at cells
  have keeps := kept event (by simp) checks
  rw [cells] at keeps
  exact keeps

end Runs

/-! ### Schedules -/

/-- The executable form of `Refused`. -/
def refused? (i : Nat) (pool : Pool (breakerService Unit)) : Bool :=
  match pool.threads[i]? with
  | some ⟨_, .ret (.inr (.error error))⟩ => error = .dependencyUnavailable "todo"
  | _ => false

theorem refused_of_refused? {i : Nat} {pool : Pool (breakerService Unit)}
    (refused : refused? i pool = true) : Refused i pool := by
  unfold refused? at refused
  split at refused
  · next call error at_i =>
      rw [decide_eq_true_eq.mp refused] at at_i
      exact ⟨call, at_i⟩
  · cases refused

theorem refused?_of_refused {i : Nat} {pool : Pool (breakerService Unit)}
    (refused : Refused i pool) : refused? i pool = true := by
  obtain ⟨call, at_i⟩ := refused
  rw [refused?, at_i]
  rfl

/-- Time passes, and the future succeeds. -/
def BreakerEnv.succeeds (elapse : Nat) : BreakerEnv Unit := ⟨elapse, .ok ()⟩

/-- Time passes, and the future fails. -/
def BreakerEnv.fails (elapse : Nat) : BreakerEnv Unit :=
  ⟨elapse, .error (.dependencyUnavailable "API")⟩

/-- A call that runs alone and fails. -/
def failAlone (i : Nat) : List (Nat × BreakerEnv Unit) :=
  List.replicate 3 (i, .fails 0)

/-- The executable form of the premises of the next theorem. -/
def tripped? (threshold timeout : Nat) (trace : List (Event (breakerService Unit)))
    (event : Event (breakerService Unit)) : Bool :=
  threshold ≤ streak (recorded trace) && event.op = .checkState &&
    (lastFailure (recorded trace)).any fun date => breakerTime event - date < timeout

/-! ### Refusals -/

section Refusals

variable {T : Type} {threshold : Nat} {timeout clock : Int} {calls : List Unit}
  {trace : List (Event (breakerService T))} {last next : Pool (breakerService T)}
  {event : Event (breakerService T)}

/-- As long as no check forgets failures, a call that starts within the timeout of the last
failure is refused once the streak of failures has reached the threshold. -/
theorem failing_streak_refused (run : Run (M := breakerService T)
      (Pool.start (.new threshold timeout clock) calls) trace last)
    (few : (recorded trace).countP Attempt.isFailure < 2 ^ 32)
    (kept : ChecksKeepFailures trace)
    (step : Pool.Step last (some event) next) (starts : event.op = .checkState)
    (enough : threshold ≤ streak (recorded trace))
    (recent : ∃ date, lastFailure (recorded trace) = some date ∧
      breakerTime event - date < timeout) :
    Refused event.thread next := by
  obtain ⟨date, last_eq, soon⟩ := recent
  have remembers := remembers_followAll threshold timeout (breakerSteps trace)
  have counted := failures_eq_streak few fun before now after split => kept.steps run split
  rw [← breaker_after run] at remembers counted
  have opened : last.state.breaker.finalState (breakerTime event) = .opened := by
    apply CircuitBreaker.finalState_opened.mpr
    rw [remembers.threshold_eq, remembers.timeout_eq, counted, remembers.dated date last_eq]
    exact ⟨enough, soon⟩
  obtain ⟨at_i, _⟩ := check_step run step starts
  rcases BreakerCall.checked_cases at_i with ⟨_, refused, _⟩ | ⟨notOpened, _⟩
  · exact refused
  · exact absurd opened notOpened

/-- With threshold one, the call after a failure is refused. -/
theorem failing_streak_refused_once :
    ∃ trace last event next, Run (M := breakerService Unit)
        (Pool.start (.new 1 30 0) [(), ()]) trace last ∧
      Pool.Step last (some event) next ∧ Refused event.thread next := by
  obtain ⟨trace, last, run, passed⟩ := Run.exists_of_exec (M := breakerService Unit)
    (failAlone 0) (Pool.start (.new 1 30 0) [(), ()])
    (fun trace last =>
      trace.all (fun event => event.before.breaker.KeepsFailures) &&
      (recorded trace).countP Attempt.isFailure < 2 ^ 32 &&
      (last.step? (1, .fails 5)).any fun taken =>
        taken.1.any fun event => tripped? 1 30 trace event)
    (by decide +kernel)
  simp only [Bool.and_eq_true, List.all_eq_true, decide_eq_true_eq, Option.any_eq_true,
    tripped?] at passed
  obtain ⟨⟨kept, few⟩, ⟨moved, next⟩, stepped, event, rfl, ⟨enough, starts⟩, date, last_eq, soon⟩ :=
    passed
  have step := Pool.Step.of_step? stepped
  exact ⟨trace, last, event, next, run, step,
    failing_streak_refused run few (fun earlier member _ => kept earlier member) step starts
      enough ⟨date, last_eq, soon⟩⟩

/-- Two failures; once the timeout has passed, two calls are let through together, and the
first succeeds before the second fails; then one more call fails. -/
def overlappingProbes : List (Nat × BreakerEnv Unit) :=
  failAlone 0 ++ failAlone 1 ++
    [(2, .succeeds 30), (3, .fails 0), (2, .succeeds 0), (2, .succeeds 0), (3, .fails 0),
      (3, .fails 0)] ++
    failAlone 4

/-- The check of the last call but one forgets the failure before it, and the last call is
let through by a breaker with threshold two, although the latest two outcomes are failures
of that very second. -/
theorem failing_streak_let_through :
    ∃ trace last event next, Run (M := breakerService Unit)
        (Pool.start (.new 2 30 0) (List.replicate 6 ())) trace last ∧
      (recorded trace).countP Attempt.isFailure < 2 ^ 32 ∧
      Pool.Step last (some event) next ∧ event.op = .checkState ∧
      2 ≤ streak (recorded trace) ∧
      (∃ date, lastFailure (recorded trace) = some date ∧ breakerTime event - date < 30) ∧
      ¬ Refused event.thread next := by
  obtain ⟨trace, last, run, passed⟩ := Run.exists_of_exec (M := breakerService Unit)
    overlappingProbes (Pool.start (.new 2 30 0) (List.replicate 6 ()))
    (fun trace last =>
      (recorded trace).countP Attempt.isFailure < 2 ^ 32 &&
      (last.step? (5, .fails 0)).any fun taken =>
        taken.1.any fun event =>
          tripped? 2 30 trace event && !refused? event.thread taken.2)
    (by decide +kernel)
  simp only [Bool.and_eq_true, decide_eq_true_eq, Option.any_eq_true, tripped?,
    Bool.not_eq_true'] at passed
  obtain ⟨few, ⟨moved, next⟩, stepped, event, rfl,
    ⟨⟨enough, starts⟩, date, last_eq, soon⟩, through⟩ := passed
  refine ⟨trace, last, event, next, run, few, Pool.Step.of_step? stepped, starts, enough,
    ⟨date, last_eq, soon⟩, fun refused => ?_⟩
  rw [refused?_of_refused refused] at through
  cases through

/-- Behind every refusal there is a streak of failures that has reached the threshold and
whose last one is recent, and a refused call changes neither the counter nor the date. -/
theorem refusal_has_cause (run : Run (M := breakerService T)
      (Pool.start (.new threshold timeout clock) calls) trace last)
    (positive : 0 < threshold)
    (step : Pool.Step last (some event) next) (starts : event.op = .checkState) :
    (Refused event.thread next →
        threshold ≤ streak (recorded trace) ∧
          (∃ date, lastFailure (recorded trace) = some date ∧
            breakerTime event - date < timeout) ∧
          next.state.breaker.failures = last.state.breaker.failures ∧
          next.state.breaker.lastFailureTime = last.state.breaker.lastFailureTime) ∧
      (streak (recorded trace) < threshold ∨
          (∀ date, lastFailure (recorded trace) = some date →
            timeout ≤ breakerTime event - date) →
        LetThrough event.thread next) := by
  obtain ⟨at_i, cells⟩ := check_step run step starts
  have remembers := remembers_followAll threshold timeout (breakerSteps trace)
  rw [← breaker_after run] at remembers
  rcases BreakerCall.checked_cases at_i with ⟨opened, refused, _⟩ | ⟨_, notRefused, through⟩
  · obtain ⟨enough, date, last_eq, soon⟩ := remembers.cause positive opened
    rw [CircuitBreaker.checkState_of_opened opened] at cells
    constructor
    · intro _
      rw [cells]
      exact ⟨enough, ⟨date, last_eq, soon⟩, rfl, rfl⟩
    · rintro (short | late)
      · exact absurd enough (Nat.not_le.mpr short)
      · exact absurd (late date last_eq) (not_le.mpr soon)
  · exact ⟨fun refused => absurd refused notRefused, fun _ => through⟩

/-- A call that is refused after a failure: the failure is its cause. -/
theorem refusal_has_cause_once :
    ∃ trace last event next, Run (M := breakerService Unit)
        (Pool.start (.new 1 30 0) [(), ()]) trace last ∧
      Pool.Step last (some event) next ∧ Refused event.thread next ∧
      1 ≤ streak (recorded trace) := by
  obtain ⟨trace, last, run, passed⟩ := Run.exists_of_exec (M := breakerService Unit)
    (failAlone 0) (Pool.start (.new 1 30 0) [(), ()])
    (fun _ last => (last.step? (1, .fails 5)).any fun taken =>
      taken.1.any fun event => event.op = .checkState && refused? event.thread taken.2)
    (by decide +kernel)
  simp only [Bool.and_eq_true, decide_eq_true_eq, Option.any_eq_true] at passed
  obtain ⟨⟨moved, next⟩, stepped, event, rfl, starts, answered⟩ := passed
  have step := Pool.Step.of_step? stepped
  have refused := refused_of_refused? answered
  exact ⟨trace, last, event, next, run, step, refused,
    ((refusal_has_cause run Nat.one_pos step starts).1 refused).1⟩

end Refusals

end SocialApi
