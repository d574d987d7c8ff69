/-
Module: SocialApi.Process.Program
Purpose: Programs over an operation signature, their sequential execution, and
  syntax-directed judgements on them (operations and protocols).
Trusted boundary: none
Main exports:
  Program, Program.implement, Program.run, Program.run_perform, Program.run_bind,
  Program.Performs, Program.Performs.bind, Program.Leads, Program.Obeys, Program.Obeys.bind,
  Program.Performs.obeys, Program.Obeys.implement, Program.moments, Program.Obeys.run_keeps
-/
import Mathlib

namespace Process

/-- A program that asks its surroundings to perform operations one at a time.
Each operation `op` is answered by a value of `Res op`, and the rest of the
program is a function of that answer. -/
inductive Program (Op : Type) (Res : Op → Type) (α : Type) where
  | ret (value : α)
  | perform (op : Op) (next : Res op → Program Op Res α)

namespace Program

variable {Op : Type} {Res : Op → Type} {α β γ : Type}

/-- Sequencing: continue with `next` where the first program returns. -/
def bind : Program Op Res α → (α → Program Op Res β) → Program Op Res β
  | .ret value, next => next value
  | .perform op rest, next => .perform op fun answer => (rest answer).bind next

instance : Monad (Program Op Res) where
  pure := .ret
  bind := bind

/-- Perform one operation and return its answer. -/
def request (op : Op) : Program Op Res (Res op) := .perform op .ret

@[simp] theorem pure_eq_ret (value : α) :
    (pure value : Program Op Res α) = .ret value := rfl

@[simp] theorem bind_ret (value : α) (next : α → Program Op Res β) :
    (Program.ret value >>= next) = next value := rfl

@[simp] theorem bind_perform (op : Op) (rest : Res op → Program Op Res α)
    (next : α → Program Op Res β) :
    (Program.perform op rest >>= next) =
      .perform op fun answer => rest answer >>= next := rfl

@[simp] theorem bind_eq (program : Program Op Res α) (next : α → Program Op Res β) :
    program.bind next = program >>= next := rfl

@[simp] theorem request_bind (op : Op) (next : Res op → Program Op Res α) :
    (request op >>= next) = .perform op next := rfl

/-- Carry out each operation by a program over another signature. -/
def implement {Op' : Type} {Res' : Op' → Type}
    (code : (op : Op) → Program Op' Res' (Res op)) :
    Program Op Res α → Program Op' Res' α
  | .ret value => .ret value
  | .perform op next => code op >>= fun answer => (next answer).implement code

/-! ### Sequential execution -/

section Run

variable {σ ε ζ : Type}
  (handle : ε → (op : Op) → σ → Option (Res op × σ × List ζ))

/-- Run a program alone.  `environment n` is what the surroundings contribute to
the `n`-th operation.  The result is `none` when an operation cannot proceed;
otherwise it is the returned value, the final state and the work spawned on the
way, in order. -/
def run (environment : Nat → ε) : Program Op Res α → σ → Option (α × σ × List ζ)
  | .ret value, state => some (value, state, [])
  | .perform op next, state =>
      match handle (environment 0) op state with
      | none => none
      | some (answer, after, spawned) =>
          match run (fun n => environment (n + 1)) (next answer) after with
          | none => none
          | some (value, final, later) => some (value, final, spawned ++ later)

@[simp] theorem run_ret (environment : Nat → ε) (value : α) (state : σ) :
    (Program.ret value : Program Op Res α).run handle environment state =
      some (value, state, []) := rfl

/-- A sequential run that starts with an operation: the operation is answered,
and the rest runs on. -/
theorem run_perform {environment : Nat → ε} {op : Op}
    {next : Res op → Program Op Res α} {state final : σ} {value : α}
    {spawned : List ζ} :
    (Program.perform op next).run handle environment state =
        some (value, final, spawned) ↔
      ∃ answer after first later,
        handle (environment 0) op state = some (answer, after, first) ∧
        (next answer).run handle (fun n => environment (n + 1)) after =
          some (value, final, later) ∧
        spawned = first ++ later := by
  simp only [run]
  cases handled : handle (environment 0) op state with
  | none => simp
  | some result =>
      obtain ⟨answer, after, first⟩ := result
      simp only [Option.some.injEq, Prod.mk.injEq]
      cases rest : (next answer).run handle (fun n => environment (n + 1)) after with
      | none =>
          constructor
          · intro absurd
            cases absurd
          · rintro ⟨_, _, _, _, ⟨rfl, rfl, rfl⟩, ran, _⟩
            rw [rest] at ran
            cases ran
      | some tail =>
          obtain ⟨returned, last, later⟩ := tail
          simp only [Option.some.injEq, Prod.mk.injEq]
          constructor
          · rintro ⟨rfl, rfl, rfl⟩
            exact ⟨answer, after, first, later, ⟨rfl, rfl, rfl⟩, rest, rfl⟩
          · rintro ⟨_, _, _, _, ⟨rfl, rfl, rfl⟩, ran, rfl⟩
            rw [rest] at ran
            obtain ⟨rfl, rfl, rfl⟩ : returned = value ∧ last = final ∧ later = _ := by
              simpa using ran
            exact ⟨rfl, rfl, rfl⟩

/-- An operation that starts nothing is answered, and the rest is the whole run. -/
theorem run_perform_quiet {environment : Nat → ε} {op : Op}
    {next : Res op → Program Op Res α} {state after : σ} {answer : Res op}
    (handled : handle (environment 0) op state = some (answer, after, [])) :
    (Program.perform op next).run handle environment state =
      (next answer).run handle (fun n => environment (n + 1)) after := by
  simp only [run, handled]
  cases (next answer).run handle (fun n => environment (n + 1)) after with
  | none => rfl
  | some tail => rfl

/-- A sequential run of a sequence: the first part runs, and the rest runs on
from where it stopped. -/
theorem run_bind {environment : Nat → ε} {program : Program Op Res α}
    {next : α → Program Op Res β} {state final : σ} {value : β} {spawned : List ζ}
    (ran : (program >>= next).run handle environment state =
      some (value, final, spawned)) :
    ∃ middle between first later steps,
      program.run handle environment state = some (middle, between, first) ∧
      (next middle).run handle (fun n => environment (n + steps)) between =
        some (value, final, later) ∧
      spawned = first ++ later := by
  induction program generalizing environment state spawned with
  | ret middle => exact ⟨middle, state, [], spawned, 0, rfl, ran, rfl⟩
  | perform op continuation inductionHypothesis =>
      rw [bind_perform, run_perform] at ran
      obtain ⟨answer, after, first, rest, handled, tail, rfl⟩ := ran
      obtain ⟨middle, between, ahead, later, steps, front, back, rfl⟩ :=
        inductionHypothesis answer tail
      exact ⟨middle, between, first ++ ahead, later, steps + 1,
        (run_perform _).mpr ⟨answer, after, first, ahead, handled, front, rfl⟩,
        by simpa [Nat.add_assoc, Nat.add_comm 1] using back, by simp⟩

/-- What is done to the value alone is done after the run. -/
theorem run_bind_pure (program : Program Op Res α) (wrap : α → β) (environment : Nat → ε)
    (state : σ) :
    (program >>= fun value => pure (wrap value)).run handle environment state =
      (program.run handle environment state).map fun result => (wrap result.1, result.2) := by
  induction program generalizing environment state with
  | ret value => rfl
  | perform op next inductionHypothesis =>
      rw [bind_perform]
      simp only [run]
      cases handle (environment 0) op state with
      | none => rfl
      | some answered =>
          simp only [inductionHypothesis]
          cases (next answered.1).run handle (fun n => environment (n + 1)) answered.2.1 <;> rfl

end Run

/-! ### The operations of a program -/

/-- Every operation the program can come to perform is an allowed one. -/
def Performs (allowed : Op → Prop) : Program Op Res α → Prop
  | .ret _ => True
  | .perform op next => allowed op ∧ ∀ answer, (next answer).Performs allowed

@[simp] theorem performs_ret {allowed : Op → Prop} {value : α} :
    (Program.ret value : Program Op Res α).Performs allowed := trivial

@[simp] theorem performs_perform {allowed : Op → Prop} {op : Op}
    {next : Res op → Program Op Res α} :
    (Program.perform op next).Performs allowed ↔
      allowed op ∧ ∀ answer, (next answer).Performs allowed := Iff.rfl

theorem Performs.bind {allowed : Op → Prop} {program : Program Op Res α}
    {next : α → Program Op Res β} (first : program.Performs allowed)
    (rest : ∀ value, (next value).Performs allowed) :
    (program >>= next).Performs allowed := by
  induction program with
  | ret value => exact rest value
  | perform op continuation inductionHypothesis =>
      exact ⟨first.1, fun answer => inductionHypothesis answer (first.2 answer)⟩

theorem Performs.mono {allowed wider : Op → Prop} {program : Program Op Res α}
    (performs : program.Performs allowed) (widens : ∀ op, allowed op → wider op) :
    program.Performs wider := by
  induction program with
  | ret value => trivial
  | perform op continuation inductionHypothesis =>
      exact ⟨widens op performs.1, fun answer => inductionHypothesis answer (performs.2 answer)⟩

/-- What every allowed operation preserves, a sequential run preserves. -/
theorem Performs.run_preserves {σ ε ζ : Type}
    {handle : ε → (op : Op) → σ → Option (Res op × σ × List ζ)}
    {allowed : Op → Prop} {program : Program Op Res α} (Invariant : σ → Prop)
    (performs : program.Performs allowed)
    (step : ∀ env op state answer after spawned, allowed op →
      handle env op state = some (answer, after, spawned) →
        Invariant state → Invariant after)
    {environment : Nat → ε} {state final : σ} {value : α} {spawned : List ζ}
    (ran : program.run handle environment state = some (value, final, spawned))
    (start : Invariant state) : Invariant final := by
  induction program generalizing environment state spawned with
  | ret returned =>
      obtain ⟨_, rfl, _⟩ : returned = value ∧ state = final ∧ [] = spawned := by
        simpa using ran
      exact start
  | perform op next inductionHypothesis =>
      obtain ⟨answer, after, first, later, handled, rest, _⟩ :=
        (run_perform handle).mp ran
      exact inductionHypothesis answer (performs.2 answer) rest
        (step _ op state answer after first performs.1 handled start)

/-- The operations of the program, answered like this, lead it to the value. -/
def Leads (value : α) : Program Op Res α → List ((op : Op) × Res op) → Prop
  | .ret returned, steps => returned = value ∧ steps = []
  | .perform op next, steps => ∃ answer rest, steps = ⟨op, answer⟩ :: rest ∧
      (next answer).Leads value rest

/-! ### Protocols

A protocol gives every program a control state, advanced by each operation and
its answer, and says which operations are permitted in which control state and
which answers are possible there. -/

section Obeys

variable {κ : Type} (advance : κ → (op : Op) → Res op → κ)
  (permitted : κ → Op → Prop) (possible : κ → (op : Op) → Res op → Prop)

/-- Every path of the program with possible answers performs only permitted
operations, and returns values that `final` accepts in the control state
reached. -/
def Obeys (final : κ → α → Prop) : Program Op Res α → κ → Prop
  | .ret value, control => final control value
  | .perform op next, control =>
      permitted control op ∧
        ∀ answer, possible control op answer →
          (next answer).Obeys final (advance control op answer)

@[simp] theorem obeys_ret {final : κ → α → Prop} {value : α} {control : κ} :
    (Program.ret value : Program Op Res α).Obeys advance permitted possible final
      control ↔ final control value := Iff.rfl

@[simp] theorem obeys_perform {final : κ → α → Prop} {op : Op}
    {next : Res op → Program Op Res α} {control : κ} :
    (Program.perform op next).Obeys advance permitted possible final control ↔
      permitted control op ∧
        ∀ answer, possible control op answer →
          (next answer).Obeys advance permitted possible final
            (advance control op answer) := Iff.rfl

variable {advance permitted possible}

/-- A sequence obeys the protocol when its first part does and the rest does
from every control state and value the first part may end with. -/
theorem Obeys.bind {program : Program Op Res α} {next : α → Program Op Res β}
    {middle : κ → α → Prop} {final : κ → β → Prop} {control : κ}
    (first : program.Obeys advance permitted possible middle control)
    (rest : ∀ reached value, middle reached value →
      (next value).Obeys advance permitted possible final reached) :
    (program >>= next).Obeys advance permitted possible final control := by
  induction program generalizing control with
  | ret value => exact rest control value first
  | perform op continuation inductionHypothesis =>
      exact ⟨first.1, fun answer allowed =>
        inductionHypothesis answer (first.2 answer allowed)⟩

/-- Operations that are permitted and leave the control state alone obey the
protocol. -/
theorem Performs.obeys {allowed : Op → Prop} {program : Program Op Res α}
    {control : κ} (performs : program.Performs allowed)
    (quiet : ∀ op, allowed op →
      permitted control op ∧ ∀ answer, advance control op answer = control) :
    program.Obeys advance permitted possible (fun reached _ => reached = control)
      control := by
  induction program with
  | ret value => rfl
  | perform op continuation inductionHypothesis =>
      obtain ⟨permits, same⟩ := quiet op performs.1
      refine ⟨permits, fun answer _ => ?_⟩
      rw [same answer]
      exact inductionHypothesis answer (performs.2 answer)

/-- A program obeys a protocol that asks less of its returned value. -/
theorem Obeys.weaken {program : Program Op Res α} {final weaker : κ → α → Prop}
    {control : κ} (obeys : program.Obeys advance permitted possible final control)
    (weaken : ∀ reached value, final reached value → weaker reached value) :
    program.Obeys advance permitted possible weaker control := by
  induction program generalizing control with
  | ret value => exact weaken control value obeys
  | perform op continuation inductionHypothesis =>
      exact ⟨obeys.1, fun answer allowed =>
        inductionHypothesis answer (obeys.2 answer allowed)⟩

/-- What every operation keeps of the control state may be added to what the program ends
with. -/
theorem Obeys.keeping {program : Program Op Res α} {final : κ → α → Prop} {control : κ}
    (Kept : κ → Prop) (obeys : program.Obeys advance permitted possible final control)
    (step : ∀ reached op answer, Kept reached → Kept (advance reached op answer))
    (start : Kept control) :
    program.Obeys advance permitted possible
      (fun reached value => Kept reached ∧ final reached value) control := by
  induction program generalizing control with
  | ret value => exact ⟨start, obeys⟩
  | perform op next inductionHypothesis =>
      exact ⟨obeys.1, fun answer allowed =>
        inductionHypothesis answer (obeys.2 answer allowed) (step control op answer start)⟩

/-- A program performs only operations that are both permitted and allowed. -/
theorem Obeys.performing {allowed : Op → Prop} {program : Program Op Res α} {final : κ → α → Prop}
    {control : κ} (obeys : program.Obeys advance permitted possible final control)
    (performs : program.Performs allowed) :
    program.Obeys advance (fun reached op => permitted reached op ∧ allowed op) possible final
      control := by
  induction program generalizing control with
  | ret value => exact obeys
  | perform op next inductionHypothesis =>
      exact ⟨⟨obeys.1, performs.1⟩, fun answer possible =>
        inductionHypothesis answer (obeys.2 answer possible) (performs.2 answer)⟩

/-- Where every operation is carried out by a program that keeps the control states of two
protocols together, the whole program is. -/
theorem Obeys.implement {Op' : Type} {Res' : Op' → Type} {κ' : Type}
    {advance' : κ' → (op : Op') → Res' op → κ'} {permitted' : κ' → Op' → Prop}
    {possible' : κ' → (op : Op') → Res' op → Prop}
    {code : (op : Op) → Program Op' Res' (Res op)} (Together : κ' → κ → Prop)
    {program : Program Op Res α} {final : κ → α → Prop} {control : κ} {control' : κ'}
    (obeys : program.Obeys advance permitted possible final control)
    (together : Together control' control)
    (each : ∀ control' control op, Together control' control → permitted control op →
      (code op).Obeys advance' permitted' possible' (fun reached answer =>
        possible control op answer ∧ Together reached (advance control op answer)) control') :
    (program.implement code).Obeys advance' permitted' possible'
      (fun reached value => ∃ ended, Together reached ended ∧ final ended value) control' := by
  induction program generalizing control control' with
  | ret value => exact ⟨control, together, obeys⟩
  | perform op next inductionHypothesis =>
      apply (each control' control op together obeys.1).bind
      rintro reached answer ⟨possible, along⟩
      exact inductionHypothesis answer (obeys.2 answer possible) along

/-- A program that obeys a protocol obeys one that its control states are part of. -/
theorem Obeys.embed {κ' : Type} {advance' : κ' → (op : Op) → Res op → κ'}
    {permitted' : κ' → Op → Prop} {possible' : κ' → (op : Op) → Res op → Prop}
    {program : Program Op Res α} {final : κ → α → Prop} {final' : κ' → α → Prop} {control : κ}
    (part : κ → κ') (obeys : program.Obeys advance permitted possible final control)
    (advances : ∀ control op answer,
      advance' (part control) op answer = part (advance control op answer))
    (permits : ∀ control op, permitted control op → permitted' (part control) op)
    (answers : ∀ control op answer, possible' (part control) op answer →
      possible control op answer)
    (ends : ∀ control value, final control value → final' (part control) value) :
    program.Obeys advance' permitted' possible' final' (part control) := by
  induction program generalizing control with
  | ret value => exact ends control value obeys
  | perform op next inductionHypothesis =>
      refine ⟨permits control op obeys.1, fun answer allowed => ?_⟩
      rw [advances]
      exact inductionHypothesis answer (obeys.2 answer (answers control op answer allowed))

/-! ### Protocols along a sequential run -/

section Moments

variable {σ ε ζ : Type}

/-- One operation of a sequential run, with its answer, what the surroundings contribute,
and the state it finds. -/
structure Moment (Op : Type) (Res : Op → Type) (σ ε : Type) where
  env : ε
  op : Op
  answer : Res op
  state : σ

/-- The operations that a program performs when it runs alone, in order. -/
def moments (handle : ε → (op : Op) → σ → Option (Res op × σ × List ζ))
    (environment : Nat → ε) : Program Op Res α → σ → List (Moment Op Res σ ε)
  | .ret _, _ => []
  | .perform op next, state =>
      match handle (environment 0) op state with
      | none => []
      | some (answer, after, _) =>
          ⟨environment 0, op, answer, state⟩ ::
            moments handle (fun n => environment (n + 1)) (next answer) after

variable {handle : ε → (op : Op) → σ → Option (Res op × σ × List ζ)}

/-- What surrounds an operation is what the surroundings contribute at some step. -/
theorem moments_env {program : Program Op Res α} {environment : Nat → ε} {state : σ}
    {moment : Moment Op Res σ ε}
    (member : moment ∈ program.moments handle environment state) :
    ∃ n, moment.env = environment n := by
  induction program generalizing environment state with
  | ret value => cases member
  | perform op next inductionHypothesis =>
      unfold moments at member
      split at member
      · cases member
      · rcases List.mem_cons.mp member with rfl | later
        · exact ⟨0, rfl⟩
        · obtain ⟨n, same⟩ := inductionHypothesis _ later
          exact ⟨n + 1, same⟩

/-- The run law of protocols for a program that runs alone.  An invariant of the control
state, the operations so far and the state holds at its end when every permitted operation
keeps it and gets a possible answer. -/
theorem Obeys.run_keeps {program : Program Op Res α} {final : κ → α → Prop} {control : κ}
    (Invariant : κ → List (Moment Op Res σ ε) → σ → Prop)
    (obeys : program.Obeys advance permitted possible final control)
    {environment : Nat → ε} {state last : σ} {value : α} {spawned : List ζ}
    {before : List (Moment Op Res σ ε)}
    (step : ∀ control before (moment : Moment Op Res σ ε) after spawned,
      moment ∈ program.moments handle environment state → permitted control moment.op →
      handle moment.env moment.op moment.state = some (moment.answer, after, spawned) →
      Invariant control before moment.state →
        possible control moment.op moment.answer ∧
          Invariant (advance control moment.op moment.answer) (before ++ [moment]) after)
    (ran : program.run handle environment state = some (value, last, spawned))
    (start : Invariant control before state) :
    ∃ reached, final reached value ∧
      Invariant reached (before ++ program.moments handle environment state) last := by
  induction program generalizing control environment state spawned before with
  | ret returned =>
      obtain ⟨rfl, rfl, _⟩ : returned = value ∧ state = last ∧ [] = spawned := by
        simpa using ran
      refine ⟨control, obeys, ?_⟩
      rw [moments, List.append_nil]
      exact start
  | perform op next inductionHypothesis =>
      obtain ⟨answer, after, first, later, handled, rest, _⟩ := (run_perform handle).mp ran
      have performed : (Program.perform op next).moments handle environment state =
          ⟨environment 0, op, answer, state⟩ ::
            (next answer).moments handle (fun n => environment (n + 1)) after := by
        rw [moments, handled]
      rw [performed] at step
      obtain ⟨allowed, kept⟩ := step control before ⟨environment 0, op, answer, state⟩ after
        first List.mem_cons_self obeys.1 handled start
      obtain ⟨reached, ended, holds⟩ := inductionHypothesis answer (obeys.2 answer allowed)
        (fun control before moment after spawned among =>
          step control before moment after spawned (List.mem_cons_of_mem _ among)) rest kept
      refine ⟨reached, ended, ?_⟩
      rw [performed]
      simpa using holds

end Moments

end Obeys

end Program

end Process
