/-
Module: SocialApi.Process.Budget
Purpose: Programs of bounded cost, and the bound that their budgets put on the length of a
  run.
Trusted boundary: none
Main exports:
  Program.Ends, Program.Costs, Costs.perform, Costs.bind, Run.replies, Run.length_le
-/
import SocialApi.Process.Phases

namespace Process

namespace Program

variable {Op : Type} {Res : Op → Type} {α β : Type}

/-! ### Returned values -/

/-- Every value that the program can return has the property. -/
def Ends (P : α → Prop) : Program Op Res α → Prop
  | .ret value => P value
  | .perform _ next => ∀ answer, (next answer).Ends P

theorem Ends.bind {P : β → Prop} {next : α → Program Op Res β}
    (rest : ∀ value, (next value).Ends P) (program : Program Op Res α) :
    (program >>= next).Ends P := by
  induction program with
  | ret value => exact rest value
  | perform op continuation inductionHypothesis => exact inductionHypothesis

/-- What is known of the returned values may be added to a protocol. -/
theorem Obeys.ends {κ : Type} {advance : κ → (op : Op) → Res op → κ}
    {permitted : κ → Op → Prop} {possible : κ → (op : Op) → Res op → Prop}
    {final : κ → α → Prop} {control : κ} {program : Program Op Res α} {P : α → Prop}
    (obeys : program.Obeys advance permitted possible final control) (ends : program.Ends P) :
    program.Obeys advance permitted possible (fun reached value => final reached value ∧ P value)
      control := by
  induction program generalizing control with
  | ret value => exact ⟨obeys, ends⟩
  | perform op next inductionHypothesis =>
      exact ⟨obeys.1, fun answer allowed =>
        inductionHypothesis answer (obeys.2 answer allowed) (ends answer)⟩

/-! ### Costs -/

/-- What is left of a budget after an operation. -/
def spend (cost : Op → Nat) (left : Nat) (op : Op) (_ : Res op) : Nat := left - cost op

def Affordable (cost : Op → Nat) (left : Nat) (op : Op) : Prop := cost op ≤ left

/-- A program that can pay for all its operations with `most`. -/
def Costs (cost : Op → Nat) (most : Nat) (program : Program Op Res α) : Prop :=
  ∀ left, most ≤ left →
    program.Obeys (spend cost) (Affordable cost) (fun _ _ _ => True)
      (fun reached _ => left ≤ reached + most) left

variable {cost : Op → Nat} {most more : Nat}

theorem Costs.ret (value : α) : (Program.ret value : Program Op Res α).Costs cost most :=
  fun left _ => Nat.le_add_right left most

theorem Costs.perform {op : Op} {next : Res op → Program Op Res α}
    (rest : ∀ answer, (next answer).Costs cost most) :
    (Program.perform op next).Costs cost (cost op + most) := by
  intro left enough
  have affordable : cost op ≤ left := by omega
  refine ⟨affordable, fun answer _ => ?_⟩
  have remains : most ≤ spend cost left op answer := by
    unfold spend
    omega
  apply (rest answer _ remains).weaken
  intro reached _ spent
  unfold spend at spent
  omega

theorem Costs.mono {program : Program Op Res α} (costs : program.Costs cost most)
    (less : most ≤ more) : program.Costs cost more := by
  intro left enough
  apply (costs left (less.trans enough)).weaken
  intro reached _ spent
  omega

theorem Costs.bind {program : Program Op Res α} {next : α → Program Op Res β}
    (first : program.Costs cost most) (rest : ∀ value, (next value).Costs cost more) :
    (program >>= next).Costs cost (more + most) := by
  intro left enough
  apply (first left (by omega)).bind
  intro reached value spent
  apply (rest value reached (by omega)).weaken
  intro final _ spentToo
  omega

/-- What follows at no cost. -/
theorem Costs.bind_free {program : Program Op Res α} {next : α → Program Op Res β}
    (first : program.Costs cost most) (rest : ∀ value, (next value).Costs cost 0) :
    (program >>= next).Costs cost most :=
  (first.bind rest).mono (Nat.zero_add most).le

end Program

/-! ### Runs -/

/-- A sum in which one summand is replaced. -/
theorem sum_set {summands : List Nat} {i old : Nat} (new : Nat)
    (at_i : summands[i]? = some old) : (summands.set i new).sum + old = summands.sum + new := by
  induction summands generalizing i with
  | nil => cases at_i
  | cons first summands inductionHypothesis =>
      cases i with
      | zero =>
          obtain rfl := Option.some.inj at_i
          rw [List.set_cons_zero, List.sum_cons, List.sum_cons]
          omega
      | succ i =>
          rw [List.set_cons_succ, List.sum_cons, List.sum_cons]
          have rest := inductionHypothesis at_i
          omega

variable {M : System}

/-- Where no body ends in a tail call, no thread does. -/
theorem Run.replies {state : M.State} {calls : List M.Call} {trace : List (Event M)}
    {last : Pool M}
    (replies : ∀ call, (M.body call).Ends fun outcome => ∃ reply, outcome = .inr reply)
    (run : Run (Pool.start state calls) trace last) :
    ∀ thread ∈ last.threads, thread.rest.Ends fun outcome => ∃ reply, outcome = .inr reply := by
  apply run.points (P := fun _ rest => rest.Ends fun outcome => ∃ reply, outcome = .inr reply)
  · exact replies
  · intro call op next answer ends
    exact ends answer
  · rintro call target ⟨reply, absurd⟩
    cases absurd

/-- The run law of budgets.  Where no call is a tail call, and every operation pays for the
tasks that it starts and for itself, a run is no longer than the budgets of its calls. -/
theorem Run.length_le {cost : M.Op → Nat} {budget : M.Call → Nat} {state : M.State}
    {calls : List M.Call} {trace : List (Event M)} {last : Pool M}
    (costs : ∀ call, (M.body call).Costs cost (budget call))
    (replies : ∀ call, (M.body call).Ends fun outcome => ∃ reply, outcome = .inr reply)
    (pays : ∀ env op state answer after spawned,
      M.handle env op state = some (answer, after, spawned) →
        (spawned.map budget).sum < cost op)
    (run : Run (Pool.start state calls) trace last) :
    trace.length ≤ (calls.map budget).sum := by
  have bodies : ∀ call, True → (M.body call).Obeys (Program.spend cost)
      (Program.Affordable cost) (fun _ _ _ => True)
      (fun reached outcome => budget call ≤ reached + budget call ∧
        ∃ reply, outcome = .inr reply) (budget call) :=
    fun call _ => (costs call _ le_rfl).ends (replies call)
  obtain ⟨left, _, _, spent⟩ := Run.phases_spawning
    (fun trace left _ => trace.length + left.sum ≤ (calls.map budget).sum)
    (fun call _ => (bodies call trivial).weaken fun _ _ final => final.2)
    (fun _ _ final => nomatch final) (fun _ _ => trivial) run (by simp) (by
      intro before event after left remaining next spawned _ _ at_i affordable handled spent
      refine ⟨fun _ _ => trivial, trivial, ?_⟩
      have pay := pays _ _ _ _ _ _ handled
      replace affordable : cost event.op ≤ remaining := affordable
      have moved := sum_set (Program.spend cost remaining event.op event.res) at_i
      unfold Program.spend at moved
      rw [List.length_append, List.length_singleton, List.sum_append]
      unfold Program.spend
      omega)
  exact (Nat.le_add_right _ _).trans spent

end Process
