/-
Module: SocialApi.Process.Cancellation
Purpose: Calls that may be dropped while they wait for an operation: the same system with
  one more way for such an operation to go, and the rules that carry a protocol over.
Trusted boundary: none
Main exports:
  Fate, Program.droppable, System.droppable, Dropping, Program.Obeys.droppable,
  dropped_origin, dropped_stays
-/
import SocialApi.Process.Phases

namespace Process

/-- How an operation goes: it is answered, or its call is dropped while it waits for the
answer, before the operation has taken effect or after. -/
inductive Fate where
  | answered
  | droppedBefore
  | droppedAfter
deriving DecidableEq, Repr

/-- A program whose operations may stay without an answer; the program ends there. -/
def Program.droppable {Op : Type} {Res : Op → Type} {Call Reply : Type} :
    Program Op Res (Call ⊕ Reply) →
      Program Op (fun op => Option (Res op)) (Call ⊕ Option Reply)
  | .ret (.inl target) => .ret (.inl target)
  | .ret (.inr reply) => .ret (.inr (some reply))
  | .perform op next => .perform op fun answer => match answer with
      | none => .ret (.inr none)
      | some value => (next value).droppable

/-- The system in which calls may be dropped where they wait.  A dropped call comes back
with nothing. -/
@[reducible] def System.droppable (M : System) (awaits : M.Op → Bool) : System where
  Op := M.Op
  Res := fun op => Option (M.Res op)
  State := M.State
  Env := Fate × M.Env
  Call := M.Call
  Reply := Option M.Reply
  body := fun call => (M.body call).droppable
  handle := fun env op state => match env.1 with
    | .answered => (M.handle env.2 op state).map fun result =>
        (some result.1, result.2.1, result.2.2)
    | .droppedBefore => if awaits op then some (none, state, []) else none
    | .droppedAfter =>
        if awaits op then
          (M.handle env.2 op state).map fun result => (none, result.2.1, result.2.2)
        else none

variable {M : System} {awaits : M.Op → Bool}

/-- What a step of a droppable call does: it is answered as usual, or the call is dropped at
an operation it waits for. -/
theorem System.droppable_handle {env : Fate × M.Env} {op : M.Op} {state after : M.State}
    {answer : Option (M.Res op)} {spawned : List M.Call}
    (handled : (M.droppable awaits).handle env op state = some (answer, after, spawned)) :
    (∃ value, answer = some value ∧
        M.handle env.2 op state = some (value, after, spawned)) ∨
      (answer = none ∧ awaits op = true ∧ ((after = state ∧ spawned = []) ∨
        ∃ value, M.handle env.2 op state = some (value, after, spawned))) := by
  simp only at handled
  split at handled
  · obtain ⟨⟨value, reached, started⟩, served, same⟩ := Option.map_eq_some_iff.mp handled
    obtain ⟨rfl, rfl, rfl⟩ : some value = answer ∧ reached = after ∧ started = spawned := by
      simpa using same
    exact .inl ⟨value, rfl, served⟩
  · split at handled
    · next waits =>
        obtain ⟨rfl, rfl, rfl⟩ : none = answer ∧ state = after ∧ [] = spawned := by
          simpa using handled
        exact .inr ⟨rfl, waits, .inl ⟨rfl, rfl⟩⟩
    · cases handled
  · split at handled
    · next waits =>
        obtain ⟨⟨value, reached, started⟩, served, same⟩ := Option.map_eq_some_iff.mp handled
        obtain ⟨rfl, rfl, rfl⟩ : none = answer ∧ reached = after ∧ started = spawned := by
          simpa using same
        exact .inr ⟨rfl, waits, .inr ⟨value, served⟩⟩
    · cases handled

/-! ### Protocols of droppable calls -/

/-- The phase of a call that goes on, or the one it was dropped in. -/
inductive Dropping (κ : Type) where
  | live (phase : κ)
  | dropped (phase : κ)
deriving DecidableEq

namespace Dropping

variable {κ : Type}

def phase : Dropping κ → κ
  | .live phase => phase
  | .dropped phase => phase

variable (advance : κ → (op : M.Op) → M.Res op → κ) (permitted : κ → M.Op → Prop)
  (possible : κ → (op : M.Op) → M.Res op → Prop)
  (final : κ → M.Call ⊕ M.Reply → Prop)

def advanced : Dropping κ → (op : M.Op) → Option (M.Res op) → Dropping κ
  | .live phase, op, some value => .live (advance phase op value)
  | .live phase, _, none => .dropped phase
  | .dropped phase, _, _ => .dropped phase

def Permitted : Dropping κ → M.Op → Prop
  | .live phase, op => permitted phase op
  | .dropped _, _ => False

def Possible : Dropping κ → (op : M.Op) → Option (M.Res op) → Prop
  | .live phase, op, some value => possible phase op value
  | _, _, _ => True

def Final : Dropping κ → M.Call ⊕ Option M.Reply → Prop
  | .live phase, .inl target => final phase (.inl target)
  | .live phase, .inr (some reply) => final phase (.inr reply)
  | .live _, .inr none => False
  | .dropped _, .inr none => True
  | .dropped _, _ => False

variable {advance permitted possible final}

/-- A droppable program obeys what the program obeys, for as long as it is not dropped. -/
theorem obeys {program : Program M.Op M.Res (M.Call ⊕ M.Reply)} {phase : κ}
    (obeys : program.Obeys advance permitted possible final phase) :
    program.droppable.Obeys (advanced advance) (Permitted permitted) (Possible possible)
      (Final final) (.live phase) := by
  induction program generalizing phase with
  | ret value =>
      cases value with
      | inl target => exact obeys
      | inr reply => exact obeys
  | perform op next inductionHypothesis =>
      rw [Program.droppable, Program.obeys_perform]
      refine ⟨obeys.1, ?_⟩
      intro answer allowed
      cases answer with
      | none => exact trivial
      | some value => exact inductionHypothesis value (obeys.2 value allowed)

/-- Where a droppable program stands that is in a dropped phase. -/
theorem returned_of_dropped
    {rest : Program M.Op (fun op => Option (M.Res op)) (M.Call ⊕ Option M.Reply)} {phase : κ}
    (obeys : rest.Obeys (advanced advance) (Permitted permitted) (Possible possible)
      (Final final) (.dropped phase)) : rest = .ret (.inr none) := by
  cases rest with
  | perform op next => exact obeys.1.elim
  | ret value =>
      rcases value with target | (_ | reply)
      · exact obeys.elim
      · rfl
      · exact obeys.elim

/-- A dropped call stays in the phase it was dropped in. -/
theorem dropped_stays {i : Nat} {phase : κ} {reached : Dropping κ}
    (trace : List (Event (M.droppable awaits))) (here : reached = .dropped phase) :
    controlAfter (M := M.droppable awaits) (advanced advance) i reached trace =
      .dropped phase := by
  apply controlAfter_preserves (M := M.droppable awaits) (· = Dropping.dropped phase) _ here
  rintro event _ _ rfl
  rfl

/-- A call that is in a dropped phase has been dropped by an event of the trace. -/
theorem dropped_origin {i : Nat} {first phase : κ}
    {trace : List (Event (M.droppable awaits))}
    (dropped : controlAfter (M := M.droppable awaits) (advanced advance) i (.live first)
      trace = .dropped phase) :
    ∃ before event after, trace = before ++ event :: after ∧ event.thread = i ∧
      event.res = none ∧
      controlAfter (M := M.droppable awaits) (advanced advance) i (.live first) before =
        .live phase := by
  induction trace using List.reverseRecOn with
  | nil => cases dropped
  | append_singleton before event inductionHypothesis =>
      have earlier : controlAfter (M := M.droppable awaits) (advanced advance) i
          (.live first) before = .dropped phase →
          ∃ front drop back, before ++ [event] = front ++ drop :: back ∧ drop.thread = i ∧
            drop.res = none ∧ controlAfter (M := M.droppable awaits) (advanced advance) i
              (.live first) front = .live phase := by
        intro already
        obtain ⟨front, drop, back, split, own, unanswered, live⟩ := inductionHypothesis already
        exact ⟨front, drop, back ++ [event], by simp [split], own, unanswered, live⟩
      by_cases same : event.thread = i
      · subst same
        rw [controlAfter_concat_self] at dropped
        cases reached : controlAfter (M := M.droppable awaits) (advanced advance) event.thread
            (.live first) before with
        | dropped old =>
            rw [reached] at dropped
            obtain rfl : old = phase := by injection dropped
            exact earlier reached
        | live old =>
            rw [reached] at dropped
            cases unanswered : event.res with
            | none =>
                rw [unanswered] at dropped
                obtain rfl : old = phase := by injection dropped
                exact ⟨before, event, [], rfl, rfl, unanswered, reached⟩
            | some value =>
                rw [unanswered] at dropped
                cases dropped
      · rw [controlAfter_concat_other _ before same] at dropped
        exact earlier dropped

end Dropping

end Process
