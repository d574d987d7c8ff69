/-
Module: SocialApi.Process.System
Purpose: Pools of programs over one shared state, their interleaved runs, and the
  run rules that lift the judgements on programs to whole runs.
Trusted boundary: none
Main exports:
  System, Pool, Pool.Step, Run, Pool.exec, Run.of_exec, RunWhere, Replays, Run.replays,
  Replays.invariant, Throughout, Replays.throughout, Replays.history, Run.event_origin,
  Run.thread_call, Run.same_call, Run.obeys_among, Run.obeys, controlAfter_origin, Run.weight_eq_zero
-/
import SocialApi.Process.Program

namespace Process

/-- A set of callable programs over one shared state.  `body` is what a call
runs; returning `.inl` is a tail call.  `handle` answers one operation, given
what the surroundings contribute to it, and is `none` while the operation cannot
proceed; its last component is the list of calls it starts in the background. -/
structure System where
  Op : Type
  Res : Op → Type
  State : Type
  Env : Type
  Call : Type
  Reply : Type
  body : Call → Program Op Res (Call ⊕ Reply)
  handle : Env → (op : Op) → State → Option (Res op × State × List Call)

variable {M : System}

/-- A running call: the call it was started for, and what is left to run. -/
structure Thread (M : System) where
  call : M.Call
  rest : Program M.Op M.Res (M.Call ⊕ M.Reply)

/-- A call that has not taken its first step. -/
def Thread.start (call : M.Call) : Thread M := ⟨call, M.body call⟩

/-- The call has come back with a reply. -/
def Thread.Returned (thread : Thread M) : Prop :=
  ∃ reply, thread.rest = .ret (.inr reply)

instance (thread : Thread M) : Decidable thread.Returned :=
  match ended : thread.rest with
  | .ret (.inr reply) => isTrue ⟨reply, ended⟩
  | .ret (.inl _) => isFalse fun ⟨_, returned⟩ => by simp [ended] at returned
  | .perform _ _ => isFalse fun ⟨_, returned⟩ => by simp [ended] at returned

/-- The operation that a call performs next. -/
def Thread.nextOp (thread : Thread M) : Option M.Op :=
  match thread.rest with
  | .perform op _ => some op
  | .ret _ => none

/-- One performed operation, with the shared state it found. -/
structure Event (M : System) where
  thread : Nat
  call : M.Call
  env : M.Env
  op : M.Op
  res : M.Res op
  before : M.State

/-- The shared state together with every call started so far. -/
structure Pool (M : System) where
  state : M.State
  threads : List (Thread M)

/-- The pool in which the given calls are about to run. -/
def Pool.start (state : M.State) (calls : List M.Call) : Pool M :=
  ⟨state, calls.map Thread.start⟩

/-- Every call, background calls included, has come back. -/
def Pool.Done (pool : Pool M) : Prop := ∀ thread ∈ pool.threads, thread.Returned

/-- One scheduling step: some thread performs its next operation, or enters the
body of a tail call, which performs nothing. -/
inductive Pool.Step : Pool M → Option (Event M) → Pool M → Prop where
  | perform {pool : Pool M} {i : Nat} {call : M.Call} {op : M.Op}
      {next : M.Res op → Program M.Op M.Res (M.Call ⊕ M.Reply)}
      {env : M.Env} {answer : M.Res op} {after : M.State} {spawned : List M.Call}
      (at_op : pool.threads[i]? = some ⟨call, .perform op next⟩)
      (handled : M.handle env op pool.state = some (answer, after, spawned)) :
      Pool.Step pool (some ⟨i, call, env, op, answer, pool.state⟩)
        ⟨after, pool.threads.set i ⟨call, next answer⟩ ++ spawned.map Thread.start⟩
  | tail {pool : Pool M} {i : Nat} {call next : M.Call}
      (at_tail : pool.threads[i]? = some ⟨call, .ret (.inl next)⟩) :
      Pool.Step pool none ⟨pool.state, pool.threads.set i ⟨call, M.body next⟩⟩

/-- Interleaved runs with the events they perform, oldest first. -/
inductive Run : Pool M → List (Event M) → Pool M → Prop where
  | refl (pool : Pool M) : Run pool [] pool
  | step {first middle last : Pool M} {trace : List (Event M)}
      {event : Option (Event M)} (run : Run first trace middle)
      (step : Pool.Step middle event last) :
      Run first (trace ++ event.toList) last

/-- The executable scheduler: let thread `i` take its next step. -/
def Pool.step? (pool : Pool M) (choice : Nat × M.Env) :
    Option (Option (Event M) × Pool M) :=
  match pool.threads[choice.1]? with
  | some ⟨call, .perform op next⟩ =>
      match M.handle choice.2 op pool.state with
      | some (answer, after, spawned) =>
          some (some ⟨choice.1, call, choice.2, op, answer, pool.state⟩,
            ⟨after, pool.threads.set choice.1 ⟨call, next answer⟩ ++
              spawned.map Thread.start⟩)
      | none => none
  | some ⟨call, .ret (.inl next)⟩ =>
      some (none, ⟨pool.state, pool.threads.set choice.1 ⟨call, M.body next⟩⟩)
  | _ => none

/-- Run a whole schedule. -/
def Pool.exec : List (Nat × M.Env) → Pool M → Option (List (Event M) × Pool M)
  | [], pool => some ([], pool)
  | choice :: choices, pool =>
      match pool.step? choice with
      | none => none
      | some (event, next) =>
          match exec choices next with
          | none => none
          | some (trace, last) => some (event.toList ++ trace, last)

theorem Pool.Step.of_step? {pool next : Pool M} {choice : Nat × M.Env}
    {event : Option (Event M)} (stepped : pool.step? choice = some (event, next)) :
    Pool.Step pool event next := by
  unfold Pool.step? at stepped
  split at stepped
  · next call op continuation at_op =>
      split at stepped
      · next answer after spawned handled =>
          obtain ⟨rfl, rfl⟩ := Prod.mk.inj (Option.some.inj stepped)
          exact .perform at_op handled
      · cases stepped
  · next call target at_tail =>
      obtain ⟨rfl, rfl⟩ := Prod.mk.inj (Option.some.inj stepped)
      exact .tail at_tail
  · cases stepped

/-- The executable form of `Pool.Done`. -/
def Pool.done? (pool : Pool M) : Bool :=
  pool.threads.all fun thread => match thread.rest with
    | .ret (.inr _) => true
    | _ => false

theorem Pool.done_of_done? {pool : Pool M} (done : pool.done? = true) : pool.Done := by
  intro thread member
  have ended := List.all_eq_true.mp done thread member
  split at ended
  · next reply returned => exact ⟨reply, returned⟩
  · cases ended

namespace Run

/-- Runs compose. -/
theorem append {first middle last : Pool M} {left right : List (Event M)}
    (one : Run first left middle) (two : Run middle right last) :
    Run first (left ++ right) last := by
  induction two with
  | refl => simpa using one
  | step run step inductionHypothesis =>
      rw [← List.append_assoc]
      exact .step inductionHypothesis step

/-- A schedule that can be executed is a run. -/
theorem of_exec {choices : List (Nat × M.Env)} {pool last : Pool M}
    {trace : List (Event M)} (executed : pool.exec choices = some (trace, last)) :
    Run pool trace last := by
  induction choices generalizing pool trace with
  | nil =>
      obtain ⟨rfl, rfl⟩ := Prod.mk.inj (Option.some.inj executed)
      exact .refl _
  | cons choice choices inductionHypothesis =>
      unfold Pool.exec at executed
      split at executed
      · cases executed
      · next event next stepped =>
          split at executed
          · cases executed
          · next rest final tail =>
              obtain ⟨rfl, rfl⟩ := Prod.mk.inj (Option.some.inj executed)
              have head : Run pool event.toList next := by
                simpa using Run.step (.refl pool) (.of_step? stepped)
              exact head.append (inductionHypothesis tail)

/-- A schedule whose outcome passes a test is a run that does. -/
theorem exists_of_exec (choices : List (Nat × M.Env)) (pool : Pool M)
    (test : List (Event M) → Pool M → Bool)
    (passed : (pool.exec choices).any (fun result => test result.1 result.2) = true) :
    ∃ trace last, Run pool trace last ∧ test trace last = true := by
  obtain ⟨⟨trace, last⟩, executed, passes⟩ := (Option.any_eq_true _ _).mp passed
  exact ⟨trace, last, of_exec executed, passes⟩

end Run

/-- Interleaved runs whose every event meets a condition on the pool that it finds. -/
inductive RunWhere (Meets : Pool M → Event M → Prop) :
    Pool M → List (Event M) → Pool M → Prop where
  | refl (pool : Pool M) : RunWhere Meets pool [] pool
  | step {first middle last : Pool M} {trace : List (Event M)}
      {event : Option (Event M)} (run : RunWhere Meets first trace middle)
      (step : Pool.Step middle event last)
      (meets : ∀ performed ∈ event, Meets middle performed) :
      RunWhere Meets first (trace ++ event.toList) last

/-- A run with a condition is a run. -/
theorem RunWhere.run {Meets : Pool M → Event M → Prop} {first last : Pool M}
    {trace : List (Event M)} (run : RunWhere Meets first trace last) : Run first trace last := by
  induction run with
  | refl => exact .refl _
  | step _ step _ inductionHypothesis => exact inductionHypothesis.step step

/-- A run meets a condition that its events meet on every pool. -/
theorem Run.runWhere {Meets : Pool M → Event M → Prop} {first last : Pool M}
    {trace : List (Event M)} (run : Run first trace last)
    (meets : ∀ event ∈ trace, ∀ pool, Meets pool event) : RunWhere Meets first trace last := by
  induction run with
  | refl => exact .refl _
  | @step middle last trace event run step inductionHypothesis =>
      refine (inductionHypothesis fun earlier member =>
        meets earlier (List.mem_append_left _ member)).step step ?_
      intro performed is
      exact meets performed (List.mem_append_right _ (Option.mem_toList.mpr is)) middle

theorem RunWhere.mono {Meets Weaker : Pool M → Event M → Prop} {first last : Pool M}
    {trace : List (Event M)} (run : RunWhere Meets first trace last)
    (weakens : ∀ pool event, Meets pool event → Weaker pool event) :
    RunWhere Weaker first trace last := by
  induction run with
  | refl => exact .refl _
  | step _ step meets inductionHypothesis =>
      exact inductionHypothesis.step step fun performed is => weakens _ performed (meets _ is)

theorem RunWhere.append {Meets : Pool M → Event M → Prop} {first middle last : Pool M}
    {left right : List (Event M)} (one : RunWhere Meets first left middle)
    (two : RunWhere Meets middle right last) : RunWhere Meets first (left ++ right) last := by
  induction two with
  | refl => simpa using one
  | step run step meets inductionHypothesis =>
      rw [← List.append_assoc]
      exact inductionHypothesis.step step meets

/-- Run a whole schedule in which every event passes a check on the pool that it finds. -/
def Pool.execWhere (check : Pool M → Event M → Bool) :
    List (Nat × M.Env) → Pool M → Option (List (Event M) × Pool M)
  | [], pool => some ([], pool)
  | choice :: choices, pool =>
      match pool.step? choice with
      | none => none
      | some (event, next) =>
          if event.all (check pool) then
            match execWhere check choices next with
            | none => none
            | some (trace, last) => some (event.toList ++ trace, last)
          else none

theorem RunWhere.of_execWhere {check : Pool M → Event M → Bool}
    {choices : List (Nat × M.Env)} {pool last : Pool M} {trace : List (Event M)}
    (executed : pool.execWhere check choices = some (trace, last)) :
    RunWhere (fun pool event => check pool event = true) pool trace last := by
  induction choices generalizing pool trace with
  | nil =>
      obtain ⟨rfl, rfl⟩ := Prod.mk.inj (Option.some.inj executed)
      exact .refl _
  | cons choice choices inductionHypothesis =>
      unfold Pool.execWhere at executed
      split at executed
      · cases executed
      · next event next stepped =>
          split at executed
          · next checked =>
              split at executed
              · cases executed
              · next rest final tail =>
                  obtain ⟨rfl, rfl⟩ := Prod.mk.inj (Option.some.inj executed)
                  have head : RunWhere (fun pool event => check pool event = true) pool
                      event.toList next := by
                    apply RunWhere.step (.refl pool) (.of_step? stepped)
                    rintro performed rfl
                    exact checked
                  exact head.append (inductionHypothesis tail)
          · cases executed

/-- A schedule whose steps pass a check, and whose outcome passes a test, is such a run. -/
theorem RunWhere.exists_of_execWhere (check : Pool M → Event M → Bool)
    (choices : List (Nat × M.Env)) (pool : Pool M) (test : List (Event M) → Pool M → Bool)
    (passed : (pool.execWhere check choices).any (fun result => test result.1 result.2) = true) :
    ∃ trace last, RunWhere (fun pool event => check pool event = true) pool trace last ∧
      test trace last = true := by
  obtain ⟨⟨trace, last⟩, executed, passes⟩ := (Option.any_eq_true _ _).mp passed
  exact ⟨trace, last, of_execWhere executed, passes⟩

/-- Every event passes the check, which also sees the events before it. -/
def checkSteps (check : List (Event M) → Event M → Bool) :
    List (Event M) → List (Event M) → Bool
  | _, [] => true
  | before, event :: after =>
      check before event && checkSteps check (before ++ [event]) after

theorem of_checkSteps {check : List (Event M) → Event M → Bool} {trace : List (Event M)}
    (checked : checkSteps check [] trace = true) (before : List (Event M)) (event : Event M)
    (after : List (Event M)) (split : trace = before ++ event :: after) :
    check before event = true := by
  have from_here : ∀ (front trace : List (Event M)), checkSteps check front trace = true →
      ∀ before after, trace = before ++ event :: after →
        check (front ++ before) event = true := by
    intro front trace checked before after split
    induction before generalizing front trace with
    | nil =>
        subst split
        rw [List.append_nil]
        exact (Bool.and_eq_true_iff.mp checked).1
    | cons first before inductionHypothesis =>
        subst split
        have rest := inductionHypothesis (front ++ [first]) _
          (Bool.and_eq_true_iff.mp checked).2 rfl
        simpa using rest
  simpa using from_here [] trace checked before after split

/-! ### Replaying a trace on the shared state -/

/-- The events take the shared state from `first` to `last`, one after another. -/
def Replays : M.State → List (Event M) → M.State → Prop
  | first, [], last => first = last
  | first, event :: trace, last =>
      event.before = first ∧ ∃ after spawned,
        M.handle event.env event.op first = some (event.res, after, spawned) ∧
          Replays after trace last

theorem replays_append {first last : M.State} {left right : List (Event M)} :
    Replays first (left ++ right) last ↔
      ∃ middle, Replays first left middle ∧ Replays middle right last := by
  induction left generalizing first with
  | nil => simp [Replays]
  | cons event left inductionHypothesis =>
      constructor
      · rintro ⟨found, after, spawned, handled, rest⟩
        obtain ⟨middle, before, behind⟩ := inductionHypothesis.mp rest
        exact ⟨middle, ⟨found, after, spawned, handled, before⟩, behind⟩
      · rintro ⟨middle, ⟨found, after, spawned, handled, before⟩, behind⟩
        exact ⟨found, after, spawned, handled,
          inductionHypothesis.mpr ⟨middle, before, behind⟩⟩

/-- The events of a run take its first shared state to its last. -/
theorem Run.replays {first last : Pool M} {trace : List (Event M)}
    (run : Run first trace last) : Replays first.state trace last.state := by
  induction run with
  | refl => rfl
  | step run step inductionHypothesis =>
      refine replays_append.mpr ⟨_, inductionHypothesis, ?_⟩
      cases step with
      | perform at_op handled => exact ⟨rfl, _, _, handled, rfl⟩
      | tail at_tail => rfl

/-- An event finds the state that the events before it have made. -/
theorem Replays.until_event {first last : M.State} {before after : List (Event M)}
    {event : Event M} (replays : Replays first (before ++ event :: after) last) :
    Replays first before event.before ∧ ∃ next spawned,
      M.handle event.env event.op event.before = some (event.res, next, spawned) := by
  obtain ⟨middle, front, found, next, spawned, handled, _⟩ := replays_append.mp replays
  subst found
  exact ⟨front, next, spawned, handled⟩

/-- An invariant of the operations that occur holds after all of them. -/
theorem Replays.invariant {first last : M.State} {trace : List (Event M)}
    (Invariant : M.State → Prop) (replays : Replays first trace last)
    (step : ∀ event ∈ trace, ∀ after spawned,
      M.handle event.env event.op event.before = some (event.res, after, spawned) →
        Invariant event.before → Invariant after)
    (start : Invariant first) : Invariant last := by
  induction trace generalizing first with
  | nil => exact replays ▸ start
  | cons event trace inductionHypothesis =>
      obtain ⟨rfl, after, spawned, handled, rest⟩ := replays
      exact inductionHypothesis rest
        (fun other member => step other (by simp [member]))
        (step event (by simp) after spawned handled start)

/-- The state that an event leaves is found by the next event, or is the last. -/
theorem Replays.after_event {first last : M.State} {before after : List (Event M)}
    {event : Event M} (replays : Replays first (before ++ event :: after) last) :
    ∃ next spawned,
      M.handle event.env event.op event.before = some (event.res, next, spawned) ∧
        ((∃ later ∈ after, later.before = next) ∨ last = next) := by
  obtain ⟨middle, _, found, next, spawned, handled, rest⟩ := replays_append.mp replays
  subst found
  refine ⟨next, spawned, handled, ?_⟩
  cases after with
  | nil => exact .inr rest.symm
  | cons later after => exact .inl ⟨later, List.mem_cons_self, rest.1⟩

/-- Every event finds a state with the property, and the last state has it. -/
def Throughout (P : M.State → Prop) (trace : List (Event M)) (last : M.State) : Prop :=
  (∀ event ∈ trace, P event.before) ∧ P last

/-- An invariant of the operations that occur holds throughout. -/
theorem Replays.throughout {first last : M.State} {trace : List (Event M)}
    (Invariant : M.State → Prop) (replays : Replays first trace last)
    (step : ∀ event ∈ trace, ∀ after spawned,
      M.handle event.env event.op event.before = some (event.res, after, spawned) →
        Invariant event.before → Invariant after)
    (start : Invariant first) : Throughout Invariant trace last := by
  refine ⟨?_, replays.invariant Invariant step start⟩
  intro event member
  obtain ⟨before, after, rfl⟩ := List.append_of_mem member
  exact replays.until_event.1.invariant Invariant
    (fun earlier among => step earlier (List.mem_append_left _ among)) start

/-- What holds throughout holds after every event. -/
theorem Throughout.after_event {P : M.State → Prop} {first last : M.State}
    {trace : List (Event M)} (throughout : Throughout P trace last)
    (replays : Replays first trace last) {event : Event M} (member : event ∈ trace) :
    ∃ next spawned,
      M.handle event.env event.op event.before = some (event.res, next, spawned) ∧ P next := by
  obtain ⟨before, after, rfl⟩ := List.append_of_mem member
  obtain ⟨next, spawned, handled, there⟩ := replays.after_event
  refine ⟨next, spawned, handled, ?_⟩
  rcases there with ⟨later, among, rfl⟩ | rfl
  · exact throughout.1 later (by simp [among])
  · exact throughout.2

/-- A property of the state and of the events so far that every step keeps holds after
all of them. -/
theorem Replays.history {first last : M.State} {trace : List (Event M)}
    (Invariant : List (Event M) → M.State → Prop) (replays : Replays first trace last)
    (step : ∀ before event after spawned, event ∈ trace →
      M.handle event.env event.op event.before = some (event.res, after, spawned) →
        Invariant before event.before → Invariant (before ++ [event]) after)
    (start : Invariant [] first) : Invariant trace last := by
  induction trace using List.reverseRecOn generalizing last with
  | nil => exact replays ▸ start
  | append_singleton before event inductionHypothesis =>
      obtain ⟨middle, front, found, after, spawned, handled, rfl⟩ :=
        replays_append.mp replays
      subst found
      apply step before event _ spawned (by simp) handled
      exact inductionHypothesis front fun earlier other next started member =>
        step earlier other next started (by simp [member])

/-! ### Where threads come from -/

/-- The event started the call in the background. -/
def Event.Spawned (event : Event M) (call : M.Call) : Prop :=
  ∃ after spawned, M.handle event.env event.op event.before =
    some (event.res, after, spawned) ∧ call ∈ spawned

/-- Every thread runs a call of the start or one that an event spawned. -/
theorem Run.thread_origin {state : M.State} {calls : List M.Call} {last : Pool M}
    {trace : List (Event M)} (run : Run (Pool.start state calls) trace last) :
    ∀ thread ∈ last.threads, thread.call ∈ calls ∨
      ∃ event ∈ trace, event.Spawned thread.call := by
  induction run with
  | refl =>
      intro thread member
      obtain ⟨call, known, rfl⟩ := List.mem_map.mp member
      exact .inl known
  | @step middle last trace event run step earlier =>
      have old : ∀ call, (call ∈ calls ∨ ∃ event ∈ trace, event.Spawned call) →
          call ∈ calls ∨ ∃ performed ∈ trace ++ event.toList,
            performed.Spawned call := by
        rintro call (known | ⟨performed, member, spawned⟩)
        · exact .inl known
        · exact .inr ⟨performed, by simp [member], spawned⟩
      cases step with
      | @perform i call op continuation env answer after spawned at_op handled =>
          intro thread member
          rcases List.mem_append.mp member with kept | new
          · rcases List.mem_or_eq_of_mem_set kept with same | rfl
            · exact old _ (earlier thread same)
            · exact old call (earlier ⟨call, _⟩ (List.mem_of_getElem? at_op))
          · obtain ⟨target, among, rfl⟩ := List.mem_map.mp new
            exact .inr ⟨⟨i, call, env, op, answer, middle.state⟩, by simp,
              ⟨after, spawned, handled, among⟩⟩
      | @tail i call target at_tail =>
          intro thread member
          rcases List.mem_or_eq_of_mem_set member with same | rfl
          · exact old _ (earlier thread same)
          · exact old call (earlier ⟨call, _⟩ (List.mem_of_getElem? at_tail))

/-- What is split off a list with a new end is the new end, or is split off the list. -/
theorem split_concat {α : Type} {l before after : List α} {a b : α}
    (split : l ++ [a] = before ++ b :: after) :
    (l = before ∧ a = b) ∨ ∃ init, l = before ++ b :: init := by
  rcases List.eq_nil_or_concat after with rfl | ⟨init, last, rfl⟩
  · obtain ⟨same, ends⟩ := List.append_inj' split rfl
    exact .inl ⟨same, List.singleton_inj.mp ends⟩
  · have regrouped : l ++ [a] = (before ++ b :: init) ++ [last] := by simpa using split
    exact .inr ⟨init, (List.append_inj' regrouped rfl).1⟩

/-- Every event belongs to a call of the start or to one spawned before it. -/
theorem Run.event_origin {state : M.State} {calls : List M.Call} {last : Pool M}
    {trace : List (Event M)} (run : Run (Pool.start state calls) trace last) :
    ∀ (before : List (Event M)) (event : Event M) (after : List (Event M)),
      trace = before ++ event :: after →
      event.call ∈ calls ∨ ∃ earlier ∈ before, earlier.Spawned event.call := by
  induction run with
  | refl => simp
  | @step middle last trace performed run step inductionHypothesis =>
      intro before event after split
      cases performed with
      | none => exact inductionHypothesis before event after (by simpa using split)
      | some performedLast =>
          rcases split_concat split with ⟨rfl, rfl⟩ | ⟨init, earlier⟩
          · cases step with
            | perform at_op handled =>
                exact run.thread_origin _ (List.mem_of_getElem? at_op)
          · exact inductionHypothesis before event init earlier

/-- An entry of a list in which one has been set, and to which others have been added. -/
theorem entry_of_set_append {α : Type _} {l added : List α} {i j : Nat} {a b : α}
    (at_j : (l.set i a ++ added)[j]? = some b) :
    (i = j ∧ b = a) ∨ (i ≠ j ∧ l[j]? = some b) ∨ (l.length ≤ j ∧ b ∈ added) := by
  by_cases old : j < l.length
  · rw [List.getElem?_append_left (by simpa using old), List.getElem?_set] at at_j
    by_cases same : i = j
    · rw [if_pos same, if_pos (same ▸ old)] at at_j
      exact .inl ⟨same, (Option.some.inj at_j).symm⟩
    · rw [if_neg same] at at_j
      exact .inr (.inl ⟨same, at_j⟩)
  · rw [List.getElem?_append_right (by simpa using not_lt.mp old)] at at_j
    exact .inr (.inr ⟨not_lt.mp old, List.mem_of_getElem? at_j⟩)

/-- Events go on belonging to threads of the pool. -/
theorem Pool.Step.known {pool next : Pool M} {trace : List (Event M)}
    {event : Option (Event M)} (step : Pool.Step pool event next)
    (known : ∀ event ∈ trace, event.thread < pool.threads.length) :
    ∀ performed ∈ trace ++ event.toList, performed.thread < next.threads.length := by
  intro performed member
  cases step with
  | @perform i call op continuation env answer after spawned at_op handled =>
      rw [List.length_append, List.length_set]
      apply Nat.lt_add_right
      rcases List.mem_append.mp member with old | new
      · exact known performed old
      · obtain rfl := List.mem_singleton.mp new
        exact (List.getElem?_eq_some_iff.mp at_op).1
  | @tail i call target at_tail =>
      rw [List.length_set]
      exact known performed (by simpa using member)

/-- A thread goes on running the call it was started for. -/
theorem Run.thread_call {first last : Pool M} {trace : List (Event M)}
    (run : Run first trace last) {i : Nat} {thread : Thread M}
    (at_i : first.threads[i]? = some thread) :
    ∃ later, last.threads[i]? = some later ∧ later.call = thread.call := by
  induction run with
  | refl => exact ⟨thread, at_i, rfl⟩
  | @step middle last trace event run step inductionHypothesis =>
      obtain ⟨between, at_between, sameCall⟩ := inductionHypothesis
      have bound : i < middle.threads.length :=
        (List.getElem?_eq_some_iff.mp at_between).1
      have kept : ∀ (j : Nat) (call : M.Call) (rest next : Program M.Op M.Res _),
          middle.threads[j]? = some ⟨call, rest⟩ →
            ∃ later, (middle.threads.set j ⟨call, next⟩)[i]? = some later ∧
              later.call = thread.call := by
        intro j call rest next at_j
        rw [List.getElem?_set]
        by_cases same : j = i
        · subst same
          rw [at_between] at at_j
          obtain rfl := Option.some.inj at_j
          exact ⟨⟨call, next⟩, by rw [if_pos rfl, if_pos bound], sameCall⟩
        · exact ⟨between, by rw [if_neg same, at_between], sameCall⟩
      cases step with
      | perform at_op handled =>
          rw [List.getElem?_append_left (by simpa using bound)]
          exact kept _ _ _ _ at_op
      | tail at_tail => exact kept _ _ _ _ at_tail

/-- The thread of an event runs the call of the event to the end. -/
theorem Run.event_thread {first last : Pool M} {trace : List (Event M)}
    (run : Run first trace last) :
    ∀ event ∈ trace, ∃ thread, last.threads[event.thread]? = some thread ∧
      thread.call = event.call := by
  induction run with
  | refl => simp
  | @step middle last trace performed run step inductionHypothesis =>
      intro event member
      have single := (Run.refl middle).step step
      rcases List.mem_append.mp member with old | new
      · obtain ⟨thread, at_thread, sameCall⟩ := inductionHypothesis event old
        obtain ⟨later, at_later, kept⟩ := single.thread_call at_thread
        exact ⟨later, at_later, kept.trans sameCall⟩
      · cases step with
        | perform at_op handled =>
            obtain rfl := List.mem_singleton.mp new
            exact single.thread_call at_op
        | tail at_tail => simp at new

/-- Two events of one thread belong to one call. -/
theorem Run.same_call {first last : Pool M} {trace : List (Event M)}
    (run : Run first trace last) {one other : Event M} (among : one ∈ trace)
    (amongToo : other ∈ trace) (same : one.thread = other.thread) : one.call = other.call := by
  obtain ⟨thread, at_one, call⟩ := run.event_thread one among
  obtain ⟨thread', at_other, call'⟩ := run.event_thread other amongToo
  rw [same, at_other] at at_one
  obtain rfl := Option.some.inj at_one
  exact call.symm.trans call'

/-! ### The weight of a run -/

/-- Total weight of the operations of a trace. -/
def traceWeight (weight : (op : M.Op) → M.Res op → Int) (trace : List (Event M)) :
    Int :=
  (trace.map fun event => weight event.op event.res).sum

@[simp] theorem traceWeight_append (weight : (op : M.Op) → M.Res op → Int)
    (left right : List (Event M)) :
    traceWeight weight (left ++ right) =
      traceWeight weight left + traceWeight weight right := by
  simp [traceWeight]

@[simp] theorem traceWeight_singleton (weight : (op : M.Op) → M.Res op → Int)
    (event : Event M) :
    traceWeight weight [event] = weight event.op event.res := by
  simp [traceWeight]

/-! ### Protocols along a run -/

section Protocol

variable {κ : Type} {advance : κ → (op : M.Op) → M.Res op → κ}
  {permitted : κ → M.Op → Prop} {possible : κ → (op : M.Op) → M.Res op → Prop}
  {final : κ → M.Call ⊕ M.Reply → Prop} {initial : M.Call → κ}

/-- The control state of thread `i` after a trace, from the control state its
call starts in. -/
def controlAfter (advance : κ → (op : M.Op) → M.Res op → κ) (i : Nat)
    (control : κ) (trace : List (Event M)) : κ :=
  trace.foldl (fun reached event =>
    if event.thread = i then advance reached event.op event.res else reached) control

@[simp] theorem controlAfter_nil (i : Nat) (control : κ) :
    controlAfter advance i control ([] : List (Event M)) = control := rfl

theorem controlAfter_append (i : Nat) (control : κ) (left right : List (Event M)) :
    controlAfter advance i control (left ++ right) =
      controlAfter advance i (controlAfter advance i control left) right := by
  simp [controlAfter]

theorem controlAfter_concat_self (control : κ) (trace : List (Event M))
    (event : Event M) :
    controlAfter advance event.thread control (trace ++ [event]) =
      advance (controlAfter advance event.thread control trace) event.op
        event.res := by
  simp [controlAfter]

theorem controlAfter_concat_other {i : Nat} (control : κ) (trace : List (Event M))
    {event : Event M} (other : event.thread ≠ i) :
    controlAfter advance i control (trace ++ [event]) =
      controlAfter advance i control trace := by
  simp [controlAfter, other]

theorem controlAfter_untouched {i : Nat} {control : κ} {trace : List (Event M)}
    (untouched : ∀ event ∈ trace, event.thread ≠ i) :
    controlAfter advance i control trace = control := by
  induction trace with
  | nil => rfl
  | cons event trace inductionHypothesis =>
      have other := untouched event (by simp)
      simp only [controlAfter, List.foldl_cons, if_neg other]
      exact inductionHypothesis fun event member =>
        untouched event (by simp [member])

/-- What every event of the trace preserves about a control state holds at its end. -/
theorem controlAfter_preserves {i : Nat} {control : κ} {trace : List (Event M)}
    (Kept : κ → Prop)
    (step : ∀ event ∈ trace, ∀ reached, Kept reached →
      Kept (advance reached event.op event.res))
    (start : Kept control) : Kept (controlAfter advance i control trace) := by
  induction trace generalizing control with
  | nil => exact start
  | cons event trace inductionHypothesis =>
      rw [controlAfter, List.foldl_cons]
      apply inductionHypothesis fun other member => step other (by simp [member])
      split
      · exact step event (by simp) control start
      · exact start

/-- What is observed of a control state at the end has been set by an event of the
thread, unless it was there at the start. -/
theorem controlAfter_origin {β : Type} (observe : κ → Option β)
    (sets : (op : M.Op) → M.Res op → β → Prop)
    (step : ∀ (reached : κ) (op : M.Op) (answer : M.Res op) (value : β),
      observe (advance reached op answer) = some value →
        observe reached = some value ∨ sets op answer value)
    {i : Nat} {control : κ} {trace : List (Event M)} {value : β}
    (start : observe control = none)
    (observed : observe (controlAfter advance i control trace) = some value) :
    ∃ (before : List (Event M)) (event : Event M) (after : List (Event M)),
      trace = before ++ event :: after ∧ event.thread = i ∧
      sets event.op event.res value := by
  induction trace using List.reverseRecOn with
  | nil =>
      rw [controlAfter_nil, start] at observed
      cases observed
  | append_singleton before event inductionHypothesis =>
      have earlier : observe (controlAfter advance i control before) = some value →
          ∃ front setter back, before ++ [event] = front ++ setter :: back ∧
            setter.thread = i ∧ sets setter.op setter.res value := by
        intro seen
        obtain ⟨front, setter, back, split, here, set⟩ := inductionHypothesis seen
        exact ⟨front, setter, back ++ [event], by simp [split], here, set⟩
      by_cases same : event.thread = i
      · subst same
        rw [controlAfter_concat_self] at observed
        rcases step _ _ _ _ observed with seen | set
        · exact earlier seen
        · exact ⟨before, event, [], rfl, rfl, set⟩
      · rw [controlAfter_concat_other control before same] at observed
        exact earlier observed

/-- What a run keeps about a pool whose calls obey a protocol. -/
structure Governed (advance : κ → (op : M.Op) → M.Res op → κ)
    (permitted : κ → M.Op → Prop) (possible : κ → (op : M.Op) → M.Res op → Prop)
    (final : κ → M.Call ⊕ M.Reply → Prop) (initial : M.Call → κ)
    (trace : List (Event M)) (pool : Pool M) : Prop where
  known : ∀ event ∈ trace, event.thread < pool.threads.length
  obeys : ∀ (i : Nat) (thread : Thread M), pool.threads[i]? = some thread →
    thread.rest.Obeys advance permitted possible final
      (controlAfter advance i (initial thread.call) trace)

theorem governed_start {Among : M.Call → Prop}
    (bodies : ∀ call, Among call →
      (M.body call).Obeys advance permitted possible final (initial call))
    (state : M.State) {calls : List M.Call} (among : ∀ call ∈ calls, Among call) :
    Governed advance permitted possible final initial [] (Pool.start state calls) := by
  refine ⟨by simp, fun i thread at_i => ?_⟩
  simp only [Pool.start, List.getElem?_map, Option.map_eq_some_iff] at at_i
  obtain ⟨call, at_call, rfl⟩ := at_i
  exact bodies call (among call (List.mem_of_getElem? at_call))

/-- The step law of protocols: the operation performed is permitted in the
control state of its thread, and every thread goes on obeying. -/
theorem Governed.step {pool next : Pool M} {trace : List (Event M)}
    {event : Option (Event M)} {Among : M.Call → Prop}
    (bodies : ∀ call, Among call →
      (M.body call).Obeys advance permitted possible final (initial call))
    (tails : ∀ control target, final control (.inl target) →
      (M.body target).Obeys advance permitted possible final control)
    (spawns : ∀ performed ∈ event, ∀ after spawned,
      permitted (controlAfter advance performed.thread (initial performed.call) trace)
        performed.op →
      M.handle performed.env performed.op performed.before =
        some (performed.res, after, spawned) → ∀ task ∈ spawned, Among task)
    (governed : Governed advance permitted possible final initial trace pool)
    (step : Pool.Step pool event next)
    (allowed : ∀ performed ∈ event,
      possible (controlAfter advance performed.thread (initial performed.call) trace)
        performed.op performed.res) :
    (∀ performed ∈ event,
        permitted (controlAfter advance performed.thread (initial performed.call)
          trace) performed.op) ∧
      Governed advance permitted possible final initial
        (trace ++ event.toList) next := by
  have known := step.known governed.known
  cases step with
  | @perform i call op continuation env answer after spawned at_op handled =>
      have here := governed.obeys i _ at_op
      refine ⟨fun performed member => ?_, known, ?_⟩
      · obtain rfl := Option.some.inj member
        exact here.1
      · intro j thread at_j
        rcases entry_of_set_append at_j with ⟨rfl, rfl⟩ | ⟨elsewhere, at_j⟩ | ⟨fresh, started⟩
        · have moved : controlAfter advance i (initial call)
              (trace ++ [⟨i, call, env, op, answer, pool.state⟩]) =
              advance (controlAfter advance i (initial call) trace) op answer :=
            controlAfter_concat_self _ trace ⟨i, call, env, op, answer, pool.state⟩
          rw [Option.toList_some, moved]
          exact here.2 answer (allowed _ rfl)
        · have apart : (⟨i, call, env, op, answer, pool.state⟩ : Event M).thread ≠ j := elsewhere
          rw [Option.toList_some, controlAfter_concat_other _ _ apart]
          exact governed.obeys j thread at_j
        · have untouched : ∀ event ∈ trace ++
              (some (⟨i, call, env, op, answer, pool.state⟩ : Event M)).toList,
              event.thread ≠ j := by
            intro event member
            rcases List.mem_append.mp member with old | new
            · exact (lt_of_lt_of_le (governed.known event old) fresh).ne
            · obtain rfl := List.mem_singleton.mp new
              exact (lt_of_lt_of_le (List.getElem?_eq_some_iff.mp at_op).1 fresh).ne
          rw [controlAfter_untouched untouched]
          obtain ⟨target, member, rfl⟩ := List.mem_map.mp started
          exact bodies target (spawns _ rfl after spawned here.1 handled target member)
  | @tail i call target at_tail =>
      refine ⟨by simp, known, ?_⟩
      intro j thread at_j
      rw [Option.toList_none, List.append_nil]
      rw [List.getElem?_set] at at_j
      by_cases same : i = j
      · subst same
        rw [if_pos rfl, if_pos (List.getElem?_eq_some_iff.mp at_tail).1] at at_j
        obtain rfl := Option.some.inj at_j
        exact tails _ _ (governed.obeys i _ at_tail)
      · rw [if_neg same] at at_j
        exact governed.obeys j thread at_j

/-- The run law of protocols for calls among which all that are started stay: each operation
is permitted in the control state its thread has reached, and a tail call goes on from it. -/
theorem Run.obeys_among {state : M.State} {calls : List M.Call} {last : Pool M}
    {trace : List (Event M)} {Among : M.Call → Prop}
    (bodies : ∀ call, Among call →
      (M.body call).Obeys advance permitted possible final (initial call))
    (tails : ∀ control target, final control (.inl target) →
      (M.body target).Obeys advance permitted possible final control)
    (spawns : ∀ (before : List (Event M)) (event : Event M) (after : List (Event M)) next spawned,
      trace = before ++ event :: after →
      permitted (controlAfter advance event.thread (initial event.call) before) event.op →
      M.handle event.env event.op event.before = some (event.res, next, spawned) →
        ∀ task ∈ spawned, Among task)
    (among : ∀ call ∈ calls, Among call)
    (run : Run (Pool.start state calls) trace last)
    (allowed : ∀ (before : List (Event M)) (event : Event M) (after : List (Event M)),
      trace = before ++ event :: after →
      possible (controlAfter advance event.thread (initial event.call) before)
        event.op event.res) :
    Governed advance permitted possible final initial trace last ∧
      ∀ (before : List (Event M)) (event : Event M) (after : List (Event M)),
        trace = before ++ event :: after →
          permitted (controlAfter advance event.thread (initial event.call) before)
            event.op := by
  induction run with
  | refl => exact ⟨governed_start bodies state among, by simp⟩
  | @step middle last trace event run step inductionHypothesis =>
      obtain ⟨governed, earlier⟩ := inductionHypothesis
        (fun before performed after next spawned split =>
          spawns before performed (after ++ event.toList) next spawned (by simp [split]))
        (fun before performed after split =>
          allowed before performed (after ++ event.toList) (by simp [split]))
      obtain ⟨now, governedNext⟩ := governed.step bodies tails
        (fun performed member next spawned => spawns trace performed [] next spawned
          (by rw [Option.mem_def.mp member]; rfl)) step
        (fun performed member => allowed trace performed []
          (by rw [Option.mem_def.mp member]; rfl))
      refine ⟨governedNext, fun before performed after split => ?_⟩
      cases event with
      | none => exact earlier before performed after (by simpa using split)
      | some performedLast =>
          rcases split_concat split with ⟨rfl, rfl⟩ | ⟨init, split_earlier⟩
          · exact now _ rfl
          · exact earlier before performed init split_earlier

/-- The run law of protocols: in every run from calls that obey the protocol,
each operation is permitted in the control state its thread has reached. -/
theorem Run.obeys {state : M.State} {calls : List M.Call} {last : Pool M}
    {trace : List (Event M)}
    (bodies : ∀ call,
      (M.body call).Obeys advance permitted possible final (initial call))
    (tails : ∀ control target, final control (.inl target) →
      control = initial target)
    (run : Run (Pool.start state calls) trace last)
    (allowed : ∀ (before : List (Event M)) (event : Event M) (after : List (Event M)),
      trace = before ++ event :: after →
      possible (controlAfter advance event.thread (initial event.call) before)
        event.op event.res) :
    Governed advance permitted possible final initial trace last ∧
      ∀ (before : List (Event M)) (event : Event M) (after : List (Event M)),
        trace = before ++ event :: after →
          permitted (controlAfter advance event.thread (initial event.call) before)
            event.op := by
  have everyCall : ∀ call ∈ calls, True := fun _ _ => trivial
  refine run.obeys_among (fun call _ => bodies call) ?_ (fun _ _ _ _ _ _ _ _ _ _ => trivial)
    everyCall allowed
  intro control target ended
  rw [tails control target ended]
  exact bodies target

/-! ### Potentials

A potential reads from a control state what its thread still owes.  When every event
changes the potential of its thread by its own weight, the weight of a run is what the
threads owe at its end. -/

/-- What a thread of the pool owes after a trace. -/
def owedBy (advance : κ → (op : M.Op) → M.Res op → κ) (initial : M.Call → κ)
    (potential : κ → Int) (trace : List (Event M)) (pool : Pool M) (i : Nat) : Int :=
  match pool.threads[i]? with
  | none => 0
  | some thread => potential (controlAfter advance i (initial thread.call) trace)

section Potential

variable {potential : κ → Int} {weight : (op : M.Op) → M.Res op → Int}

/-- The step law of potentials: only the thread that takes the step owes more or less
than before, by the weight of the step. -/
theorem Pool.Step.owedBy_perform {pool : Pool M} {trace : List (Event M)} {i : Nat}
    {call : M.Call} {op : M.Op} {next : M.Res op → Program M.Op M.Res (M.Call ⊕ M.Reply)}
    {event : Event M} {answer : M.Res op} {after : M.State} {spawned : List M.Call}
    (at_op : pool.threads[i]? = some ⟨call, .perform op next⟩)
    (known : ∀ earlier ∈ trace, earlier.thread < pool.threads.length)
    (start : ∀ call, potential (initial call) = 0)
    (own : event.thread = i) (sameCall : event.call = call)
    (law : weight event.op event.res =
      potential (advance (controlAfter advance event.thread (initial event.call) trace)
        event.op event.res) -
      potential (controlAfter advance event.thread (initial event.call) trace))
    (j : Nat) :
    owedBy advance initial potential (trace ++ [event])
        ⟨after, pool.threads.set i ⟨call, next answer⟩ ++ spawned.map Thread.start⟩ j =
      owedBy advance initial potential trace pool j +
        if j = i then weight event.op event.res else 0 := by
  subst own
  subst sameCall
  have bound : event.thread < pool.threads.length :=
    (List.getElem?_eq_some_iff.mp at_op).1
  unfold owedBy
  by_cases started : j < pool.threads.length
  · rw [List.getElem?_append_left (by simpa using started), List.getElem?_set]
    by_cases same : event.thread = j
    · subst same
      rw [if_pos rfl, if_pos bound, if_pos rfl, at_op]
      dsimp only
      rw [controlAfter_concat_self, law]
      omega
    · rw [if_neg same, if_neg fun equal => same equal.symm]
      cases pool.threads[j]? with
      | none => rfl
      | some thread =>
          dsimp only
          rw [controlAfter_concat_other _ _ same, Int.add_zero]
  · have outside : pool.threads[j]? = none := List.getElem?_eq_none (Nat.not_lt.mp started)
    rw [if_neg (by rintro rfl; exact started bound), outside,
      List.getElem?_append_right (by simpa using Nat.not_lt.mp started), List.getElem?_map]
    cases spawned[j - (pool.threads.set event.thread ⟨event.call, next answer⟩).length]? with
    | none => rfl
    | some target =>
        have fresh : ∀ performed ∈ trace ++ [event], performed.thread ≠ j := by
          intro performed member
          rcases List.mem_append.mp member with old | new
          · have := known performed old
            omega
          · rw [List.mem_singleton.mp new]
            omega
        simp only [Option.map_some, Thread.start]
        rw [controlAfter_untouched fresh, start]
        rfl

/-- The run law of potentials. -/
theorem Run.weight_eq_owed {state : M.State} {calls : List M.Call} {last : Pool M}
    {trace : List (Event M)} (run : Run (Pool.start state calls) trace last)
    (start : ∀ call, potential (initial call) = 0)
    (law : ∀ (before : List (Event M)) (event : Event M) (after : List (Event M)),
      trace = before ++ event :: after →
      weight event.op event.res =
        potential (advance (controlAfter advance event.thread (initial event.call) before)
          event.op event.res) -
        potential (controlAfter advance event.thread (initial event.call) before)) :
    (∀ event ∈ trace, event.thread < last.threads.length) ∧
      ∀ n, last.threads.length ≤ n →
        traceWeight weight trace =
          ∑ i ∈ Finset.range n, owedBy advance initial potential trace last i := by
  induction run with
  | refl =>
      refine ⟨by simp, ?_⟩
      intro n _
      symm
      apply Finset.sum_eq_zero
      intro i _
      unfold owedBy
      split
      · rfl
      · next thread at_i =>
          simp only [Pool.start, List.getElem?_map, Option.map_eq_some_iff] at at_i
          obtain ⟨call, _, rfl⟩ := at_i
          exact start call
  | @step middle last trace event run step inductionHypothesis =>
      obtain ⟨known, sum⟩ := inductionHypothesis
        (fun before performed after split =>
          law before performed (after ++ event.toList) (by simp [split]))
      cases step with
      | @perform i call op next env answer after spawned at_op handled =>
          have bound : i < middle.threads.length := (List.getElem?_eq_some_iff.mp at_op).1
          constructor
          · exact (Pool.Step.perform at_op handled).known known
          · intro n long
            simp only [List.length_append, List.length_set, List.length_map] at long
            rw [Option.toList_some, traceWeight_append, traceWeight_singleton,
              sum n (by omega)]
            have each : ∀ j, owedBy advance initial potential
                (trace ++ [⟨i, call, env, op, answer, middle.state⟩])
                ⟨after, middle.threads.set i ⟨call, next answer⟩ ++
                  spawned.map Thread.start⟩ j =
                owedBy advance initial potential trace middle j +
                  if j = i then weight op answer else 0 :=
              Pool.Step.owedBy_perform at_op known start rfl rfl (law trace _ [] rfl)
            simp only [each, Finset.sum_add_distrib, Finset.sum_ite_eq', Finset.mem_range]
            rw [if_pos (by omega)]
      | @tail i call target at_tail =>
          have same : ∀ j, owedBy advance initial potential trace
              ⟨middle.state, middle.threads.set i ⟨call, M.body target⟩⟩ j =
              owedBy advance initial potential trace middle j := by
            intro j
            unfold owedBy
            rw [List.getElem?_set]
            by_cases here : i = j
            · subst here
              rw [if_pos rfl, if_pos (List.getElem?_eq_some_iff.mp at_tail).1, at_tail]
            · rw [if_neg here]
          simp only [Option.toList_none, List.append_nil, List.length_set, same]
          exact ⟨known, sum⟩

/-- When no thread owes anything at the end, the weights of the run cancel out. -/
theorem Run.weight_eq_zero {state : M.State} {calls : List M.Call} {last : Pool M}
    {trace : List (Event M)} (run : Run (Pool.start state calls) trace last)
    (start : ∀ call, potential (initial call) = 0)
    (law : ∀ (before : List (Event M)) (event : Event M) (after : List (Event M)),
      trace = before ++ event :: after →
      weight event.op event.res =
        potential (advance (controlAfter advance event.thread (initial event.call) before)
          event.op event.res) -
        potential (controlAfter advance event.thread (initial event.call) before))
    (settled : ∀ (i : Nat) (thread : Thread M), last.threads[i]? = some thread →
      potential (controlAfter advance i (initial thread.call) trace) = 0) :
    traceWeight weight trace = 0 := by
  rw [(run.weight_eq_owed start law).2 last.threads.length le_rfl]
  apply Finset.sum_eq_zero
  intro i _
  unfold owedBy
  cases at_i : last.threads[i]? with
  | none => rfl
  | some thread => exact settled i thread at_i

end Potential

end Protocol

end Process
