/-
Module: SocialApi.Process.Phases
Purpose: Invariants of whole pools.  Every thread is in a phase of a protocol, and an
  invariant speaks of the phases of all threads, the shared state and the trace at once.
Trusted boundary: none
Main exports:
  Run.points, Phased, Phased.performing, Phased.returned, Led, RunWhere.phases,
  Run.phases_spawning, FollowsEach, Run.phases_led, Run.phases_each, Run.phases, Owned,
  LockMove, Owned.move, AtMostOne, AtMostOne.set, AtMostOne.concat
-/
import SocialApi.Process.System

namespace Process

variable {M : System}

/-! ### Program points -/

/-- A set of program points that contains the bodies and is closed under steps holds the
rest of every thread. -/
theorem Run.points {P : M.Call → Program M.Op M.Res (M.Call ⊕ M.Reply) → Prop}
    {state : M.State} {calls : List M.Call} {trace : List (Event M)} {last : Pool M}
    (start : ∀ call, P call (M.body call))
    (perform : ∀ call op next answer, P call (.perform op next) → P call (next answer))
    (tail : ∀ call target, P call (.ret (.inl target)) → P call (M.body target))
    (run : Run (Pool.start state calls) trace last) :
    ∀ thread ∈ last.threads, P thread.call thread.rest := by
  induction run with
  | refl =>
      intro thread member
      obtain ⟨call, _, rfl⟩ := List.mem_map.mp member
      exact start call
  | @step middle last trace event run step inductionHypothesis =>
      cases step with
      | @perform i call op next env answer after spawned at_op handled =>
          intro thread member
          rcases List.mem_append.mp member with kept | new
          · rcases List.mem_or_eq_of_mem_set kept with old | rfl
            · exact inductionHypothesis thread old
            · apply perform call op next answer
              exact inductionHypothesis ⟨call, _⟩ (List.mem_of_getElem? at_op)
          · obtain ⟨target, _, rfl⟩ := List.mem_map.mp new
            exact start target
      | @tail i call target at_tail =>
          intro thread member
          rcases List.mem_or_eq_of_mem_set member with old | rfl
          · exact inductionHypothesis thread old
          · apply tail call target
            exact inductionHypothesis ⟨call, _⟩ (List.mem_of_getElem? at_tail)

/-- The phase at an index after one of them has been set. -/
theorem phase_of_set {κ : Type} {phases : List κ} {i j : Nat} {phase other : κ}
    (at_j : (phases.set i phase)[j]? = some other) :
    (i = j ∧ other = phase) ∨ (i ≠ j ∧ phases[j]? = some other) := by
  rw [List.getElem?_set] at at_j
  by_cases same : i = j
  · rw [if_pos same] at at_j
    split at at_j
    · exact .inl ⟨same, (Option.some.inj at_j).symm⟩
    · cases at_j
  · rw [if_neg same] at at_j
    exact .inr ⟨same, at_j⟩

/-! ### Phases

Where no call starts another, a pool keeps its threads, and a list of phases stands beside
them.  A step moves the phase of one thread. -/

section Phases

variable {κ : Type} {advance : κ → (op : M.Op) → M.Res op → κ}
  {permitted : κ → M.Op → Prop} {possible : κ → (op : M.Op) → M.Res op → Prop}
  {final : κ → M.Call ⊕ M.Reply → Prop}

/-- Each thread is in a phase from which it goes on obeying the protocol. -/
structure Phased (advance : κ → (op : M.Op) → M.Res op → κ)
    (permitted : κ → M.Op → Prop) (possible : κ → (op : M.Op) → M.Res op → Prop)
    (final : κ → M.Call ⊕ M.Reply → Prop) (phases : List κ) (pool : Pool M) : Prop where
  length_eq : phases.length = pool.threads.length
  obeys : ∀ (i : Nat) (thread : Thread M) (phase : κ), pool.threads[i]? = some thread →
    phases[i]? = some phase →
      thread.rest.Obeys advance permitted possible final phase

/-- The phase of a thread of the pool. -/
theorem Phased.exists_phase {phases : List κ} {pool : Pool M} {i : Nat} {thread : Thread M}
    (phased : Phased advance permitted possible final phases pool)
    (at_i : pool.threads[i]? = some thread) : ∃ phase, phases[i]? = some phase := by
  have bound : i < pool.threads.length := (List.getElem?_eq_some_iff.mp at_i).1
  exact ⟨_, List.getElem?_eq_getElem (phased.length_eq ▸ bound)⟩

/-- A thread about to perform an operation is in a phase that permits it. -/
theorem Phased.performing {phases : List κ} {pool : Pool M} {i : Nat} {call : M.Call}
    {op : M.Op} {next : M.Res op → Program M.Op M.Res (M.Call ⊕ M.Reply)}
    (phased : Phased advance permitted possible final phases pool)
    (at_op : pool.threads[i]? = some ⟨call, .perform op next⟩) :
    ∃ phase, phases[i]? = some phase ∧ permitted phase op := by
  obtain ⟨phase, at_phase⟩ := phased.exists_phase at_op
  exact ⟨phase, at_phase, (phased.obeys i _ phase at_op at_phase).1⟩

/-- A thread is in a phase that permits the operation it performs next. -/
theorem Phased.permits {phases : List κ} {pool : Pool M} {i : Nat} {thread : Thread M}
    {op : M.Op} (phased : Phased advance permitted possible final phases pool)
    (at_i : pool.threads[i]? = some thread) (performs : thread.nextOp = some op) :
    ∃ phase, phases[i]? = some phase ∧ permitted phase op := by
  obtain ⟨call, rest⟩ := thread
  cases rest with
  | ret outcome => cases performs
  | perform next rest =>
      obtain rfl := Option.some.inj performs
      exact phased.performing at_i

/-- A thread that has come back ended in a phase that goes with its outcome. -/
theorem Phased.returned {phases : List κ} {pool : Pool M} {i : Nat} {thread : Thread M}
    {phase : κ} {outcome : M.Call ⊕ M.Reply}
    (phased : Phased advance permitted possible final phases pool)
    (at_i : pool.threads[i]? = some thread) (at_phase : phases[i]? = some phase)
    (ended : thread.rest = .ret outcome) : final phase outcome := by
  have obeys := phased.obeys i thread phase at_i at_phase
  rw [ended] at obeys
  exact obeys

variable {initial : M.Call → κ} {Among : M.Call → Prop}

theorem phased_start {state : M.State} {calls : List M.Call}
    (bodies : ∀ call, Among call →
      (M.body call).Obeys advance permitted possible final (initial call))
    (among : ∀ call ∈ calls, Among call) :
    Phased advance permitted possible final (calls.map initial)
      (Pool.start state calls) where
  length_eq := by simp [Pool.start]
  obeys := by
    intro i thread phase at_i at_phase
    simp only [Pool.start, List.getElem?_map, Option.map_eq_some_iff] at at_i at_phase
    obtain ⟨call, at_call, rfl⟩ := at_i
    obtain ⟨other, at_other, rfl⟩ := at_phase
    rw [at_call] at at_other
    obtain rfl := Option.some.inj at_other
    exact bodies call (among call (List.mem_of_getElem? at_call))

/-- An operation that starts no call moves the phase of its thread. -/
theorem Phased.perform {phases : List κ} {pool : Pool M} {i : Nat} {call : M.Call}
    {op : M.Op} {next : M.Res op → Program M.Op M.Res (M.Call ⊕ M.Reply)}
    {answer : M.Res op} {after : M.State} {phase : κ}
    (phased : Phased advance permitted possible final phases pool)
    (at_op : pool.threads[i]? = some ⟨call, .perform op next⟩)
    (at_phase : phases[i]? = some phase) (allowed : possible phase op answer) :
    Phased advance permitted possible final (phases.set i (advance phase op answer))
      ⟨after, pool.threads.set i ⟨call, next answer⟩⟩ where
  length_eq := by simpa using phased.length_eq
  obeys := by
    intro j thread reached at_j at_reached
    rw [List.getElem?_set] at at_j at_reached
    by_cases same : i = j
    · subst same
      have bound := (List.getElem?_eq_some_iff.mp at_op).1
      rw [if_pos rfl, if_pos bound] at at_j
      rw [if_pos rfl, if_pos (phased.length_eq ▸ bound)] at at_reached
      obtain rfl := Option.some.inj at_j
      obtain rfl := Option.some.inj at_reached
      exact (phased.obeys i _ phase at_op at_phase).2 answer allowed
    · rw [if_neg same] at at_j at_reached
      exact phased.obeys j thread reached at_j at_reached

/-- A tail call starts its target in the phase it was left in. -/
theorem Phased.tail {phases : List κ} {pool : Pool M} {i : Nat} {call target : M.Call}
    (bodies : ∀ call, Among call →
      (M.body call).Obeys advance permitted possible final (initial call))
    (tails : ∀ phase target, final phase (.inl target) →
      Among target ∧ phase = initial target)
    (phased : Phased advance permitted possible final phases pool)
    (at_tail : pool.threads[i]? = some ⟨call, .ret (.inl target)⟩) :
    Phased advance permitted possible final phases
      ⟨pool.state, pool.threads.set i ⟨call, M.body target⟩⟩ where
  length_eq := by simpa using phased.length_eq
  obeys := by
    intro j thread reached at_j at_reached
    rw [List.getElem?_set] at at_j
    by_cases same : i = j
    · subst same
      rw [if_pos rfl, if_pos (List.getElem?_eq_some_iff.mp at_tail).1] at at_j
      obtain rfl := Option.some.inj at_j
      obtain ⟨among, rfl⟩ := tails _ _ (phased.obeys i _ reached at_tail at_reached)
      exact bodies target among
    · rw [if_neg same] at at_j
      exact phased.obeys j thread reached at_j at_reached

/-- Tasks that are started begin in their first phases. -/
theorem Phased.append {phases : List κ} {pool : Pool M} {tasks : List M.Call}
    (bodies : ∀ call, Among call →
      (M.body call).Obeys advance permitted possible final (initial call))
    (phased : Phased advance permitted possible final phases pool)
    (among : ∀ task ∈ tasks, Among task) :
    Phased advance permitted possible final (phases ++ tasks.map initial)
      ⟨pool.state, pool.threads ++ tasks.map Thread.start⟩ where
  length_eq := by simp [phased.length_eq]
  obeys := by
    intro i thread phase at_i at_phase
    by_cases old : i < pool.threads.length
    · rw [List.getElem?_append_left old] at at_i
      rw [List.getElem?_append_left (phased.length_eq ▸ old)] at at_phase
      exact phased.obeys i thread phase at_i at_phase
    · rw [List.getElem?_append_right (not_lt.mp old), List.getElem?_map] at at_i
      rw [List.getElem?_append_right (phased.length_eq ▸ not_lt.mp old), phased.length_eq,
        List.getElem?_map] at at_phase
      obtain ⟨task, at_task, rfl⟩ := Option.map_eq_some_iff.mp at_i
      obtain ⟨other, at_other, rfl⟩ := Option.map_eq_some_iff.mp at_phase
      obtain rfl := Option.some.inj (at_task.symm.trans at_other)
      exact bodies task (among task (List.mem_of_getElem? at_task))

/-- Each thread is in the phase that its own events of the trace lead to. -/
def Led (advance : κ → (op : M.Op) → M.Res op → κ) (initial : M.Call → κ)
    (trace : List (Event M)) (phases : List κ) (pool : Pool M) : Prop :=
  ∀ (i : Nat) (thread : Thread M), pool.threads[i]? = some thread →
    phases[i]? = some (controlAfter advance i (initial thread.call) trace)

theorem led_start (state : M.State) (calls : List M.Call) :
    Led advance initial [] (calls.map initial) (Pool.start state calls) := by
  intro i thread at_i
  simp only [Pool.start, List.getElem?_map, Option.map_eq_some_iff] at at_i ⊢
  obtain ⟨call, at_call, rfl⟩ := at_i
  exact ⟨call, at_call, rfl⟩

theorem Led.perform {trace : List (Event M)} {phases : List κ} {pool : Pool M} {i : Nat}
    {call : M.Call} {op : M.Op} {next : M.Res op → Program M.Op M.Res (M.Call ⊕ M.Reply)}
    {env : M.Env} {answer : M.Res op} {after : M.State}
    (led : Led advance initial trace phases pool)
    (length : phases.length = pool.threads.length)
    (at_op : pool.threads[i]? = some ⟨call, .perform op next⟩) :
    Led advance initial (trace ++ [⟨i, call, env, op, answer, pool.state⟩])
      (phases.set i (advance (controlAfter advance i (initial call) trace) op answer))
      ⟨after, pool.threads.set i ⟨call, next answer⟩⟩ := by
  intro j thread at_j
  rw [List.getElem?_set] at at_j ⊢
  by_cases same : i = j
  · subst same
    have bound := (List.getElem?_eq_some_iff.mp at_op).1
    rw [if_pos rfl, if_pos bound] at at_j
    rw [if_pos rfl, if_pos (length ▸ bound)]
    obtain rfl := Option.some.inj at_j
    exact congrArg some (controlAfter_concat_self _ trace
      ⟨i, call, env, op, answer, pool.state⟩).symm
  · rw [if_neg same] at at_j ⊢
    exact (led j thread at_j).trans
      (congrArg some (controlAfter_concat_other _ trace same).symm)

theorem Led.tail {trace : List (Event M)} {phases : List κ} {pool : Pool M} {i : Nat}
    {call target : M.Call} (led : Led advance initial trace phases pool)
    (at_tail : pool.threads[i]? = some ⟨call, .ret (.inl target)⟩) :
    Led advance initial trace phases
      ⟨pool.state, pool.threads.set i ⟨call, M.body target⟩⟩ := by
  intro j thread at_j
  rw [List.getElem?_set] at at_j
  by_cases same : i = j
  · subst same
    rw [if_pos rfl, if_pos (List.getElem?_eq_some_iff.mp at_tail).1] at at_j
    obtain rfl := Option.some.inj at_j
    exact led i ⟨call, .ret (.inl target)⟩ at_tail
  · rw [if_neg same] at at_j
    exact led j thread at_j

/-- No event belongs to a task yet that is only started. -/
theorem Led.append {trace : List (Event M)} {phases : List κ} {pool : Pool M}
    (led : Led advance initial trace phases pool)
    (length : phases.length = pool.threads.length)
    (known : ∀ event ∈ trace, event.thread < pool.threads.length) (tasks : List M.Call) :
    Led advance initial trace (phases ++ tasks.map initial)
      ⟨pool.state, pool.threads ++ tasks.map Thread.start⟩ := by
  intro j thread at_j
  by_cases old : j < pool.threads.length
  · rw [List.getElem?_append_left old] at at_j
    rw [List.getElem?_append_left (length ▸ old)]
    exact led j thread at_j
  · have untouched : ∀ event ∈ trace, event.thread ≠ j :=
      fun event member here => old (here ▸ known event member)
    rw [List.getElem?_append_right (not_lt.mp old), List.getElem?_map] at at_j
    rw [List.getElem?_append_right (length ▸ not_lt.mp old), length, List.getElem?_map]
    obtain ⟨task, at_task, rfl⟩ := Option.map_eq_some_iff.mp at_j
    rw [at_task, controlAfter_untouched untouched]
    rfl

/-- The run law of phases.  An invariant of the trace, the phases and the shared state
holds after a run when every operation that a phase permits keeps it, gets an answer that is
possible in that phase, and starts only tasks that the protocol covers.  The phases are
those that the trace leads to, and stand beside the pool that the operation finds. -/
theorem RunWhere.phases {Meets : Pool M → Event M → Prop}
    (Invariant : List (Event M) → List κ → M.State → Prop)
    {state : M.State} {calls : List M.Call} {trace : List (Event M)} {last : Pool M}
    (bodies : ∀ call, Among call →
      (M.body call).Obeys advance permitted possible final (initial call))
    (tails : ∀ phase target, final phase (.inl target) →
      Among target ∧ phase = initial target)
    (among : ∀ call ∈ calls, Among call)
    (run : RunWhere Meets (Pool.start state calls) trace last)
    (start : Invariant [] (calls.map initial) state)
    (step : ∀ (before : List (Event M)) (event : Event M) (after : List (Event M))
      (pool : Pool M) (phases : List κ) (phase : κ) (next : M.State) (spawned : List M.Call),
      trace = before ++ event :: after → Meets pool event →
      Phased advance permitted possible final phases pool →
      (∀ (i : Nat) (thread : Thread M), pool.threads[i]? = some thread →
        phases[i]? = some (controlAfter advance i (initial thread.call) before)) →
      phase = controlAfter advance event.thread (initial event.call) before →
      phases[event.thread]? = some phase → permitted phase event.op →
      M.handle event.env event.op event.before = some (event.res, next, spawned) →
      Invariant before phases event.before →
        (∀ task ∈ spawned, Among task) ∧ possible phase event.op event.res ∧
          Invariant (before ++ [event])
            (phases.set event.thread (advance phase event.op event.res) ++
              spawned.map initial) next) :
    ∃ phases, Phased advance permitted possible final phases last ∧
      (∀ (i : Nat) (thread : Thread M), last.threads[i]? = some thread →
        phases[i]? = some (controlAfter advance i (initial thread.call) trace)) ∧
      Invariant trace phases last.state := by
  induction run with
  | refl =>
      exact ⟨_, phased_start bodies among, led_start state calls, start⟩
  | @step middle last trace event run taken meets inductionHypothesis =>
      obtain ⟨phases, phased, led, holds⟩ := inductionHypothesis
        (fun before performed after pool phases phase next spawned split =>
          step before performed (after ++ event.toList) pool phases phase next spawned
            (by simp [split]))
      replace led : Led advance initial trace phases middle := led
      cases taken with
      | @perform i call op next env answer after spawned at_op handled =>
          obtain ⟨phase, at_phase, permits⟩ := phased.performing at_op
          obtain rfl := Option.some.inj (at_phase.symm.trans (led i _ at_op))
          obtain ⟨covered, allowed, kept⟩ := step trace
            ⟨i, call, env, op, answer, middle.state⟩ [] middle phases _ after spawned rfl
            (meets _ rfl) phased led rfl at_phase permits handled holds
          have moved : Phased advance permitted possible final _ ⟨after, _⟩ :=
            phased.perform at_op at_phase allowed
          have known : ∀ event ∈ trace ++ [(⟨i, call, env, op, answer, middle.state⟩ : Event M)],
              event.thread < (middle.threads.set i ⟨call, next answer⟩).length := by
            intro event member
            rw [List.length_set]
            rcases List.mem_append.mp member with earlier | new
            · obtain ⟨owner, at_owner, _⟩ := run.run.event_thread event earlier
              exact (List.getElem?_eq_some_iff.mp at_owner).1
            · obtain rfl := List.mem_singleton.mp new
              exact (List.getElem?_eq_some_iff.mp at_op).1
          exact ⟨_, moved.append bodies covered,
            (led.perform phased.length_eq at_op).append moved.length_eq known spawned, kept⟩
      | @tail i call target at_tail =>
          rw [Option.toList_none, List.append_nil]
          exact ⟨phases, phased.tail bodies tails at_tail, led.tail at_tail, holds⟩

/-- The run law of phases where nothing is asked of the run. -/
theorem Run.phases_spawning (Invariant : List (Event M) → List κ → M.State → Prop)
    {state : M.State} {calls : List M.Call} {trace : List (Event M)} {last : Pool M}
    (bodies : ∀ call, Among call →
      (M.body call).Obeys advance permitted possible final (initial call))
    (tails : ∀ phase target, final phase (.inl target) →
      Among target ∧ phase = initial target)
    (among : ∀ call ∈ calls, Among call)
    (run : Run (Pool.start state calls) trace last)
    (start : Invariant [] (calls.map initial) state)
    (step : ∀ (before : List (Event M)) (event : Event M) (after : List (Event M))
      (phases : List κ) (phase : κ) (next : M.State) (spawned : List M.Call),
      trace = before ++ event :: after →
      phase = controlAfter advance event.thread (initial event.call) before →
      phases[event.thread]? = some phase → permitted phase event.op →
      M.handle event.env event.op event.before = some (event.res, next, spawned) →
      Invariant before phases event.before →
        (∀ task ∈ spawned, Among task) ∧ possible phase event.op event.res ∧
          Invariant (before ++ [event])
            (phases.set event.thread (advance phase event.op event.res) ++
              spawned.map initial) next) :
    ∃ phases, Phased advance permitted possible final phases last ∧
      (∀ (i : Nat) (thread : Thread M), last.threads[i]? = some thread →
        phases[i]? = some (controlAfter advance i (initial thread.call) trace)) ∧
      Invariant trace phases last.state := by
  have free : RunWhere (fun _ _ => True) (Pool.start state calls) trace last :=
    run.runWhere fun _ _ _ => trivial
  apply free.phases Invariant bodies tails among start
  intro before event after pool phases phase next spawned split _ _ _
  exact step before event after phases phase next spawned split

/-- Each thread with a phase is as its phase says, and the events of the trace belong to such
threads. -/
structure FollowsEach (Each : List (Event M) → Nat → κ → Prop) (trace : List (Event M))
    (phases : List κ) : Prop where
  known : ∀ event ∈ trace, event.thread < phases.length
  each : ∀ (i : Nat) (phase : κ), phases[i]? = some phase → Each trace i phase

section FollowsEach

variable {Each : List (Event M) → Nat → κ → Prop}
  (start : ∀ before i call, (∀ event ∈ before, event.thread ≠ i) →
    Each before i (initial call))

include start

theorem followsEach_start (calls : List M.Call) : FollowsEach Each [] (calls.map initial) where
  known := by simp
  each := by
    intro i phase at_i
    rw [List.getElem?_map] at at_i
    obtain ⟨call, _, rfl⟩ := Option.map_eq_some_iff.mp at_i
    exact start [] i call (by simp)

/-- A thread takes a step, and tasks are started. -/
theorem FollowsEach.step {before : List (Event M)} {event : Event M} {phases : List κ}
    {reached : κ} (follows : FollowsEach Each before phases)
    (other : ∀ before (event : Event M) i phase, event.thread ≠ i →
      Each before i phase → Each (before ++ [event]) i phase)
    (bound : event.thread < phases.length)
    (moved : Each (before ++ [event]) event.thread reached) (tasks : List M.Call) :
    FollowsEach Each (before ++ [event])
      (phases.set event.thread reached ++ tasks.map initial) := by
  have inside : ∀ performed ∈ before ++ [event], performed.thread < phases.length := by
    intro performed member
    rcases List.mem_append.mp member with earlier | new
    · exact follows.known performed earlier
    · obtain rfl := List.mem_singleton.mp new
      exact bound
  constructor
  · intro performed member
    rw [List.length_append, List.length_set]
    exact Nat.lt_add_right _ (inside performed member)
  · intro j phase at_j
    rcases entry_of_set_append at_j with ⟨rfl, rfl⟩ | ⟨elsewhere, at_j⟩ | ⟨fresh, started⟩
    · exact moved
    · exact other before event j phase elsewhere (follows.each j phase at_j)
    · obtain ⟨task, _, rfl⟩ := List.mem_map.mp started
      apply start
      exact fun performed member => (lt_of_lt_of_le (inside performed member) fresh).ne

end FollowsEach

/-- The run law of phases for invariants that follow every thread: each phase beside the pool
is the one that the trace so far leads its thread to. -/
theorem Run.phases_led (Invariant : List (Event M) → List κ → M.State → Prop)
    {state : M.State} {calls : List M.Call} {trace : List (Event M)} {last : Pool M}
    (bodies : ∀ call, Among call →
      (M.body call).Obeys advance permitted possible final (initial call))
    (tails : ∀ phase target, final phase (.inl target) →
      Among target ∧ phase = initial target)
    (among : ∀ call ∈ calls, Among call)
    (run : Run (Pool.start state calls) trace last)
    (start : Invariant [] (calls.map initial) state)
    (step : ∀ (before : List (Event M)) (event : Event M) (after : List (Event M))
      (phases : List κ) (phase : κ) (next : M.State) (spawned : List M.Call),
      trace = before ++ event :: after →
      (∀ (i : Nat) (other : κ), phases[i]? = some other →
        ∃ call, other = controlAfter advance i (initial call) before) →
      phases[event.thread]? = some phase → permitted phase event.op →
      M.handle event.env event.op event.before = some (event.res, next, spawned) →
      Invariant before phases event.before →
        (∀ task ∈ spawned, Among task) ∧ possible phase event.op event.res ∧
          Invariant (before ++ [event])
            (phases.set event.thread (advance phase event.op event.res) ++
              spawned.map initial) next) :
    ∃ phases, Phased advance permitted possible final phases last ∧
      Invariant trace phases last.state := by
  have untouched : ∀ before i call, (∀ event ∈ before, event.thread ≠ i) →
      ∃ other, initial call = controlAfter advance i (initial other) before :=
    fun before i call apart => ⟨call, (controlAfter_untouched apart).symm⟩
  obtain ⟨phases, phased, _, _, holds⟩ := Run.phases_spawning
    (fun trace phases state => FollowsEach
        (fun trace i phase => ∃ call, phase = controlAfter advance i (initial call) trace)
        trace phases ∧ Invariant trace phases state)
    bodies tails among run ⟨followsEach_start untouched calls, start⟩ (by
      intro before event after phases phase next spawned split led at_phase permits handled
        kept
      obtain ⟨follows, holds⟩ := kept
      obtain ⟨covered, allowed, again⟩ :=
        step before event after phases phase next spawned split follows.each at_phase permits
          handled holds
      refine ⟨covered, allowed, follows.step untouched ?_ ?_ ?_ spawned, again⟩
      · rintro earlier performed i _ elsewhere ⟨call, rfl⟩
        exact ⟨call, (controlAfter_concat_other _ earlier elsewhere).symm⟩
      · exact (List.getElem?_eq_some_iff.mp at_phase).1
      · rw [led]
        exact ⟨event.call, (controlAfter_concat_self _ before event).symm⟩)
  exact ⟨phases, phased, holds⟩

/-- The run law of phases for what is true of each thread by itself: it holds of a thread that
has taken no step, the steps of other threads keep it, and so do its own. -/
theorem Run.phases_each (Each : List (Event M) → Nat → κ → Prop)
    {state : M.State} {calls : List M.Call} {trace : List (Event M)} {last : Pool M}
    (bodies : ∀ call, Among call →
      (M.body call).Obeys advance permitted possible final (initial call))
    (tails : ∀ phase target, final phase (.inl target) →
      Among target ∧ phase = initial target)
    (among : ∀ call ∈ calls, Among call)
    (run : Run (Pool.start state calls) trace last)
    (start : ∀ before i call, (∀ event ∈ before, event.thread ≠ i) →
      Each before i (initial call))
    (other : ∀ before (event : Event M) i phase, event.thread ≠ i →
      Each before i phase → Each (before ++ [event]) i phase)
    (own : ∀ (before : List (Event M)) (event : Event M) (phase : κ) (next : M.State)
      (spawned : List M.Call), event ∈ trace → permitted phase event.op →
      M.handle event.env event.op event.before = some (event.res, next, spawned) →
      Each before event.thread phase →
        (∀ task ∈ spawned, Among task) ∧ possible phase event.op event.res ∧
          Each (before ++ [event]) event.thread (advance phase event.op event.res)) :
    ∀ (i : Nat) (thread : Thread M), last.threads[i]? = some thread →
      thread.rest.Obeys advance permitted possible final
          (controlAfter advance i (initial thread.call) trace) ∧
        Each trace i (controlAfter advance i (initial thread.call) trace) := by
  obtain ⟨phases, phased, led, follows⟩ := Run.phases_spawning
    (fun trace phases _ => FollowsEach Each trace phases)
    bodies tails among run (followsEach_start start calls) (by
      intro before event after phases phase next spawned split _ at_i permits handled follows
      have member : event ∈ trace := split ▸ List.mem_append_right _ List.mem_cons_self
      obtain ⟨covered, allowed, moved⟩ :=
        own before event phase next spawned member permits handled (follows.each _ phase at_i)
      have bound := (List.getElem?_eq_some_iff.mp at_i).1
      exact ⟨covered, allowed, follows.step start other bound moved spawned⟩)
  intro i thread at_i
  exact ⟨phased.obeys i thread _ at_i (led i thread at_i),
    follows.each i _ (led i thread at_i)⟩

/-- The run law of phases where no operation starts a task: the calls are those of the
start. -/
theorem Run.phases (Invariant : List (Event M) → List κ → M.State → Prop)
    {state : M.State} {calls : List M.Call} {trace : List (Event M)} {last : Pool M}
    (bodies : ∀ call, Among call →
      (M.body call).Obeys advance permitted possible final (initial call))
    (tails : ∀ phase target, final phase (.inl target) →
      Among target ∧ phase = initial target)
    (among : ∀ call ∈ calls, Among call)
    (run : Run (Pool.start state calls) trace last)
    (start : Invariant [] (calls.map initial) state)
    (step : ∀ (before : List (Event M)) (event : Event M) (after : List (Event M))
      (phases : List κ) (phase : κ) (next : M.State) (spawned : List M.Call),
      trace = before ++ event :: after → event.call ∈ calls →
      phase = controlAfter advance event.thread (initial event.call) before →
      phases[event.thread]? = some phase → permitted phase event.op →
      M.handle event.env event.op event.before = some (event.res, next, spawned) →
      Invariant before phases event.before →
        spawned = [] ∧ possible phase event.op event.res ∧
          Invariant (before ++ [event])
            (phases.set event.thread (advance phase event.op event.res)) next) :
    ∃ phases, Phased advance permitted possible final phases last ∧
      (∀ (i : Nat) (thread : Thread M), last.threads[i]? = some thread →
        thread.call ∈ calls ∧
          phases[i]? = some (controlAfter advance i (initial thread.call) trace)) ∧
      Invariant trace phases last.state := by
  obtain ⟨phases, phased, led, holds, unspawned⟩ := Run.phases_spawning
    (fun trace phases state => Invariant trace phases state ∧
      ∀ event ∈ trace, ∀ task, ¬ event.Spawned task)
    bodies tails among run ⟨start, by simp⟩ (by
      intro before event after phases phase next spawned split led at_i permits handled both
      obtain ⟨holds, unspawned⟩ := both
      have known : event.call ∈ calls := by
        rcases run.event_origin before event after split with known | ⟨earlier, among, task⟩
        · exact known
        · exact absurd task (unspawned earlier among event.call)
      obtain ⟨rfl, allowed, kept⟩ := step before event after phases phase next spawned split
        known led at_i permits handled holds
      refine ⟨by simp, allowed, by simpa using kept, ?_⟩
      intro performed member task started
      rcases List.mem_append.mp member with earlier | new
      · exact unspawned performed earlier task started
      · obtain rfl := List.mem_singleton.mp new
        obtain ⟨_, tasks, again, among⟩ := started
        obtain rfl : [] = tasks := by
          have same := handled.symm.trans again
          simp only [Option.some.injEq, Prod.mk.injEq] at same
          exact same.2.2
        cases among)
  refine ⟨phases, phased, ?_, holds⟩
  intro i thread at_i
  refine ⟨?_, led i thread at_i⟩
  rcases run.thread_origin thread (List.mem_of_getElem? at_i) with known | ⟨event, among, task⟩
  · exact known
  · exact absurd task (unspawned event among thread.call)

end Phases

/-! ### Locks and their owners

A lock is a set of keys, and a phase owns at most one of them. -/

section Owned

variable {κ ι : Type}

theorem set_self_phase {phases : List κ} {i : Nat} {old : κ} (phase : κ)
    (at_i : phases[i]? = some old) : (phases.set i phase)[i]? = some phase :=
  List.getElem?_set_self (List.getElem?_eq_some_iff.mp at_i).1

theorem set_other_phase {phases : List κ} {i j : Nat} {phase : κ} (ne : i ≠ j) :
    (phases.set i phase)[j]? = phases[j]? :=
  List.getElem?_set_ne ne

/-- The keys in the lock are the keys that the phases own, and no two own the same. -/
structure Owned (owns : κ → Option ι) (lock : ι → Bool) (phases : List κ) : Prop where
  owner : ∀ key, lock key = true →
    ∃ (i : Nat) (phase : κ), phases[i]? = some phase ∧ owns phase = some key
  locked : ∀ (i : Nat) (phase : κ) key, phases[i]? = some phase → owns phase = some key →
    lock key = true
  unique : ∀ (i j : Nat) (phase other : κ) key, phases[i]? = some phase →
    phases[j]? = some other → owns phase = some key → owns other = some key → i = j

variable {owns : κ → Option ι} {lock : ι → Bool} {phases : List κ} {i : Nat}
  {phase next : κ} {key : ι}

theorem owned_start {phases : List κ} (free : ∀ key, lock key = false)
    (none_owned : ∀ phase ∈ phases, owns phase = none) : Owned owns lock phases where
  owner := by
    intro key taken
    rw [free key] at taken
    cases taken
  locked := by
    intro i phase key at_i owned
    rw [none_owned phase (List.mem_of_getElem? at_i)] at owned
    cases owned
  unique := by
    intro i j phase other key at_i _ owned
    rw [none_owned phase (List.mem_of_getElem? at_i)] at owned
    cases owned

/-- A step that changes neither the lock nor what its phase owns. -/
theorem Owned.keep (owned : Owned owns lock phases) (at_i : phases[i]? = some phase)
    (same : owns next = owns phase) : Owned owns lock (phases.set i next) where
  owner := by
    intro key taken
    obtain ⟨j, other, at_j, owning⟩ := owned.owner key taken
    by_cases here : i = j
    · subst here
      rw [at_i] at at_j
      obtain rfl := Option.some.inj at_j
      exact ⟨i, next, set_self_phase next at_i, same.trans owning⟩
    · exact ⟨j, other, (set_other_phase here).trans at_j, owning⟩
  locked := by
    intro j other key at_j owning
    rcases phase_of_set at_j with ⟨rfl, rfl⟩ | ⟨_, old_j⟩
    · exact owned.locked i phase key at_i (same ▸ owning)
    · exact owned.locked j other key old_j owning
  unique := by
    intro j k one two key at_j at_k owning owningToo
    rcases phase_of_set at_j with ⟨rfl, rfl⟩ | ⟨_, old_j⟩
    · rcases phase_of_set at_k with ⟨rfl, rfl⟩ | ⟨_, old_k⟩
      · rfl
      · exact owned.unique _ _ _ _ key at_i old_k (same ▸ owning) owningToo
    · rcases phase_of_set at_k with ⟨rfl, rfl⟩ | ⟨_, old_k⟩
      · exact owned.unique _ _ _ _ key old_j at_i owning (same ▸ owningToo)
      · exact owned.unique _ _ _ _ key old_j old_k owning owningToo

/-- A phase that owned nothing takes a free key. -/
theorem Owned.acquire [DecidableEq ι] (owned : Owned owns lock phases)
    (at_i : phases[i]? = some phase) (free : lock key = false)
    (nothing : owns phase = none) (takes : owns next = some key) :
    Owned owns (Function.update lock key true) (phases.set i next) where
  owner := by
    intro other taken
    by_cases same : other = key
    · subst same
      exact ⟨i, next, set_self_phase next at_i, takes⟩
    · rw [Function.update_of_ne same] at taken
      obtain ⟨j, holder, at_j, owning⟩ := owned.owner other taken
      have elsewhere : i ≠ j := by
        rintro rfl
        rw [at_i] at at_j
        obtain rfl := Option.some.inj at_j
        rw [nothing] at owning
        cases owning
      exact ⟨j, holder, (set_other_phase elsewhere).trans at_j, owning⟩
  locked := by
    intro j holder other at_j owning
    by_cases same : other = key
    · rw [same, Function.update_self]
    · rw [Function.update_of_ne same]
      rcases phase_of_set at_j with ⟨rfl, rfl⟩ | ⟨_, old_j⟩
      · exact absurd (Option.some.inj (owning.symm.trans takes)) same
      · exact owned.locked j holder other old_j owning
  unique := by
    have fresh : ∀ (j : Nat) (holder : κ), phases[j]? = some holder →
        owns holder ≠ some key := by
      intro j holder at_j owning
      rw [owned.locked j holder key at_j owning] at free
      cases free
    intro j k one two other at_j at_k owning owningToo
    rcases phase_of_set at_j with ⟨rfl, rfl⟩ | ⟨_, old_j⟩
    · rcases phase_of_set at_k with ⟨rfl, rfl⟩ | ⟨_, old_k⟩
      · rfl
      · rw [takes] at owning
        exact absurd (owningToo.trans owning.symm) (fresh _ _ old_k)
    · rcases phase_of_set at_k with ⟨rfl, rfl⟩ | ⟨_, old_k⟩
      · rw [takes] at owningToo
        exact absurd (owning.trans owningToo.symm) (fresh _ _ old_j)
      · exact owned.unique _ _ _ _ other old_j old_k owning owningToo

/-- The owner of a key gives it back. -/
theorem Owned.release [DecidableEq ι] (owned : Owned owns lock phases)
    (at_i : phases[i]? = some phase) (owning : owns phase = some key)
    (gives : owns next = none) :
    Owned owns (Function.update lock key false) (phases.set i next) where
  owner := by
    intro other taken
    by_cases same : other = key
    · rw [same, Function.update_self] at taken
      cases taken
    · rw [Function.update_of_ne same] at taken
      obtain ⟨j, holder, at_j, held⟩ := owned.owner other taken
      have elsewhere : i ≠ j := by
        rintro rfl
        rw [at_i] at at_j
        obtain rfl := Option.some.inj at_j
        exact same (Option.some.inj (held.symm.trans owning))
      exact ⟨j, holder, (set_other_phase elsewhere).trans at_j, held⟩
  locked := by
    intro j holder other at_j held
    rcases phase_of_set at_j with ⟨rfl, rfl⟩ | ⟨elsewhere, at_j⟩
    · rw [gives] at held
      cases held
    · have different : other ≠ key := by
        rintro rfl
        exact elsewhere (owned.unique _ _ _ _ other at_i at_j owning held)
      rw [Function.update_of_ne different]
      exact owned.locked j holder other at_j held
  unique := by
    intro j k one two other at_j at_k held heldToo
    rcases phase_of_set at_j with ⟨rfl, rfl⟩ | ⟨_, old_j⟩
    · rw [gives] at held
      cases held
    · rcases phase_of_set at_k with ⟨rfl, rfl⟩ | ⟨_, old_k⟩
      · rw [gives] at heldToo
        cases heldToo
      · exact owned.unique _ _ _ _ other old_j old_k held heldToo

/-- How one step moves the lock and what its phase owns: neither changes, or a free key is
taken, or an owned key is given back. -/
inductive LockMove [DecidableEq ι] : Option ι → Option ι → (ι → Bool) → (ι → Bool) → Prop
  where
  | keep {owning : Option ι} {lock : ι → Bool} : LockMove owning owning lock lock
  | acquire {key : ι} {lock : ι → Bool} (free : lock key = false) :
      LockMove none (some key) lock (Function.update lock key true)
  | release {key : ι} {lock : ι → Bool} :
      LockMove (some key) none lock (Function.update lock key false)

/-- The step law of locks. -/
theorem Owned.move [DecidableEq ι] {after : ι → Bool} (owned : Owned owns lock phases)
    (at_i : phases[i]? = some phase)
    (move : LockMove (owns phase) (owns next) lock after) :
    Owned owns after (phases.set i next) := by
  generalize before_eq : owns phase = before at move
  generalize after_eq : owns next = reached at move
  cases move with
  | keep => exact owned.keep at_i (after_eq.trans before_eq.symm)
  | acquire free => exact owned.acquire at_i free before_eq after_eq
  | release => exact owned.release at_i before_eq after_eq

/-- Phases that own nothing may join. -/
theorem Owned.append {more : List κ} (owned : Owned owns lock phases)
    (none_owned : ∀ phase ∈ more, owns phase = none) : Owned owns lock (phases ++ more) := by
  have old : ∀ {j : Nat} {holder : κ} {key : ι}, (phases ++ more)[j]? = some holder →
      owns holder = some key → phases[j]? = some holder := by
    intro j holder key at_j owning
    by_cases inside : j < phases.length
    · rwa [List.getElem?_append_left inside] at at_j
    · rw [List.getElem?_append_right (not_lt.mp inside)] at at_j
      rw [none_owned holder (List.mem_of_getElem? at_j)] at owning
      cases owning
  constructor
  · intro key taken
    obtain ⟨j, holder, at_j, owning⟩ := owned.owner key taken
    refine ⟨j, holder, ?_, owning⟩
    rwa [List.getElem?_append_left (List.getElem?_eq_some_iff.mp at_j).1]
  · intro j holder key at_j owning
    exact owned.locked j holder key (old at_j owning) owning
  · intro j k one two key at_j at_k owning owningToo
    exact owned.unique j k one two key (old at_j owning) (old at_k owningToo) owning owningToo

end Owned

/-! ### At most one phase -/

section AtMostOne

variable {κ : Type} {P : κ → Prop} {phases : List κ}

/-- The property holds of one phase at most. -/
def AtMostOne (P : κ → Prop) (phases : List κ) : Prop :=
  ∀ (i j : Nat) (one two : κ), phases[i]? = some one → phases[j]? = some two →
    P one → P two → i = j

/-- A step that leads to the property finds it nowhere else. -/
theorem AtMostOne.set {i : Nat} {next : κ} (alone : AtMostOne P phases)
    (others : P next → ∀ (j : Nat) (other : κ), i ≠ j → phases[j]? = some other → ¬ P other) :
    AtMostOne P (phases.set i next) := by
  intro j k one two at_j at_k holds holdsToo
  rcases phase_of_set at_j with ⟨rfl, rfl⟩ | ⟨notJ, old_j⟩
  · rcases phase_of_set at_k with ⟨rfl, rfl⟩ | ⟨notK, old_k⟩
    · rfl
    · exact absurd holdsToo (others holds k two notK old_k)
  · rcases phase_of_set at_k with ⟨rfl, rfl⟩ | ⟨_, old_k⟩
    · exact absurd holds (others holdsToo j one notJ old_j)
    · exact alone j k one two old_j old_k holds holdsToo

theorem AtMostOne.append {more : List κ} (alone : AtMostOne P phases)
    (nowhere : ∀ phase ∈ more, ¬ P phase) : AtMostOne P (phases ++ more) := by
  have old : ∀ {j : Nat} {phase : κ}, (phases ++ more)[j]? = some phase → P phase →
      phases[j]? = some phase := by
    intro j phase at_j holds
    by_cases inside : j < phases.length
    · rwa [List.getElem?_append_left inside] at at_j
    · rw [List.getElem?_append_right (not_lt.mp inside)] at at_j
      exact absurd holds (nowhere phase (List.mem_of_getElem? at_j))
  intro j k one two at_j at_k holds holdsToo
  exact alone j k one two (old at_j holds) (old at_k holdsToo) holds holdsToo

/-- The phases after one more has joined. -/
theorem get_of_concat {i : Nat} {phase next : κ} (at_i : (phases ++ [next])[i]? = some phase) :
    phases[i]? = some phase ∨ (i = phases.length ∧ phase = next) := by
  rcases Nat.lt_trichotomy i phases.length with inside | rfl | outside
  · rw [List.getElem?_append_left inside] at at_i
    exact .inl at_i
  · exact .inr ⟨rfl, by simpa using at_i.symm⟩
  · rw [List.getElem?_eq_none (by simpa using outside)] at at_i
    cases at_i

/-- A phase joins phases without the property. -/
theorem AtMostOne.concat {next : κ} (nowhere : ∀ phase ∈ phases, ¬ P phase) :
    AtMostOne P (phases ++ [next]) := by
  have last : ∀ {i : Nat} {phase : κ}, (phases ++ [next])[i]? = some phase → P phase →
      i = phases.length := by
    intro i phase at_i holds
    rcases get_of_concat at_i with old | ⟨is, _⟩
    · exact absurd holds (nowhere phase (List.mem_of_getElem? old))
    · exact is
  intro i j one two at_i at_j holds holdsToo
  rw [last at_i holds, last at_j holdsToo]

end AtMostOne

end Process
