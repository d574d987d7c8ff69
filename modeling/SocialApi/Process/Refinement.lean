/-
Module: SocialApi.Process.Refinement
Purpose: Runs of a system projected onto a system that is part of it: between steps of its
  own, each thread of the whole takes the steps of one call of the part.
Trusted boundary: none
Main exports:
  Projection, answersOf, Projection.Tracks, Projection.Waits, Projection.Lawful,
  Projection.Refines, Run.refines
-/
import SocialApi.Process.Turns

namespace Process

variable {M N : System}

/-! ### Projections -/

/-- How one system is part of another.  `share` tells which step of the part an answered
operation is; `Tail` is what stands behind a tail call of the whole, and `Reply` and `Refused`
say what a thread comes back with, after its call of the part and, by what it has been
answered, without one. -/
structure Projection (M N : System) where
  share : (op : M.Op) → M.Res op → Option ((op : N.Op) × N.Res op)
  Allowed : M.Op → Prop
  Matches : M.State → N.State → Prop
  Tail : M.Call → N.Call → M.Call → Program N.Op N.Res (N.Call ⊕ N.Reply) → Prop
  Reply : M.Call → N.Call → M.Reply → N.Reply → Prop
  Refused : M.Call → List ((op : M.Op) × M.Res op) → M.Reply → Prop

/-- The thread and the answered operation of an event. -/
def Event.step (event : Event M) : Nat × (op : M.Op) × M.Res op :=
  (event.thread, ⟨event.op, event.res⟩)

/-- The operations of a thread with what they have been answered. -/
def answersOf (i : Nat) (trace : List (Event M)) : List ((op : M.Op) × M.Res op) :=
  (stepsOf i trace).map fun event => ⟨event.op, event.res⟩

theorem answersOf_concat_self (trace : List (Event M)) (event : Event M) :
    answersOf event.thread (trace ++ [event]) =
      answersOf event.thread trace ++ [⟨event.op, event.res⟩] := by
  rw [answersOf, stepsOf_concat_self, List.map_append]
  rfl

theorem answersOf_concat_other {i : Nat} (trace : List (Event M)) {event : Event M}
    (elsewhere : event.thread ≠ i) : answersOf i (trace ++ [event]) = answersOf i trace := by
  rw [answersOf, stepsOf_concat_other trace elsewhere]
  rfl

namespace Projection

variable (P : Projection M N)

/-- The step of the part that an event is. -/
def shared (event : Event M) : Option (Nat × (op : N.Op) × N.Res op) :=
  (P.share event.op event.res).map fun step => (event.thread, step)

/-- The program takes the steps of the part in their order, and comes back after them. -/
def Tracks (origin : M.Call) (counterpart : N.Call) :
    Program M.Op M.Res (M.Call ⊕ M.Reply) → Program N.Op N.Res (N.Call ⊕ N.Reply) → Prop
  | .ret (.inl call), rest => P.Tail origin counterpart call rest
  | .ret (.inr reply), rest =>
      ∃ reply', rest = .ret (.inr reply') ∧ P.Reply origin counterpart reply reply'
  | .perform op next, rest => P.Allowed op ∧ ∀ answer,
      match P.share op answer with
      | none => Tracks origin counterpart (next answer) rest
      | some step => ∃ next', rest = .perform step.1 next' ∧
          Tracks origin counterpart (next answer) (next' step.2)

/-- The program, which has been answered so far as given, takes no step of the part until it
has found its call of the part. -/
def Waits (origin : M.Call) :
    List ((op : M.Op) × M.Res op) → Program M.Op M.Res (M.Call ⊕ M.Reply) → Prop
  | _, .ret (.inl _) => False
  | answers, .ret (.inr reply) => P.Refused origin answers reply
  | answers, .perform op next => P.Allowed op ∧ ∀ answer, P.share op answer = none ∧
      (Waits origin (answers ++ [⟨op, answer⟩]) (next answer) ∨ ∃ counterpart,
        P.Tracks origin counterpart (next answer) (N.body counterpart))

/-- What makes a projection of runs: steps that are none of the part leave its state alone,
and the others are steps of the part. -/
structure Lawful : Prop where
  tail : ∀ {origin : M.Call} {counterpart : N.Call} {call : M.Call}
    {rest : Program N.Op N.Res (N.Call ⊕ N.Reply)},
    P.Tail origin counterpart call rest → P.Tracks origin counterpart (M.body call) rest
  silent : ∀ {env : M.Env} {op : M.Op} {answer : M.Res op} {state after : M.State}
    {spawned : List M.Call} {state' : N.State}, P.Allowed op → P.share op answer = none →
    M.handle env op state = some (answer, after, spawned) → P.Matches state state' →
      spawned = [] ∧ P.Matches after state'
  shares : ∀ {env : M.Env} {op : M.Op} {answer : M.Res op} {state after : M.State}
    {spawned : List M.Call} {step : (op : N.Op) × N.Res op} {state' : N.State},
    P.Allowed op → P.share op answer = some step →
    M.handle env op state = some (answer, after, spawned) → P.Matches state state' →
      ∃ env' after' spawned', N.handle env' step.1 state' = some (step.2, after', spawned') ∧
        P.Matches after after' ∧ List.Forall₂
          (fun call call' => P.Tracks call call' (M.body call) (N.body call')) spawned spawned'

/-- A thread of the whole and the one of the part that goes with it: it is at the same
point, or has not been needed. -/
def Beside (trace : List (Event M)) (trace' : List (Event N)) (i : Nat) (thread : Thread M)
    (thread' : Thread N) : Prop :=
  P.Tracks thread.call thread'.call thread.rest thread'.rest ∨
    (P.Waits thread.call (answersOf i trace) thread.rest ∧ ∀ event ∈ trace', event.thread ≠ i)

/-- A run of the part takes the steps of the part that a run of the whole takes, and ends
with threads that go with its threads. -/
structure Refines (trace : List (Event M)) (last : Pool M) (trace' : List (Event N))
    (last' : Pool N) : Prop where
  steps : trace'.map Event.step = trace.filterMap P.shared
  state : P.Matches last.state last'.state
  length : last'.threads.length = last.threads.length
  beside : ∀ (i : Nat) (thread : Thread M), last.threads[i]? = some thread →
    ∃ thread', last'.threads[i]? = some thread' ∧ P.Beside trace trace' i thread thread'

/-! ### Runs -/

/-- What a run of the part has come to while threads of the whole still wait: the threads
that wait stand where they have started, whatever call they will find. -/
structure Follows (Open : Nat → Prop) (fill : Nat → N.Call) (trace : List (Event M))
    (last : Pool M) (trace' : List (Event N)) (last' : Pool N) : Prop where
  steps : trace'.map Event.step = trace.filterMap P.shared
  state : P.Matches last.state last'.state
  length : last'.threads.length = last.threads.length
  idle : ∀ i, Open i → ∀ event ∈ trace', event.thread ≠ i
  waiting : ∀ i thread, last.threads[i]? = some thread → Open i →
    last'.threads[i]? = some (Thread.start (fill i))
  tracking : ∀ i thread, last.threads[i]? = some thread → ¬ Open i →
    ∃ thread', last'.threads[i]? = some thread' ∧
      P.Tracks thread.call thread'.call thread.rest thread'.rest

section Steps

variable {P} {Open Later : Nat → Prop} {fill : Nat → N.Call} {trace : List (Event M)}
  {last : Pool M} {trace' : List (Event N)} {last' : Pool N} {i : Nat} {call : M.Call}
  {op : M.Op} {next : M.Res op → Program M.Op M.Res (M.Call ⊕ M.Reply)} {env : M.Env}
  {answer : M.Res op} {after : M.State} {spawned : List M.Call}

theorem shared_none (silent : P.share op answer = none) (state : M.State) :
    P.shared ⟨i, call, env, op, answer, state⟩ = none := by
  simp only [shared, silent, Option.map_none]

theorem shared_some {step : (op : N.Op) × N.Res op} (shares : P.share op answer = some step)
    (state : M.State) : P.shared ⟨i, call, env, op, answer, state⟩ = some (i, step) := by
  simp only [shared, shares, Option.map_some]

/-- A step that is none of the part; the thread that takes it may find its call by it. -/
theorem Follows.silent (lawful : P.Lawful)
    (follows : P.Follows Open fill trace last trace' last')
    (at_op : last.threads[i]? = some ⟨call, .perform op next⟩) (allowed : P.Allowed op)
    (silent : P.share op answer = none)
    (handled : M.handle env op last.state = some (answer, after, spawned))
    (narrows : ∀ j, Later j → Open j) (others : ∀ j, j ≠ i → Open j → Later j)
    (tracks : ¬ Later i → ∃ thread', last'.threads[i]? = some thread' ∧
      P.Tracks call thread'.call (next answer) thread'.rest) :
    P.Follows Later fill (trace ++ [⟨i, call, env, op, answer, last.state⟩])
      ⟨after, last.threads.set i ⟨call, next answer⟩ ++ spawned.map Thread.start⟩
      trace' last' := by
  obtain ⟨rfl, matched⟩ := lawful.silent allowed silent handled follows.state
  have still : ∀ j thread, (last.threads.set i ⟨call, next answer⟩)[j]? = some thread →
      (i = j ∧ thread = ⟨call, next answer⟩) ∨ (j ≠ i ∧ last.threads[j]? = some thread) := by
    intro j thread at_j
    rw [List.getElem?_set] at at_j
    split at at_j
    · next same =>
        split at at_j
        · exact .inl ⟨same, (Option.some.inj at_j).symm⟩
        · cases at_j
    · next other => exact .inr ⟨Ne.symm other, at_j⟩
  simp only [List.map_nil, List.append_nil]
  constructor
  case steps => simpa [shared_none silent] using follows.steps
  case state => exact matched
  case length => simpa using follows.length
  case idle => exact fun j opened => follows.idle j (narrows j opened)
  case waiting =>
    intro j thread at_j opened
    rcases still j thread at_j with ⟨rfl, rfl⟩ | ⟨_, before⟩
    · exact follows.waiting i _ at_op (narrows i opened)
    · exact follows.waiting j _ before (narrows j opened)
  case tracking =>
    intro j thread at_j decided
    rcases still j thread at_j with ⟨rfl, rfl⟩ | ⟨other, before⟩
    · exact tracks decided
    · exact follows.tracking j _ before fun opened => decided (others j other opened)

/-- A step of the part is taken there too, by the thread that goes with the one that takes
it. -/
theorem Follows.shares (lawful : P.Lawful) {step : (op : N.Op) × N.Res op}
    (follows : P.Follows Open fill trace last trace' last')
    (bounded : ∀ j, Open j → j < last.threads.length)
    (at_op : last.threads[i]? = some ⟨call, .perform op next⟩) (decided : ¬ Open i)
    (shares : P.share op answer = some step)
    (handled : M.handle env op last.state = some (answer, after, spawned)) :
    ∃ event' next', Pool.Step last' (some event') next' ∧
      P.Follows Open fill (trace ++ [⟨i, call, env, op, answer, last.state⟩])
        ⟨after, last.threads.set i ⟨call, next answer⟩ ++ spawned.map Thread.start⟩
        (trace' ++ [event']) next' := by
  obtain ⟨⟨call', rest'⟩, at_op', allowed, tracks⟩ := follows.tracking i _ at_op decided
  have taken := tracks answer
  rw [shares] at taken
  obtain ⟨continuation, rfl, tracked⟩ := taken
  obtain ⟨env', after', spawned', handled', matched, tasks⟩ :=
    lawful.shares allowed shares handled follows.state
  have inside : i < last'.threads.length := (List.getElem?_eq_some_iff.mp at_op').1
  refine ⟨_, _, .perform at_op' handled', ?_⟩
  constructor
  case steps =>
    rw [List.map_append, List.filterMap_append, follows.steps]
    simp [shared_some shares, Event.step]
  case state => exact matched
  case length => simp [follows.length, tasks.length_eq]
  case idle =>
    intro j opened event member
    rcases List.mem_append.mp member with earlier | now
    · exact follows.idle j opened event earlier
    · obtain rfl := List.mem_singleton.mp now
      rintro rfl
      exact decided opened
  case waiting =>
    intro j thread at_j opened
    rcases entry_of_set_append at_j with ⟨rfl, _⟩ | ⟨other, before⟩ | ⟨beyond, _⟩
    · exact absurd opened decided
    · have there := follows.waiting j _ before opened
      have bound : j < last'.threads.length := (List.getElem?_eq_some_iff.mp there).1
      rw [List.getElem?_append_left (by simpa using bound), List.getElem?_set, if_neg other]
      exact there
    · exact absurd (bounded j opened) (not_lt.mpr beyond)
  case tracking =>
    intro j thread at_j settled
    rcases lt_or_ge j last.threads.length with old | beyond
    · rw [List.getElem?_append_left (by simpa using old), List.getElem?_set] at at_j
      rw [List.getElem?_append_left (by simpa [follows.length] using old), List.getElem?_set]
      split at at_j
      · next same =>
          subst same
          rw [if_pos old] at at_j
          obtain rfl := Option.some.inj at_j
          exact ⟨_, by rw [if_pos rfl, if_pos inside], tracked⟩
      · next other =>
          rw [if_neg other]
          exact follows.tracking j thread at_j settled
    · rw [List.getElem?_append_right (by simpa using beyond), List.length_set,
        List.getElem?_map, Option.map_eq_some_iff] at at_j
      obtain ⟨task, at_task, rfl⟩ := at_j
      rw [List.getElem?_append_right (by simpa [follows.length] using beyond),
        List.length_set, List.getElem?_map, follows.length]
      have paired : (j - last.threads.length) < spawned'.length := by
        rw [← tasks.length_eq]
        exact (List.getElem?_eq_some_iff.mp at_task).1
      refine ⟨Thread.start spawned'[j - last.threads.length], by
        rw [List.getElem?_eq_getElem paired, Option.map_some], ?_⟩
      obtain ⟨within, rfl⟩ := List.getElem?_eq_some_iff.mp at_task
      exact (List.forall₂_iff_get.mp tasks).2 _ within paired

/-- A tail call is none of the steps of the part. -/
theorem Follows.tail (lawful : P.Lawful) {target : M.Call}
    (follows : P.Follows Open fill trace last trace' last')
    (at_tail : last.threads[i]? = some ⟨call, .ret (.inl target)⟩) (decided : ¬ Open i) :
    P.Follows Open fill trace ⟨last.state, last.threads.set i ⟨call, M.body target⟩⟩
      trace' last' := by
  obtain ⟨thread', at_i, tracks⟩ := follows.tracking i _ at_tail decided
  constructor
  case steps => exact follows.steps
  case state => exact follows.state
  case length => simpa using follows.length
  case idle => exact follows.idle
  case waiting =>
    intro j thread at_j opened
    rw [List.getElem?_set] at at_j
    split at at_j
    · next same => exact absurd opened (same ▸ decided)
    · exact follows.waiting j thread at_j opened
  case tracking =>
    intro j thread at_j settled
    rw [List.getElem?_set] at at_j
    split at at_j
    · next same =>
        subst same
        split at at_j
        · obtain rfl := Option.some.inj at_j
          exact ⟨thread', at_i, lawful.tail tracks⟩
        · cases at_j
    · exact follows.tracking j thread at_j settled

end Steps

/-- What a run of the whole has come to: some of its threads have found their call, the others
wait, and whatever calls those will find, the part runs along. -/
structure Led (state' : N.State) (width : Nat) (decided : Nat → Option N.Call)
    (trace : List (Event M)) (last : Pool M) : Prop where
  covers : width ≤ last.threads.length
  waits : ∀ i thread, last.threads[i]? = some thread → i < width → decided i = none →
    P.Waits thread.call (answersOf i trace) thread.rest
  follows : ∀ fill : Nat → N.Call, (∀ i counterpart, decided i = some counterpart →
    fill i = counterpart) → ∃ trace' last',
      Run (Pool.start state' ((List.range width).map fill)) trace' last' ∧
        P.Follows (fun i => i < width ∧ decided i = none) fill trace last trace' last'

section Runs

variable {P} {state : M.State} {state' : N.State} {calls : List M.Call} {width : Nat}
  {decided : Nat → Option N.Call} {trace : List (Event M)} {last : Pool M}

theorem led_start (matched : P.Matches state state')
    (waits : ∀ call ∈ calls, P.Waits call [] (M.body call)) :
    P.Led state' calls.length (fun _ => none) [] (Pool.start state calls) := by
  constructor
  case covers => simp [Pool.start]
  case waits =>
    intro i thread at_i _ _
    simp only [Pool.start, List.getElem?_map, Option.map_eq_some_iff] at at_i
    obtain ⟨call, at_call, rfl⟩ := at_i
    exact waits call (List.mem_of_getElem? at_call)
  case follows =>
    intro fill _
    refine ⟨[], _, .refl _, ?_⟩
    constructor
    case steps => rfl
    case state => exact matched
    case length => simp [Pool.start]
    case idle => simp
    case waiting =>
      rintro i thread _ ⟨inside, _⟩
      simp [Pool.start, List.getElem?_range inside]
    case tracking =>
      intro i thread at_i settled
      have inside : i < calls.length := by
        simpa [Pool.start] using (List.getElem?_eq_some_iff.mp at_i).1
      exact absurd ⟨inside, rfl⟩ settled

variable {i : Nat} {call : M.Call} {op : M.Op}
  {next : M.Res op → Program M.Op M.Res (M.Call ⊕ M.Reply)} {env : M.Env}
  {answer : M.Res op} {after : M.State} {spawned : List M.Call}

/-- A thread that waits takes a step of its own; it waits on, or has found its call. -/
theorem Led.wait (lawful : P.Lawful) (led : P.Led state' width decided trace last)
    (at_op : last.threads[i]? = some ⟨call, .perform op next⟩) (inside : i < width)
    (undecided : decided i = none)
    (handled : M.handle env op last.state = some (answer, after, spawned)) :
    ∃ later, P.Led state' width later (trace ++ [⟨i, call, env, op, answer, last.state⟩])
      ⟨after, last.threads.set i ⟨call, next answer⟩ ++ spawned.map Thread.start⟩ := by
  obtain ⟨allowed, waits⟩ := led.waits i _ at_op inside undecided
  obtain ⟨silent, waits⟩ := waits answer
  have covers : width ≤ (last.threads.set i ⟨call, next answer⟩ ++
      spawned.map Thread.start).length := by
    rw [List.length_append, List.length_set]
    exact led.covers.trans (Nat.le_add_right _ _)
  have before : ∀ j thread, (last.threads.set i ⟨call, next answer⟩ ++
      spawned.map Thread.start)[j]? = some thread → j < width → j ≠ i →
        last.threads[j]? = some thread := by
    intro j thread at_j inside other
    rcases entry_of_set_append at_j with ⟨same, _⟩ | ⟨_, before⟩ | ⟨beyond, _⟩
    · exact absurd same.symm other
    · exact before
    · exact absurd (inside.trans_le led.covers) (not_lt.mpr beyond)
  have own : ∀ thread, (last.threads.set i ⟨call, next answer⟩ ++
      spawned.map Thread.start)[i]? = some thread → thread = ⟨call, next answer⟩ := by
    intro thread at_i
    rcases entry_of_set_append at_i with ⟨_, is⟩ | ⟨other, _⟩ | ⟨beyond, _⟩
    · exact is
    · exact absurd rfl other
    · exact absurd (inside.trans_le led.covers) (not_lt.mpr beyond)
  have kept : ∀ j, j ≠ i → answersOf j
      (trace ++ [⟨i, call, env, op, answer, last.state⟩]) = answersOf j trace :=
    fun j other => answersOf_concat_other trace (Ne.symm other)
  rcases waits with waiting | ⟨counterpart, tracks⟩
  · refine ⟨decided, covers, ?_, ?_⟩
    · intro j thread at_j within free
      by_cases same : j = i
      · subst same
        rw [own thread at_j, answersOf_concat_self trace ⟨j, call, env, op, answer, last.state⟩]
        exact waiting
      · rw [kept j same]
        exact led.waits j thread (before j thread at_j within same) within free
    · intro fill fills
      obtain ⟨trace', last', run, follows⟩ := led.follows fill fills
      exact ⟨trace', last', run, follows.silent lawful at_op allowed silent handled
        (fun _ => id) (fun _ _ => id) fun settled => absurd ⟨inside, undecided⟩ settled⟩
  · refine ⟨Function.update decided i (some counterpart), covers, ?_, ?_⟩
    · intro j thread at_j within free
      have other : j ≠ i := by
        rintro rfl
        simp at free
      rw [Function.update_of_ne other] at free
      rw [kept j other]
      exact led.waits j thread (before j thread at_j within other) within free
    · intro fill fills
      have earlier : ∀ j known, decided j = some known → fill j = known := by
        intro j known found
        apply fills
        rw [Function.update_of_ne, found]
        rintro rfl
        rw [undecided] at found
        cases found
      obtain ⟨trace', last', run, follows⟩ := led.follows fill earlier
      refine ⟨trace', last', run, follows.silent lawful at_op allowed silent handled ?_ ?_ ?_⟩
      · intro j later
        by_cases same : j = i
        · exact same ▸ ⟨inside, undecided⟩
        · rwa [Function.update_of_ne same] at later
      · intro j other opened
        rwa [Function.update_of_ne other]
      · intro _
        refine ⟨_, follows.waiting i _ at_op ⟨inside, undecided⟩, ?_⟩
        rw [fills i counterpart (Function.update_self _ _ _)]
        exact tracks

/-- A thread that has found its call goes on with it. -/
theorem Led.go (lawful : P.Lawful) (led : P.Led state' width decided trace last)
    (at_op : last.threads[i]? = some ⟨call, .perform op next⟩)
    (settled : ¬ (i < width ∧ decided i = none))
    (handled : M.handle env op last.state = some (answer, after, spawned)) :
    P.Led state' width decided (trace ++ [⟨i, call, env, op, answer, last.state⟩])
      ⟨after, last.threads.set i ⟨call, next answer⟩ ++ spawned.map Thread.start⟩ := by
  refine ⟨?_, ?_, ?_⟩
  · rw [List.length_append, List.length_set]
    exact led.covers.trans (Nat.le_add_right _ _)
  · intro j thread at_j within free
    rcases entry_of_set_append at_j with ⟨rfl, _⟩ | ⟨other, before⟩ | ⟨beyond, _⟩
    · exact absurd ⟨within, free⟩ settled
    · rw [answersOf_concat_other trace other]
      exact led.waits j thread before within free
    · exact absurd (within.trans_le led.covers) (not_lt.mpr beyond)
  · intro fill fills
    obtain ⟨trace', last', run, follows⟩ := led.follows fill fills
    obtain ⟨thread', at_i, allowed, tracks⟩ := follows.tracking i _ at_op settled
    cases shares : P.share op answer with
    | none =>
        refine ⟨trace', last', run, follows.silent lawful at_op allowed shares handled
          (fun _ => id) (fun _ _ => id) fun _ => ⟨thread', at_i, ?_⟩⟩
        have taken := tracks answer
        rw [shares] at taken
        exact taken
    | some step =>
        obtain ⟨event', next', taken, later⟩ := follows.shares lawful
          (fun j opened => opened.1.trans_le led.covers) at_op settled shares handled
        exact ⟨_, _, run.step taken, later⟩

theorem Led.tail (lawful : P.Lawful) {target : M.Call}
    (led : P.Led state' width decided trace last)
    (at_tail : last.threads[i]? = some ⟨call, .ret (.inl target)⟩) :
    P.Led state' width decided trace
      ⟨last.state, last.threads.set i ⟨call, M.body target⟩⟩ := by
  have settled : ¬ (i < width ∧ decided i = none) := by
    rintro ⟨inside, undecided⟩
    exact led.waits i _ at_tail inside undecided
  refine ⟨by simpa using led.covers, ?_, ?_⟩
  · intro j thread at_j within free
    rw [List.getElem?_set] at at_j
    split at at_j
    · next same => exact absurd ⟨within, free⟩ (same ▸ settled)
    · exact led.waits j thread at_j within free
  · intro fill fills
    obtain ⟨trace', last', run, follows⟩ := led.follows fill fills
    exact ⟨trace', last', run, follows.tail lawful at_tail settled⟩

theorem led_run (lawful : P.Lawful) (matched : P.Matches state state')
    (waits : ∀ call ∈ calls, P.Waits call [] (M.body call))
    (run : Run (Pool.start state calls) trace last) :
    ∃ decided, P.Led state' calls.length decided trace last := by
  induction run with
  | refl => exact ⟨_, led_start matched waits⟩
  | @step middle last trace event run step inductionHypothesis =>
      obtain ⟨decided, led⟩ := inductionHypothesis
      cases step with
      | @perform i call op next env answer after spawned at_op handled =>
          by_cases opened : i < calls.length ∧ decided i = none
          · exact led.wait lawful at_op opened.1 opened.2 handled
          · exact ⟨decided, led.go lawful at_op opened handled⟩
      | tail at_tail =>
          rw [Option.toList_none, List.append_nil]
          exact ⟨decided, led.tail lawful at_tail⟩

end Runs

end Projection

/-- The refinement rule: every run of the whole is, step by step, a run of the part. -/
theorem Run.refines {P : Projection M N} (lawful : P.Lawful) {state : M.State}
    {calls : List M.Call} {trace : List (Event M)} {last : Pool M}
    (run : Run (Pool.start state calls) trace last) {state' : N.State}
    (matched : P.Matches state state')
    (waits : ∀ call ∈ calls, P.Waits call [] (M.body call))
    (other : N.Call) :
    ∃ calls' trace' last', calls'.length = calls.length ∧
      Run (Pool.start state' calls') trace' last' ∧ P.Refines trace last trace' last' := by
  obtain ⟨decided, led⟩ := Projection.led_run lawful matched waits run
  obtain ⟨trace', last', run', follows⟩ := led.follows (fun i => (decided i).getD other) (by
    intro i counterpart found
    rw [found, Option.getD_some])
  refine ⟨_, trace', last', by simp, run', follows.steps, follows.state, follows.length, ?_⟩
  intro i thread at_i
  by_cases opened : i < calls.length ∧ decided i = none
  · exact ⟨_, follows.waiting i thread at_i opened,
      .inr ⟨led.waits i thread at_i opened.1 opened.2, follows.idle i opened⟩⟩
  · obtain ⟨thread', at_i', tracks⟩ := follows.tracking i thread at_i opened
    exact ⟨thread', at_i', .inl tracks⟩

end Process
