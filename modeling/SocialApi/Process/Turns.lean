/-
Module: SocialApi.Process.Turns
Purpose: What a whole trace performs, put together from what each thread performs.
Trusted boundary: none
Main exports:
  groups_perm, groups_sorted, filterMap_by_key, stepsOf, InTurn, filterMap_by_thread,
  perm_by_thread, Run.thread_calls
-/
import SocialApi.Process.System

namespace Process

/-! ### Grouping a list by a key -/

section Groups

variable {α : Type} {key : α → Nat} {n : Nat} {l : List α}

/-- The members of each key, one key after another. -/
def groups (key : α → Nat) (n : Nat) (l : List α) : List α :=
  (List.range n).flatMap fun i => l.filter fun x => key x = i

theorem groups_succ :
    groups key (n + 1) l = groups key n l ++ l.filter fun x => key x = n := by
  rw [groups, List.range_succ, List.flatMap_append, List.flatMap_singleton]
  rfl

theorem filter_lt_succ_perm :
    (l.filter (fun x => key x < n) ++ l.filter fun x => key x = n).Perm
      (l.filter fun x => key x < n + 1) := by
  induction l with
  | nil => exact .refl _
  | cons x l inductionHypothesis =>
      rcases lt_trichotomy (key x) n with less | same | more
      · simp only [List.filter_cons, decide_eq_true less, decide_eq_false less.ne,
          decide_eq_true (Nat.lt_succ_of_lt less)]
        exact inductionHypothesis.cons x
      · simp only [List.filter_cons, same, decide_eq_false (lt_irrefl n),
          decide_eq_true (Nat.lt_succ_self n), decide_true]
        exact List.perm_middle.trans (inductionHypothesis.cons x)
      · simp only [List.filter_cons, decide_eq_false more.not_gt, decide_eq_false more.ne',
          decide_eq_false (Nat.not_lt.mpr more)]
        exact inductionHypothesis

/-- Grouping only moves the members. -/
theorem groups_perm (key : α → Nat) (bound : ∀ x ∈ l, key x < n) : (groups key n l).Perm l := by
  have below : ∀ n, (groups key n l).Perm (l.filter fun x => key x < n) := by
    intro n
    induction n with
    | zero => simp [groups]
    | succ n inductionHypothesis =>
        rw [groups_succ]
        exact (inductionHypothesis.append_right _).trans filter_lt_succ_perm
  have all : l.filter (fun x => key x < n) = l :=
    List.filter_eq_self.mpr fun x member => decide_eq_true (bound x member)
  rw [← all]
  simpa [all] using below n

theorem filter_lt_succ_sorted (sorted : l.Pairwise fun x y => key x ≤ key y) :
    (l.filter (fun x => key x < n) ++ l.filter fun x => key x = n) =
      l.filter fun x => key x < n + 1 := by
  induction l with
  | nil => rfl
  | cons x l inductionHypothesis =>
      obtain ⟨least, rest⟩ := List.pairwise_cons.mp sorted
      rcases lt_trichotomy (key x) n with less | same | more
      · simp only [List.filter_cons, decide_eq_true less, decide_eq_false less.ne,
          decide_eq_true (Nat.lt_succ_of_lt less)]
        exact congrArg (x :: ·) (inductionHypothesis rest)
      · have none_less : l.filter (fun y => key y < n) = [] := by
          apply List.filter_eq_nil_iff.mpr
          intro y member
          simpa [same] using least y member
        have again := inductionHypothesis rest
        rw [none_less, List.nil_append] at again
        simp only [List.filter_cons, same, decide_eq_false (lt_irrefl n),
          decide_eq_true (Nat.lt_succ_self n), decide_true, none_less]
        exact congrArg (x :: ·) again
      · simp only [List.filter_cons, decide_eq_false more.not_gt, decide_eq_false more.ne',
          decide_eq_false (Nat.not_lt.mpr more)]
        exact inductionHypothesis rest

/-- Grouping a list that is in the order of its keys changes nothing. -/
theorem groups_sorted (key : α → Nat) (bound : ∀ x ∈ l, key x < n)
    (sorted : l.Pairwise fun x y => key x ≤ key y) : groups key n l = l := by
  have below : ∀ n, groups key n l = l.filter fun x => key x < n := by
    intro n
    induction n with
    | zero => simp [groups]
    | succ n inductionHypothesis =>
        rw [groups_succ, inductionHypothesis, filter_lt_succ_sorted sorted]
  rw [below]
  exact List.filter_eq_self.mpr fun x member => decide_eq_true (bound x member)

/-- What the list yields is what each group of it yields. -/
theorem filterMap_groups {β : Type} (f : α → Option β) :
    (groups key n l).filterMap f =
      (List.range n).flatMap fun i => (l.filter fun x => key x = i).filterMap f := by
  rw [groups, List.filterMap_flatMap]

/-- What the list yields comes from the members that yield something. -/
theorem filterMap_filter_isSome {β : Type} (f : α → Option β) :
    (l.filter fun x => (f x).isSome).filterMap f = l.filterMap f := by
  induction l with
  | nil => rfl
  | cons x l inductionHypothesis =>
      rw [List.filter_cons]
      cases found : f x with
      | none => simpa [found] using inductionHypothesis
      | some value => simpa [found] using inductionHypothesis

/-- A list whose members that yield something are in the order of their keys yields what each
key yields, one key after another. -/
theorem filterMap_by_key {β : Type} {f : α → Option β} (key : α → Nat)
    (bound : ∀ x ∈ l, (f x).isSome = true → key x < n)
    (sorted : (l.filter fun x => (f x).isSome).Pairwise fun x y => key x ≤ key y) :
    l.filterMap f = (List.range n).flatMap fun i => (l.filter fun x => key x = i).filterMap f := by
  have below : ∀ x ∈ l.filter fun x => (f x).isSome, key x < n := by
    intro x member
    obtain ⟨among, yields⟩ := List.mem_filter.mp member
    exact bound x among yields
  rw [← filterMap_filter_isSome f, ← groups_sorted key below sorted, filterMap_groups]
  congr 1
  funext i
  rw [List.filter_comm, filterMap_filter_isSome]

/-- Functions of the positions of a list and of its members that agree yield the same. -/
theorem flatMap_range_length {β : Type} {f : Nat → List β} {g : α → List β}
    (agree : ∀ (i : Nat) (x : α), l[i]? = some x → f i = g x) :
    (List.range l.length).flatMap f = l.flatMap g := by
  have positions : (List.range l.length).map f = l.map g := by
    apply List.ext_getElem?
    intro i
    rw [List.getElem?_map, List.getElem?_map]
    by_cases inside : i < l.length
    · rw [List.getElem?_range inside, List.getElem?_eq_getElem inside]
      exact congrArg some (agree i _ (List.getElem?_eq_getElem inside))
    · rw [List.getElem?_eq_none (by simpa using inside),
        List.getElem?_eq_none (not_lt.mp inside)]
      rfl
  rw [List.flatMap_def, positions, ← List.flatMap_def]

end Groups

/-! ### Traces -/

section Traces

variable {M : System} {β : Type}

/-- The events of one thread. -/
def stepsOf (i : Nat) (trace : List (Event M)) : List (Event M) :=
  trace.filter fun event => event.thread = i

/-- The chosen threads take their steps one thread after another. -/
def InTurn (chosen : Nat → Bool) (trace : List (Event M)) : Prop :=
  (trace.filter fun event => chosen event.thread).Pairwise fun event later =>
    event.thread ≤ later.thread

instance (chosen : Nat → Bool) (trace : List (Event M)) : Decidable (InTurn chosen trace) :=
  inferInstanceAs (Decidable (List.Pairwise _ _))

theorem stepsOf_concat_self (trace : List (Event M)) (event : Event M) :
    stepsOf event.thread (trace ++ [event]) = stepsOf event.thread trace ++ [event] := by
  simp [stepsOf]

theorem stepsOf_concat_other {i : Nat} (trace : List (Event M)) {event : Event M}
    (elsewhere : event.thread ≠ i) : stepsOf i (trace ++ [event]) = stepsOf i trace := by
  simp [stepsOf, elsewhere]

theorem stepsOf_untouched {i : Nat} {trace : List (Event M)}
    (untouched : ∀ event ∈ trace, event.thread ≠ i) : stepsOf i trace = [] := by
  simpa [stepsOf] using untouched

variable {f : Event M → Option β} {trace : List (Event M)} {last : Pool M}
  {each : Thread M → List β}

/-- What a run yields is, up to the order, what its threads yield. -/
theorem Run.perm_by_thread {first : Pool M} (run : Run first trace last)
    (own : ∀ (i : Nat) (thread : Thread M), last.threads[i]? = some thread →
      (stepsOf i trace).filterMap f = each thread) :
    (trace.filterMap f).Perm (last.threads.flatMap each) := by
  have bound : ∀ event ∈ trace, event.thread < last.threads.length := by
    intro event member
    obtain ⟨thread, at_thread, _⟩ := run.event_thread event member
    exact (List.getElem?_eq_some_iff.mp at_thread).1
  have grouped : (groups Event.thread last.threads.length trace).filterMap f =
      last.threads.flatMap each :=
    (filterMap_groups f).trans (flatMap_range_length own)
  rw [← grouped]
  exact (groups_perm Event.thread bound).symm.filterMap f

/-- What a run yields is what its threads yield, one after another, when the threads that
yield something take turns. -/
theorem Run.filterMap_by_thread {first : Pool M} (run : Run first trace last)
    (own : ∀ (i : Nat) (thread : Thread M), last.threads[i]? = some thread →
      (stepsOf i trace).filterMap f = each thread)
    {chosen : Nat → Bool} (turns : InTurn chosen trace)
    (only : ∀ event ∈ trace, f event ≠ none → chosen event.thread = true) :
    trace.filterMap f = last.threads.flatMap each := by
  have among : (trace.filter fun event => (f event).isSome) =
      (trace.filter fun event => chosen event.thread).filter fun event => (f event).isSome := by
    rw [List.filter_filter]
    apply List.filter_congr
    intro event member
    cases found : f event with
    | none => rfl
    | some value =>
        have is := only event member (by simp [found])
        simp [is]
  have sorted : (trace.filter fun event => (f event).isSome).Pairwise fun event later =>
      event.thread ≤ later.thread := by
    rw [among]
    exact turns.filter _
  have bound : ∀ event ∈ trace, (f event).isSome = true →
      event.thread < last.threads.length := by
    intro event member _
    obtain ⟨thread, at_thread, _⟩ := run.event_thread event member
    exact (List.getElem?_eq_some_iff.mp at_thread).1
  rw [filterMap_by_key Event.thread bound sorted]
  apply flatMap_range_length
  intro i thread at_i
  exact own i thread at_i

/-- The threads of a run are its calls and then the tasks that it has started, in order. -/
theorem Run.thread_calls {state : M.State} {calls : List M.Call}
    (started : M.Op → List M.Call)
    (starts : ∀ env op state answer after spawned,
      M.handle env op state = some (answer, after, spawned) → spawned = started op)
    (run : Run (Pool.start state calls) trace last) :
    last.threads.map Thread.call = calls ++ trace.flatMap fun event => started event.op := by
  induction run with
  | refl => simp [Pool.start, Thread.start, Function.comp_def]
  | @step middle last trace event run step inductionHypothesis =>
      have kept : ∀ {i : Nat} {call : M.Call} {rest next},
          middle.threads[i]? = some ⟨call, rest⟩ →
            (middle.threads.set i ⟨call, next⟩).map Thread.call =
              middle.threads.map Thread.call := by
        intro i call rest next at_i
        rw [List.map_set]
        apply List.ext_getElem?
        intro j
        rw [List.getElem?_set]
        by_cases same : i = j
        · subst same
          rw [List.length_map, if_pos rfl, if_pos (List.getElem?_eq_some_iff.mp at_i).1,
            List.getElem?_map, at_i]
          rfl
        · rw [if_neg same]
      cases step with
      | @perform i call op next env answer after spawned at_op handled =>
          obtain rfl := starts env op _ answer after spawned handled
          rw [List.map_append, kept at_op, inductionHypothesis, List.map_map]
          simp [Thread.start, Function.comp_def]
      | tail at_tail => simpa [kept at_tail] using inductionHypothesis

end Traces

end Process
