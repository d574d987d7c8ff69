/-
Module: SocialApi.Process.Linearization
Purpose: Sequential objects, and when the interleaved runs of a system answer as one of
  them that is asked one request after another.
Trusted boundary: none
Main exports:
  SequentialObject, SequentialObject.Serves, Watch, Watch.history, Replays.serves,
  Linearizes, Run.linearizes
-/
import SocialApi.Process.System

namespace Process

/-! ### Sequential objects -/

/-- An object that is asked one request at a time: what it answers, and the state it is in
afterwards. -/
structure SequentialObject where
  Request : Type
  Answer : Type
  State : Type
  serve : Request → State → Answer × State

namespace SequentialObject

variable {object : SequentialObject}

/-- Asked the requests in this order, the object gives these answers and comes from the
first state to the last. -/
def Serves (object : SequentialObject) :
    object.State → List (object.Request × object.Answer) → object.State → Prop
  | first, [], last => first = last
  | first, asked :: later, last =>
      ∃ next, object.serve asked.1 first = (asked.2, next) ∧ Serves object next later last

/-- What every request keeps holds after all of them. -/
theorem Serves.invariant {first last : object.State}
    {asked : List (object.Request × object.Answer)} (Invariant : object.State → Prop)
    (serves : object.Serves first asked last)
    (step : ∀ one ∈ asked, ∀ state next, object.serve one.1 state = (one.2, next) →
      Invariant state → Invariant next)
    (start : Invariant first) : Invariant last := by
  induction asked generalizing first with
  | nil => exact serves ▸ start
  | cons one asked inductionHypothesis =>
      obtain ⟨next, served, rest⟩ := serves
      exact inductionHypothesis rest (fun other member => step other (by simp [member]))
        (step one (by simp) first next served start)

/-- A quantity that every request changes by its own weight has changed by the sum of the
weights. -/
theorem Serves.sum {first last : object.State}
    {asked : List (object.Request × object.Answer)} (quantity : object.State → Int)
    (weight : object.Request × object.Answer → Int) (serves : object.Serves first asked last)
    (step : ∀ one ∈ asked, ∀ state next, object.serve one.1 state = (one.2, next) →
      quantity next = quantity state + weight one) :
    quantity last = quantity first + (asked.map weight).sum := by
  induction asked generalizing first with
  | nil => simp [show first = last from serves]
  | cons one asked inductionHypothesis =>
      obtain ⟨next, served, rest⟩ := serves
      have tail := inductionHypothesis rest fun other member => step other (by simp [member])
      have head := step one (by simp) first next served
      rw [List.map_cons, List.sum_cons]
      omega

end SequentialObject

/-! ### Watching a system -/

/-- How a system is seen as a sequential object: the object's state in the shared state, and
the events at which the object is asked. -/
structure Watch (M : System) where
  object : SequentialObject
  view : M.State → object.State
  point : Event M → Option (object.Request × object.Answer)

/-- One request of a history, with the thread that made it. -/
structure Entry (object : SequentialObject) where
  thread : Nat
  asked : object.Request × object.Answer

variable {M : System}

namespace Watch

variable (watch : Watch M)

/-- The object answers at a point as the event says, and stands still elsewhere. -/
def Faithful (event : Event M) (after : M.State) : Prop :=
  match watch.point event with
  | none => watch.view after = watch.view event.before
  | some asked => watch.object.serve asked.1 (watch.view event.before) =
      (asked.2, watch.view after)

/-- The requests of a trace, in the order of their points. -/
def history (trace : List (Event M)) : List (Entry watch.object) :=
  trace.filterMap fun event => (watch.point event).map (⟨event.thread, ·⟩)

@[simp] theorem history_nil : watch.history [] = [] := rfl

@[simp] theorem history_append (left right : List (Event M)) :
    watch.history (left ++ right) = watch.history left ++ watch.history right := by
  simp [history]

theorem history_singleton (event : Event M) :
    watch.history [event] =
      ((watch.point event).map fun asked => (⟨event.thread, asked⟩ : Entry _)).toList := by
  cases asked : watch.point event <;> simp [history, asked]

/-- What one thread has asked. -/
def askedBy (i : Nat) (entries : List (Entry watch.object)) :
    List (watch.object.Request × watch.object.Answer) :=
  (entries.filter (·.thread = i)).map Entry.asked

@[simp] theorem askedBy_append (i : Nat) (left right : List (Entry watch.object)) :
    watch.askedBy i (left ++ right) = watch.askedBy i left ++ watch.askedBy i right := by
  simp [askedBy]

variable {watch}

theorem mem_history_thread {trace : List (Event M)} {i : Nat}
    (among : i ∈ (watch.history trace).map Entry.thread) :
    ∃ event ∈ trace, event.thread = i := by
  obtain ⟨entry, member, rfl⟩ := List.mem_map.mp among
  obtain ⟨event, performed, pointed⟩ := List.mem_filterMap.mp member
  obtain ⟨asked, _, rfl⟩ := Option.map_eq_some_iff.mp pointed
  exact ⟨event, performed, rfl⟩

/-- A thread that is in a history at most once has asked at most one thing. -/
theorem askedBy_of_nodup {entries : List (Entry watch.object)}
    (once : (entries.map Entry.thread).Nodup) (i : Nat) :
    (watch.askedBy i entries).head?.toList = watch.askedBy i entries := by
  have short : (watch.askedBy i entries).length ≤ 1 := by
    have count := List.nodup_iff_count_le_one.mp once i
    rwa [List.count, List.countP_map, List.countP_eq_length_filter,
      ← List.length_map Entry.asked] at count
  match asked : watch.askedBy i entries with
  | [] => rfl
  | [one] => rfl
  | one :: two :: more =>
      rw [asked] at short
      simp at short

/-- Threads that ask at most once each are all different. -/
theorem nodup_of_askedBy {entries : List (Entry watch.object)}
    (once : ∀ i, (watch.askedBy i entries).length ≤ 1) :
    (entries.map Entry.thread).Nodup := by
  rw [List.nodup_iff_count_le_one]
  intro i
  have same : (entries.map Entry.thread).count i = (watch.askedBy i entries).length := by
    rw [askedBy, List.length_map, ← List.countP_eq_length_filter, List.count,
      List.countP_map]
    apply List.countP_congr
    simp
  exact same ▸ once i

end Watch

/-- The points of a trace whose events are faithful are served by the object. -/
theorem Replays.serves (watch : Watch M) {first last : M.State} {trace : List (Event M)}
    (replays : Replays first trace last)
    (faithful : ∀ event ∈ trace, ∀ after spawned,
      M.handle event.env event.op event.before = some (event.res, after, spawned) →
        watch.Faithful event after) :
    watch.object.Serves (watch.view first) ((watch.history trace).map Entry.asked)
      (watch.view last) := by
  induction trace generalizing first with
  | nil => exact congrArg watch.view replays
  | cons event trace inductionHypothesis =>
      obtain ⟨rfl, after, spawned, handled, rest⟩ := replays
      have tail := inductionHypothesis rest fun other member => faithful other (by simp [member])
      have head := faithful event (by simp) after spawned handled
      rw [← List.singleton_append, watch.history_append, watch.history_singleton]
      unfold Watch.Faithful at head
      cases pointed : watch.point event with
      | none =>
          rw [pointed] at head
          simpa [← head] using tail
      | some asked =>
          rw [pointed] at head
          exact ⟨_, head, tail⟩

/-! ### What each thread asks -/

section Decided

variable {κ : Type} {advance : κ → (op : M.Op) → M.Res op → κ} {initial : M.Call → κ}
  (watch : Watch M) (Missed : Event M → Prop)

/-- The control state knows what its thread has asked: an event that is a point is the
first one of its thread, and is what its thread has asked from then on.  At an event that is
missed a thread takes for asked what it has not. -/
def KnowsAsked (advance : κ → (op : M.Op) → M.Res op → κ)
    (decided : κ → Option (watch.object.Request × watch.object.Answer)) (control : κ)
    (event : Event M) : Prop :=
  match decided control with
  | none => decided (advance control event.op event.res) = watch.point event ∨
      (watch.point event = none ∧ Missed event)
  | some asked => watch.point event = none ∧
      decided (advance control event.op event.res) = some asked

variable {Missed}

/-- What a thread has asked is what its control state knows, or nothing where it has missed. -/
theorem askedBy_history {decided : κ → Option (watch.object.Request × watch.object.Answer)}
    {i : Nat} {control : κ} {trace : List (Event M)} (start : decided control = none)
    (knows : ∀ (before : List (Event M)) (event : Event M) (after : List (Event M)),
      trace = before ++ event :: after → event.thread = i →
        KnowsAsked watch Missed advance decided (controlAfter advance i control before) event) :
    watch.askedBy i (watch.history trace) =
        (decided (controlAfter advance i control trace)).toList ∨
      (watch.askedBy i (watch.history trace) = [] ∧
        ∃ event ∈ trace, event.thread = i ∧ Missed event) := by
  induction trace using List.reverseRecOn with
  | nil => simp [start, Watch.askedBy]
  | append_singleton before event inductionHypothesis =>
      have earlier := inductionHypothesis fun front performed back split own =>
        knows front performed (back ++ [event]) (by simp [split]) own
      have widen : (∃ performed ∈ before, performed.thread = i ∧ Missed performed) →
          ∃ performed ∈ before ++ [event], performed.thread = i ∧ Missed performed :=
        fun ⟨performed, member, missed⟩ => ⟨performed, List.mem_append_left _ member, missed⟩
      rw [watch.history_append, watch.history_singleton, watch.askedBy_append]
      by_cases own : event.thread = i
      · subst own
        have now := knows before event [] rfl rfl
        rw [controlAfter_concat_self]
        unfold KnowsAsked at now
        cases known : decided (controlAfter advance event.thread control before) with
        | none =>
            have quiet : watch.askedBy event.thread (watch.history before) = [] := by
              rcases earlier with same | ⟨nothing, _⟩
              · rw [same, known]
                rfl
              · exact nothing
            rw [known] at now
            rw [quiet]
            rcases now with asks | ⟨nothing, missed⟩
            · left
              rw [asks]
              cases watch.point event <;> simp [Watch.askedBy]
            · right
              exact ⟨by simp [nothing, Watch.askedBy], event, by simp, rfl, missed⟩
        | some asked =>
            rw [known] at now earlier
            have aside : watch.askedBy event.thread ((watch.point event).map fun asked =>
                (⟨event.thread, asked⟩ : Entry _)).toList = [] := by
              rw [now.1]
              rfl
            rw [aside, List.append_nil, now.2]
            exact earlier.imp_right fun missed => ⟨missed.1, widen missed.2⟩
      · rw [controlAfter_concat_other _ _ own]
        have aside : watch.askedBy i ((watch.point event).map fun asked =>
            (⟨event.thread, asked⟩ : Entry _)).toList = [] := by
          cases watch.point event <;> simp [Watch.askedBy, own]
        rw [aside, List.append_nil]
        exact earlier.imp_right fun missed => ⟨missed.1, widen missed.2⟩

end Decided

/-! ### Linearizations -/

/-- The history is a linearization of the run: a sequential object serves it, every call is
in it at most once, a call that has come back has asked what its reply says (or nothing, if
it has missed), and the order is that of real time: what has come to its last event before
another call's first one stands before it. -/
structure Linearizes (watch : Watch M) (Missed : Event M → Prop)
    (Answers : M.Call → M.Reply → Option (watch.object.Request × watch.object.Answer) → Prop)
    (first : M.State) (trace : List (Event M)) (last : Pool M)
    (history : List (Entry watch.object)) : Prop where
  sequential : watch.object.Serves (watch.view first) (history.map Entry.asked)
    (watch.view last.state)
  once : (history.map Entry.thread).Nodup
  own : ∀ entry ∈ history, entry.thread < last.threads.length
  answered : ∀ (i : Nat) (call : M.Call) (reply : M.Reply),
    last.threads[i]? = some ⟨call, .ret (.inr reply)⟩ →
      Answers call reply (watch.askedBy i history).head? ∨
        (watch.askedBy i history = [] ∧ ∃ event ∈ trace, event.thread = i ∧ Missed event)
  realTime : ∀ (before after : List (Event M)) (one two : Nat), trace = before ++ after →
    (∀ event ∈ after, event.thread ≠ one) → (∀ event ∈ before, event.thread ≠ two) →
    one ∈ history.map Entry.thread → two ∈ history.map Entry.thread →
      ∃ front back, history = front ++ back ∧ one ∈ front.map Entry.thread ∧
        two ∈ back.map Entry.thread

section Runs

variable {κ : Type} {advance : κ → (op : M.Op) → M.Res op → κ}
  {permitted : κ → M.Op → Prop} {possible : κ → (op : M.Op) → M.Res op → Prop}
  {final : κ → M.Call ⊕ M.Reply → Prop} {initial : M.Call → κ} {watch : Watch M}
  {Missed : Event M → Prop}
  {decided : κ → Option (watch.object.Request × watch.object.Answer)}
  {state : M.State} {calls : List M.Call} {last : Pool M} {trace : List (Event M)}

/-- What the threads of a run have asked is what their control states know. -/
theorem Run.askedBy_history (run : Run (Pool.start state calls) trace last)
    (start : ∀ call, decided (initial call) = none)
    (knows : ∀ (before : List (Event M)) (event : Event M) (after : List (Event M)),
      trace = before ++ event :: after → KnowsAsked watch Missed advance decided
        (controlAfter advance event.thread (initial event.call) before) event)
    {i : Nat} {thread : Thread M} (at_i : last.threads[i]? = some thread) :
    watch.askedBy i (watch.history trace) =
        (decided (controlAfter advance i (initial thread.call) trace)).toList ∨
      (watch.askedBy i (watch.history trace) = [] ∧
        ∃ event ∈ trace, event.thread = i ∧ Missed event) := by
  apply Process.askedBy_history watch (start thread.call)
  intro before event after split own
  have ownThread := run.event_thread event (by simp [split])
  rw [own, at_i] at ownThread
  obtain ⟨_, same, sameCall⟩ := ownThread
  obtain rfl := Option.some.inj same
  have known := knows before event after split
  rwa [own, ← sameCall] at known

/-- Every request of a run is made by a thread of its pool. -/
theorem Run.history_own (run : Run (Pool.start state calls) trace last) :
    ∀ entry ∈ watch.history trace, entry.thread < last.threads.length := by
  intro entry member
  obtain ⟨event, performed, thread⟩ := Watch.mem_history_thread (List.mem_map_of_mem member)
  obtain ⟨_, there, _⟩ := run.event_thread event performed
  rw [← thread]
  exact (List.getElem?_eq_some_iff.mp there).1

/-- A run whose events are faithful, and whose threads know what they have asked and answer
by it, is linearized by its points. -/
theorem Run.linearizes
    {Answers : M.Call → M.Reply → Option (watch.object.Request × watch.object.Answer) → Prop}
    (run : Run (Pool.start state calls) trace last)
    (governed : Governed advance permitted possible final initial trace last)
    (start : ∀ call, decided (initial call) = none)
    (faithful : ∀ event ∈ trace, ∀ after spawned,
      M.handle event.env event.op event.before = some (event.res, after, spawned) →
        watch.Faithful event after)
    (knows : ∀ (before : List (Event M)) (event : Event M) (after : List (Event M)),
      trace = before ++ event :: after → KnowsAsked watch Missed advance decided
        (controlAfter advance event.thread (initial event.call) before) event)
    (answers : ∀ (i : Nat) (call : M.Call) (reply : M.Reply),
      final (controlAfter advance i (initial call) trace) (.inr reply) →
        Answers call reply (decided (controlAfter advance i (initial call) trace))) :
    Linearizes watch Missed Answers state trace last (watch.history trace) := by
  constructor
  case sequential => exact run.replays.serves watch faithful
  case once =>
    apply Watch.nodup_of_askedBy
    intro i
    cases at_i : last.threads[i]? with
    | none =>
        have nothing : watch.askedBy i (watch.history trace) = [] := by
          rw [Watch.askedBy, List.map_eq_nil_iff, List.filter_eq_nil_iff]
          intro entry member own
          have there := run.history_own entry member
          rw [of_decide_eq_true own] at there
          exact absurd there (List.getElem?_eq_none_iff.mp at_i).not_gt
        simp [nothing]
    | some thread =>
        rcases run.askedBy_history start knows at_i with same | ⟨nothing, _⟩
        · rw [same]
          cases decided (controlAfter advance i (initial thread.call) trace) <;> simp
        · simp [nothing]
  case own => exact run.history_own
  case answered =>
    intro i call reply at_i
    refine (run.askedBy_history start knows at_i).imp_left fun known => ?_
    have head : (watch.askedBy i (watch.history trace)).head? =
        decided (controlAfter advance i (initial call) trace) := by
      rw [known]
      cases decided (controlAfter advance i (initial call) trace) <;> rfl
    rw [head]
    exact answers i call reply (governed.obeys i _ at_i)
  case realTime =>
    intro before after one two split oneEnded twoLater oneAmong twoAmong
    subst split
    refine ⟨watch.history before, watch.history after, watch.history_append _ _, ?_, ?_⟩
    · rw [watch.history_append, List.map_append] at oneAmong
      rcases List.mem_append.mp oneAmong with front | back
      · exact front
      · obtain ⟨event, performed, own⟩ := Watch.mem_history_thread back
        exact absurd own (oneEnded event performed)
    · rw [watch.history_append, List.map_append] at twoAmong
      rcases List.mem_append.mp twoAmong with front | back
      · obtain ⟨event, performed, own⟩ := Watch.mem_history_thread front
        exact absurd own (twoLater event performed)
      · exact back

end Runs

/-! ### Sums over a history -/

/-- What a history weighs is what its threads have asked, put together. -/
theorem Watch.sum_askedBy (watch : Watch M)
    (weight : watch.object.Request × watch.object.Answer → Int)
    {entries : List (Entry watch.object)} {n : Nat}
    (known : ∀ entry ∈ entries, entry.thread < n) :
    ((entries.map Entry.asked).map weight).sum =
      ∑ i ∈ Finset.range n, ((watch.askedBy i entries).map weight).sum := by
  induction entries with
  | nil => simp [Watch.askedBy]
  | cons entry entries inductionHypothesis =>
      have rest := inductionHypothesis fun other member => known other (by simp [member])
      have each : ∀ i, ((watch.askedBy i (entry :: entries)).map weight).sum =
          (if i = entry.thread then weight entry.asked else 0) +
            ((watch.askedBy i entries).map weight).sum := by
        intro i
        by_cases own : entry.thread = i
        · simp [Watch.askedBy, own]
        · simp [Watch.askedBy, own, Ne.symm own]
      rw [List.map_cons, List.map_cons, List.sum_cons, rest, Finset.sum_congr rfl fun i _ => each i,
        Finset.sum_add_distrib, Finset.sum_ite_eq', if_pos]
      exact Finset.mem_range.mpr (known entry (by simp))

/-- What a linearized run has asked weighs what its threads tell, put together. -/
theorem Linearizes.sum {watch : Watch M} {Missed : Event M → Prop}
    {Answers : M.Call → M.Reply → Option (watch.object.Request × watch.object.Answer) → Prop}
    {first : M.State} {trace : List (Event M)} {last : Pool M}
    {history : List (Entry watch.object)}
    (linearizes : Linearizes watch Missed Answers first trace last history)
    (weight : watch.object.Request × watch.object.Answer → Int) (told : Thread M → Int)
    (each : ∀ (i : Nat) (thread : Thread M), last.threads[i]? = some thread →
      ((watch.askedBy i history).map weight).sum = told thread) :
    ((history.map Entry.asked).map weight).sum = (last.threads.map told).sum := by
  rw [watch.sum_askedBy weight linearizes.own, Finset.sum_range, ← Fin.sum_univ_fun_getElem]
  apply Finset.sum_congr rfl
  intro i _
  exact each i _ (List.getElem?_eq_getElem i.isLt)

end Process
