/-
Module: SocialApi.Proofs.EventOrder
Purpose: In which order the events of likes and unlikes that follow each other reach Redis and
  the subscribers of their item.
Trusted boundary: none
Main exports:
  Delivery, body_delivers, sent_by_thread, published_of_run, serveAll_payloads,
  events_in_task_order
-/
import SocialApi.Process.Turns
import SocialApi.Proofs.ConcurrentCounts
import SocialApi.Proofs.EventDelivery

namespace SocialApi

open Process
open SseManager (getKey serve serveAll)

/-- The event that a step publishes. -/
def sentBy : LikeOp → Option SseLikeEvent
  | .cachePublishLikeEvent event => some event
  | _ => none

/-- The events that a call for a task publishes. -/
def LikeCall.publishes : LikeCall → List SseLikeEvent
  | .publishLikeEvent event => [event]
  | _ => []

/-- The count that a reply returns beside an event. -/
def LikeReply.toldCount : LikeReply → Option Nat
  | .addLike (.ok result) => some result.count
  | .removeLike (.ok result) => if result.wasLiked then some result.count else none
  | _ => none

theorem LikeOp.started_publishes (op : LikeOp) :
    op.started.flatMap LikeCall.publishes = (toldBy op).toList := by
  cases op with
  | spawn task => cases task <;> rfl
  | _ => rfl

/-! ### A protocol of tasks -/

/-- What a thread has done so far: a request has told its event or not, and a task has
published its event or not. -/
inductive Delivery where
  | calling (telling : Telling)
  | publishing (event : SseLikeEvent) (sent : Bool)

namespace Delivery

def start : LikeCall → Delivery
  | .publishLikeEvent event => .publishing event false
  | _ => .calling .start

def advance : Delivery → (op : LikeOp) → op.Res → Delivery
  | .calling telling, op, answer => .calling (telling.advance op answer)
  | .publishing event _, .cachePublishLikeEvent _, _ => .publishing event true
  | phase, _, _ => phase

variable (contentType : ContentType) (contentId : ContentId)

/-- A request is for a change of the item, and a task publishes its event once. -/
def Permitted : Delivery → LikeOp → Prop
  | .calling telling, op => ∃ change : Change,
      change.key.2 = (contentType, contentId) ∧ telling.Permitted change op
  | .publishing event sent, op => sent = false ∧ op = .cachePublishLikeEvent event

def Possible : Delivery → (op : LikeOp) → op.Res → Prop
  | .calling telling, op, answer => telling.Possible op answer
  | .publishing _ _, _, _ => True

def Final : Delivery → LikeCall ⊕ LikeReply → Prop
  | .calling telling, outcome => ∃ change : Change,
      change.key.2 = (contentType, contentId) ∧ telling.Final change outcome
  | .publishing _ sent, outcome =>
      sent = true ∧ ∃ result, outcome = .inr (.publishLikeEvent result)

/-- The calls of the runs: changes of the item, and tasks that publish. -/
def Among (call : LikeCall) : Prop :=
  (∃ change, call.change = some change ∧ change.key.2 = (contentType, contentId)) ∨
    ∃ event, call = .publishLikeEvent event

/-- The events that a thread has handed on. -/
def told : Delivery → List SseLikeEvent
  | .calling telling => telling.told.toList
  | .publishing _ _ => []

/-- The events that a thread has published. -/
def sent : Delivery → List SseLikeEvent
  | .publishing event true => [event]
  | _ => []

end Delivery

section Delivery

open Delivery

variable {setting : Setting} {contentType : ContentType} {contentId : ContentId}

theorem start_of_change {call : LikeCall} {change : Change}
    (wants : call.change = some change) : start call = .calling .start := by
  cases call with
  | publishLikeEvent event => cases wants
  | _ => rfl

theorem body_delivers (setting : Setting) {call : LikeCall}
    (among : Among contentType contentId call) :
    (call.body setting).Obeys advance (Permitted contentType contentId) Possible
      (Final contentType contentId) (start call) := by
  rcases among with ⟨change, wants, about⟩ | ⟨event, rfl⟩
  · rw [start_of_change wants]
    apply (change_tells setting wants).embed Delivery.calling
    · intro telling op answer
      rfl
    · intro telling op permitted
      exact ⟨change, about, permitted⟩
    · intro telling op answer possible
      exact possible
    · intro telling outcome final
      exact ⟨change, about, final⟩
  · exact ⟨⟨rfl, rfl⟩, fun result _ => ⟨rfl, result, rfl⟩⟩

/-- A step hands on what its operation says. -/
theorem Delivery.advance_told {phase : Delivery} {op : LikeOp}
    (permitted : phase.Permitted contentType contentId op) (answer : op.Res) :
    (phase.advance op answer).told = phase.told ++ (toldBy op).toList := by
  cases phase with
  | publishing event sent =>
      obtain ⟨rfl, rfl⟩ := permitted
      rfl
  | calling telling =>
      obtain ⟨change, about, permitted⟩ := permitted
      cases op with
      | spawn task =>
          obtain ⟨untold, count, timestamp, rfl⟩ := permitted
          simp [advance, Telling.advance, told, toldBy, untold]
      | dbSave like => rcases answer with _ | _ | _ <;> exact (List.append_nil _).symm
      | dbRemove _ _ _ => rcases answer with _ | _ | _ <;> exact (List.append_nil _).symm
      | dbGetLike _ _ _ => cases answer <;> exact (List.append_nil _).symm
      | validateContent _ _ => cases answer <;> exact (List.append_nil _).symm
      | _ => exact (List.append_nil _).symm

/-- A step publishes what its operation says. -/
theorem Delivery.advance_sent {phase : Delivery} {op : LikeOp}
    (permitted : phase.Permitted contentType contentId op) (answer : op.Res) :
    (phase.advance op answer).sent = phase.sent ++ (sentBy op).toList := by
  cases phase with
  | publishing event sent =>
      obtain ⟨rfl, rfl⟩ := permitted
      rfl
  | calling telling =>
      obtain ⟨change, about, permitted⟩ := permitted
      cases op with
      | cachePublishLikeEvent event => exact permitted.elim
      | _ => rfl

theorem Delivery.Permitted.task {phase : Delivery} {op : LikeOp} {task : LikeCall}
    (permitted : phase.Permitted contentType contentId op) (started : task ∈ op.started) :
    ∃ event, task = .publishLikeEvent event := by
  cases phase with
  | publishing event sent =>
      obtain ⟨rfl, rfl⟩ := permitted
      cases started
  | calling telling =>
      obtain ⟨change, about, permitted⟩ := permitted
      cases op with
      | spawn other =>
          obtain ⟨untold, count, timestamp, rfl⟩ := permitted
          exact ⟨_, List.mem_singleton.mp started⟩
      | _ => cases started

/-- The event of a finished request is about the item, and has the count that is returned. -/
theorem Delivery.Final.told {telling : Telling} {reply : LikeReply}
    (final : Final contentType contentId (.calling telling) (.inr reply)) :
    telling.told.map SseLikeEvent.count = reply.toldCount.map some ∧
      ∀ event ∈ telling.told, event.contentType = some contentType ∧
        event.contentId = some contentId := by
  obtain ⟨change, about, final⟩ := final
  have item : ∀ {count : Nat} {timestamp : DateTime},
      telling.told = some (change.event count timestamp) →
      ∀ event ∈ telling.told, event.contentType = some contentType ∧
        event.contentId = some contentId := by
    intro count timestamp told event member
    rw [told] at member
    obtain rfl := Option.some.inj member
    have aboutType : change.key.2.1 = contentType := congrArg Prod.fst about
    have aboutId : change.key.2.2 = contentId := congrArg Prod.snd about
    exact ⟨congrArg some aboutType, congrArg some aboutId⟩
  cases reply with
  | addLike result =>
      cases result with
      | error e => simp [LikeReply.toldCount, final.2.2.1]
      | ok result =>
          obtain ⟨_, _, _, _, timestamp, told⟩ := final
          exact ⟨by rw [told]; rfl, item told⟩
  | removeLike result =>
      cases result with
      | error e => simp [LikeReply.toldCount, final.2.2.1]
      | ok result =>
          obtain ⟨_, _, _, told⟩ := final
          cases was : result.wasLiked with
          | false =>
              rw [was] at told
              replace told : telling.told = none := told
              simp [LikeReply.toldCount, was, told]
          | true =>
              rw [was] at told
              obtain ⟨timestamp, told⟩ := told
              refine ⟨?_, item told⟩
              rw [told, LikeReply.toldCount, if_pos was]
              rfl
  | _ => exact final.elim

end Delivery

/-! ### Runs -/

section Runs

open Delivery

variable {setting : Setting} {contentType : ContentType} {contentId : ContentId}
  {world : World} {calls : List LikeCall} {trace : List (Event (likeService setting))}
  {last : Pool (likeService setting)}

/-- The events that a run hands to `publish_like_event`, in order. -/
def toldIn (trace : List (Event (likeService setting))) : List SseLikeEvent :=
  trace.filterMap fun event => toldBy event.op

/-- The events that a run publishes, in order. -/
def sentIn (trace : List (Event (likeService setting))) : List SseLikeEvent :=
  trace.filterMap fun event => sentBy event.op

/-- The count that a finished call has returned beside an event. -/
def toldCount (thread : Thread (likeService setting)) : Option Nat :=
  match thread.rest with
  | .ret (.inr reply) => reply.toldCount
  | _ => none

/-- The counts that the calls have returned beside an event, in the order of the calls. -/
def toldCounts (last : Pool (likeService setting)) : List Nat :=
  last.threads.filterMap toldCount

/-- What a thread has handed on and published agrees with its phase. -/
structure Delivered (trace : List (Event (likeService setting))) (i : Nat)
    (phase : Delivery) : Prop where
  told : toldIn (stepsOf i trace) = phase.told
  sent : sentIn (stepsOf i trace) = phase.sent
  tasks : ∀ event ∈ stepsOf i trace, ∀ task ∈ event.op.started,
    ∃ told, task = .publishLikeEvent told

theorem delivered_start {i : Nat} (untouched : ∀ event ∈ trace, event.thread ≠ i)
    (call : LikeCall) : Delivered trace i (start call) := by
  have nothing := stepsOf_untouched untouched
  constructor
  · rw [nothing]
    cases call <;> rfl
  · rw [nothing]
    cases call <;> rfl
  · simp [nothing]

theorem Delivered.other {i : Nat} {phase : Delivery} {event : Event (likeService setting)}
    (elsewhere : event.thread ≠ i) (delivered : Delivered trace i phase) :
    Delivered (trace ++ [event]) i phase := by
  have same := stepsOf_concat_other trace elsewhere
  exact ⟨same ▸ delivered.told, same ▸ delivered.sent, same ▸ delivered.tasks⟩

/-- The step law of a thread. -/
theorem Delivered.own {event : Event (likeService setting)} {phase : Delivery}
    (permitted : phase.Permitted contentType contentId event.op)
    (delivered : Delivered trace event.thread phase) :
    Delivered (trace ++ [event]) event.thread (phase.advance event.op event.res) := by
  constructor
  · rw [stepsOf_concat_self, toldIn, List.filterMap_append, Delivery.advance_told permitted,
      ← delivered.told]
    cases found : toldBy event.op <;> simp [toldIn, found]
  · rw [stepsOf_concat_self, sentIn, List.filterMap_append, Delivery.advance_sent permitted,
      ← delivered.sent]
    cases found : sentBy event.op <;> simp [sentIn, found]
  · rw [stepsOf_concat_self]
    intro performed member task started
    rcases List.mem_append.mp member with earlier | now
    · exact delivered.tasks performed earlier task started
    · obtain rfl := List.mem_singleton.mp now
      exact Delivery.Permitted.task permitted started

/-- A task goes on publishing its event, and a request remains one. -/
theorem delivery_kept (call : LikeCall) (i : Nat) :
    (∀ event, call = .publishLikeEvent event →
      ∃ sent, controlAfter advance i (start call) trace = .publishing event sent) ∧
    ((∀ event, call ≠ .publishLikeEvent event) →
      ∃ telling, controlAfter advance i (start call) trace = .calling telling) := by
  constructor
  · rintro event rfl
    apply controlAfter_preserves fun phase : Delivery => ∃ sent, phase = .publishing event sent
    · rintro ⟨_, _, _, op, _, _⟩ _ _ ⟨sent, rfl⟩
      cases op <;> exact ⟨_, rfl⟩
    · exact ⟨false, rfl⟩
  · intro request
    apply controlAfter_preserves fun phase : Delivery => ∃ telling, phase = .calling telling
    · rintro performed _ _ ⟨telling, rfl⟩
      exact ⟨_, rfl⟩
    · cases call with
      | publishLikeEvent event => exact absurd rfl (request event)
      | _ => exact ⟨_, rfl⟩

/-- The run law: while Postgres answers, every thread goes through its phases and has delivered
what they say. -/
theorem delivered_run
    (run : Run (M := likeService setting) (Pool.start world calls) trace last)
    (among : ∀ call ∈ calls, Among contentType contentId call)
    (healthy : ∀ event ∈ trace, event.env.fault = none) (i : Nat)
    (thread : Thread (likeService setting)) (at_i : last.threads[i]? = some thread) :
    thread.rest.Obeys advance (Permitted contentType contentId) Possible
        (Final contentType contentId)
        (controlAfter advance i (start thread.call) trace) ∧
      Delivered trace i (controlAfter advance i (start thread.call) trace) := by
  apply Run.phases_each Delivered (fun _ => body_delivers setting) _ among run
    (fun before i call untouched => delivered_start untouched call)
    (fun before event i phase elsewhere => Delivered.other elsewhere) _ i thread at_i
  · intro phase target final
    cases phase with
    | publishing event sent =>
        obtain ⟨_, _, ⟨⟩⟩ := final
    | calling telling =>
        obtain ⟨_, _, final⟩ := final
        exact final.elim
  · intro before event phase next spawned member permitted handled delivered
    refine ⟨?_, ?_, delivered.own permitted⟩
    · intro task started
      rw [World.handle_started handled] at started
      exact .inr (Delivery.Permitted.task permitted started)
    · cases phase with
      | publishing event sent => trivial
      | calling telling =>
          obtain ⟨thread, call, env, op, res, state⟩ := event
          replace handled : World.handle setting env op state = some (res, next, spawned) :=
            handled
          cases op with
          | dbGetLikesCount otherType otherId =>
              exact ⟨_, World.handle_getLikesCount (healthy _ member) handled⟩
          | _ => trivial

/-- What each thread of a finished run has handed on and published. -/
theorem delivered_of_run
    (run : Run (M := likeService setting) (Pool.start world calls) trace last)
    (done : last.Done)
    (among : ∀ call ∈ calls, Among contentType contentId call)
    (healthy : ∀ event ∈ trace, event.env.fault = none) (i : Nat)
    (thread : Thread (likeService setting)) (at_i : last.threads[i]? = some thread) :
    sentIn (stepsOf i trace) = thread.call.publishes ∧
      (toldIn (stepsOf i trace)).map SseLikeEvent.count = (toldCount thread).toList.map some ∧
      (∀ event ∈ toldIn (stepsOf i trace), event.contentType = some contentType ∧
        event.contentId = some contentId ∧ thread.call.publishes = []) ∧
      ∀ event ∈ stepsOf i trace, ∀ task ∈ event.op.started, task.publishes ≠ [] := by
  obtain ⟨obeys, delivered⟩ := delivered_run run among healthy i thread at_i
  obtain ⟨reply, returned⟩ := done thread (List.mem_of_getElem? at_i)
  have final : Final contentType contentId
      (controlAfter advance i (start thread.call) trace) (.inr reply) := by
    rw [returned] at obeys
    exact obeys
  have counted : toldCount thread = reply.toldCount := by rw [toldCount, returned]
  have tasks : ∀ event ∈ stepsOf i trace, ∀ task ∈ event.op.started, task.publishes ≠ [] := by
    intro event member task started
    obtain ⟨told, rfl⟩ := delivered.tasks event member task started
    exact List.cons_ne_nil _ _
  rw [delivered.sent, delivered.told, counted]
  by_cases task : ∃ event, thread.call = .publishLikeEvent event
  · obtain ⟨event, isTask⟩ := task
    obtain ⟨sent, phase⟩ := (delivery_kept thread.call i).1 event isTask
    rw [phase] at final ⊢
    obtain ⟨rfl, result, same⟩ := final
    obtain rfl := Sum.inr.inj same
    refine ⟨?_, rfl, by rintro _ ⟨⟩, tasks⟩
    rw [isTask]
    rfl
  · obtain ⟨telling, phase⟩ := (delivery_kept thread.call i).2 (not_exists.mp task)
    rw [phase] at final ⊢
    obtain ⟨counts, about⟩ := final.told
    have silent : thread.call.publishes = [] := by
      cases isCall : thread.call with
      | publishLikeEvent event => exact absurd ⟨event, isCall⟩ task
      | _ => rfl
    refine ⟨silent.symm, ?_, ?_, tasks⟩
    · rw [Delivery.told, ← Option.toList_map, counts, Option.toList_map]
    · intro event member
      obtain ⟨aboutType, aboutId⟩ := about event (Option.mem_toList.mp member)
      exact ⟨aboutType, aboutId, silent⟩

theorem mem_stepsOf {event : Event (likeService setting)} (member : event ∈ trace) :
    event ∈ stepsOf event.thread trace :=
  List.mem_filter.mpr ⟨member, decide_eq_true rfl⟩

theorem toldIn_counts (trace : List (Event (likeService setting))) :
    (toldIn trace).map SseLikeEvent.count =
      trace.filterMap fun event => (toldBy event.op).map SseLikeEvent.count := by
  rw [toldIn, List.map_filterMap]

theorem toldCounts_flatMap (last : Pool (likeService setting)) :
    (toldCounts last).map some =
      last.threads.flatMap fun thread => (toldCount thread).toList.map some := by
  rw [toldCounts, List.filterMap_eq_flatMap_toList, List.map_flatMap]

section Finished

variable (run : Run (M := likeService setting) (Pool.start world calls) trace last)
  (done : last.Done)
  (about : ∀ call ∈ calls, ∃ change, call.change = some change ∧
    change.key.2 = (contentType, contentId))
  (healthy : ∀ event ∈ trace, event.env.fault = none)

include run done about healthy

/-- The first threads are the calls, and the others publish. -/
theorem thread_publishes {i : Nat} {thread : Thread (likeService setting)}
    (at_i : last.threads[i]? = some thread) :
    thread.call.publishes = [] ↔ i < calls.length := by
  have threads := run.thread_calls LikeOp.started
    (fun env op state answer after spawned handled => World.handle_started handled)
  have at_call : (calls ++ trace.flatMap fun event => event.op.started)[i]? =
      some thread.call := by
    rw [← threads, List.getElem?_map, at_i, Option.map_some]
  by_cases first : i < calls.length
  · rw [List.getElem?_append_left first] at at_call
    obtain ⟨change, wants, _⟩ := about _ (List.mem_of_getElem? at_call)
    refine iff_of_true ?_ first
    cases isCall : thread.call with
    | publishLikeEvent event =>
        rw [isCall] at wants
        cases wants
    | _ => rfl
  · rw [List.getElem?_append_right (not_lt.mp first)] at at_call
    obtain ⟨event, member, started⟩ := List.mem_flatMap.mp (List.mem_of_getElem? at_call)
    obtain ⟨owner, at_owner, _⟩ := run.event_thread event member
    obtain ⟨_, _, _, tasks⟩ := delivered_of_run run done
      (fun call member => .inl (about call member)) healthy _ owner at_owner
    exact iff_of_false (tasks event (mem_stepsOf member) _ started) first

/-- Where the told events come from, and what they carry. -/
theorem told_by_call {event : Event (likeService setting)} (member : event ∈ trace)
    {told : SseLikeEvent} (tells : toldBy event.op = some told) :
    event.thread < calls.length ∧ told.contentType = some contentType ∧
      told.contentId = some contentId ∧ told.count ∈ (toldCounts last).map some := by
  obtain ⟨thread, at_thread, _⟩ := run.event_thread event member
  obtain ⟨_, counts, item, _⟩ := delivered_of_run run done
    (fun call member => .inl (about call member)) healthy _ thread at_thread
  have among : told ∈ toldIn (stepsOf event.thread trace) :=
    List.mem_filterMap.mpr ⟨event, mem_stepsOf member, tells⟩
  obtain ⟨aboutType, aboutId, silent⟩ := item told among
  have counted := List.mem_map_of_mem (f := SseLikeEvent.count) among
  rw [counts] at counted
  obtain ⟨count, returned, same⟩ := List.mem_map.mp counted
  refine ⟨(thread_publishes run done about healthy at_thread).mp silent, aboutType, aboutId, ?_⟩
  refine List.mem_map.mpr ⟨count, ?_, same⟩
  exact List.mem_filterMap.mpr
    ⟨thread, List.mem_of_getElem? at_thread, Option.mem_toList.mp returned⟩

/-- The calls hand on what they return, in their order. -/
theorem told_in_turn (turns : InTurn (fun i => decide (i < calls.length)) trace) :
    (toldIn trace).map SseLikeEvent.count = (toldCounts last).map some := by
  have own := delivered_of_run run done
    (fun call member => .inl (about call member)) healthy
  rw [toldIn_counts, toldCounts_flatMap]
  apply run.filterMap_by_thread _ turns
  · intro event member tells
    obtain ⟨told, tells⟩ := Option.ne_none_iff_exists'.mp (mt Option.map_eq_none_iff.mpr tells)
    exact decide_eq_true (told_by_call run done about healthy member tells).1
  · intro i thread at_i
    rw [← (own i thread at_i).2.1, toldIn_counts]

omit done healthy in
/-- The tasks are those of the told events. -/
theorem tasks_of_told :
    (last.threads.flatMap fun thread => thread.call.publishes) = toldIn trace := by
  have threads := run.thread_calls LikeOp.started
    (fun env op state answer after spawned handled => World.handle_started handled)
  have requests : calls.flatMap LikeCall.publishes = [] := by
    apply List.flatMap_eq_nil_iff.mpr
    intro call member
    obtain ⟨change, wants, _⟩ := about call member
    cases call with
    | publishLikeEvent event => cases wants
    | _ => rfl
  calc (last.threads.flatMap fun thread => thread.call.publishes)
      = (last.threads.map Thread.call).flatMap LikeCall.publishes := by
        rw [List.flatMap_map]
    _ = trace.flatMap fun event => (toldBy event.op).toList := by
        rw [threads, List.flatMap_append, requests, List.nil_append, List.flatMap_assoc]
        simp only [LikeOp.started_publishes]
    _ = toldIn trace := (List.filterMap_eq_flatMap_toList ..).symm

/-- The tasks publish each told event once. -/
theorem sent_perm_told : (sentIn trace).Perm (toldIn trace) := by
  rw [← tasks_of_told run about]
  apply run.perm_by_thread
  intro i thread at_i
  exact (delivered_of_run run done (fun call member => .inl (about call member)) healthy
    i thread at_i).1

/-- Tasks that run in the order in which they were started publish in that order. -/
theorem sent_in_turn (turns : InTurn (fun i => decide (calls.length ≤ i)) trace) :
    sentIn trace = toldIn trace := by
  have own := delivered_of_run run done
    (fun call member => .inl (about call member)) healthy
  rw [← tasks_of_told run about]
  apply run.filterMap_by_thread (fun i thread at_i => (own i thread at_i).1) turns
  intro event member sends
  obtain ⟨thread, at_thread, _⟩ := run.event_thread event member
  obtain ⟨sent, sends⟩ := Option.ne_none_iff_exists'.mp sends
  have among : sent ∈ sentIn (stepsOf event.thread trace) :=
    List.mem_filterMap.mpr ⟨event, mem_stepsOf member, sends⟩
  rw [(own _ thread at_thread).1] at among
  apply decide_eq_true
  by_contra first
  rw [(thread_publishes run done about healthy at_thread).mpr (not_le.mp first)] at among
  cases among

end Finished

/-- The message that publishing an event sends, if it names an item. -/
def messageOf (setting : Setting) (event : SseLikeEvent) : Option (String × String) :=
  (RedisLikeRepository.publishLikeEvent setting.eventText none event).toOption

theorem World.handle_published {env : Surroundings} {op : LikeOp} {answer : op.Res}
    {after : World} {spawned : List LikeCall} (healthy : env.fault = none)
    (handled : World.handle setting env op world = some (answer, after, spawned)) :
    after.published = world.published ++ (sentBy op).toList.filterMap (messageOf setting) := by
  cases op with
  | cachePublishLikeEvent event =>
      simp only [World.handle, World.serve, World.advance, healthy] at handled
      split at handled
      · next e failed =>
          simp only [Option.some.injEq, Prod.mk.injEq] at handled
          simp [sentBy, messageOf, failed, ← handled.2.1, Except.toOption]
      · next sent published =>
          simp only [Option.some.injEq, Prod.mk.injEq] at handled
          simp [sentBy, messageOf, published, ← handled.2.1, Except.toOption]
  | flightEntry lockKey =>
      simp only [World.handle, World.serve] at handled
      split at handled <;>
      · simp only [Option.some.injEq, Prod.mk.injEq] at handled
        obtain ⟨-, rfl, -⟩ := handled
        exact (List.append_nil _).symm
  | mutexLock lock =>
      simp only [World.handle, World.serve] at handled
      split at handled
      · cases handled
      · simp only [Option.some.injEq, Prod.mk.injEq] at handled
        obtain ⟨-, rfl, -⟩ := handled
        exact (List.append_nil _).symm
  | _ =>
      simp only [World.handle, World.serve, Option.some.injEq, Prod.mk.injEq] at handled
      obtain ⟨-, rfl, -⟩ := handled
      exact (List.append_nil _).symm

/-- The messages that a healthy run leaves on Redis are those of the events it publishes. -/
theorem published_of_replays {reached : World}
    (replays : Replays (M := likeService setting) world trace reached)
    (healthy : ∀ event ∈ trace, event.env.fault = none) :
    reached.published = world.published ++ (sentIn trace).filterMap (messageOf setting) := by
  apply replays.history fun (before : List (Event (likeService setting))) (reached : World) =>
    reached.published = world.published ++ (sentIn before).filterMap (messageOf setting)
  · intro before event after spawned member handled kept
    rw [World.handle_published (healthy event member) handled, kept, List.append_assoc,
      ← List.filterMap_append]
    congr 2
    rw [sentIn, sentIn, List.filterMap_append]
    cases sends : sentBy event.op <;> simp [sends]
  · simp [sentIn]

end Runs

/-! ### Subscribers -/

/-- A listener that reads the messages of events of one item hands them to its subscribers in
the order in which they come. -/
theorem serveAll_payloads {setting : SseSetting} {toText : SseLikeEvent → String}
    {manager : SseManager} {contentType : ContentType} {contentId : ContentId}
    {channel : Channel} {events : List SseLikeEvent} (watched : Watched manager)
    (present : manager.channels (getKey contentType contentId) = some channel)
    (read : ∀ event ∈ events, setting.fromStr (toText event) = some event ∧
      event.contentType = some contentType ∧ event.contentId = some contentId) :
    ∃ after,
      serveAll setting manager (events.map fun event => .payload (toText event)) = some after ∧
      after.channels (getKey contentType contentId) =
        some { channel with sent := channel.sent ++ events } := by
  induction events generalizing manager channel with
  | nil => exact ⟨manager, rfl, by simpa using present⟩
  | cons event events inductionHypothesis =>
      obtain ⟨readBack, aboutType, aboutId⟩ := read event List.mem_cons_self
      obtain ⟨next, served, still, channels⟩ :=
        delivered_to_item watched readBack aboutType aboutId
      have there : next.channels (getKey contentType contentId) =
          some (channel.sending event) := by
        rw [channels, Function.update_self, present, Option.map_some]
      obtain ⟨after, rest, reached⟩ := inductionHypothesis still there
        fun other member => read other (List.mem_cons_of_mem _ member)
      refine ⟨after, ?_, ?_⟩
      · rw [List.map_cons, serveAll, List.foldlM_cons, served]
        exact rest
      · rw [reached, Channel.sending, List.append_assoc]
        rfl

/-- With nothing failing, the calls of likes and unlikes of an item that follow each other hand
on the counts that they return; each of these events reaches Redis once, in the order in which
the publish tasks run, which need not be that of the calls; and the subscribers of the item are
sent what reaches Redis. -/
theorem events_in_task_order (setting : Setting) (contentType : ContentType)
    (contentId : ContentId) (world : World) (calls : List LikeCall)
    (trace : List (Event (likeService setting))) (last : Pool (likeService setting))
    (run : Run (M := likeService setting) (Pool.start world calls) trace last)
    (done : last.Done)
    (about : ∀ call ∈ calls, ∃ change, call.change = some change ∧
      change.key.2 = (contentType, contentId))
    (follow : InTurn (fun i => decide (i < calls.length)) trace)
    (healthy : ∀ event ∈ trace, event.env.fault = none) :
    (toldIn trace).map SseLikeEvent.count = (toldCounts last).map some ∧
      (sentIn trace).Perm (toldIn trace) ∧
      (InTurn (fun i => decide (calls.length ≤ i)) trace → sentIn trace = toldIn trace) ∧
      last.state.published = world.published ++ (sentIn trace).map (fun event =>
        (RedisLikeRepository.formatChannelKey contentType contentId,
          setting.eventText event)) ∧
      ∀ (forms : JsonForms) (shardOf : String → Nat) (manager : SseManager) (channel : Channel),
        forms.ReadBack → setting.eventText = forms.eventText →
        (∀ count ∈ toldCounts last, count < 2 ^ 64) → Watched manager →
        manager.channels (getKey contentType contentId) = some channel →
        ∃ after, serveAll (sseOf forms shardOf) manager
            ((last.state.published.drop world.published.length).map fun message =>
              .payload message.2) = some after ∧
          after.channels (getKey contentType contentId) =
            some { channel with sent := channel.sent ++ sentIn trace } := by
  have permuted := sent_perm_told run done about healthy
  have item : ∀ event ∈ sentIn trace, event.contentType = some contentType ∧
      event.contentId = some contentId ∧ event.count ∈ (toldCounts last).map some := by
    intro event member
    obtain ⟨performed, among, tells⟩ := List.mem_filterMap.mp (permuted.mem_iff.mp member)
    exact (told_by_call run done about healthy among tells).2
  have published : last.state.published = world.published ++ (sentIn trace).map fun event =>
      (RedisLikeRepository.formatChannelKey contentType contentId, setting.eventText event) := by
    rw [published_of_replays run.replays healthy]
    congr 1
    apply List.filterMap_eq_map_iff_forall_eq_some.mpr
    intro event member
    obtain ⟨aboutType, aboutId, _⟩ := item event member
    unfold messageOf RedisLikeRepository.publishLikeEvent
    rw [aboutType, aboutId]
    rfl
  refine ⟨told_in_turn run done about healthy follow, permuted,
    sent_in_turn run done about healthy, published, ?_⟩
  intro forms shardOf manager channel readBack sameText fits watched present
  rw [published, List.drop_left, List.map_map, sameText]
  apply serveAll_payloads watched present
  intro event member
  obtain ⟨aboutType, aboutId, counted⟩ := item event member
  refine ⟨?_, aboutType, aboutId⟩
  apply fromStr_eventText readBack
  intro count there
  obtain ⟨returned, among, same⟩ := List.mem_map.mp counted
  rw [← same] at there
  obtain rfl := Option.some.inj there
  exact fits _ among

/-- A third user likes the post, and the first one takes the like back. -/
def likeAndUnlike : List LikeCall :=
  [.addLike ⟨⟨3⟩, postId, postType⟩, .removeLike ⟨1⟩ postType postId]

theorem likeAndUnlike_about : ∀ call ∈ likeAndUnlike, ∃ change, call.change = some change ∧
    change.key.2 = (postType, postId) := by
  intro call member
  rcases List.mem_pair.mp member with rfl | rfl <;> exact ⟨_, rfl, rfl⟩

/-- One call after the other, and then their publish tasks in the given order. -/
def thenTasks (first second : Nat) : List (Nat × Surroundings) :=
  turns 0 3 6 ++ turns 1 3 6 ++ turns first 3 1 ++ turns second 3 1

/-- The calls have followed each other, and everything has gone well. -/
def allWell {setting : Setting} (trace : List (Event (likeService setting)))
    (last : Pool (likeService setting)) : Bool :=
  last.done? && (trace.all fun event => event.env.fault.isNone) &&
    decide (InTurn (fun i => decide (i < likeAndUnlike.length)) trace)

theorem of_allWell {setting : Setting} {trace : List (Event (likeService setting))}
    {last : Pool (likeService setting)} (well : allWell trace last = true) :
    last.Done ∧ (∀ event ∈ trace, event.env.fault = none) ∧
      InTurn (fun i => decide (i < likeAndUnlike.length)) trace := by
  obtain ⟨both, follow⟩ := Bool.and_eq_true_iff.mp well
  obtain ⟨done, healthy⟩ := Bool.and_eq_true_iff.mp both
  refine ⟨Pool.done_of_done? done, ?_, of_decide_eq_true follow⟩
  intro event member
  exact Option.isNone_iff_eq_none.mp (List.all_eq_true.mp healthy event member)

/-- The tasks run in the order in which they were started. -/
theorem events_in_order_of_tasks :
    ∃ trace last, Run (M := likeService .reference) (Pool.start twoCached likeAndUnlike)
        trace last ∧
      toldCounts last = [3, 2] ∧
      (sentIn trace).map SseLikeEvent.count = (toldCounts last).map some := by
  obtain ⟨trace, last, run, passed⟩ := Run.exists_of_exec (M := likeService .reference)
    (thenTasks 2 3) (Pool.start twoCached likeAndUnlike)
    (fun trace last => allWell trace last && toldCounts last == [3, 2] &&
      decide (InTurn (fun i => decide (likeAndUnlike.length ≤ i)) trace))
    (by decide +kernel)
  obtain ⟨both, inOrder⟩ := Bool.and_eq_true_iff.mp passed
  obtain ⟨well, counts⟩ := Bool.and_eq_true_iff.mp both
  obtain ⟨done, healthy, follow⟩ := of_allWell well
  obtain ⟨told, _, same, _⟩ := events_in_task_order .reference postType postId twoCached
    likeAndUnlike trace last run done likeAndUnlike_about follow healthy
  refine ⟨trace, last, run, eq_of_beq counts, ?_⟩
  rw [same (of_decide_eq_true inOrder), told]

/-- The task of the unlike runs before that of the like: the count that the like returned, 3,
comes last, and the post has 2 likes. -/
theorem events_out_of_order :
    ∃ trace last, Run (M := likeService .reference) (Pool.start twoCached likeAndUnlike)
        trace last ∧
      last.Done ∧ (∀ event ∈ trace, event.env.fault = none) ∧
      InTurn (fun i => decide (i < likeAndUnlike.length)) trace ∧
      toldCounts last = [3, 2] ∧
      (sentIn trace).map SseLikeEvent.count = [some 2, some 3] ∧
      last.state.likes.countOf postType postId = 2 := by
  obtain ⟨trace, last, run, passed⟩ := Run.exists_of_exec (M := likeService .reference)
    (thenTasks 3 2) (Pool.start twoCached likeAndUnlike)
    (fun trace last => allWell trace last && toldCounts last == [3, 2] &&
      (sentIn trace).map SseLikeEvent.count == [some 2, some 3] &&
      last.state.likes.countOf postType postId == 2)
    (by decide +kernel)
  obtain ⟨first, rows⟩ := Bool.and_eq_true_iff.mp passed
  obtain ⟨both, sent⟩ := Bool.and_eq_true_iff.mp first
  obtain ⟨well, counts⟩ := Bool.and_eq_true_iff.mp both
  obtain ⟨done, healthy, follow⟩ := of_allWell well
  exact ⟨trace, last, run, done, healthy, follow, eq_of_beq counts, eq_of_beq sent,
    eq_of_beq rows⟩

end SocialApi
