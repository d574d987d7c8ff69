/-
Module: SocialApi.Proofs.LaggingClient
Purpose: What a client is sent while its receiver is overrun, received from and overrun again.
Trusted boundary: none
Main exports:
  StreamPhase, body_streams, JustLagged, DrainsBegin, Streaming, Resynchronised,
  client_resynchronised_iff
-/
import SocialApi.Api.SseStream
import SocialApi.Process.Phases
import SocialApi.Process.Turns
import SocialApi.Proofs.SseListener

namespace SocialApi

open Process

/-- The channel event that a frame brings. -/
def Frame.channelEvent : Frame → Option SseLikeEvent
  | .live event => some event
  | .resync latestEvent => latestEvent
  | _ => none

/-- The channel events that a client has been sent. -/
def channelEvents (frames : List Frame) : List SseLikeEvent :=
  frames.filterMap Frame.channelEvent

theorem channelEvents_concat (frames : List Frame) (frame : Frame) :
    channelEvents (frames ++ [frame]) = channelEvents frames ++ frame.channelEvent.toList := by
  rw [channelEvents, List.filterMap_append]
  cases found : frame.channelEvent <;> simp [channelEvents, found]

/-! ### A protocol of the loop -/

/-- Where a call is: at the `select!`, about to yield a frame and to go on or not, draining its
receiver, at its end, or sending to the channel. -/
inductive StreamPhase where
  | waiting
  | yielding (frame : Frame) (again : Bool)
  | draining (latestEvent : Option SseLikeEvent)
  | ended
  | listening

namespace StreamPhase

def start : StreamCall → StreamPhase
  | .sseStream => .waiting
  | .drain latestEvent => .draining latestEvent
  | .listener _ => .listening
  | .dropSender => .listening

def advance : StreamPhase → (op : StreamOp) → op.Res → StreamPhase
  | .waiting, .select, .tick now => .yielding (.heartbeat now) true
  | .waiting, .select, .cancelled now => .yielding (.shutdown now) false
  | .waiting, .select, .received (.ok event) => .yielding (.live event) true
  | .waiting, .select, .received (.error (.lagged _)) => .draining none
  | .waiting, .select, .received (.error .closed) => .ended
  | .draining _, .tryRecv, .ok event => .draining (some event)
  | .draining latestEvent, .tryRecv, .error _ => .yielding (.resync latestEvent) true
  | .yielding _ again, .yieldFrame _, _ => if again then .waiting else .ended
  | phase, _, _ => phase

def Permitted : StreamPhase → StreamOp → Prop
  | .waiting, op => op = .select
  | .yielding frame _, op => op = .yieldFrame frame
  | .draining _, op => op = .tryRecv
  | .ended, _ => False
  | .listening, op => (∃ event, op = .txSend event) ∨ op = .dropSender

def Final : StreamPhase → StreamCall ⊕ StreamReply → Prop
  | .waiting, outcome => outcome = .inl .sseStream
  | .draining latestEvent, outcome => outcome = .inl (.drain latestEvent)
  | .yielding _ _, _ => False
  | .ended, outcome => outcome = .inr .ended
  | .listening, outcome => outcome = .inr .listened

/-- The channel event that the client is about to be sent. -/
def pending : StreamPhase → List SseLikeEvent
  | .yielding frame _ => frame.channelEvent.toList
  | .draining latestEvent => latestEvent.toList
  | _ => []

theorem advance_listening (op : StreamOp) (answer : op.Res) :
    StreamPhase.listening.advance op answer = .listening := by
  cases op <;> rfl

end StreamPhase

open StreamPhase

theorem listen_streams (events : List SseLikeEvent) :
    (listen events).Obeys advance Permitted (fun _ _ _ => True)
      (fun phase _ => phase = .listening) .listening := by
  induction events with
  | nil => rfl
  | cons event events inductionHypothesis =>
      exact ⟨.inl ⟨event, rfl⟩, fun _ _ => inductionHypothesis⟩

theorem body_streams (call : StreamCall) :
    call.body.Obeys advance Permitted (fun _ _ _ => True) Final (start call) := by
  cases call with
  | sseStream =>
      refine ⟨rfl, fun selected _ => ?_⟩
      rcases selected with now | now | ((_ | missed) | event)
      · exact ⟨rfl, fun _ _ => rfl⟩
      · exact ⟨rfl, fun _ _ => rfl⟩
      · rfl
      · rfl
      · exact ⟨rfl, fun _ _ => rfl⟩
  | drain latestEvent =>
      refine ⟨rfl, fun msg _ => ?_⟩
      cases msg with
      | ok event => rfl
      | error e => exact ⟨rfl, fun _ _ => rfl⟩
  | listener events =>
      apply (listen_streams events).bind
      rintro _ _ rfl
      rfl
  | dropSender => exact ⟨.inr rfl, fun _ _ => rfl⟩

/-! ### Drains -/

/-- A `recv` that has lagged. -/
def LaggedRecv : (op : StreamOp) → op.Res → Prop
  | .select, .received (.error (.lagged _)) => True
  | _, _ => False

/-- The last step of the thread was a `recv` that lagged. -/
def JustLagged (i : Nat) (trace : List (Event sseStreaming)) : Prop :=
  ∃ event, (stepsOf i trace).getLast? = some event ∧ LaggedRecv event.op event.res

/-- No receiver is overrun again between a `recv` that lags and the first `try_recv` after
it. -/
def DrainsBegin (trace : List (Event sseStreaming)) : Prop :=
  ∀ before event after, trace = before ++ event :: after → event.op = .tryRecv →
    JustLagged event.thread before → ¬ event.before.receiver.Overrun

section Drains

variable {trace : List (Event sseStreaming)} {event : Event sseStreaming}

theorem justLagged_own {i : Nat} (own : event.thread = i) :
    JustLagged i (trace ++ [event]) ↔ LaggedRecv event.op event.res := by
  subst own
  rw [JustLagged, stepsOf_concat_self, List.getLast?_concat]
  simp

theorem justLagged_other {i : Nat} (elsewhere : event.thread ≠ i) :
    JustLagged i (trace ++ [event]) ↔ JustLagged i trace := by
  rw [JustLagged, stepsOf_concat_other trace elsewhere, JustLagged]

theorem drainsBegin_concat :
    DrainsBegin (trace ++ [event]) ↔ DrainsBegin trace ∧
      (event.op = .tryRecv → JustLagged event.thread trace →
        ¬ event.before.receiver.Overrun) := by
  constructor
  · intro begin
    refine ⟨?_, begin trace event [] rfl⟩
    rintro before earlier after rfl
    exact begin before earlier (after ++ [event]) (by simp)
  · rintro ⟨earlier, now⟩ before performed after split
    rcases split_concat split with ⟨rfl, rfl⟩ | ⟨init, split_earlier⟩
    · exact now
    · exact earlier before performed init split_earlier

end Drains

/-! ### What a client follows -/

/-- What is true of a client in a phase of the loop: it follows its channel, and a frame
without an event has been or is about to be yielded exactly when a drain did not begin. -/
structure Streaming (past : List SseLikeEvent) (trace : List (Event sseStreaming))
    (phase : StreamPhase) (stream : ClientStream) : Prop where
  looping : phase ≠ .listening
  follows : KeepsUp past.length (channelEvents stream.frames ++ phase.pending) stream.receiver
  lagged : phase = .draining none ↔ JustLagged 0 trace
  behind : phase = .draining none → stream.receiver.next < stream.receiver.sent.length
  empty : (.resync none ∈ stream.frames ∨ ∃ again, phase = .yielding (.resync none) again) ↔
    ¬ DrainsBegin trace

section Streaming

variable {past : List SseLikeEvent} {trace : List (Event sseStreaming)} {phase : StreamPhase}
  {stream : ClientStream} {event : Event sseStreaming} {after : ClientStream}
  {spawned : List StreamCall}

theorem streaming_start (capacity : Nat) (positive : 0 < capacity) (past : List SseLikeEvent) :
    Streaming past [] .waiting (.subscribe capacity positive past) where
  looping := by rintro ⟨⟩
  follows := keepsUp_start capacity positive past
  lagged := by simp [JustLagged, stepsOf]
  behind := by rintro ⟨⟩
  empty := by simp [ClientStream.subscribe, DrainsBegin]

/-- A step of another call sends to the channel or closes it. -/
theorem Streaming.other (elsewhere : event.thread ≠ 0)
    (permitted : StreamPhase.listening.Permitted event.op)
    (handled : ClientStream.handle event.env event.op event.before =
      some (event.res, after, spawned))
    (streaming : Streaming past trace phase event.before) :
    Streaming past (trace ++ [event]) phase after := by
  obtain ⟨thread, call, env, op, res, before⟩ := event
  have notDrain : op ≠ .tryRecv := by
    rintro rfl
    rcases permitted with ⟨_, is⟩ | is <;> cases is
  have drains : DrainsBegin (trace ++ [⟨thread, call, env, op, res, before⟩]) ↔
      DrainsBegin trace := by
    rw [drainsBegin_concat]
    exact and_iff_left fun drain => absurd drain notDrain
  have same : JustLagged 0 (trace ++ [⟨thread, call, env, op, res, before⟩]) ↔
      JustLagged 0 trace := justLagged_other elsewhere
  rcases permitted with ⟨sent, rfl⟩ | rfl
  · simp only [ClientStream.handle] at handled
    split at handled
    · cases handled
    · cases handled
      refine ⟨streaming.looping, streaming.follows.send sent, ?_, ?_, ?_⟩
      · rw [same]
        exact streaming.lagged
      · intro fresh
        have behind := streaming.behind fresh
        simpa using Nat.lt_succ_of_lt behind
      · rw [drains]
        exact streaming.empty
  · cases handled
    obtain ⟨first_le, ordered, latest⟩ := streaming.follows
    refine ⟨streaming.looping, ⟨first_le, ordered, latest⟩, ?_, streaming.behind, ?_⟩
    · rw [same]
      exact streaming.lagged
    · rw [drains]
      exact streaming.empty

/-- A step of the loop that drains nothing, and does not lag. -/
theorem Streaming.aside {reached : StreamPhase} (own : event.thread = 0)
    (notDrain : event.op ≠ .tryRecv) (inTime : ¬ LaggedRecv event.op event.res)
    (looping : reached ≠ .listening) (notDraining : reached ≠ .draining none)
    (follows : KeepsUp past.length (channelEvents after.frames ++ reached.pending)
      after.receiver)
    (empty : (.resync none ∈ after.frames ∨ ∃ again, reached = .yielding (.resync none) again) ↔
      (.resync none ∈ stream.frames ∨ ∃ again, phase = .yielding (.resync none) again))
    (streaming : Streaming past trace phase stream) :
    Streaming past (trace ++ [event]) reached after where
  looping := looping
  follows := follows
  lagged := by
    rw [justLagged_own own]
    exact iff_of_false notDraining inTime
  behind := fun fresh => absurd fresh notDraining
  empty := by
    rw [empty, streaming.empty, drainsBegin_concat]
    exact not_congr (and_iff_left fun drain => absurd drain notDrain).symm

/-- The step law of `select!`. -/
theorem Streaming.select {env : StreamEnv} {selected : Selected} {call : StreamCall}
    (handled : ClientStream.handle env .select stream = some (selected, after, spawned))
    (streaming : Streaming past trace .waiting stream) :
    Streaming past (trace ++ [⟨0, call, env, .select, selected, stream⟩])
      (StreamPhase.waiting.advance .select selected) after := by
  have unsent : KeepsUp past.length (channelEvents stream.frames) stream.receiver := by
    simpa [pending] using streaming.follows
  have nothing : ∀ {frame : Frame} {again : Bool}, frame ≠ .resync none →
      ((.resync none ∈ stream.frames ∨
          ∃ other, StreamPhase.yielding frame again = .yielding (.resync none) other) ↔
        (.resync none ∈ stream.frames ∨
          ∃ other, StreamPhase.waiting = .yielding (.resync none) other)) := by
    intro frame again differs
    simp [differs]
  have noDrain : ∀ selected : Selected,
      DrainsBegin (trace ++ [⟨0, call, env, .select, selected, stream⟩]) ↔ DrainsBegin trace := by
    intro selected
    rw [drainsBegin_concat]
    exact and_iff_left (by rintro ⟨⟩)
  simp only [ClientStream.handle] at handled
  cases ready : env.branch with
  | heartbeatTick =>
      rw [ready] at handled
      cases handled
      exact streaming.aside rfl (by rintro ⟨⟩) id (by rintro ⟨⟩) (by rintro ⟨⟩)
        streaming.follows (nothing (by rintro ⟨⟩))
  | cancellation =>
      rw [ready] at handled
      cases handled
      exact streaming.aside rfl (by rintro ⟨⟩) id (by rintro ⟨⟩) (by rintro ⟨⟩)
        streaming.follows (nothing (by rintro ⟨⟩))
  | rxRecv =>
      rw [ready] at handled
      obtain ⟨⟨msg, receiver⟩, received, same⟩ := Option.map_eq_some_iff.mp handled
      cases same
      rcases Subscription.recv_cases received with ⟨overrun, ⟨missed, rfl⟩, rfl⟩ |
        ⟨available, rfl, rfl⟩ | ⟨rfl, rfl⟩
      · have kept := overrun.oldest_lt
        refine ⟨by rintro ⟨⟩, ?_, ?_, fun _ => kept, ?_⟩
        · exact streaming.follows.skip (Nat.le_of_lt overrun) kept
        · refine iff_of_true rfl ((justLagged_own ?_).mpr ?_)
          · rfl
          · trivial
        · rw [noDrain, ← streaming.empty]
          simp [advance]
      · exact streaming.aside rfl (by rintro ⟨⟩) id (by rintro ⟨⟩) (by rintro ⟨⟩)
          (unsent.received (List.Sublist.refl _) available) (nothing (by rintro ⟨⟩))
      · refine streaming.aside rfl (by rintro ⟨⟩) id (by rintro ⟨⟩) (by rintro ⟨⟩)
          streaming.follows ?_
        simp [advance]

/-- The step law of `try_recv`. -/
theorem Streaming.tryRecv {latestEvent : Option SseLikeEvent} {env : StreamEnv}
    {msg : Except TryRecvError SseLikeEvent} {call : StreamCall}
    (handled : ClientStream.handle env .tryRecv stream = some (msg, after, spawned))
    (streaming : Streaming past trace (.draining latestEvent) stream) :
    Streaming past (trace ++ [⟨0, call, env, .tryRecv, msg, stream⟩])
      ((StreamPhase.draining latestEvent).advance .tryRecv msg) after := by
  have fresh : latestEvent = none ↔ JustLagged 0 trace := by
    rw [← streaming.lagged, StreamPhase.draining.injEq]
  have frames : .resync none ∈ stream.frames ↔ ¬ DrainsBegin trace := by
    rw [← streaming.empty]
    simp
  have received : ¬ JustLagged 0 (trace ++ [⟨0, call, env, .tryRecv, msg, stream⟩]) := by
    rw [justLagged_own]
    · exact id
    · rfl
  have drains : DrainsBegin (trace ++ [⟨0, call, env, .tryRecv, msg, stream⟩]) ↔
      DrainsBegin trace ∧ (latestEvent = none → ¬ stream.receiver.Overrun) := by
    rw [drainsBegin_concat, fresh]
    exact and_congr_right fun _ => ⟨fun now => now rfl, fun now _ => now⟩
  simp only [ClientStream.handle] at handled
  rcases stream.receiver.tryRecv_cases with ⟨overrun, missed, answer⟩ |
    ⟨inTime, available, answer⟩ | ⟨drained, e, answer⟩
  · simp only [answer] at handled
    cases handled
    refine ⟨by rintro ⟨⟩, ?_, iff_of_false (by rintro ⟨⟩) received, by rintro ⟨⟩, ?_⟩
    · exact streaming.follows.skip (Nat.le_of_lt overrun) overrun.oldest_lt
    · rw [drains]
      simp [advance, frames, overrun, imp_iff_not_or]
  · simp only [answer] at handled
    cases handled
    refine ⟨by rintro ⟨⟩, ?_, iff_of_false (by rintro ⟨⟩) received, by rintro ⟨⟩, ?_⟩
    · exact streaming.follows.received (List.sublist_append_left _ _) available
    · rw [drains]
      simp [advance, frames, inTime]
  · simp only [answer] at handled
    cases handled
    -- a drain that begins finds a message
    have begun : latestEvent ≠ none := by
      rintro rfl
      exact absurd drained (streaming.behind rfl).ne
    refine ⟨by rintro ⟨⟩, streaming.follows, iff_of_false (by rintro ⟨⟩) received,
      by rintro ⟨⟩, ?_⟩
    rw [drains]
    simp [advance, frames, begun]

/-- The step law of `yield`. -/
theorem Streaming.yieldFrame {frame : Frame} {again : Bool} {env : StreamEnv} {answer : Unit}
    {call : StreamCall}
    (handled : ClientStream.handle env (.yieldFrame frame) stream =
      some (answer, after, spawned))
    (streaming : Streaming past trace (.yielding frame again) stream) :
    Streaming past (trace ++ [⟨0, call, env, .yieldFrame frame, answer, stream⟩])
      ((StreamPhase.yielding frame again).advance (.yieldFrame frame) answer) after := by
  cases handled
  have follows : KeepsUp past.length (channelEvents (stream.frames ++ [frame]) ++ [])
      stream.receiver := by
    rw [channelEvents_concat, List.append_nil]
    exact streaming.follows
  have empty : ∀ {reached : StreamPhase}, (∀ frame again, reached ≠ .yielding frame again) →
      ((.resync none ∈ stream.frames ++ [frame] ∨
          ∃ other, reached = .yielding (.resync none) other) ↔
        (.resync none ∈ stream.frames ∨
          ∃ other, StreamPhase.yielding frame again = .yielding (.resync none) other)) := by
    intro reached done
    simp [done, eq_comm]
  cases again with
  | true =>
      exact streaming.aside rfl (by rintro ⟨⟩) id (by rintro ⟨⟩) (by rintro ⟨⟩) follows
        (empty (by rintro _ _ ⟨⟩))
  | false =>
      exact streaming.aside rfl (by rintro ⟨⟩) id (by rintro ⟨⟩) (by rintro ⟨⟩) follows
        (empty (by rintro _ _ ⟨⟩))

end Streaming

/-! ### Runs -/

/-- A call that sends to the channel or drops its sender. -/
def StreamCall.Listens : StreamCall → Prop
  | .listener _ | .dropSender => True
  | _ => False

/-- The client waits at its `select!`. -/
def Waiting (last : Pool sseStreaming) : Prop :=
  ∃ call, last.threads[0]? = some ⟨call, StreamCall.body .sseStream⟩

/-- Every frame is the JSON of an event, the client is sent each channel event at most once and
in the order of the channel, and when it waits with nothing left to receive the last one it has
been sent is the last one of the channel. -/
structure Resynchronised (forms : JsonForms) (past : List SseLikeEvent)
    (last : Pool sseStreaming) : Prop where
  json : ∀ frame ∈ last.state.frames, ∃ event, (frame.sse forms).data = forms.eventText event
  ordered : (channelEvents last.state.frames).Sublist
    (last.state.receiver.sent.drop past.length)
  latest : Waiting last → last.state.receiver.Drained →
    (channelEvents last.state.frames).getLast? =
      (last.state.receiver.sent.drop past.length).getLast?

section Runs

variable {capacity : Nat} {positive : 0 < capacity} {past : List SseLikeEvent}
  {others : List StreamCall} {trace : List (Event sseStreaming)} {last : Pool sseStreaming}

theorem ClientStream.handle_spawned {env : StreamEnv} {op : StreamOp} {stream : ClientStream}
    {answer : op.Res} {after : ClientStream} {spawned : List StreamCall}
    (handled : ClientStream.handle env op stream = some (answer, after, spawned)) :
    spawned = [] := by
  cases op with
  | select =>
      simp only [ClientStream.handle] at handled
      split at handled
      · cases handled; rfl
      · cases handled; rfl
      · obtain ⟨_, _, same⟩ := Option.map_eq_some_iff.mp handled
        cases same; rfl
  | txSend event =>
      simp only [ClientStream.handle] at handled
      split at handled
      · cases handled
      · cases handled; rfl
  | _ => cases handled; rfl

/-- The step law of the client. -/
theorem Streaming.own {phase : StreamPhase} {event : Event sseStreaming} {after : ClientStream}
    {spawned : List StreamCall} (own : event.thread = 0) (permitted : phase.Permitted event.op)
    (handled : ClientStream.handle event.env event.op event.before =
      some (event.res, after, spawned))
    (streaming : Streaming past trace phase event.before) :
    Streaming past (trace ++ [event]) (phase.advance event.op event.res) after := by
  obtain ⟨_, call, env, op, answer, stream⟩ := event
  obtain rfl := own
  cases phase with
  | waiting =>
      obtain rfl := permitted
      exact streaming.select handled
  | yielding frame again =>
      obtain rfl := permitted
      exact streaming.yieldFrame handled
  | draining latestEvent =>
      obtain rfl := permitted
      exact streaming.tryRecv handled
  | ended => exact permitted.elim
  | listening => exact absurd rfl streaming.looping

/-- The phase of the client after a run. -/
theorem streaming_of_run (listens : ∀ call ∈ others, call.Listens)
    (run : Run (M := sseStreaming) (Pool.start (.subscribe capacity positive past)
      (.sseStream :: others)) trace last) :
    ∃ phase, Streaming past trace phase last.state ∧
      ∀ thread, last.threads[0]? = some thread →
        thread.rest.Obeys advance Permitted (fun _ _ _ => True) Final phase := by
  obtain ⟨phases, phased, _, phase, at_zero, streaming, _⟩ := Run.phases
    (fun trace phases stream => ∃ phase, phases[0]? = some phase ∧
      Streaming past trace phase stream ∧
      ∀ (j : Nat) (other : StreamPhase), j ≠ 0 → phases[j]? = some other → other = .listening)
    (fun call (_ : True) => body_streams call)
    (by
      intro phase target final
      refine ⟨trivial, ?_⟩
      cases phase with
      | waiting => cases final; rfl
      | draining latestEvent => cases final; rfl
      | yielding frame again => exact final.elim
      | ended => cases final
      | listening => cases final)
    (fun call _ => trivial) run
    (by
      refine ⟨.waiting, rfl, streaming_start capacity positive past, ?_⟩
      intro j other notZero at_j
      obtain ⟨j, rfl⟩ := Nat.exists_eq_succ_of_ne_zero notZero
      rw [List.map_cons, List.getElem?_cons_succ, List.getElem?_map] at at_j
      obtain ⟨call, at_call, rfl⟩ := Option.map_eq_some_iff.mp at_j
      have sends := listens call (List.mem_of_getElem? at_call)
      cases call with
      | listener events => rfl
      | dropSender => rfl
      | _ => exact sends.elim)
    (by
      intro before event after phases phase next spawned split known led at_phase permitted
        handled kept
      obtain ⟨current, at_zero, streaming, listening⟩ := kept
      refine ⟨ClientStream.handle_spawned handled, trivial, ?_⟩
      have bound := (List.getElem?_eq_some_iff.mp at_zero).1
      by_cases own : event.thread = 0
      · obtain rfl : phase = current := Option.some.inj (by rw [← at_phase, own, at_zero])
        refine ⟨_, ?_, streaming.own own permitted handled, ?_⟩
        · rw [own, List.getElem?_set_self bound]
        · intro j other notZero at_j
          rw [own, List.getElem?_set_ne (Ne.symm notZero)] at at_j
          exact listening j other notZero at_j
      · obtain rfl := listening _ phase own at_phase
        refine ⟨current, ?_, streaming.other own permitted handled, ?_⟩
        · rw [List.getElem?_set_ne own, at_zero]
        · intro j other notZero at_j
          rcases phase_of_set at_j with ⟨_, rfl⟩ | ⟨_, at_j⟩
          · exact advance_listening _ _
          · exact listening j other notZero at_j)
  exact ⟨phase, streaming, fun thread at_thread => phased.obeys 0 thread phase at_thread at_zero⟩

/-- For every interleaving of the loop with what the listeners send, from a subscription on, the
client is resynchronised in every state exactly when its receiver is never overrun again between
a `recv` that lags and the first `try_recv` after it. -/
theorem client_resynchronised_iff (forms : JsonForms)
    (nullApart : ∀ event, forms.optionText none ≠ forms.eventText event) (capacity : Nat)
    (positive : 0 < capacity) (past : List SseLikeEvent) (others : List StreamCall)
    (listens : ∀ call ∈ others, call.Listens) (trace : List (Event sseStreaming))
    (last : Pool sseStreaming)
    (run : Run (M := sseStreaming) (Pool.start (.subscribe capacity positive past)
      (.sseStream :: others)) trace last) :
    (DrainsBegin trace → Resynchronised forms past last) ∧
      (Waiting last → Resynchronised forms past last → DrainsBegin trace) := by
  obtain ⟨phase, streaming, rest⟩ := streaming_of_run listens run
  have waiting : Waiting last → phase = .waiting := by
    rintro ⟨call, at_zero⟩
    have permitted := (rest _ at_zero).1
    cases phase with
    | waiting => rfl
    | listening => rcases permitted with ⟨_, is⟩ | is <;> cases is
    | ended => exact permitted.elim
    | _ => cases permitted
  constructor
  · intro begin
    constructor
    · intro frame member
      cases frame with
      | heartbeat now => exact ⟨_, rfl⟩
      | shutdown now => exact ⟨_, rfl⟩
      | live event => exact ⟨_, rfl⟩
      | resync latestEvent =>
          cases latestEvent with
          | some event => exact ⟨event, rfl⟩
          | none => exact absurd begin (streaming.empty.mp (.inl member))
    · have sent : (channelEvents last.state.frames).Sublist _ :=
        (List.sublist_append_left _ _).trans streaming.follows.ordered
      exact sent.trans ((List.take_sublist _ _).drop _)
    · intro idle drained
      have latest := streaming.follows.latest drained
      have sentAll : StreamPhase.waiting.pending = [] := rfl
      rw [waiting idle, sentAll, List.append_nil] at latest
      exact latest
  · intro idle resynchronised
    by_contra overrun
    rcases streaming.empty.mpr overrun with member | ⟨again, yields⟩
    · obtain ⟨event, same⟩ := resynchronised.json _ member
      exact nullApart event same
    · rw [waiting idle] at yields
      cases yields

end Runs

/-! ### An overrun drain -/

/-- Text forms that write `null` as serde_json does. -/
def JsonForms.withNull (forms : JsonForms) : JsonForms :=
  { forms with
    toText := fun value => match value with
      | .null => "null"
      | value => forms.toText value }

theorem JsonForms.showing_nullApart (shown event : SseLikeEvent) :
    (showing shown).withNull.optionText none ≠ (showing shown).withNull.eventText event := by
  intro same
  have texts : "null" = (showing shown).toText (toValue unaryInstant event) := same
  have head : ((showing shown).toText (toValue unaryInstant event)).toList.head? = some 'n' := by
    rw [← texts]
    decide
  have written : ∃ other, toValue unaryInstant other = toValue unaryInstant event := ⟨event, rfl⟩
  by_cases alike : toValue unaryInstant event = toValue unaryInstant shown
  · simp only [showing, if_pos alike, plainJson_head] at head
    exact absurd head (by decide)
  · simp only [showing, if_neg alike, dif_pos written, JsonText.reference, String.toList_ofList,
      List.head?_replicate] at head
    split at head <;> simp at head

/-- A thread takes its next steps, and a client that waits receives. -/
def streamTurns (thread steps : Nat) : List (Nat × StreamEnv) :=
  List.replicate steps (thread, ⟨.rxRecv, 0⟩)

/-- Calls of the examples: a client, and a listener that sends the same like again and again. -/
def likesSent (n : Nat) : List StreamCall :=
  [.sseStream, .listener (List.replicate n likeOfPost)]

/-- The step is no `try_recv` of an overrun receiver. -/
def drainsInTime (_ : List (Event sseStreaming)) (event : Event sseStreaming) : Bool :=
  match event.op with
  | .tryRecv => !decide event.before.receiver.Overrun
  | _ => true

theorem DrainsBegin.of_check {trace : List (Event sseStreaming)}
    (checked : checkSteps drainsInTime [] trace = true) : DrainsBegin trace := by
  intro before event after split drains _
  have inTime := of_checkSteps checked before event after split
  unfold drainsInTime at inTime
  rw [drains] at inTime
  simpa using inTime

/-- Three likes go to a ring of two: the client lags, is moved on, and is sent the last one. -/
theorem client_resynchronised_after_lag :
    ∃ trace last, Run (M := sseStreaming)
        (Pool.start (.subscribe 2 (by decide) []) (likesSent 3)) trace last ∧
      last.state.frames.length = 1 ∧
      Resynchronised (JsonForms.showing likeOfPost).withNull [] last := by
  obtain ⟨trace, last, run, passed⟩ := Run.exists_of_exec (M := sseStreaming)
    (streamTurns 1 3 ++ streamTurns 0 8)
    (Pool.start (.subscribe 2 (by decide) []) (likesSent 3))
    (fun trace last => checkSteps drainsInTime [] trace && last.state.frames.length == 1)
    (by decide +kernel)
  obtain ⟨inTime, sent⟩ := Bool.and_eq_true_iff.mp passed
  refine ⟨trace, last, run, eq_of_beq sent, ?_⟩
  apply (client_resynchronised_iff _ (JsonForms.showing_nullApart likeOfPost) 2 _ [] _ _ trace
    last run).1 (.of_check inTime)
  intro call member
  obtain rfl := List.mem_singleton.mp member
  trivial

/-- The frame of a drain that received nothing. -/
def Frame.isEmpty : Frame → Bool
  | .resync none => true
  | _ => false

/-- One like more than the ring holds makes the client lag, and another one comes before its
first `try_recv`: the client is sent `null`. -/
theorem client_sent_null :
    ∃ trace last, Run (M := sseStreaming)
        (Pool.start (.subscribe 128 (by decide) []) (likesSent 130)) trace last ∧
      (∃ frame ∈ last.state.frames,
        (frame.sse (JsonForms.showing likeOfPost).withNull).data = "null") ∧
      ¬ Resynchronised (JsonForms.showing likeOfPost).withNull [] last := by
  obtain ⟨trace, last, run, passed⟩ := Run.exists_of_exec (M := sseStreaming)
    (streamTurns 1 129 ++ streamTurns 0 2 ++ streamTurns 1 1 ++ streamTurns 0 2)
    (Pool.start (.subscribe 128 (by decide) []) (likesSent 130))
    (fun _ last => last.state.frames.any Frame.isEmpty)
    (by decide +kernel)
  obtain ⟨frame, member, empty⟩ := List.any_eq_true.mp passed
  obtain rfl : frame = .resync none := by
    unfold Frame.isEmpty at empty
    split at empty
    · rfl
    · cases empty
  refine ⟨trace, last, run, ⟨_, member, rfl⟩, ?_⟩
  intro resynchronised
  obtain ⟨event, same⟩ := resynchronised.json _ member
  exact JsonForms.showing_nullApart likeOfPost event same

end SocialApi
