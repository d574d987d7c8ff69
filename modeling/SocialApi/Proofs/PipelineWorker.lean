/-
Module: SocialApi.Proofs.PipelineWorker
Purpose: A protocol of the calls of the event pipeline, and what each step of the worker keeps of
  what the clients have been sent.
Trusted boundary: none
Main exports:
  WorkerPhase, PipelinePhase, pipeline_obeys, keepsUp_step, InStep.step, Fed, Complete, Passes,
  FeedStep, removing_waits, worker_step
-/
import SocialApi.Application.EventPipeline
import SocialApi.Proofs.LaggingClient

namespace SocialApi

open Process

/-! ### A protocol of the worker -/

/-- The channel key and the event that a payload is read as. -/
def SseSetting.reads (setting : SseSetting) (payload : String) : Option (String × SseLikeEvent) :=
  (setting.fromStr payload).bind fun event =>
    (SseManager.address event).map fun key => (key, event)

/-- Where the worker is: between messages, about to look the channel of an event up, or, with a
`Ref` of the channel, about to send, to count the receivers, to remove it or to let it go. -/
inductive WorkerPhase where
  | resting
  | taken (key : String) (event : SseLikeEvent)
  | sending (key : String) (event : SseLikeEvent)
  | counting (key : String)
  | removing (key : String)
  | releasing (key : String)

namespace WorkerPhase

def advance (setting : SseSetting) : WorkerPhase → (op : PipelineOp) → op.Res → WorkerPhase
  | .resting, .streamNext, .message payload => match setting.reads payload with
      | some (key, event) => .taken key event
      | none => .resting
  | .taken key event, .channels (.channelsGet _), found =>
      if found then .sending key event else .resting
  | .sending key _, .channels (.txSend _ _), failed =>
      if failed then .counting key else .releasing key
  | .counting key, .channels (.txReceiverCount _), count =>
      if count = 0 then .removing key else .releasing key
  | .removing key, .channels (.channelsRemove _), _ => .releasing key
  | .releasing _, .channels (.dropRef _), _ => .resting
  | phase, _, _ => phase

def Permitted : WorkerPhase → PipelineOp → Prop
  | .resting, op => op = .isCancelled ∨ op = .getAsyncPubsubStream ∨ op = .streamNext ∨
      op = .sleepOrCancelled
  | .taken key _, op => op = .channels (.channelsGet key)
  | .sending key event, op => op = .channels (.txSend key event)
  | .counting key, op => op = .channels (.txReceiverCount key)
  | .removing key, op => op = .channels (.channelsRemove key)
  | .releasing key, op => op = .channels (.dropRef key)

/-- The channel that the worker has a `Ref` of. -/
def ref : WorkerPhase → Option String
  | .sending key _ | .counting key | .removing key | .releasing key => some key
  | _ => none

/-- The event that has been taken and is still to be sent. -/
def holds : WorkerPhase → Option (String × SseLikeEvent)
  | .taken key event | .sending key event => some (key, event)
  | _ => none

theorem holds_nothing {phase : WorkerPhase} {P : String × SseLikeEvent → Prop}
    (nothing : phase.holds = none) (read : String × SseLikeEvent)
    (held : phase.holds = some read) : P read := by
  rw [nothing] at held
  cases held

end WorkerPhase

/-- Where a call is: the worker, a client before and after it has subscribed, or a call that
publishes, disconnects or shuts down. -/
inductive PipelinePhase where
  | worker (phase : WorkerPhase)
  | entering (key : String)
  | streaming (index : Nat) (phase : StreamPhase)
  | outside

namespace PipelinePhase

def start : PipelineCall → PipelinePhase
  | .runCacheEventListener | .processStream => .worker .resting
  | .sseStream contentType contentId => .entering (SseManager.getKey contentType contentId)
  | .streaming index call => .streaming index (StreamPhase.start call)
  | _ => .outside

def advance (setting : SseSetting) : PipelinePhase → (op : PipelineOp) → op.Res → PipelinePhase
  | .worker phase, op, answer => .worker (phase.advance setting op answer)
  | .entering _, .subscribe _, index => .streaming index .waiting
  | .streaming index phase, .client _ op, answer => .streaming index (phase.advance op answer)
  | phase, _, _ => phase

def Permitted : PipelinePhase → PipelineOp → Prop
  | .worker phase, op => phase.Permitted op
  | .entering key, op => op = .subscribe key
  | .streaming index phase, op =>
      (∃ streamOp, op = .client index streamOp ∧ phase.Permitted streamOp) ∨
        op = .dropReceiver index
  | .outside, op => (∃ channel payload, op = .publish channel payload) ∨ op = .cancel ∨
      ∃ index, op = .dropReceiver index

def Final : PipelinePhase → PipelineCall ⊕ Unit → Prop
  | .worker phase, outcome => phase = .resting ∧
      (outcome = .inl .runCacheEventListener ∨ outcome = .inl .processStream ∨ outcome = .inr ())
  | .entering _, _ => False
  | .streaming index phase, outcome => outcome = .inr () ∨
      ∃ call, outcome = .inl (.streaming index call) ∧ ¬ call.Listens ∧
        phase = StreamPhase.start call
  | .outside, outcome => outcome = .inr ()

/-- A call that an execution of the program can come to. -/
def Among : PipelineCall → Prop
  | .streaming _ call => ¬ call.Listens
  | _ => True

/-- Only the stream of a client takes its steps. -/
theorem permitted_client {phase : PipelinePhase} {index : Nat} {op : StreamOp}
    (permitted : phase.Permitted (.client index op)) :
    ∃ stream, phase = .streaming index stream ∧ stream.Permitted op := by
  cases phase with
  | worker worker =>
      cases worker with
      | resting => rcases permitted with is | is | is | is <;> cases is
      | _ => cases permitted
  | entering key => cases permitted
  | streaming other stream =>
      rcases permitted with ⟨own, is, permits⟩ | is
      · cases is
        exact ⟨stream, rfl, permits⟩
      · cases is
  | outside => rcases permitted with ⟨_, _, is⟩ | is | ⟨_, is⟩ <;> cases is

/-- Only the worker works on the channels. -/
theorem permitted_channels {phase : PipelinePhase} {op : SseOp}
    (permitted : phase.Permitted (.channels op)) :
    ∃ worker, phase = .worker worker ∧ worker.Permitted (.channels op) := by
  cases phase with
  | worker worker => exact ⟨worker, rfl, permitted⟩
  | entering key => cases permitted
  | streaming index stream => rcases permitted with ⟨_, is, _⟩ | is <;> cases is
  | outside => rcases permitted with ⟨_, _, is⟩ | is | ⟨_, is⟩ <;> cases is

end PipelinePhase

/-- Only a stream that waits selects. -/
theorem StreamPhase.permitted_select {phase : StreamPhase} (permitted : phase.Permitted .select) :
    phase = .waiting := by
  cases phase with
  | waiting => rfl
  | listening => rcases permitted with ⟨_, is⟩ | is <;> cases is
  | ended => exact permitted.elim
  | _ => cases permitted

theorem StreamPhase.advance_ne_listening {phase : StreamPhase} (looping : phase ≠ .listening)
    (op : StreamOp) (answer : op.Res) : phase.advance op answer ≠ .listening := by
  unfold StreamPhase.advance
  split
  case h_8 =>
    split <;>
    · intro absurd
      cases absurd
  case h_9 => exact looping
  all_goals
    intro absurd
    cases absurd

section Protocol

open PipelinePhase

variable (setting : PipelineSetting)

/-- The program keeps the protocol, and ends as stated. -/
abbrev PipelineProgram.Keeps {α : Type} (final : PipelinePhase → α → Prop)
    (program : PipelineProgram α) (phase : PipelinePhase) : Prop :=
  program.Obeys (PipelinePhase.advance setting.sse) PipelinePhase.Permitted (fun _ _ _ => True)
    final phase

theorem sleepAndRetry_keeps :
    PipelineProgram.Keeps setting Final sleepAndRetry (.worker .resting) := by
  refine ⟨.inr (.inr (.inr rfl)), fun cancelled _ => ?_⟩
  cases cancelled with
  | true => exact ⟨rfl, .inr (.inr rfl)⟩
  | false => exact ⟨rfl, .inl rfl⟩

/-- A payload is read, and its event is sent to its channel under a `Ref`. -/
theorem handleIncomingPayload_keeps {payload : String} {phase : WorkerPhase}
    (reads : phase = match setting.sse.reads payload with
      | some (key, event) => .taken key event
      | none => .resting) :
    PipelineProgram.Keeps setting (fun reached _ => reached = .worker .resting)
      ((SseManager.handleIncomingPayload setting.sse payload).implement fun op =>
        (PipelineOp.channels op).take) (.worker phase) := by
  unfold SseSetting.reads at reads
  unfold SseManager.handleIncomingPayload
  cases read : setting.sse.fromStr payload with
  | none =>
      rw [read] at reads
      obtain rfl := reads
      rfl
  | some event =>
  rw [read, Option.bind_some] at reads
  dsimp only
  cases addressed : SseManager.address event with
  | none =>
      rw [addressed] at reads
      obtain rfl := reads
      rfl
  | some key =>
  rw [addressed] at reads
  obtain rfl := reads
  refine ⟨rfl, fun found _ => ?_⟩
  cases found with
  | false => rfl
  | true =>
  refine ⟨rfl, fun failed _ => ?_⟩
  cases failed with
  | false => exact ⟨rfl, fun _ _ => rfl⟩
  | true =>
  refine ⟨rfl, fun count _ => ?_⟩
  cases count with
  | zero => exact ⟨rfl, fun _ _ => ⟨rfl, fun _ _ => rfl⟩⟩
  | succ more => exact ⟨rfl, fun _ _ => rfl⟩

theorem processStream_keeps :
    PipelineProgram.Keeps setting Final (processStream setting) (.worker .resting) := by
  refine ⟨.inr (.inr (.inl rfl)), fun streamed _ => ?_⟩
  cases streamed with
  | cancelled => exact ⟨rfl, .inr (.inr rfl)⟩
  | ended => exact sleepAndRetry_keeps setting
  | message payload =>
      apply (handleIncomingPayload_keeps setting rfl).bind
      rintro _ _ rfl
      exact ⟨rfl, .inr (.inl rfl)⟩

theorem streaming_keeps (index : Nat) {call : StreamCall} (streams : ¬ call.Listens) :
    PipelineProgram.Keeps setting Final ((PipelineCall.streaming index call).body setting)
      (.streaming index (StreamPhase.start call)) := by
  have looping : StreamPhase.start call ≠ .listening := by
    cases call with
    | sseStream => exact StreamPhase.noConfusion
    | drain latestEvent => exact StreamPhase.noConfusion
    | _ => exact absurd trivial streams
  refine Program.Obeys.bind (Program.Obeys.implement
    (fun (reached : PipelinePhase) phase =>
      reached = .streaming index phase ∧ phase ≠ .listening)
    (body_streams call) ⟨rfl, looping⟩ ?_) ?_
  · rintro _ phase op ⟨rfl, loops⟩ permits
    refine ⟨.inl ⟨op, rfl, permits⟩, fun answer _ => ⟨trivial, rfl, ?_⟩⟩
    exact StreamPhase.advance_ne_listening loops op answer
  · rintro _ outcome ⟨phase, ⟨rfl, loops⟩, ended⟩
    cases phase with
    | waiting =>
        obtain rfl := ended
        exact .inr ⟨.sseStream, rfl, id, rfl⟩
    | draining latestEvent =>
        obtain rfl := ended
        exact .inr ⟨.drain latestEvent, rfl, id, rfl⟩
    | yielding frame again => exact ended.elim
    | ended =>
        obtain rfl := ended
        exact ⟨.inr rfl, fun _ _ => .inl rfl⟩
    | listening => exact absurd rfl loops

/-- Every call keeps the protocol. -/
theorem pipeline_obeys (call : PipelineCall) (among : Among call) :
    PipelineProgram.Keeps setting Final (call.body setting) (start call) := by
  cases call with
  | runCacheEventListener =>
      refine ⟨.inl rfl, fun cancelled _ => ?_⟩
      cases cancelled with
      | true => exact ⟨rfl, .inr (.inr rfl)⟩
      | false =>
          refine ⟨.inr (.inl rfl), fun connected _ => ?_⟩
          cases connected with
          | ok _ => exact ⟨rfl, .inr (.inl rfl)⟩
          | error e => exact sleepAndRetry_keeps setting
  | processStream => exact processStream_keeps setting
  | sseStream contentType contentId =>
      exact ⟨rfl, fun index _ => .inr ⟨.sseStream, rfl, id, rfl⟩⟩
  | streaming index call => exact streaming_keeps setting index among
  | disconnect index => exact ⟨.inr (.inr ⟨index, rfl⟩), fun _ _ => rfl⟩
  | publishLikeEvent event =>
      simp only [PipelineCall.body]
      cases RedisLikeRepository.publishLikeEvent setting.eventText none event with
      | error e => rfl
      | ok message => exact ⟨.inl ⟨_, _, rfl⟩, fun _ _ => rfl⟩
  | publishElsewhere channel payload => exact ⟨.inl ⟨_, _, rfl⟩, fun _ _ => rfl⟩
  | shutdown => exact ⟨.inr (.inl rfl), fun _ _ => rfl⟩

/-- A tail call goes on in the phase it was made in. -/
theorem pipeline_tails (phase : PipelinePhase) (target : PipelineCall)
    (ended : Final phase (.inl target)) : Among target ∧ phase = start target := by
  cases phase with
  | worker phase =>
      obtain ⟨rfl, rfl | rfl | absurd⟩ := by simpa [Final] using ended
      · exact ⟨trivial, rfl⟩
      · exact ⟨trivial, rfl⟩
  | entering key => exact ended.elim
  | streaming index phase =>
      obtain ⟨call, rfl, streams, rfl⟩ := by simpa [Final] using ended
      exact ⟨streams, rfl⟩
  | outside => cases ended

end Protocol

/-! ### What a client follows -/

section Stream

variable {first : Nat} {phase : StreamPhase} {env : StreamEnv} {op : StreamOp}
  {answer : op.Res} {stream after : ClientStream} {spawned : List StreamCall}

/-- The loop of a stream leaves what has been sent to it alone. -/
theorem ClientStream.handle_sent (looping : phase ≠ .listening) (permitted : phase.Permitted op)
    (handled : ClientStream.handle env op stream = some (answer, after, spawned)) :
    after.receiver.sent = stream.receiver.sent := by
  cases op with
  | select =>
      simp only [ClientStream.handle] at handled
      split at handled
      · cases handled
        rfl
      · cases handled
        rfl
      · obtain ⟨⟨msg, receiver⟩, received, same⟩ := Option.map_eq_some_iff.mp handled
        cases same
        rcases Subscription.recv_cases received with ⟨_, _, rfl⟩ | ⟨_, _, rfl⟩ | ⟨_, rfl⟩ <;> rfl
  | tryRecv =>
      simp only [ClientStream.handle] at handled
      rcases stream.receiver.tryRecv_cases with ⟨_, _, same⟩ | ⟨_, _, same⟩ | ⟨_, _, same⟩ <;>
      · rw [same] at handled
        cases handled
        rfl
  | yieldFrame frame =>
      cases handled
      rfl
  | _ => cases phase <;> first | exact absurd rfl looping | cases permitted

/-- The loop of a stream follows its channel. -/
theorem keepsUp_step (looping : phase ≠ .listening) (permitted : phase.Permitted op)
    (handled : ClientStream.handle env op stream = some (answer, after, spawned))
    (follows : KeepsUp first (channelEvents stream.frames ++ phase.pending) stream.receiver) :
    KeepsUp first (channelEvents after.frames ++ (phase.advance op answer).pending)
      after.receiver := by
  cases phase with
  | listening => exact absurd rfl looping
  | ended => exact permitted.elim
  | waiting =>
      obtain rfl := permitted
      have seen : KeepsUp first (channelEvents stream.frames) stream.receiver := by
        simpa [StreamPhase.pending] using follows
      simp only [ClientStream.handle] at handled
      split at handled
      · cases handled
        exact follows
      · cases handled
        exact follows
      · obtain ⟨⟨msg, receiver⟩, received, same⟩ := Option.map_eq_some_iff.mp handled
        cases same
        rcases Subscription.recv_cases received with ⟨overrun, ⟨missed, rfl⟩, rfl⟩ |
          ⟨available, rfl, rfl⟩ | ⟨rfl, rfl⟩
        · exact follows.skip (Nat.le_of_lt overrun) overrun.oldest_lt
        · exact seen.received (List.Sublist.refl _) available
        · exact follows
  | draining latestEvent =>
      obtain rfl := permitted
      simp only [ClientStream.handle] at handled
      rcases stream.receiver.tryRecv_cases with ⟨overrun, missed, same⟩ | ⟨_, available, same⟩ |
        ⟨_, e, same⟩
      · rw [same] at handled
        cases handled
        exact follows.skip (Nat.le_of_lt overrun) overrun.oldest_lt
      · rw [same] at handled
        cases handled
        exact follows.received (List.sublist_append_left _ _) available
      · rw [same] at handled
        cases handled
        exact follows
  | yielding frame again =>
      obtain rfl := permitted
      cases handled
      rw [channelEvents_concat]
      cases again <;> simpa [StreamPhase.advance, StreamPhase.pending] using follows

/-- A `recv` that has lagged. -/
def lags : (op : StreamOp) → op.Res → Bool
  | .select, .received (.error (.lagged _)) => true
  | _, _ => false

/-- The client has lagged, and receives what is left. -/
def StreamPhase.Drains : StreamPhase → Prop
  | .draining _ => True
  | _ => False

/-- The client has been sent every event up to the one it receives next, and drains nothing. -/
structure InStep (first : Nat) (phase : StreamPhase) (stream : ClientStream) : Prop where
  passed : channelEvents stream.frames ++ phase.pending =
    (stream.receiver.sent.take stream.receiver.next).drop first
  awake : ¬ phase.Drains

/-- A stream that does not lag passes on everything. -/
theorem InStep.step (looping : phase ≠ .listening) (permitted : phase.Permitted op)
    (handled : ClientStream.handle env op stream = some (answer, after, spawned))
    (onward : first ≤ stream.receiver.next) (inTime : lags op answer = false)
    (inStep : InStep first phase stream) :
    InStep first (phase.advance op answer) after := by
  obtain ⟨passed, awake⟩ := inStep
  cases phase with
  | listening => exact absurd rfl looping
  | ended => exact permitted.elim
  | draining latestEvent => exact absurd trivial awake
  | waiting =>
      obtain rfl := permitted
      simp only [ClientStream.handle] at handled
      split at handled
      · cases handled
        exact ⟨passed, id⟩
      · cases handled
        exact ⟨passed, id⟩
      · obtain ⟨⟨msg, receiver⟩, received, same⟩ := Option.map_eq_some_iff.mp handled
        cases same
        rcases Subscription.recv_cases received with ⟨overrun, ⟨missed, rfl⟩, rfl⟩ |
          ⟨available, rfl, rfl⟩ | ⟨rfl, rfl⟩
        · cases inTime
        · refine ⟨?_, id⟩
          rw [Subscription.moveTo_sent, Subscription.moveTo_next,
            Subscription.passed_succ onward available, ← passed]
          simp [StreamPhase.advance, StreamPhase.pending, Frame.channelEvent]
        · exact ⟨passed, id⟩
  | yielding frame again =>
      obtain rfl := permitted
      cases handled
      refine ⟨?_, by cases again <;> exact id⟩
      rw [channelEvents_concat, ← passed]
      cases again <;> simp [StreamPhase.advance, StreamPhase.pending]

end Stream

/-! ### What comes from Redis -/

/-- The event, if it is for the channel. -/
def forKey (key : String) (read : String × SseLikeEvent) : Option SseLikeEvent :=
  if read.1 = key then some read.2 else none

/-- The event for the channel that a payload is read as. -/
def SseSetting.about (setting : SseSetting) (key payload : String) : Option SseLikeEvent :=
  (setting.reads payload).bind (forKey key)

/-- The event for the channel that the worker is still to send. -/
def WorkerPhase.waiting (phase : WorkerPhase) (key : String) : List SseLikeEvent :=
  (phase.holds.bind (forKey key)).toList

/-- How many payloads have been taken or missed: without a connection, all that are
published. -/
def Pipeline.taken (pipeline : Pipeline) : Nat :=
  pipeline.connection.getD pipeline.published.length

/-- The events for a channel among the payloads taken, from a number on. -/
def arrived (setting : SseSetting) (key : String) (since : Nat) (pipeline : Pipeline) :
    List SseLikeEvent :=
  ((pipeline.published.take pipeline.taken).drop since).filterMap (setting.about key)

section Arrived

variable {setting : SseSetting} {key : String} {since : Nat} {pipeline next : Pipeline}

theorem arrived_grows (grows : pipeline.published <+: next.published)
    (onward : pipeline.taken ≤ next.taken) (bounded : pipeline.taken ≤ pipeline.published.length) :
    arrived setting key since pipeline <+: arrived setting key since next := by
  apply List.IsPrefix.filterMap
  apply List.IsPrefix.drop
  have first : pipeline.published.take pipeline.taken = next.published.take pipeline.taken := by
    obtain ⟨more, same⟩ := grows
    rw [← same, List.take_append_of_le_length bounded]
  rw [first]
  exact List.take_prefix_take_left onward

/-- A payload is taken. -/
theorem arrived_take {payload : String} {number : Nat}
    (connected : pipeline.connection = some number)
    (there : pipeline.published[number]? = some payload) (since_le : since ≤ number)
    (published : next.published = pipeline.published)
    (connection : next.connection = some (number + 1)) :
    arrived setting key since next =
      arrived setting key since pipeline ++ (setting.about key payload).toList := by
  have inside : number < pipeline.published.length := (List.getElem?_eq_some_iff.mp there).1
  simp only [arrived, Pipeline.taken, published, connection, connected, Option.getD_some]
  rw [List.take_add_one, there, Option.toList_some, List.drop_append_of_le_length,
    List.filterMap_append]
  · cases found : setting.about key payload <;> simp [found]
  · rw [List.length_take, min_eq_left inside.le]
    exact since_le

end Arrived

/-! ### A client beside the worker -/

/-- What a client has seen is of what it has been sent, and what it has been sent, with the
event that the worker is still to send it, is of what has arrived for it. -/
structure Fed (setting : SseSetting) (past since : Nat) (worker : WorkerPhase)
    (phase : StreamPhase) (pipeline : Pipeline) (client : SseClient) : Prop where
  looping : phase ≠ .listening
  follows : KeepsUp past (channelEvents client.stream.frames ++ phase.pending)
    client.stream.receiver
  since_le : since ≤ pipeline.taken
  ordered : (client.stream.receiver.sent.drop past ++ worker.waiting client.key).Sublist
    (arrived setting client.key since pipeline)

/-- All that has arrived for the client has been sent to it, or is about to be. -/
structure Complete (setting : SseSetting) (past since : Nat) (worker : WorkerPhase)
    (pipeline : Pipeline) (client : SseClient) : Prop where
  connected : pipeline.connection.isSome
  all : client.live → client.stream.receiver.sent.drop past ++ worker.waiting client.key =
    arrived setting client.key since pipeline

section Fed

variable {setting : SseSetting} {past since : Nat} {worker reached : WorkerPhase}
  {phase : StreamPhase} {pipeline next : Pipeline} {client after : SseClient}

/-- More arrives, or the worker gives up on an event. -/
theorem Fed.grow (fed : Fed setting past since worker phase pipeline client)
    (onward : pipeline.taken ≤ next.taken)
    (arrives : arrived setting client.key since pipeline <+: arrived setting client.key since next)
    (fewer : (reached.waiting client.key).Sublist (worker.waiting client.key)) :
    Fed setting past since reached phase next client where
  looping := fed.looping
  follows := fed.follows
  since_le := fed.since_le.trans onward
  ordered := ((fewer.append_left _).trans fed.ordered).trans arrives.sublist

theorem Complete.keep (complete : Complete setting past since worker pipeline client)
    (connected : next.connection.isSome)
    (arrives : arrived setting client.key since next = arrived setting client.key since pipeline)
    (waits : client.live → reached.waiting client.key = worker.waiting client.key) :
    Complete setting past since reached next client where
  connected := connected
  all := by
    intro live
    rw [waits live, arrives]
    exact complete.all live

/-- The worker takes a payload. -/
theorem Fed.take {payload : String} {number : Nat}
    (fed : Fed setting past since worker phase pipeline client)
    (connected : pipeline.connection = some number)
    (there : pipeline.published[number]? = some payload)
    (published : next.published = pipeline.published)
    (connection : next.connection = some (number + 1))
    (rested : worker.waiting client.key = [])
    (takes : reached.waiting client.key = (setting.about client.key payload).toList) :
    Fed setting past since reached phase next client := by
  have since_le : since ≤ number := by simpa [Pipeline.taken, connected] using fed.since_le
  refine ⟨fed.looping, fed.follows, ?_, ?_⟩
  · rw [Pipeline.taken, connection]
    exact since_le.trans (Nat.le_succ _)
  · rw [arrived_take connected there since_le published connection, takes]
    apply List.Sublist.append_right
    have ordered := fed.ordered
    rwa [rested, List.append_nil] at ordered

theorem Complete.take {payload : String} {number : Nat}
    (complete : Complete setting past since worker pipeline client)
    (since_le : since ≤ pipeline.taken) (connected : pipeline.connection = some number)
    (there : pipeline.published[number]? = some payload)
    (published : next.published = pipeline.published)
    (connection : next.connection = some (number + 1))
    (rested : worker.waiting client.key = [])
    (takes : reached.waiting client.key = (setting.about client.key payload).toList) :
    Complete setting past since reached next client where
  connected := by
    rw [connection]
    rfl
  all := by
    intro live
    have since_le : since ≤ number := by simpa [Pipeline.taken, connected] using since_le
    rw [arrived_take connected there since_le published connection, takes,
      ← complete.all live, rested, List.append_nil]

/-- The receiver of the client gets an event. -/
def SseClient.hear (client : SseClient) (event : SseLikeEvent) : SseClient :=
  { client with stream := { client.stream with receiver := client.stream.receiver.send event } }

theorem drop_hear {event : SseLikeEvent}
    (follows : KeepsUp past (channelEvents client.stream.frames ++ phase.pending)
      client.stream.receiver) :
    (client.hear event).stream.receiver.sent.drop past =
      client.stream.receiver.sent.drop past ++ [event] :=
  List.drop_append_of_le_length (follows.first_le.trans client.stream.receiver.inside)

/-- The worker sends the event that has been waiting. -/
theorem Fed.hear {event : SseLikeEvent}
    (fed : Fed setting past since worker phase pipeline client)
    (waited : worker.waiting client.key = [event]) (rests : reached.waiting client.key = [])
    (onward : next.taken = pipeline.taken)
    (same : arrived setting client.key since next = arrived setting client.key since pipeline) :
    Fed setting past since reached phase next (client.hear event) where
  looping := fed.looping
  follows := fed.follows.send event
  since_le := fed.since_le.trans onward.ge
  ordered := by
    have ordered := fed.ordered
    rw [waited] at ordered
    rw [drop_hear fed.follows]
    show (_ ++ reached.waiting client.key).Sublist (arrived setting client.key since next)
    rw [rests, List.append_nil, same]
    exact ordered

theorem Complete.hear {event : SseLikeEvent}
    (fed : Fed setting past since worker phase pipeline client)
    (complete : Complete setting past since worker pipeline client)
    (waited : worker.waiting client.key = [event]) (rests : reached.waiting client.key = [])
    (connected : next.connection.isSome)
    (same : arrived setting client.key since next = arrived setting client.key since pipeline) :
    Complete setting past since reached next (client.hear event) where
  connected := connected
  all := by
    intro live
    have all := complete.all live
    rw [waited] at all
    rw [drop_hear fed.follows]
    show _ ++ reached.waiting client.key = arrived setting client.key since next
    rw [rests, List.append_nil, same]
    exact all

/-- A client whose stream is left alone, and that may have been dropped. -/
structure SseClient.Kept (client after : SseClient) : Prop where
  key_eq : after.key = client.key
  stream_eq : after.stream = client.stream
  live : after.live → client.live

theorem SseClient.Kept.refl (client : SseClient) : client.Kept client := ⟨rfl, rfl, id⟩

theorem Fed.kept (kept : client.Kept after)
    (fed : Fed setting past since worker phase pipeline client) :
    Fed setting past since worker phase pipeline after := by
  obtain ⟨looping, follows, since_le, ordered⟩ := fed
  rw [← kept.stream_eq] at follows ordered
  rw [← kept.key_eq] at ordered
  exact ⟨looping, follows, since_le, ordered⟩

theorem Complete.kept (kept : client.Kept after)
    (complete : Complete setting past since worker pipeline client) :
    Complete setting past since worker pipeline after := by
  refine ⟨complete.connected, fun live => ?_⟩
  rw [kept.stream_eq, kept.key_eq]
  exact complete.all (kept.live live)

/-- An event that is sent is received later. -/
theorem InStep.hear {event : SseLikeEvent} (inStep : InStep past phase client.stream) :
    InStep past phase (client.hear event).stream where
  passed := by
    have inside := client.stream.receiver.inside
    show _ = ((client.stream.receiver.sent ++ [event]).take client.stream.receiver.next).drop past
    rw [List.take_append_of_le_length inside]
    exact inStep.passed
  awake := inStep.awake

end Fed

/-! ### The steps of the worker -/

section Worker

variable {setting : PipelineSetting} {worker : WorkerPhase} {env : PipelineEnv}
  {op : PipelineOp} {answer : op.Res} {pipeline next : Pipeline} {spawned : List PipelineCall}

/-- What the worker is to find: the payload that it has taken, and one lock on the shard that
it has a `Ref` into. -/
structure WorkerAt (setting : SseSetting) (worker : WorkerPhase) (pipeline : Pipeline) : Prop
    where
  bounded : pipeline.taken ≤ pipeline.published.length
  holding : ∀ read, worker.holds = some read → ∃ number payload,
    pipeline.connection = some (number + 1) ∧ pipeline.published[number]? = some payload ∧
      setting.reads payload = some read
  refs : ∀ shard, pipeline.manager.refs shard =
    if worker.ref.map setting.shardOf = some shard then 1 else 0

/-- Every live client is one of the receivers of its channel. -/
def Counted (pipeline : Pipeline) : Prop :=
  ∀ key, pipeline.manager.receiversOf key =
    pipeline.clients.countP fun client => client.live ∧ client.key = key

/-- The channel of a live client is there. -/
theorem Counted.receivers_ne_zero {index : Nat} {client : SseClient} (counted : Counted pipeline)
    (at_index : pipeline.clients[index]? = some client) (live : client.live) :
    pipeline.manager.receiversOf client.key ≠ 0 := by
  rw [counted client.key]
  apply Nat.ne_of_gt
  rw [List.countP_pos_iff]
  exact ⟨client, List.mem_of_getElem? at_index, by simp [live]⟩

/-- A step breaks the connection of the worker, or makes a new one. -/
def breaks : (op : PipelineOp) → op.Res → Bool
  | .getAsyncPubsubStream, _ => true
  | .streamNext, .ended => true
  | _, _ => false

/-- What becomes of a client. -/
structure Passes (setting : SseSetting) (past since : Nat) (phase : StreamPhase)
    (worker reached : WorkerPhase) (unbroken : Prop) (pipeline next : Pipeline)
    (client after : SseClient) : Prop where
  key_eq : after.key = client.key
  fed : Fed setting past since worker phase pipeline client →
    Fed setting past since reached phase next after
  complete : unbroken → Fed setting past since worker phase pipeline client →
    Complete setting past since worker pipeline client →
      Complete setting past since reached next after
  inStep : InStep past phase client.stream → InStep past phase after.stream

section Passes

variable {past since : Nat} {phase : StreamPhase} {reached : WorkerPhase} {unbroken : Prop}
  {client after : SseClient}

/-- The client is left alone while more arrives, or the worker gives up on an event that is
not for a live client. -/
theorem Passes.grow (kept : client.Kept after) (onward : pipeline.taken ≤ next.taken)
    (published : pipeline.published <+: next.published)
    (bounded : pipeline.taken ≤ pipeline.published.length)
    (fewer : (reached.waiting client.key).Sublist (worker.waiting client.key))
    (whole : unbroken → pipeline.connection.isSome → next.taken = pipeline.taken ∧
      next.connection.isSome ∧
      (client.live → reached.waiting client.key = worker.waiting client.key)) :
    Passes setting.sse past since phase worker reached unbroken pipeline next client after where
  key_eq := kept.key_eq
  fed := fun fed => (fed.grow onward (arrived_grows published onward bounded) fewer).kept kept
  complete := by
    intro holds fed complete
    obtain ⟨same, connected, waits⟩ := whole holds complete.connected
    refine (complete.keep connected ?_ waits).kept kept
    obtain ⟨more, grown⟩ := published
    simp only [arrived, same, ← grown, List.take_append_of_le_length bounded]
  inStep := by
    rw [kept.stream_eq]
    exact id

/-- Nothing changes but the phase of the worker and what it has a lock on. -/
theorem Passes.aside (kept : client.Kept after) (published : next.published = pipeline.published)
    (connection : next.connection = pipeline.connection)
    (bounded : pipeline.taken ≤ pipeline.published.length)
    (waits : reached.waiting client.key = worker.waiting client.key) :
    Passes setting.sse past since phase worker reached unbroken pipeline next client after := by
  have same : next.taken = pipeline.taken := by simp only [Pipeline.taken, published, connection]
  refine .grow kept same.ge (by rw [published]) bounded (by rw [waits])
    fun _ connected => ⟨same, ?_, fun _ => waits⟩
  rw [connection]
  exact connected

end Passes

/-- What a step that is no client's own keeps. -/
structure FeedStep (setting : SseSetting) (worker reached : WorkerPhase) (unbroken : Prop)
    (pipeline next : Pipeline) : Prop where
  found : WorkerAt setting reached next
  counted : Counted next
  length_eq : next.clients.length = pipeline.clients.length
  passes : ∀ (past since : Nat) (phase : StreamPhase) (index : Nat) (client : SseClient),
    pipeline.clients[index]? = some client → ∃ after, next.clients[index]? = some after ∧
      Passes setting past since phase worker reached unbroken pipeline next client after

/-- The worker rests, and neither the channels nor the clients change. -/
theorem FeedStep.of_resting {reached : WorkerPhase} {unbroken : Prop} (counted : Counted pipeline)
    (manager : next.manager = pipeline.manager) (clients : next.clients = pipeline.clients)
    (found : WorkerAt setting.sse reached next)
    (passes : ∀ past since phase client, Passes setting.sse past since phase .resting reached
      unbroken pipeline next client client) :
    FeedStep setting.sse .resting reached unbroken pipeline next where
  found := found
  counted := by
    intro key
    rw [manager, clients]
    exact counted key
  length_eq := by rw [clients]
  passes := by
    intro past since phase index client at_index
    exact ⟨client, by rw [clients, at_index], passes past since phase client⟩

/-- The phase after a payload has been taken. -/
theorem waiting_of_reads (setting : PipelineSetting) (payload key : String) :
    ((WorkerPhase.resting.advance setting.sse .streamNext (.message payload)).waiting key) =
      (setting.sse.about key payload).toList := by
  simp only [WorkerPhase.advance, SseSetting.about]
  cases setting.sse.reads payload <;> rfl

/-- The worker takes the payload that is next, and holds the event it is read as. -/
theorem WorkerAt.take {payload : String} {number : Nat}
    (at_worker : WorkerAt setting.sse .resting pipeline)
    (there : pipeline.published[number]? = some payload)
    (published : next.published = pipeline.published) (manager : next.manager = pipeline.manager)
    (connection : next.connection = some (number + 1)) :
    WorkerAt setting.sse (WorkerPhase.resting.advance setting.sse .streamNext (.message payload))
      next := by
  refine ⟨?_, ?_, ?_⟩
  · rw [Pipeline.taken, connection, published]
    exact (List.getElem?_eq_some_iff.mp there).1
  · intro read held
    refine ⟨number, payload, connection, by rw [published, there], ?_⟩
    unfold WorkerPhase.advance at held
    cases reads : setting.sse.reads payload with
    | none =>
        simp only [reads] at held
        cases held
    | some found =>
        simp only [reads] at held
        exact held
  · have free : (WorkerPhase.resting.advance setting.sse .streamNext (.message payload)).ref =
        none := by
      simp only [WorkerPhase.advance]
      split <;> rfl
    intro shard
    rw [manager, at_worker.refs shard, free]
    rfl

/-- The worker between two messages. -/
theorem resting_step (at_worker : WorkerAt setting.sse .resting pipeline)
    (counted : Counted pipeline) (permitted : WorkerPhase.resting.Permitted op)
    (handled : Pipeline.handle setting env op pipeline = some (answer, next, spawned)) :
    FeedStep setting.sse .resting (WorkerPhase.resting.advance setting.sse op answer)
      (breaks op answer = false) pipeline next := by
  have still : ∀ {unbroken : Prop},
      FeedStep setting.sse .resting .resting unbroken pipeline pipeline := by
    intro unbroken
    exact .of_resting counted rfl rfl at_worker fun _ _ _ client =>
      .aside (.refl client) rfl rfl at_worker.bounded rfl
  rcases permitted with rfl | rfl | rfl | rfl
  · cases handled
    exact still
  · simp only [Pipeline.handle] at handled
    split at handled
    · cases handled
      exact still
    · cases handled
      have bounded := at_worker.bounded
      refine .of_resting counted rfl rfl
        ⟨le_rfl, WorkerPhase.holds_nothing rfl, at_worker.refs⟩ ?_
      exact fun _ _ _ client => .grow (.refl client) bounded (List.prefix_refl _) bounded
        (List.Sublist.refl _) (by intro unbroken; cases unbroken)
  · simp only [Pipeline.handle] at handled
    split at handled
    · split at handled
      · cases handled
        exact still
      · cases handled
    split at handled
    · cases handled
      have bounded := at_worker.bounded
      refine .of_resting counted rfl rfl
        ⟨le_rfl, WorkerPhase.holds_nothing rfl, at_worker.refs⟩ ?_
      exact fun _ _ _ client => .grow (.refl client) bounded (List.prefix_refl _) bounded
        (List.Sublist.refl _) (by intro unbroken; cases unbroken)
    · split at handled
      · cases handled
      · next number connected =>
        obtain ⟨payload, there, same⟩ := Option.map_eq_some_iff.mp handled
        cases same
        refine .of_resting counted rfl rfl (at_worker.take there rfl rfl rfl) ?_
        intro past since phase client
        have takes := waiting_of_reads setting payload client.key
        exact {
          key_eq := rfl
          fed := fun fed => fed.take connected there rfl rfl rfl takes
          complete := fun _ fed complete =>
            complete.take fed.since_le connected there rfl rfl rfl takes
          inStep := id }
  · simp only [Pipeline.handle] at handled
    split at handled
    · split at handled
      · cases handled
        exact still
      · cases handled
    · cases handled
      exact still

/-- A step on the channels leaves what is published and the connection alone. -/
theorem Pipeline.handle_channels {sseOp : SseOp} {sseAnswer : sseOp.Res}
    (handled : Pipeline.handle setting env (.channels sseOp) pipeline =
      some (sseAnswer, next, spawned)) :
    ∃ manager none_started, SseManager.handle setting.sse () sseOp pipeline.manager =
        some (sseAnswer, manager, none_started) ∧
      next = { pipeline with
        manager := manager
        clients := pipeline.clients.map (SseClient.after sseOp sseAnswer) } ∧ spawned = [] := by
  obtain ⟨⟨given, manager, started⟩, served, same⟩ := Option.map_eq_some_iff.mp handled
  cases same
  exact ⟨manager, started, served, rfl, rfl⟩

/-- The clients when a step on the channels leaves them alone. -/
theorem FeedStep.of_channels {reached : WorkerPhase} {unbroken : Prop} {manager : SseManager}
    (at_worker : WorkerAt setting.sse worker pipeline) (counted : Counted pipeline)
    (receivers : ∀ key, manager.receiversOf key = pipeline.manager.receiversOf key)
    (still : ∀ read, reached.holds = some read → worker.holds = some read)
    (refs : ∀ shard, manager.refs shard =
      if reached.ref.map setting.sse.shardOf = some shard then 1 else 0)
    (fewer : ∀ key, (reached.waiting key).Sublist (worker.waiting key))
    (whole : ∀ key, pipeline.manager.receiversOf key ≠ 0 →
      reached.waiting key = worker.waiting key) :
    FeedStep setting.sse worker reached unbroken pipeline { pipeline with manager := manager }
    where
  found := ⟨at_worker.bounded, fun read held => at_worker.holding read (still read held), refs⟩
  counted := by
    intro key
    rw [receivers]
    exact counted key
  length_eq := rfl
  passes := by
    intro past since phase index client at_index
    refine ⟨client, at_index, .grow (.refl client) le_rfl (List.prefix_refl _)
      at_worker.bounded (fewer _) fun _ connected => ⟨rfl, connected, fun live => ?_⟩⟩
    exact whole _ (counted.receivers_ne_zero at_index live)

/-- A step that the clients do not notice. -/
theorem map_after_eq {sseOp : SseOp} {sseAnswer : sseOp.Res}
    (unnoticed : ∀ client, SseClient.after sseOp sseAnswer client = client) :
    pipeline.clients.map (SseClient.after sseOp sseAnswer) = pipeline.clients := by
  rw [funext unnoticed]
  exact List.map_id' _

/-- The worker looks the channel of its event up. -/
theorem taken_step {key : String} {event : SseLikeEvent} {found : Bool}
    (at_worker : WorkerAt setting.sse (.taken key event) pipeline) (counted : Counted pipeline)
    (handled : Pipeline.handle setting env (.channels (.channelsGet key)) pipeline =
      some (found, next, spawned)) :
    FeedStep setting.sse (.taken key event) (if found then .sending key event else .resting)
      (breaks (.channels (.channelsGet key)) found = false) pipeline next := by
  obtain ⟨manager, _, served, rfl, _⟩ := Pipeline.handle_channels handled
  rw [map_after_eq (by intro client; rfl)]
  simp only [SseManager.handle] at served
  split at served
  · next absent =>
    cases served
    have nobody : pipeline.manager.receiversOf key = 0 := by
      simp only [SseManager.receiversOf, absent]
    refine .of_channels at_worker counted (fun _ => rfl)
      (WorkerPhase.holds_nothing rfl) at_worker.refs
      (fun _ => List.nil_sublist _) ?_
    intro other received
    have ne : key ≠ other := by
      rintro rfl
      exact received nobody
    simp [WorkerPhase.waiting, WorkerPhase.holds, forKey, ne]
  · cases served
    refine .of_channels at_worker counted (fun _ => rfl) (fun _ => id) ?_
      (fun _ => List.Sublist.refl _) (fun _ _ => rfl)
    intro shard
    have free := at_worker.refs shard
    by_cases here : setting.sse.shardOf key = shard
    · subst here
      rw [at_worker.refs]
      simp [WorkerPhase.ref]
    · simpa [WorkerPhase.ref, here, Function.update_of_ne (Ne.symm here)] using free

theorem after_txSend (key : String) (event : SseLikeEvent) (client : SseClient) :
    SseClient.after (.txSend key event) false client =
      if client.live ∧ client.key = key then client.hear event else client := rfl

/-- What is sent leaves the receivers alone. -/
theorem receiversOf_sent (manager : SseManager) (key other : String) (event : SseLikeEvent) :
    (manager.onChannel key fun channel =>
      { channel with sent := channel.sent ++ [event] }).receiversOf other =
        manager.receiversOf other := by
  unfold SseManager.receiversOf SseManager.onChannel
  by_cases same : other = key
  · subst same
    cases manager.channels other <;> simp
  · simp [Function.update_of_ne same]

/-- The worker sends its event to those who receive from the channel. -/
theorem sending_step {key : String} {event : SseLikeEvent} {failed : Bool}
    (at_worker : WorkerAt setting.sse (.sending key event) pipeline) (counted : Counted pipeline)
    (handled : Pipeline.handle setting env (.channels (.txSend key event)) pipeline =
      some (failed, next, spawned)) :
    FeedStep setting.sse (.sending key event)
      (if failed then .counting key else .releasing key)
      (breaks (.channels (.txSend key event)) failed = false) pipeline next := by
  obtain ⟨manager, _, served, rfl, _⟩ := Pipeline.handle_channels handled
  have elsewhere : ∀ other, key ≠ other →
      (WorkerPhase.sending key event).waiting other = [] := by
    intro other ne
    simp [WorkerPhase.waiting, WorkerPhase.holds, forKey, ne]
  simp only [SseManager.handle] at served
  split at served
  · next nobody =>
    cases served
    rw [map_after_eq (by intro client; rfl)]
    refine .of_channels at_worker counted (fun _ => rfl)
      (WorkerPhase.holds_nothing rfl) at_worker.refs
      (fun _ => List.nil_sublist _) ?_
    intro other received
    have ne : key ≠ other := by
      rintro rfl
      exact received nobody
    exact (elsewhere other ne).symm
  · cases served
    refine ⟨⟨at_worker.bounded, WorkerPhase.holds_nothing rfl, at_worker.refs⟩, ?_,
      List.length_map _, ?_⟩
    · intro other
      rw [receiversOf_sent, counted other, List.countP_map]
      congr 1
      funext client
      simp only [Function.comp_apply, after_txSend]
      split <;> rfl
    · intro past since phase index client at_index
      refine ⟨_, by rw [List.getElem?_map, at_index]; rfl, ?_⟩
      rw [after_txSend]
      by_cases heard : client.live ∧ client.key = key
      · rw [if_pos heard]
        obtain ⟨_, rfl⟩ := heard
        have waited : (WorkerPhase.sending client.key event).waiting client.key = [event] := by
          simp [WorkerPhase.waiting, WorkerPhase.holds, forKey]
        exact {
          key_eq := rfl
          fed := fun fed => fed.hear waited rfl rfl rfl
          complete := fun _ fed complete =>
            complete.hear fed waited rfl complete.connected rfl
          inStep := InStep.hear }
      · rw [if_neg heard]
        refine .grow (.refl client) le_rfl (List.prefix_refl _) at_worker.bounded
          (List.nil_sublist _) fun _ connected => ⟨rfl, connected, fun live => ?_⟩
        exact (elsewhere _ fun same => heard ⟨live, same.symm⟩).symm

/-- The worker learns how many receivers there are. -/
theorem counting_step {key : String} {count : Nat}
    (at_worker : WorkerAt setting.sse (.counting key) pipeline) (counted : Counted pipeline)
    (handled : Pipeline.handle setting env (.channels (.txReceiverCount key)) pipeline =
      some (count, next, spawned)) :
    FeedStep setting.sse (.counting key)
      (if count = 0 then .removing key else .releasing key)
      (breaks (.channels (.txReceiverCount key)) count = false) pipeline next := by
  obtain ⟨manager, _, served, rfl, _⟩ := Pipeline.handle_channels handled
  rw [map_after_eq (by intro client; rfl)]
  cases served
  split
  · exact .of_channels at_worker counted (fun _ => rfl)
      (WorkerPhase.holds_nothing rfl) at_worker.refs
      (fun _ => List.Sublist.refl _) (fun _ _ => rfl)
  · exact .of_channels at_worker counted (fun _ => rfl)
      (WorkerPhase.holds_nothing rfl) at_worker.refs
      (fun _ => List.Sublist.refl _) (fun _ _ => rfl)

/-- With a `Ref` of the channel alive, the worker waits for its lock for ever. -/
theorem removing_waits {key : String}
    (at_worker : WorkerAt setting.sse (.removing key) pipeline) :
    Pipeline.handle setting env (.channels (.channelsRemove key)) pipeline = none := by
  have locked : pipeline.manager.refs (setting.sse.shardOf key) ≠ 0 := by
    rw [at_worker.refs]
    simp [WorkerPhase.ref]
  simp [Pipeline.handle, SseManager.handle, locked]

/-- The worker lets its `Ref` go. -/
theorem releasing_step {key : String} {answer : Unit}
    (at_worker : WorkerAt setting.sse (.releasing key) pipeline) (counted : Counted pipeline)
    (handled : Pipeline.handle setting env (.channels (.dropRef key)) pipeline =
      some (answer, next, spawned)) :
    FeedStep setting.sse (.releasing key) .resting
      (breaks (.channels (.dropRef key)) answer = false) pipeline next := by
  obtain ⟨manager, _, served, rfl, _⟩ := Pipeline.handle_channels handled
  rw [map_after_eq (by intro client; rfl)]
  cases served
  refine .of_channels at_worker counted (fun _ => rfl) (WorkerPhase.holds_nothing rfl) ?_
    (fun _ => List.Sublist.refl _) (fun _ _ => rfl)
  intro shard
  have locked := at_worker.refs shard
  by_cases here : setting.sse.shardOf key = shard
  · subst here
    rw [at_worker.refs]
    simp [WorkerPhase.ref]
  · simpa [WorkerPhase.ref, here, Function.update_of_ne (Ne.symm here)] using locked

/-- The step law of the worker. -/
theorem worker_step (at_worker : WorkerAt setting.sse worker pipeline)
    (counted : Counted pipeline) (permitted : worker.Permitted op)
    (handled : Pipeline.handle setting env op pipeline = some (answer, next, spawned)) :
    FeedStep setting.sse worker (worker.advance setting.sse op answer)
      (breaks op answer = false) pipeline next := by
  cases worker with
  | resting => exact resting_step at_worker counted permitted handled
  | taken key event =>
      obtain rfl := permitted
      exact taken_step at_worker counted handled
  | sending key event =>
      obtain rfl := permitted
      exact sending_step at_worker counted handled
  | counting key =>
      obtain rfl := permitted
      exact counting_step at_worker counted handled
  | removing key =>
      obtain rfl := permitted
      rw [removing_waits at_worker] at handled
      cases handled
  | releasing key =>
      obtain rfl := permitted
      exact releasing_step at_worker counted handled

end Worker

end SocialApi
