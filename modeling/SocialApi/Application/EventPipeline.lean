/-
Module: SocialApi.Application.EventPipeline
Purpose: The way of an event: published on Redis, taken by the worker of SseManager, sent to
  the channel of its item, and streamed to the clients of the item.
Trusted boundary: human-reviewed model of run_cache_event_listener and process_stream in
  application/sse.rs, of get_async_pubsub_stream in redis/like_repository.rs and of the life of
  a receiver of sse_stream; Redis hands a connection what is published after it has
  subscribed, in order, until the connection breaks
Main exports:
  PipelineSetting, SseClient, Pipeline, PipelineOp, PipelineEnv, Pipeline.handle, PipelineCall,
  runCacheEventListener, processStream, PipelineCall.body, eventPipeline
-/
import SocialApi.Api.SseStream
import SocialApi.Application.Sse
import SocialApi.Infrastructure.Redis

namespace SocialApi

open Process

/-! ### Redis -/

namespace RedisLikeRepository

/-- `psubscribe(format_all_channels_key())` matches the channel. -/
def onAllChannels (channel : String) : Bool :=
  (sseEventsKey ++ ":").toList.isPrefixOf channel.toList

end RedisLikeRepository

/-! ### Shared state -/

/-- The parameters of the worker and of `serde_json::to_string`, and how many messages a
channel keeps: `broadcast::channel(100)` rounds up to a power of two, which is 128. -/
structure PipelineSetting where
  sse : SseSetting
  eventText : SseLikeEvent → String
  capacity : Nat
  positive : 0 < capacity

/-- A stream of `sse_stream`, until its receiver is dropped. -/
structure SseClient where
  key : String
  live : Bool
  stream : ClientStream

/-- The payloads published on the channels of all events, the one that the connection of the
worker hands out next, the token, and the manager with the clients. -/
structure Pipeline where
  published : List String
  connection : Option Nat
  cancelled : Bool
  manager : SseManager
  clients : List SseClient

def Pipeline.start : Pipeline where
  published := []
  connection := none
  cancelled := false
  manager := .new
  clients := []

/-! ### Steps -/

/-- What the `select!` of `process_stream` comes back with. -/
inductive Streamed where
  | cancelled
  | message (payload : String)
  | ended

/-- `sleepOrCancelled` is the `select!` between two connections, and `subscribe` answers with
the number of the new client. -/
inductive PipelineOp where
  | publish (channel payload : String)
  | isCancelled
  | cancel
  | getAsyncPubsubStream
  | streamNext
  | sleepOrCancelled
  | channels (op : SseOp)
  | subscribe (key : String)
  | client (index : Nat) (op : StreamOp)
  | dropReceiver (index : Nat)

/-- What each step answers: `sleepOrCancelled` whether the token is cancelled. -/
@[reducible] def PipelineOp.Res : PipelineOp → Type
  | .publish .. => Except DomainError Unit
  | .isCancelled => Bool
  | .cancel => Unit
  | .getAsyncPubsubStream => Except DomainError Unit
  | .streamNext => Streamed
  | .sleepOrCancelled => Bool
  | .channels op => op.Res
  | .subscribe _ => Nat
  | .client _ op => op.Res
  | .dropReceiver _ => Unit

/-- What the surroundings contribute to one step: whether Redis fails, whether a `select!` of
the worker takes the branch of the token, whether its connection breaks, and what a stream
sees. -/
structure PipelineEnv where
  fault : Option Fault
  token : Bool
  broken : Bool
  stream : StreamEnv

/-- Nothing fails and the token is left alone. -/
def PipelineEnv.calm (branch : SelectBranch) : PipelineEnv where
  fault := none
  token := false
  broken := false
  stream := ⟨branch, 0⟩

/-- The calls of this system; `streaming` is the stream of a client, from any point of its
loop. -/
inductive PipelineCall where
  | runCacheEventListener
  | processStream
  | sseStream (contentType : ContentType) (contentId : ContentId)
  | streaming (index : Nat) (call : StreamCall)
  | disconnect (index : Nat)
  | publishLikeEvent (event : SseLikeEvent)
  | publishElsewhere (channel payload : String)
  | shutdown

namespace SseClient

/-- What a step on the channels does to a client: it is sent the events of its channel, and the
channel is closed with its last sender. -/
def after : (op : SseOp) → op.Res → SseClient → SseClient
  | .txSend key event, false, client =>
      if client.live ∧ client.key = key then
        { client with
          stream := { client.stream with receiver := client.stream.receiver.send event } }
      else client
  | .channelsRemove key, _, client =>
      if client.key = key then
        { client with
          stream := { client.stream with receiver := client.stream.receiver.close } }
      else client
  | _, _, client => client

/-- `tx.subscribe()` -/
def subscribe (setting : PipelineSetting) (key : String) (channel : Option Channel) :
    SseClient where
  key := key
  live := true
  stream := .subscribe setting.capacity setting.positive ((channel.map Channel.sent).getD [])

end SseClient

namespace Pipeline

/-- The token resolves `cancelled()` only when it has been cancelled. -/
def Ready (pipeline : Pipeline) : SelectBranch → Bool
  | .cancellation => pipeline.cancelled
  | _ => true

/-- One step, or `none` while it waits: for a message, for the token, or for the lock of a
shard. -/
def handle (setting : PipelineSetting) (env : PipelineEnv) :
    (op : PipelineOp) → Pipeline → Option (op.Res × Pipeline × List PipelineCall)
  | .publish channel payload, pipeline =>
      match env.fault with
      | some e => some (.error (RedisLikeRepository.faultError e), pipeline, [])
      | none =>
          some (.ok (),
            if RedisLikeRepository.onAllChannels channel then
              { pipeline with published := pipeline.published ++ [payload] }
            else pipeline, [])
  | .isCancelled, pipeline => some (pipeline.cancelled, pipeline, [])
  | .cancel, pipeline => some ((), { pipeline with cancelled := true }, [])
  | .getAsyncPubsubStream, pipeline =>
      match env.fault with
      | some e => some (.error (.cacheError e.display), pipeline, [])
      | none =>
          some (.ok (), { pipeline with connection := some pipeline.published.length }, [])
  | .streamNext, pipeline =>
      if env.token then
        if pipeline.cancelled then some (.cancelled, pipeline, []) else none
      else if env.broken then some (.ended, { pipeline with connection := none }, [])
      else match pipeline.connection with
        | none => none
        | some next => pipeline.published[next]?.map fun payload =>
            (.message payload, { pipeline with connection := some (next + 1) }, [])
  | .sleepOrCancelled, pipeline =>
      if env.token then
        if pipeline.cancelled then some (true, pipeline, []) else none
      else some (false, pipeline, [])
  | .channels op, pipeline =>
      (SseManager.handle setting.sse () op pipeline.manager).map fun (answer, manager, _) =>
        (answer, { pipeline with
          manager := manager
          clients := pipeline.clients.map (SseClient.after op answer) }, [])
  | .subscribe key, pipeline =>
      (SseManager.handle setting.sse () (.channelsEntrySubscribe key) pipeline.manager).map
        fun (_, manager, _) => (pipeline.clients.length, { pipeline with
          manager := manager
          clients :=
            pipeline.clients ++ [.subscribe setting key (pipeline.manager.channels key)] }, [])
  | .client index op, pipeline => do
      let client ← pipeline.clients[index]?
      if client.live ∧ pipeline.Ready env.stream.branch then
        let (answer, stream, _) ← ClientStream.handle env.stream op client.stream
        return (answer, { pipeline with
          clients := pipeline.clients.set index { client with stream := stream } }, [])
      else none
  | .dropReceiver index, pipeline => do
      let client ← pipeline.clients[index]?
      if client.live then
        let (_, manager, _) ←
          SseManager.handle setting.sse () (.dropReceiver client.key) pipeline.manager
        return ((), { pipeline with
          manager := manager
          clients := pipeline.clients.set index { client with live := false } }, [])
      else return ((), pipeline, [])

end Pipeline

/-! ### Programs -/

abbrev PipelineProgram := Program PipelineOp PipelineOp.Res

/-- Take one step. -/
abbrev PipelineOp.take (op : PipelineOp) : PipelineProgram op.Res := Program.request op

/-- The end of the loop of `run_cache_event_listener`, once there is no connection. -/
def sleepAndRetry : PipelineProgram (PipelineCall ⊕ Unit) := do
  if ← PipelineOp.sleepOrCancelled.take then return .inr ()
  else return .inl .runCacheEventListener

/-- `while !self.c_token.is_cancelled()` -/
def runCacheEventListener : PipelineProgram (PipelineCall ⊕ Unit) := do
  if ← PipelineOp.isCancelled.take then return .inr ()
  else match ← PipelineOp.getAsyncPubsubStream.take with
    | .ok _ => return .inl .processStream
    | .error _ => sleepAndRetry

/-- The loop of `process_stream`, with what its caller does when it breaks or goes on. -/
def processStream (setting : PipelineSetting) : PipelineProgram (PipelineCall ⊕ Unit) := do
  match ← PipelineOp.streamNext.take with
  | .cancelled => return .inr ()
  | .message payload =>
      (SseManager.handleIncomingPayload setting.sse payload).implement fun op =>
        (PipelineOp.channels op).take
      return .inl .processStream
  | .ended => sleepAndRetry

/-- What each call runs.  A stream that ends drops its receiver. -/
def PipelineCall.body (setting : PipelineSetting) :
    PipelineCall → PipelineProgram (PipelineCall ⊕ Unit)
  | .runCacheEventListener => SocialApi.runCacheEventListener
  | .processStream => SocialApi.processStream setting
  | .sseStream contentType contentId => do
      let index ← (PipelineOp.subscribe (SseManager.getKey contentType contentId)).take
      return .inl (.streaming index .sseStream)
  | .streaming index call => do
      match ← call.body.implement fun op => (PipelineOp.client index op).take with
      | .inl next => return .inl (.streaming index next)
      | .inr _ =>
          (PipelineOp.dropReceiver index).take
          return .inr ()
  | .disconnect index => do
      (PipelineOp.dropReceiver index).take
      return .inr ()
  | .publishLikeEvent event =>
      match RedisLikeRepository.publishLikeEvent setting.eventText none event with
      | .error _ => return .inr ()
      | .ok (channel, payload) => do
          let _ ← (PipelineOp.publish channel payload).take
          return .inr ()
  | .publishElsewhere channel payload => do
      let _ ← (PipelineOp.publish channel payload).take
      return .inr ()
  | .shutdown => do
      PipelineOp.cancel.take
      return .inr ()

/-- Publishers, the worker and the clients as a system. -/
@[reducible] def eventPipeline (setting : PipelineSetting) : System where
  Op := PipelineOp
  Res := PipelineOp.Res
  State := Pipeline
  Env := PipelineEnv
  Call := PipelineCall
  Reply := Unit
  body := PipelineCall.body setting
  handle := Pipeline.handle setting

end SocialApi
