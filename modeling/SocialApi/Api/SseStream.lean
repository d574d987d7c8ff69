/-
Module: SocialApi.Api.SseStream
Purpose: The stream that sse_stream gives to one client, beside the listener that feeds its
  channel.
Trusted boundary: human-reviewed model of sse_stream in api/handlers.rs; the timer, the
  cancellation and the branch that select! takes come from the surroundings
Main exports:
  Frame, Frame.sse, ClientStream, StreamOp, ClientStream.handle, StreamCall.body, sseStreaming
-/
import SocialApi.Api.EventJson
import SocialApi.Process.Broadcast
import SocialApi.Process.System

namespace SocialApi

open Process

/-! ### What the client is sent -/

/-- An `Event` of axum. -/
structure SsePayload where
  event : Option String
  data : String

/-- An event of the stream itself, about no item. -/
def SseLikeEvent.ofStream (kind : SseEventType) (now : DateTime) : SseLikeEvent where
  event := kind
  contentType := none
  contentId := none
  userId := none
  count := none
  timestamp := now

/-- `serde_json::to_string` of an `Option` -/
def JsonForms.optionText (forms : JsonForms) (event : Option SseLikeEvent) : String :=
  forms.toText (.ofOption (JsonForms.toValue forms.rfc3339) event)

/-- What each `yield` of `sse_stream` yields. -/
inductive Frame where
  | heartbeat (now : DateTime)
  | shutdown (now : DateTime)
  | live (event : SseLikeEvent)
  | resync (latestEvent : Option SseLikeEvent)

def Frame.sse (forms : JsonForms) : Frame → SsePayload
  | .heartbeat now => ⟨none, forms.eventText (.ofStream .heartbeat now)⟩
  | .shutdown now => ⟨some "shutdown", forms.eventText (.ofStream .shutdown now)⟩
  | .live event => ⟨none, forms.eventText event⟩
  | .resync latestEvent => ⟨none, forms.optionText latestEvent⟩

/-! ### Steps -/

/-- The receiver of the client, and the frames that it has been sent. -/
structure ClientStream where
  receiver : Subscription SseLikeEvent
  frames : List Frame

/-- What `select!` comes back with. -/
inductive Selected where
  | tick (now : DateTime)
  | cancelled (now : DateTime)
  | received (msg : Except RecvError SseLikeEvent)

inductive StreamOp where
  | select
  | tryRecv
  | yieldFrame (frame : Frame)
  | txSend (event : SseLikeEvent)
  | dropSender

@[reducible] def StreamOp.Res : StreamOp → Type
  | .select => Selected
  | .tryRecv => Except TryRecvError SseLikeEvent
  | .yieldFrame _ => Unit
  | .txSend _ => Unit
  | .dropSender => Unit

/-- The branches of `select!`. -/
inductive SelectBranch where
  | heartbeatTick
  | cancellation
  | rxRecv

/-- What the surroundings contribute to one step: the branch that is ready, and the time. -/
structure StreamEnv where
  branch : SelectBranch
  now : DateTime

inductive StreamCall where
  | sseStream
  | drain (latestEvent : Option SseLikeEvent)
  | listener (events : List SseLikeEvent)
  | dropSender

inductive StreamReply where
  | ended
  | listened

/-- One step, or `none` while it waits: `recv` for a message, and a channel without senders for
ever. -/
def ClientStream.handle (env : StreamEnv) :
    (op : StreamOp) → ClientStream → Option (op.Res × ClientStream × List StreamCall)
  | .select, stream =>
      match env.branch with
      | .heartbeatTick => some (.tick env.now, stream, [])
      | .cancellation => some (.cancelled env.now, stream, [])
      | .rxRecv => stream.receiver.recv.map fun (msg, receiver) =>
          (.received msg, { stream with receiver := receiver }, [])
  | .tryRecv, stream =>
      let (msg, receiver) := stream.receiver.tryRecv
      some (msg, { stream with receiver := receiver }, [])
  | .yieldFrame frame, stream =>
      some ((), { stream with frames := stream.frames ++ [frame] }, [])
  | .txSend event, stream =>
      if stream.receiver.closed then none
      else some ((), { stream with receiver := stream.receiver.send event }, [])
  | .dropSender, stream =>
      some ((), { stream with receiver := stream.receiver.close }, [])

/-! ### Programs -/

/-- Take one step. -/
abbrev StreamOp.perform (op : StreamOp) : Program StreamOp StreamOp.Res op.Res :=
  Program.request op

open StreamOp (perform)

/-- Send the events, one after another. -/
def listen : List SseLikeEvent → Program StreamOp StreamOp.Res Unit
  | [] => return ()
  | event :: events => do
      perform (.txSend event)
      listen events

/-- `sseStream` is the body of `loop`, and `drain` that of `while let Ok(ev) = rx.try_recv()`
with what comes after it. -/
def StreamCall.body : StreamCall → Program StreamOp StreamOp.Res (StreamCall ⊕ StreamReply)
  | .sseStream => do
      match ← perform .select with
      | .tick now =>
          perform (.yieldFrame (.heartbeat now))
          return .inl .sseStream
      | .cancelled now =>
          perform (.yieldFrame (.shutdown now))
          return .inr .ended
      | .received (.ok event) =>
          perform (.yieldFrame (.live event))
          return .inl .sseStream
      | .received (.error (.lagged _)) => return .inl (.drain none)
      | .received (.error .closed) => return .inr .ended
  | .drain latestEvent => do
      match ← perform .tryRecv with
      | .ok ev => return .inl (.drain (some ev))
      | .error _ =>
          perform (.yieldFrame (.resync latestEvent))
          return .inl .sseStream
  | .listener events => do
      listen events
      return .inr .listened
  | .dropSender => do
      perform .dropSender
      return .inr .listened

/-- One client beside the calls that send to its channel. -/
@[reducible] def sseStreaming : System where
  Op := StreamOp
  Res := StreamOp.Res
  State := ClientStream
  Env := StreamEnv
  Call := StreamCall
  Reply := StreamReply
  body := StreamCall.body
  handle := ClientStream.handle

/-- A client that subscribes to a channel after the given events. -/
def ClientStream.subscribe (capacity : Nat) (positive : 0 < capacity)
    (past : List SseLikeEvent) : ClientStream where
  receiver := .subscribe capacity positive past
  frames := []

end SocialApi
