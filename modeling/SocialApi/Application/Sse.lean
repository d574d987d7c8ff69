/-
Module: SocialApi.Application.Sse
Purpose: The channel map of SseManager with the guards of its shards, and the
  methods that work on it.
Trusted boundary: human-reviewed model of application/sse.rs, of DashMap's
  documented lock rule and of tokio's broadcast channel; the JSON reader and the
  assignment of keys to shards are parameters
Main exports:
  SseManager, SseOp, SseManager.handle, subscribe, handleIncomingPayload, SseEvent,
  SseManager.serve, SseManager.serveAll
-/
import SocialApi.Api.Dto
import SocialApi.Process.Program

namespace SocialApi

open Process

/-- A `broadcast::Sender`, seen through its live receivers and what it has sent to
them. -/
structure Channel where
  receivers : Nat
  sent : List SseLikeEvent

/-- The map of `SseManager`, and for each shard the number of live `Ref`s, each of
which holds a read lock on the shard. -/
structure SseManager where
  channels : String → Option Channel
  refs : Nat → Nat

/-- The parameters of the module: `serde_json::from_str` and the shard a key is
in. -/
structure SseSetting where
  fromStr : String → Option SseLikeEvent
  shardOf : String → Nat

/-- The steps on the map and its channels. -/
inductive SseOp where
  | channelsEntrySubscribe (key : String)
  | channelsGet (key : String)
  | dropRef (key : String)
  | channelsRemove (key : String)
  | txSend (key : String) (event : SseLikeEvent)
  | txReceiverCount (key : String)
  | dropReceiver (key : String)

/-- What each step answers: `channelsGet` whether it returned a `Ref`, `txSend`
whether it failed. -/
@[reducible] def SseOp.Res : SseOp → Type
  | .channelsEntrySubscribe _ => Unit
  | .channelsGet _ => Bool
  | .dropRef _ => Unit
  | .channelsRemove _ => Unit
  | .txSend _ _ => Bool
  | .txReceiverCount _ => Nat
  | .dropReceiver _ => Unit

namespace SseManager

def new : SseManager where
  channels := fun _ => none
  refs := fun _ => 0

/-- The receivers a channel of the map has. -/
def receiversOf (manager : SseManager) (key : String) : Nat :=
  match manager.channels key with
  | none => 0
  | some channel => channel.receivers

/-- Change the channel of a key, if there is one. -/
def onChannel (manager : SseManager) (key : String) (change : Channel → Channel) :
    SseManager :=
  { manager with
    channels := Function.update manager.channels key
      ((manager.channels key).map change) }

/-- One step, or `none` while it waits for the lock of its shard: `entry` and
`remove` write, and cannot proceed while a `Ref` into the shard is alive. -/
def handle (setting : SseSetting) (_ : Unit) :
    (op : SseOp) → SseManager → Option (op.Res × SseManager × List Empty)
  | .channelsEntrySubscribe key, manager =>
      if manager.refs (setting.shardOf key) ≠ 0 then none
      else
        let channel := (manager.channels key).getD { receivers := 0, sent := [] }
        some ((), { manager with
          channels := Function.update manager.channels key
            (some { channel with receivers := channel.receivers + 1 }) }, [])
  | .channelsGet key, manager =>
      match manager.channels key with
      | none => some (false, manager, [])
      | some _ =>
          some (true, { manager with
            refs := Function.update manager.refs (setting.shardOf key)
              (manager.refs (setting.shardOf key) + 1) }, [])
  | .dropRef key, manager =>
      some ((), { manager with
        refs := Function.update manager.refs (setting.shardOf key)
          (manager.refs (setting.shardOf key) - 1) }, [])
  | .channelsRemove key, manager =>
      if manager.refs (setting.shardOf key) ≠ 0 then none
      else some ((), { manager with
        channels := Function.update manager.channels key none }, [])
  | .txSend key event, manager =>
      if manager.receiversOf key = 0 then some (true, manager, [])
      else some (false, manager.onChannel key fun channel =>
        { channel with sent := channel.sent ++ [event] }, [])
  | .txReceiverCount key, manager => some (manager.receiversOf key, manager, [])
  | .dropReceiver key, manager =>
      some ((), manager.onChannel key fun channel =>
        { channel with receivers := channel.receivers - 1 }, [])

/-! ### Methods -/

/-- A method body. -/
abbrev Method := Program SseOp SseOp.Res

/-- Take one step. -/
abbrev perform (op : SseOp) : Method op.Res := Program.request op

def getKey (contentType : ContentType) (contentId : ContentId) : String :=
  contentType.name ++ ":" ++ contentId.uuid.text

/-- The guard of `entry` is dropped when `subscribe` returns. -/
def subscribe (contentType : ContentType) (contentId : ContentId) : Method Unit :=
  perform (.channelsEntrySubscribe (getKey contentType contentId))

/-- The item an event is about. -/
def address (event : SseLikeEvent) : Option String :=
  match event.contentType, event.contentId with
  | some contentType, some contentId => some (getKey contentType contentId)
  | _, _ => none

/-- `tx`, the `Ref` of the channel, lives to the end of the method. -/
def handleIncomingPayload (setting : SseSetting) (payload : String) : Method Unit := do
  match setting.fromStr payload with
  | none => return ()
  | some event =>
  match address event with
  | none => return ()
  | some chanKey =>
  if ← perform (.channelsGet chanKey) then
    if ← perform (.txSend chanKey event) then
      let receiverCount ← perform (.txReceiverCount chanKey)
      if receiverCount = 0 then
        -- `remove` while `tx` is alive
        perform (.channelsRemove chanKey)
        perform (.dropRef chanKey)
      else
        perform (.dropRef chanKey)
    else
      perform (.dropRef chanKey)
  else
    return ()

end SseManager

/-! ### Histories -/

/-- What happens to the manager, one thing after another. -/
inductive SseEvent where
  | subscribe (contentType : ContentType) (contentId : ContentId)
  | disconnect (contentType : ContentType) (contentId : ContentId)
  | payload (text : String)

namespace SseManager

/-- The channel key a payload is for. -/
def target (setting : SseSetting) (payload : String) : Option String :=
  (setting.fromStr payload).bind address

/-- What an event runs: a disconnecting client drops its receiver. -/
def body (setting : SseSetting) : SseEvent → Method Unit
  | .subscribe contentType contentId => subscribe contentType contentId
  | .disconnect contentType contentId =>
      perform (.dropReceiver (getKey contentType contentId))
  | .payload text => handleIncomingPayload setting text

/-- The manager after an event, `none` when the event never finishes: with no
other event running, a step that waits waits for ever. -/
def serve (setting : SseSetting) (manager : SseManager) (event : SseEvent) :
    Option SseManager :=
  ((body setting event).run (handle setting) (fun _ => ()) manager).map
    fun result => result.2.1

/-- The manager after a history. -/
def serveAll (setting : SseSetting) (manager : SseManager) (history : List SseEvent) :
    Option SseManager :=
  history.foldlM (serve setting) manager

end SseManager

end SocialApi
