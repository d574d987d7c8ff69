/-
Module: SocialApi.Proofs.SseListener
Purpose: Which histories the SSE listener survives: it blocks on its own map guard
  exactly when it would have cleaned up.
Trusted boundary: none
Main exports:
  Idle, Abandoned, CleanedUp, serve_payload_iff, serveAll_some,
  listener_sound_iff, listener_blocks_itself
-/
import SocialApi.Application.Sse

namespace SocialApi

open Process
open SseManager

/-- No guard is alive: between two events nobody is inside the map. -/
def Idle (manager : SseManager) : Prop := ∀ shard, manager.refs shard = 0

/-- The payload is for a channel that no receiver is left on. -/
def Abandoned (setting : SseSetting) (manager : SseManager) (payload : String) : Prop :=
  ∃ key channel, target setting payload = some key ∧
    manager.channels key = some channel ∧ channel.receivers = 0

/-- After the payload, the channel it is for is gone if it had no receiver, and
every channel with a receiver is still there. -/
def CleanedUp (setting : SseSetting) (payload : String)
    (manager next : SseManager) : Prop :=
  (∀ key channel, target setting payload = some key →
      manager.channels key = some channel → channel.receivers = 0 →
        next.channels key = none) ∧
    ∀ key channel, manager.channels key = some channel → channel.receivers ≠ 0 →
      ∃ kept, next.channels key = some kept ∧ kept.receivers = channel.receivers

/-! ### One event -/

theorem serve_subscribe {setting : SseSetting} {manager : SseManager}
    (idle : Idle manager) (contentType : ContentType) (contentId : ContentId) :
    ∃ next, serve setting manager (.subscribe contentType contentId) = some next ∧
      Idle next := by
  simp [serve, body, subscribe, Program.request, Program.run, handle, idle _]
  exact idle

theorem serve_disconnect {setting : SseSetting} {manager : SseManager}
    (idle : Idle manager) (contentType : ContentType) (contentId : ContentId) :
    ∃ next, serve setting manager (.disconnect contentType contentId) = some next ∧
      Idle next := by
  refine ⟨_, rfl, ?_⟩
  exact idle

/-- A payload that is for nobody's channel changes nothing. -/
theorem serve_payload_unknown {setting : SseSetting} {manager : SseManager}
    {payload : String}
    (unknown : ∀ key, target setting payload = some key → manager.channels key = none) :
    serve setting manager (.payload payload) = some manager := by
  simp only [serve, body, handleIncomingPayload]
  unfold target at unknown
  cases read : setting.fromStr payload with
  | none => rfl
  | some event =>
  cases addressed : address event with
  | none => simp [addressed]
  | some chanKey =>
  have missing := unknown chanKey (by rw [read]; exact addressed)
  simp [addressed, handle, Program.run, missing]

/-- A payload for a watched channel is sent, and the guard is dropped. -/
theorem serve_payload_watched {setting : SseSetting} {manager : SseManager}
    {payload key : String} {event : SseLikeEvent} {channel : Channel} (idle : Idle manager)
    (read : setting.fromStr payload = some event) (addressed : address event = some key)
    (present : manager.channels key = some channel) (watched : channel.receivers ≠ 0) :
    serve setting manager (.payload payload) =
      some (manager.onChannel key fun found =>
        { found with sent := found.sent ++ [event] }) := by
  have dropped : Function.update manager.refs (setting.shardOf key) 0 = manager.refs :=
    Function.update_eq_iff.mpr ⟨(idle _).symm, fun _ _ => rfl⟩
  simp only [serve, body, handleIncomingPayload, read, addressed, Program.request_bind,
    Program.run, handle, present]
  simp [Program.request, Program.run, handle, onChannel, receiversOf, present, watched,
    idle _, dropped]

/-- A payload for an abandoned channel never finishes: `remove` waits for the
guard that the method itself holds. -/
theorem serve_payload_abandoned {setting : SseSetting} {manager : SseManager}
    {payload : String} (abandoned : Abandoned setting manager payload) :
    serve setting manager (.payload payload) = none := by
  obtain ⟨key, channel, aimed, present, empty⟩ := abandoned
  obtain ⟨event, read, addressed⟩ := Option.bind_eq_some_iff.mp aimed
  simp only [serve, body, handleIncomingPayload, read, addressed, Program.request_bind,
    Program.run, handle, present]
  simp [Program.run, handle, receiversOf, present, empty]

/-- Any other payload is handled and cleaned up after, and leaves no guard. -/
theorem serve_payload_finishes {setting : SseSetting} {manager : SseManager}
    {payload : String} (idle : Idle manager)
    (notAbandoned : ¬ Abandoned setting manager payload) :
    ∃ next, serve setting manager (.payload payload) = some next ∧
      CleanedUp setting payload manager next ∧ Idle next := by
  have watched : ∀ key channel, target setting payload = some key →
      manager.channels key = some channel → channel.receivers ≠ 0 :=
    fun key channel aimed present empty =>
      notAbandoned ⟨key, channel, aimed, present, empty⟩
  by_cases known : ∃ key channel, target setting payload = some key ∧
      manager.channels key = some channel
  · obtain ⟨key, channel, aimed, present⟩ := known
    obtain ⟨event, read, addressed⟩ := Option.bind_eq_some_iff.mp aimed
    have served :=
      serve_payload_watched idle read addressed present (watched key channel aimed present)
    refine ⟨_, served, ⟨fun other found aimedOther presentOther empty =>
      absurd empty (watched other found aimedOther presentOther), ?_⟩, idle⟩
    intro other found presentOther _
    by_cases same : other = key
    · subst same
      exact ⟨{ found with sent := found.sent ++ [event] },
        by simp [onChannel, presentOther], rfl⟩
    · exact ⟨found, by simp [onChannel, same, presentOther], rfl⟩
  · have unknown : ∀ key, target setting payload = some key →
        manager.channels key = none := by
      intro key aimed
      by_contra present
      obtain ⟨channel, present⟩ := Option.ne_none_iff_exists'.mp present
      exact known ⟨key, channel, aimed, present⟩
    refine ⟨manager, serve_payload_unknown unknown, ⟨?_, ?_⟩, idle⟩
    · intro key channel aimed present _
      exact absurd ⟨key, channel, aimed, present⟩ known
    · intro key channel present _
      exact ⟨channel, present, rfl⟩

/-- An event finishes and leaves no guard, unless it is a payload for an abandoned
channel. -/
theorem serve_finishes {setting : SseSetting} {manager : SseManager} {event : SseEvent}
    (idle : Idle manager)
    (notAbandoned : ∀ payload, event = .payload payload →
      ¬ Abandoned setting manager payload) :
    ∃ next, serve setting manager event = some next ∧ Idle next := by
  cases event with
  | subscribe contentType contentId => exact serve_subscribe idle contentType contentId
  | disconnect contentType contentId => exact serve_disconnect idle contentType contentId
  | payload payload =>
      obtain ⟨next, served, _, idleNext⟩ :=
        serve_payload_finishes idle (notAbandoned payload rfl)
      exact ⟨next, served, idleNext⟩

/-! ### Whole histories -/

/-- Every payload of the history is handled, with the clean-up that goes with it. -/
def ListenerSound (setting : SseSetting) (history : List SseEvent) : Prop :=
  ∀ before payload after, history = before ++ .payload payload :: after →
    ∃ manager next, serveAll setting .new before = some manager ∧
      serve setting manager (.payload payload) = some next ∧
      CleanedUp setting payload manager next

/-- No payload of the history finds its channel without a receiver. -/
def NeverAbandoned (setting : SseSetting) (history : List SseEvent) : Prop :=
  ∀ before payload after, history = before ++ .payload payload :: after →
    ∀ manager, serveAll setting .new before = some manager →
      ¬ Abandoned setting manager payload

theorem serveAll_concat (setting : SseSetting) (manager : SseManager)
    (history : List SseEvent) (event : SseEvent) :
    serveAll setting manager (history ++ [event]) =
      (serveAll setting manager history).bind fun reached =>
        serve setting reached event := by
  simp [serveAll, List.foldlM_append]

/-- A history without such a payload is served to its end. -/
theorem serveAll_some {setting : SseSetting} {history : List SseEvent}
    (never : NeverAbandoned setting history) :
    ∃ manager, serveAll setting .new history = some manager ∧ Idle manager := by
  induction history using List.reverseRecOn with
  | nil => exact ⟨.new, rfl, fun _ => rfl⟩
  | append_singleton history event inductionHypothesis =>
      obtain ⟨manager, served, idle⟩ := inductionHypothesis
        fun before payload after split =>
          never before payload (after ++ [event]) (by simp [split])
      have reached : ∀ payload, event = .payload payload →
          ¬ Abandoned setting manager payload := by
        intro payload same
        exact never history payload [] (by rw [same]) manager served
      obtain ⟨next, finished, idleNext⟩ := serve_finishes idle reached
      refine ⟨next, ?_, idleNext⟩
      rw [serveAll_concat, served]
      exact finished

/-- The listener handles every payload of a history exactly when no payload comes
for an item that was watched once and has no watcher left. -/
theorem listener_sound_iff (setting : SseSetting) (history : List SseEvent) :
    ListenerSound setting history ↔ NeverAbandoned setting history := by
  constructor
  · intro sound before payload after split manager served abandoned
    obtain ⟨_, next, same, finished, _⟩ := sound before payload after split
    rw [served] at same
    obtain rfl := Option.some.inj same
    rw [serve_payload_abandoned abandoned] at finished
    cases finished
  · intro never before payload after split
    have earlier : NeverAbandoned setting before := by
      intro first other rest splitBefore
      exact never first other (rest ++ .payload payload :: after) (by
        rw [split, splitBefore, List.append_assoc, List.cons_append])
    obtain ⟨manager, served, idle⟩ := serveAll_some earlier
    obtain ⟨next, finished, cleaned, _⟩ :=
      serve_payload_finishes idle (never before payload after split manager served)
    exact ⟨manager, next, served, finished, cleaned⟩

/-- The channel of the examples, and the text of an event on it. -/
def likeOfPost : SseLikeEvent where
  event := .like
  contentType := some ⟨"post"⟩
  contentId := some ⟨9⟩
  userId := some ⟨1⟩
  count := some 1
  timestamp := 0

/-- A reader that knows one payload, and a map with a single shard. -/
def oneShard : SseSetting where
  fromStr := fun text =>
    if text = likeOfPost.plainJson unaryInstant then some likeOfPost else none
  shardOf := fun _ => 0

/-- A client comes and goes, and the next like of the item blocks the listener. -/
theorem listener_blocks_itself :
    ¬ ListenerSound oneShard
      [.subscribe ⟨"post"⟩ ⟨9⟩, .disconnect ⟨"post"⟩ ⟨9⟩,
        .payload (likeOfPost.plainJson unaryInstant)] := by
  intro sound
  obtain ⟨manager, next, served, finished, _⟩ := sound
    [.subscribe ⟨"post"⟩ ⟨9⟩, .disconnect ⟨"post"⟩ ⟨9⟩]
    (likeOfPost.plainJson unaryInstant) [] rfl
  have blocked : ((serveAll oneShard .new
      [.subscribe ⟨"post"⟩ ⟨9⟩, .disconnect ⟨"post"⟩ ⟨9⟩]).bind fun reached =>
        serve oneShard reached (.payload (likeOfPost.plainJson unaryInstant))).isNone =
      true := by
    decide +kernel
  rw [served, Option.bind_some, finished] at blocked
  cases blocked

end SocialApi
