/-
Module: SocialApi.Proofs.EventDelivery
Purpose: A published event reaches the channel of its own item, unchanged, and no other.
Trusted boundary: none
Main exports:
  getKey_inj, Watched, sseOf, delivered_to_item, event_reaches_its_subscribers,
  like_of_post_reaches_client
-/
import SocialApi.Api.EventJson
import SocialApi.Proofs.PublishedEvents
import SocialApi.Proofs.SseListener

namespace SocialApi

open Process
open SseManager

/-- A channel key names one content. -/
theorem getKey_inj {contentType otherType : ContentType} {contentId otherId : ContentId}
    (same : getKey contentType contentId = getKey otherType otherId) :
    contentType = otherType ∧ contentId = otherId := by
  apply ContentId.key_inj ""
  simpa [getKey, ContentType.asStr] using same

/-- Between two events, with every channel of the map watched by a client. -/
structure Watched (manager : SseManager) : Prop where
  idle : Idle manager
  live : ∀ key channel, manager.channels key = some channel → channel.receivers ≠ 0

/-- The listener that reads payloads with serde_json. -/
def sseOf (forms : JsonForms) (shardOf : String → Nat) : SseSetting where
  fromStr := forms.fromStr
  shardOf := shardOf

/-- The channel after an event about its item. -/
def Channel.sending (channel : Channel) (event : SseLikeEvent) : Channel :=
  { channel with sent := channel.sent ++ [event] }

section Delivery

variable {setting : SseSetting} {manager : SseManager} {payload : String}
  {event : SseLikeEvent} {contentType : ContentType} {contentId : ContentId}

/-- A payload about an item changes the channel of the item alone. -/
theorem delivered_to_item (watched : Watched manager)
    (read : setting.fromStr payload = some event)
    (aboutType : event.contentType = some contentType)
    (aboutId : event.contentId = some contentId) :
    ∃ after, serve setting manager (.payload payload) = some after ∧ Watched after ∧
      after.channels = Function.update manager.channels (getKey contentType contentId)
        ((manager.channels (getKey contentType contentId)).map (·.sending event)) := by
  have addressed : address event = some (getKey contentType contentId) := by
    rw [address, aboutType, aboutId]
  cases present : manager.channels (getKey contentType contentId) with
  | none =>
      refine ⟨manager, ?_, watched, ?_⟩
      · apply serve_payload_unknown
        intro key aimed
        rw [target, read, Option.bind_some, addressed] at aimed
        rw [← Option.some.inj aimed, present]
      · rw [Option.map_none, ← present, Function.update_eq_self]
  | some channel =>
      have alive := watched.live _ channel present
      refine ⟨_, serve_payload_watched watched.idle read addressed present alive,
        ⟨watched.idle, ?_⟩, ?_⟩
      · intro key found there
        simp only [onChannel, Function.update_apply, present, Option.map_some] at there
        split at there
        · obtain rfl := Option.some.inj there
          exact alive
        · exact watched.live key found there
      · simp only [onChannel, present]
        rfl

end Delivery

/-- Between two events, with live receivers on every channel: an event of a change is
published as a payload that is handed to the subscribers of its own item, equal to the event
published, and to no others; a payload that is no event, or an event without an item, changes
nothing. -/
theorem event_reaches_its_subscribers (forms : JsonForms) (readBack : forms.ReadBack)
    (shardOf : String → Nat) (manager : SseManager) (watched : Watched manager) :
    (∀ (change : Change) (count : Nat) (timestamp : DateTime), count < 2 ^ 64 →
      ∃ channelKey payload after,
        RedisLikeRepository.publishLikeEvent forms.eventText none
          (change.event count timestamp) = .ok (channelKey, payload) ∧
        serve (sseOf forms shardOf) manager (.payload payload) = some after ∧
        ∀ contentType contentId, after.channels (getKey contentType contentId) =
          (manager.channels (getKey contentType contentId)).map fun channel =>
            { channel with
              sent := channel.sent ++
                if (contentType, contentId) = change.key.2 then [change.event count timestamp]
                else [] }) ∧
    ∀ payload, (∀ event, forms.fromStr payload = some event →
        event.contentType = none ∨ event.contentId = none) →
      serve (sseOf forms shardOf) manager (.payload payload) = some manager := by
  constructor
  · intro change count timestamp fits
    have read : (sseOf forms shardOf).fromStr (forms.eventText (change.event count timestamp)) =
        some (change.event count timestamp) := by
      apply fromStr_eventText readBack
      rintro _ ⟨⟩
      exact fits
    obtain ⟨after, served, _, channels⟩ := delivered_to_item watched read rfl rfl
    refine ⟨_, _, after, rfl, served, ?_⟩
    intro contentType contentId
    rw [channels]
    by_cases same : (contentType, contentId) = change.key.2
    · obtain ⟨kind, userId, _⟩ := change
      obtain rfl := same
      rw [Function.update_self]
      simp only [if_true]
      rfl
    · have elsewhere : getKey contentType contentId ≠ getKey change.key.2.1 change.key.2.2 := by
        intro equal
        obtain ⟨rfl, rfl⟩ := getKey_inj equal
        exact same rfl
      rw [Function.update_of_ne elsewhere]
      simp only [if_neg same, List.append_nil]
      exact Option.map_id'.symm
  · intro payload nowhere
    apply serve_payload_unknown
    intro key aimed
    obtain ⟨event, read, addressed⟩ := Option.bind_eq_some_iff.mp aimed
    rcases nowhere event read with noType | noId
    · rw [address, noType] at addressed
      cases addressed
    · rw [address, noId] at addressed
      cases found : event.contentType <;> rw [found] at addressed <;> cases addressed

/-- One client on the post. -/
def postWatched : SseManager where
  channels := Function.update (fun _ => none) (getKey ⟨"post"⟩ ⟨9⟩) (some ⟨1, []⟩)
  refs := fun _ => 0

theorem postWatched_watched : Watched postWatched where
  idle := fun _ => rfl
  live := by
    intro key channel there
    simp only [postWatched, Function.update_apply] at there
    split at there
    · obtain rfl := Option.some.inj there
      exact Nat.one_ne_zero
    · cases there

/-- The client is handed the like of the post. -/
theorem like_of_post_reaches_client :
    ∃ channelKey payload after,
      RedisLikeRepository.publishLikeEvent (JsonForms.showing likeOfPost).eventText none
        likeOfPost = .ok (channelKey, payload) ∧
      serve (sseOf (.showing likeOfPost) fun _ => 0) postWatched (.payload payload) =
        some after ∧
      after.channels (getKey ⟨"post"⟩ ⟨9⟩) = some ⟨1, [likeOfPost]⟩ := by
  have reaches := (event_reaches_its_subscribers (.showing likeOfPost)
    (JsonForms.showing_readBack likeOfPost) (fun _ => 0) postWatched postWatched_watched).1
      ⟨.like, ⟨1⟩, ⟨"post"⟩, ⟨9⟩⟩ 1 0 (by decide)
  obtain ⟨channelKey, payload, after, published, served, channels⟩ := reaches
  refine ⟨channelKey, payload, after, published, served, ?_⟩
  rw [channels]
  simp only [postWatched, Function.update_self]
  rfl

end SocialApi
