/-
Module: SocialApi.Proofs.StoreKeys
Purpose: The keys that counts, leaderboards, verdicts and rate limits are kept under in Redis,
  and the keys of the maps in memory: no two entries share one.
Trusted boundary: none
Main exports:
  AcceptedWindow, Client, clientOf, extractKey_clientOf, StoreEntry, StoreEntry.key,
  StoreEntry.key_inj, keys_apart
-/
import SocialApi.Infrastructure.RateLimit
import SocialApi.Proofs.Leaderboard
import SocialApi.Proofs.NegativeCaching
import SocialApi.Proofs.EventDelivery

namespace SocialApi

open RedisLikeRepository
open LikeService (windowStart formatLockKey formatLockKey_inj)
open HttpExternalValidator (contentKey)
open SseManager (getKey)

/-! ### What is kept in Redis -/

/-- A window that `get_top_likes` goes on with. -/
structure AcceptedWindow where
  name : String
  accepted : ∃ now, (windowStart now name).isSome = true

theorem AcceptedWindow.plain (window : AcceptedWindow) : ':' ∉ window.name.toList := by
  obtain ⟨now, accepted⟩ := window.accepted
  obtain ⟨since, valid⟩ := Option.isSome_iff_exists.mp accepted
  exact colon_notMem_of_windowStart valid

theorem AcceptedWindow.ext_name {window other : AcceptedWindow} (same : window.name = other.name) :
    window = other := by
  cases window
  cases other
  cases same
  rfl

/-- Who a limited request is counted for. -/
inductive Client (IpAddr : Type) where
  | user (userId : UserId)
  | address (ip : IpAddr)
  | unknown

section Clients

variable {IpAddr : Type}

/-- The user of a request comes before its address. -/
def clientOf : Option UserId → Option IpAddr → Client IpAddr
  | some userId, _ => .user userId
  | none, some ip => .address ip
  | none, none => .unknown

/-- What the layer sees of a request, given how an address prints. -/
def limitedRequest (display : IpAddr → String) (userId : Option UserId) (ip : Option IpAddr)
    (limit window : Nat) : LimitedRequest where
  userId := userId
  ip := ip.map display
  limit := limit
  window := window

/-- The bucket of a client. -/
def Client.bucketKey (display : IpAddr → String) : Client IpAddr → String
  | .user userId => extractKey (limitedRequest display (some userId) none 0 0)
  | .address ip => extractKey (limitedRequest display none (some ip) 0 0)
  | .unknown => extractKey (limitedRequest display none none 0 0)

/-- A request is counted in the bucket of its client, whatever its route. -/
theorem extractKey_clientOf (display : IpAddr → String) (userId : Option UserId)
    (ip : Option IpAddr) (limit window : Nat) :
    extractKey (limitedRequest display userId ip limit window) =
      (clientOf userId ip).bucketKey display := by
  cases userId with
  | some userId => rfl
  | none => cases ip <;> rfl

theorem Client.bucketKey_user (display : IpAddr → String) (userId : UserId) :
    (Client.user userId).bucketKey display = "rl:user:" ++ userId.uuid.text := rfl

theorem Client.bucketKey_address (display : IpAddr → String) (ip : IpAddr) :
    (Client.address ip).bucketKey display = "rl:ip:" ++ display ip := rfl

theorem Client.bucketKey_unknown (display : IpAddr → String) :
    Client.unknown.bucketKey display = "rl:unknown" := rfl

/-- The two characters that tell users, addresses and the rest apart. -/
def Client.mark : Client IpAddr → List (Option Char)
  | .user _ => [some 'u', some 's']
  | .address _ => [some 'i', some 'p']
  | .unknown => [some 'u', some 'n']

theorem Client.mark_eq (display : IpAddr → String) (client : Client IpAddr) :
    client.mark = [(client.bucketKey display).toList[3]?,
      (client.bucketKey display).toList[4]?] := by
  cases client with
  | user userId =>
      rw [bucketKey_user, String.toList_append]
      rfl
  | address ip =>
      rw [bucketKey_address, String.toList_append]
      rfl
  | unknown =>
      rw [bucketKey_unknown]
      rfl

/-- Clients with one bucket are one client, if addresses that print alike are one address. -/
theorem Client.bucketKey_inj {display : IpAddr → String} (injective : Function.Injective display)
    {client other : Client IpAddr} (same : client.bucketKey display = other.bucketKey display) :
    client = other := by
  have marks : client.mark = other.mark := by
    rw [client.mark_eq display, other.mark_eq display, same]
  cases client with
  | user userId =>
      cases other with
      | user otherId =>
          have chars := congrArg String.toList same
          simp only [bucketKey_user, String.toList_append, Uuid.text,
            String.toList_ofList] at chars
          have ids := Uuid.chars_inj (List.append_cancel_left chars)
          cases userId
          cases otherId
          cases ids
          rfl
      | _ => exact absurd marks (by simp [mark])
  | address ip =>
      cases other with
      | address otherIp =>
          have chars := congrArg String.toList same
          simp only [bucketKey_address, String.toList_append] at chars
          have printed := String.toList_inj.mp (List.append_cancel_left chars)
          rw [injective printed]
      | _ => exact absurd marks (by simp [mark])
  | unknown =>
      cases other with
      | unknown => rfl
      | _ => exact absurd marks (by simp [mark])

end Clients

/-- An entry of Redis, by its kind and what it is about. -/
inductive StoreEntry (IpAddr : Type) where
  | count (contentType : ContentType) (contentId : ContentId)
  | leaderboard (kind : LeadKeyType) (window : AcceptedWindow) (contentType : ContentType)
  | verdict (subject : Subject)
  | bucket (client : Client IpAddr)

namespace StoreEntry

variable {IpAddr : Type} {display : IpAddr → String}

def key (display : IpAddr → String) : StoreEntry IpAddr → String
  | .count contentType contentId => formatCountKey contentType contentId
  | .leaderboard kind window contentType => formatLeadKey kind window.name contentType
  | .verdict subject => subject.key
  | .bucket client => client.bucketKey display

/-- The first character of a key tells the kind. -/
def initial : StoreEntry IpAddr → Char
  | .count .. => 'c'
  | .leaderboard .. => 'l'
  | .verdict _ => 'v'
  | .bucket _ => 'r'

theorem head?_key (display : IpAddr → String) (entry : StoreEntry IpAddr) :
    (entry.key display).toList.head? = some entry.initial := by
  cases entry with
  | count contentType contentId =>
      simp only [key, formatCountKey, String.toList_append]
      rfl
  | leaderboard kind window contentType =>
      simp only [key, formatLeadKey_toList]
      rfl
  | verdict subject =>
      cases subject with
      | user token =>
          simp only [key, Subject.key, HttpExternalValidator.userKey, String.toList_append]
          rfl
      | content cType cId =>
          simp only [key, Subject.key, contentKey, String.toList_append]
          rfl
  | bucket client =>
      cases client with
      | user userId =>
          simp only [key, Client.bucketKey_user, String.toList_append]
          rfl
      | address ip =>
          simp only [key, Client.bucketKey_address, String.toList_append]
          rfl
      | unknown =>
          simp only [key, Client.bucketKey_unknown]
          rfl

/-- No two entries share a key. -/
theorem key_inj (injective : Function.Injective display) :
    Function.Injective (key display) := by
  intro entry other same
  have initials : entry.initial = other.initial := by
    apply Option.some.inj
    rw [← head?_key display, ← head?_key display, same]
  cases entry with
  | count contentType contentId =>
      cases other with
      | count otherType otherId =>
          obtain ⟨rfl, rfl⟩ := formatCountKey_inj same
          rfl
      | _ => exact absurd initials (by simp [initial])
  | leaderboard kind window contentType =>
      cases other with
      | leaderboard otherKind otherWindow otherType =>
          obtain ⟨rfl, _⟩ := formatLeadKey_split same
          obtain ⟨windows, rfl⟩ := formatLeadKey_inj window.plain otherWindow.plain same
          rw [AcceptedWindow.ext_name windows]
      | _ => exact absurd initials (by simp [initial])
  | verdict subject =>
      cases other with
      | verdict otherSubject => rw [Subject.key_inj same]
      | _ => exact absurd initials (by simp [initial])
  | bucket client =>
      cases other with
      | bucket otherClient => rw [Client.bucketKey_inj injective same]
      | _ => exact absurd initials (by simp [initial])

end StoreEntry

/-! ### Every map -/

/-- No two logical entries share a key: neither two of the entries of Redis, whatever they are
about, nor two flight locks, two validations in flight, two channels of the listener or two
channels of Redis.  A request is counted under the key of its client. -/
theorem keys_apart {IpAddr : Type} {display : IpAddr → String}
    (injective : Function.Injective display) :
    Function.Injective (StoreEntry.key display) ∧
      Function.Injective (fun item : ContentItem =>
        formatLockKey item.contentType item.contentId) ∧
      Function.Injective (fun item : ContentItem =>
        contentKey item.contentType item.contentId) ∧
      Function.Injective (fun item : ContentItem => getKey item.contentType item.contentId) ∧
      Function.Injective (fun item : ContentItem =>
        formatChannelKey item.contentType item.contentId) ∧
      ∀ userId ip limit window, extractKey (limitedRequest display userId ip limit window) =
        (StoreEntry.bucket (clientOf userId ip)).key display := by
  have about : ∀ {format : ContentType → ContentId → String},
      (∀ {contentType otherType : ContentType} {contentId otherId : ContentId},
        format contentType contentId = format otherType otherId →
          contentType = otherType ∧ contentId = otherId) →
      Function.Injective fun item : ContentItem => format item.contentType item.contentId := by
    rintro format parts ⟨contentType, contentId⟩ ⟨otherType, otherId⟩ same
    obtain ⟨rfl, rfl⟩ := parts same
    rfl
  refine ⟨StoreEntry.key_inj injective, about formatLockKey_inj, about ?_,
    about getKey_inj, about ?_, extractKey_clientOf display⟩
  · exact ContentId.key_inj "val:content:"
  · exact ContentId.key_inj "sse:events:"

/-- Two addresses, as the standard library prints them. -/
def loopback : Bool → String
  | true => "127.0.0.1"
  | false => "::1"

theorem keys_apart_loopback :
    Function.Injective (StoreEntry.key loopback) ∧
      Function.Injective (fun item : ContentItem =>
        formatLockKey item.contentType item.contentId) ∧
      Function.Injective (fun item : ContentItem =>
        contentKey item.contentType item.contentId) ∧
      Function.Injective (fun item : ContentItem => getKey item.contentType item.contentId) ∧
      Function.Injective (fun item : ContentItem =>
        formatChannelKey item.contentType item.contentId) ∧
      ∀ userId ip limit window, extractKey (limitedRequest loopback userId ip limit window) =
        (StoreEntry.bucket (clientOf userId ip)).key loopback :=
  keys_apart (by decide)

end SocialApi
