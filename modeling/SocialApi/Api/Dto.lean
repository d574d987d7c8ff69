/-
Module: SocialApi.Api.Dto
Purpose: Request and response shapes, and the text form of a pagination cursor.
Trusted boundary: human-reviewed model of api/dto.rs; the JSON reader and the
  RFC 3339 text of an instant are parameters with their documented round trip
Main exports:
  ContentItem, ContentCount, PaginationCursor, CursorJson,
  PaginationCursor.decodeOpt, PaginationCursor.decodeOpt_encode, SseLikeEvent
-/
import SocialApi.Codec.Base64
import SocialApi.Domain.Model

namespace SocialApi

/-- One requested pair of a batch endpoint. -/
structure ContentItem where
  contentType : ContentType
  contentId : ContentId
deriving DecidableEq, Repr

structure ContentCount where
  contentType : ContentType
  contentId : ContentId
  count : Nat
deriving DecidableEq, Repr

structure ContentStatus where
  contentType : ContentType
  contentId : ContentId
  liked : Bool
  likedAt : Option DateTime
deriving DecidableEq, Repr

structure CountResponse where
  contentType : String
  contentId : String
  count : Nat
deriving DecidableEq, Repr

structure StatusResponse where
  liked : Bool
  likedAt : Option DateTime
deriving DecidableEq, Repr

structure UnlikeResponse where
  liked : Bool
  wasLiked : Bool
  count : Nat
deriving DecidableEq, Repr

/-- `AddLikeCommandResult` -/
structure AddLikeCommandResult where
  liked : Bool
  alreadyExisted : Bool
  count : Nat
  likedAt : DateTime
deriving DecidableEq, Repr

/-- `AddLikeCommand` -/
structure AddLikeCommand where
  userId : UserId
  contentId : ContentId
  contentType : ContentType
deriving DecidableEq, Repr

structure LikedItemDto where
  contentType : String
  contentId : String
  likedAt : DateTime
deriving DecidableEq, Repr

/-- `impl From<Like> for LikedItemDto` -/
def LikedItemDto.ofLike (like : Like) : LikedItemDto :=
  { contentType := like.contentType.name
    contentId := like.contentId.uuid.text
    likedAt := like.createdAt }

structure UserLikesResponse where
  items : List LikedItemDto
  nextCursor : Option String
deriving DecidableEq, Repr

structure TopLikeItem where
  contentType : String
  contentId : String
  count : Int
deriving DecidableEq, Repr

/-- There are as many leaderboard rows as numbers. -/
instance : Countable TopLikeItem :=
  have : Countable Char := Function.Injective.countable fun _ _ => Char.toNat_inj.mp
  let parts : TopLikeItem → List Char × List Char × Int := fun item =>
    (item.contentType.toList, item.contentId.toList, item.count)
  have apart : Function.Injective parts := by
    rintro ⟨contentType, contentId, count⟩ ⟨otherType, otherId, otherCount⟩ same
    simp only [parts, Prod.mk.injEq, String.toList_inj] at same
    obtain ⟨rfl, rfl, rfl⟩ := same
    rfl
  apart.countable

structure TopLikesResponse where
  window : String
  contentType : ContentType
  items : List TopLikeItem
deriving DecidableEq, Repr

inductive SseEventType where
  | like
  | unlike
  | heartbeat
  | shutdown
deriving DecidableEq, Repr

structure SseLikeEvent where
  event : SseEventType
  contentType : Option ContentType
  contentId : Option ContentId
  userId : Option UserId
  count : Option Nat
  timestamp : DateTime
deriving DecidableEq, Repr

/-! ### Pagination cursors -/

structure PaginationCursor where
  t : DateTime
  id : Uuid
deriving DecidableEq, Repr

/-- The UTF-8 bytes of a text. -/
def utf8 (text : String) : List UInt8 := text.toList.flatMap String.utf8EncodeChar

/-- `serde_json::to_vec` of a cursor, given how chrono prints an instant. -/
def PaginationCursor.toVec (rfc3339 : DateTime → String) (cursor : PaginationCursor) :
    List UInt8 :=
  utf8 ("\x7b\"t\":\"" ++ rfc3339 cursor.t ++ "\",\"id\":\"" ++ cursor.id.text ++
    "\"\x7d")

/-- The third-party text forms behind a cursor: chrono's RFC 3339 text and
`serde_json::from_slice`, which reads back what `to_vec` wrote. -/
structure CursorJson where
  rfc3339 : DateTime → String
  fromSlice : List UInt8 → Option PaginationCursor
  readBack : ∀ cursor, fromSlice (cursor.toVec rfc3339) = some cursor

theorem utf8_inj {a b : String} (same : utf8 a = utf8 b) : a = b := by
  have bytes : a.toList.utf8Encode = b.toList.utf8Encode :=
    congrArg List.toByteArray same
  rw [String.utf8Encode_toList, String.utf8Encode_toList] at bytes
  exact String.toByteArray_inj.mp bytes

/-- Instants that print differently make different cursors. -/
theorem PaginationCursor.toVec_injective {rfc3339 : DateTime → String}
    (injective : Function.Injective rfc3339) :
    Function.Injective (PaginationCursor.toVec rfc3339) := by
  intro a b same
  have chars := congrArg String.toList (utf8_inj same)
  simp only [String.toList_append, Uuid.text, String.toList_ofList] at chars
  obtain ⟨front, ids⟩ :=
    List.append_inj' (List.append_cancel_right chars) (by simp)
  have times := List.append_cancel_left (List.append_cancel_right front)
  cases a
  cases b
  cases injective (String.toList_inj.mp times)
  cases Uuid.chars_inj ids
  rfl

/-- A text for every instant: the epoch as chrono prints it, the others in unary. -/
def unaryInstant (t : Int) : String :=
  if t = 0 then "1970-01-01T00:00:00Z"
  else String.ofList ((if 0 < t then '+' else '-') :: List.replicate t.natAbs '0')

theorem unaryInstant_injective : Function.Injective unaryInstant := by
  intro a b same
  have chars := congrArg String.toList same
  by_cases aZero : a = 0 <;> by_cases bZero : b = 0
  · rw [aZero, bZero]
  all_goals simp only [unaryInstant, aZero, bZero, if_true, if_false,
    String.toList_ofList] at chars
  · split at chars <;> cases chars
  · split at chars <;> cases chars
  · obtain ⟨signs, digits⟩ := List.cons.inj chars
    have sizes := congrArg List.length digits
    simp only [List.length_replicate] at sizes
    split at signs <;> split at signs <;> first | omega | cases signs

/-- An instance of the assumptions on cursors. -/
noncomputable def CursorJson.reference : CursorJson where
  rfc3339 := unaryInstant
  fromSlice := Function.partialInv (PaginationCursor.toVec unaryInstant)
  readBack := Function.partialInv_left
    (PaginationCursor.toVec_injective unaryInstant_injective)

/-- `serde_json::to_string` of an event, for names that need no escaping. -/
def SseLikeEvent.plainJson (rfc3339 : DateTime → String) (event : SseLikeEvent) :
    String :=
  let kind := match event.event with
    | .like => "like"
    | .unlike => "unlike"
    | .heartbeat => "heartbeat"
    | .shutdown => "shutdown"
  let quoted : Option String → String
    | none => "null"
    | some text => "\"" ++ text ++ "\""
  let userId := match event.userId with
    | none => ""
    | some user => ",\"user_id\":\"" ++ user.uuid.text ++ "\""
  let count := match event.count with
    | none => ""
    | some n => ",\"count\":" ++ toString n
  "\x7b\"event\":\"" ++ kind ++ "\",\"content_type\":" ++
    quoted (event.contentType.map ContentType.name) ++ ",\"content_id\":" ++
    quoted (event.contentId.map fun content => content.uuid.text) ++ userId ++ count ++
    ",\"timestamp\":\"" ++ rfc3339 event.timestamp ++ "\"\x7d"

/-- `serde_json::to_string` of a leaderboard, for names that need no escaping. -/
def TopLikeItem.plainJson (items : List TopLikeItem) : String :=
  "[" ++ String.intercalate "," (items.map fun item =>
    "\x7b\"content_type\":\"" ++ item.contentType ++ "\",\"content_id\":\"" ++
      item.contentId ++ "\",\"count\":" ++ toString item.count ++ "\x7d") ++ "]"

/-- The text handed out as `next_cursor`. -/
def PaginationCursor.encode (json : CursorJson) (cursor : PaginationCursor) : String :=
  Base64.encode (cursor.toVec json.rfc3339)

/-- `PaginationCursor::decode_opt` -/
def PaginationCursor.decodeOpt (json : CursorJson) :
    Option String → Except DomainError (Option PaginationCursor)
  | none => .ok none
  | some text =>
      match Base64.decode text with
      | none => .error (.invalidCursor "Bad Base64")
      | some decoded =>
          match json.fromSlice decoded with
          | none => .error (.invalidCursor "Bad JSON")
          | some cursor => .ok (some cursor)

/-- An emitted cursor is read back as the cursor it was made from. -/
theorem PaginationCursor.decodeOpt_encode (json : CursorJson)
    (cursor : PaginationCursor) :
    PaginationCursor.decodeOpt json (some (cursor.encode json)) = .ok (some cursor) := by
  simp [decodeOpt, encode, Base64.decode_encode, json.readBack]

end SocialApi
