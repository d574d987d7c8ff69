/-
Module: SocialApi.Api.EventJson
Purpose: SseLikeEvent as JSON: what its derived writer leaves out, and what its derived
  reader accepts.
Trusted boundary: human-reviewed model of the serde attributes in api/dto.rs; the texts of
  JSON values, uuids and instants are parameters that are read back as they were written
Main exports:
  JsonForms, JsonForms.toValue, JsonForms.fromValue, JsonForms.eventText,
  JsonForms.fromStr, JsonForms.ReadBack, fromStr_eventText, JsonForms.showing
-/
import SocialApi.Api.Dto
import SocialApi.Codec.Json
import SocialApi.Infrastructure.Redis

namespace SocialApi

/-! ### The variants of an event -/

namespace SseEventType

/-- `rename_all = "snake_case"` -/
def name : SseEventType → String
  | .like => "like"
  | .unlike => "unlike"
  | .heartbeat => "heartbeat"
  | .shutdown => "shutdown"

def fromName : String → Option SseEventType
  | "like" => some .like
  | "unlike" => some .unlike
  | "heartbeat" => some .heartbeat
  | "shutdown" => some .shutdown
  | _ => none

@[simp] theorem fromName_name (event : SseEventType) : fromName event.name = some event := by
  cases event <;> rfl

theorem name_injective : Function.Injective name := by
  intro a b same
  apply Option.some.inj
  rw [← fromName_name a, same, fromName_name]

/-- A unit variant is its name, or an object that maps its name to `null`. -/
def fromValue : JsonValue → Option SseEventType
  | .string text => fromName text
  | .object [(text, .null)] => fromName text
  | _ => none

end SseEventType

/-! ### Third-party texts -/

/-- The text forms of serde_json, chrono and uuid. -/
structure JsonForms where
  toText : JsonValue → String
  fromText : String → Option JsonValue
  rfc3339 : DateTime → String
  instant : String → Option DateTime
  parseUuid : String → Option Uuid

namespace JsonForms

/-- `ContentId` and `UserId` are written as the uuid inside. -/
def uuidValue (id : Uuid) : JsonValue := .string id.text

def uuidFrom (forms : JsonForms) : JsonValue → Option Uuid
  | .string text => forms.parseUuid text
  | _ => none

def contentTypeValue (contentType : ContentType) : JsonValue := .string contentType.name

def contentTypeFrom : JsonValue → Option ContentType
  | .string text => some ⟨text⟩
  | _ => none

def countValue (count : Nat) : JsonValue := .number count

/-- A `u64` -/
def countFrom : JsonValue → Option Nat
  | .number n => if 0 ≤ n ∧ n < 2 ^ 64 then some n.toNat else none
  | _ => none

def timestampFrom (forms : JsonForms) : JsonValue → Option DateTime
  | .string text => forms.instant text
  | _ => none

/-! ### The event -/

/-- `Serialize`: `content_type` and `content_id` are `null` when they are `None`, `user_id`
and `count` are left out. -/
def toValue (rfc3339 : DateTime → String) (event : SseLikeEvent) : JsonValue :=
  .object <|
    [("event", .string event.event.name),
      ("content_type", .ofOption contentTypeValue event.contentType),
      ("content_id", .ofOption (fun content => uuidValue content.uuid) event.contentId)] ++
    JsonValue.entryOfOption "user_id" (fun user => uuidValue user.uuid) event.userId ++
    JsonValue.entryOfOption "count" countValue event.count ++
    [("timestamp", .string (rfc3339 event.timestamp))]

variable (forms : JsonForms)

/-- The fields of an event, each as it was found. -/
def fromFields (kind contentType contentId userId count timestamp : Option JsonValue) :
    Option SseLikeEvent := do
  let kind ← JsonValue.required SseEventType.fromValue kind
  let contentType ← JsonValue.optional contentTypeFrom contentType
  let contentId ← JsonValue.optional forms.uuidFrom contentId
  let userId ← JsonValue.optional forms.uuidFrom userId
  let count ← JsonValue.optional countFrom count
  let timestamp ← JsonValue.required forms.timestampFrom timestamp
  return {
    event := kind
    contentType := contentType
    contentId := contentId.map ContentId.mk
    userId := userId.map UserId.mk
    count := count
    timestamp := timestamp }

/-- `Deserialize`: an object, whose unknown fields are passed over, or an array of the six
fields in order. -/
def fromValue : JsonValue → Option SseLikeEvent
  | .object entries => do
      let kind ← JsonValue.field "event" entries
      let contentType ← JsonValue.field "content_type" entries
      let contentId ← JsonValue.field "content_id" entries
      let userId ← JsonValue.field "user_id" entries
      let count ← JsonValue.field "count" entries
      let timestamp ← JsonValue.field "timestamp" entries
      forms.fromFields kind contentType contentId userId count timestamp
  | .array [kind, contentType, contentId, userId, count, timestamp] =>
      forms.fromFields (some kind) (some contentType) (some contentId) (some userId)
        (some count) (some timestamp)
  | _ => none

/-- `serde_json::to_string` -/
def eventText (event : SseLikeEvent) : String := forms.toText (toValue forms.rfc3339 event)

/-- `serde_json::from_str` -/
def fromStr (text : String) : Option SseLikeEvent :=
  (forms.fromText text).bind forms.fromValue

/-- Every text form is read back to the value written. -/
structure ReadBack : Prop where
  value : ∀ event, forms.fromText (forms.toText (toValue forms.rfc3339 event)) =
    some (toValue forms.rfc3339 event)
  instant : ∀ timestamp, forms.instant (forms.rfc3339 timestamp) = some timestamp
  uuid : ∀ id : Uuid, forms.parseUuid id.text = some id

end JsonForms

/-! ### Round trip -/

section RoundTrip

variable {forms : JsonForms}

open JsonForms
open JsonValue (field required ofOption entryOfOption optional_ofOption optional_entry)

theorem countFrom_countValue {count : Nat} (fits : count < 2 ^ 64) :
    countFrom (countValue count) = some count := by
  have inside : (0 : Int) ≤ count ∧ (count : Int) < 2 ^ 64 := by omega
  simp only [countValue, countFrom, if_pos inside, Int.toNat_natCast]

/-- The fields of a written event are those of the event. -/
theorem fields_toValue (forms : JsonForms) (event : SseLikeEvent) :
    ∃ entries, toValue forms.rfc3339 event = .object entries ∧
      field "event" entries = some (some (.string event.event.name)) ∧
      field "content_type" entries = some (some (ofOption contentTypeValue event.contentType)) ∧
      field "content_id" entries =
        some (some (ofOption (fun content => uuidValue content.uuid) event.contentId)) ∧
      field "user_id" entries = some (event.userId.map fun user => uuidValue user.uuid) ∧
      field "count" entries = some (event.count.map countValue) ∧
      field "timestamp" entries = some (some (.string (forms.rfc3339 event.timestamp))) := by
  refine ⟨_, rfl, ?_⟩
  cases event.userId <;> cases event.count <;>
    simp [field, entryOfOption]

/-- An event whose count is a `u64` is read back as it was written. -/
theorem fromStr_eventText (readBack : forms.ReadBack) {event : SseLikeEvent}
    (fits : ∀ count ∈ event.count, count < 2 ^ 64) :
    forms.fromStr (forms.eventText event) = some event := by
  obtain ⟨entries, written, kind, contentType, contentId, userId, count, timestamp⟩ :=
    fields_toValue forms event
  rw [fromStr, eventText, readBack.value, Option.bind_some, written]
  have typeBack : JsonValue.optional contentTypeFrom
      (some (ofOption contentTypeValue event.contentType)) = some event.contentType :=
    optional_ofOption (fun _ _ => rfl) (by rintro _ _ ⟨⟩)
  have idBack : JsonValue.optional forms.uuidFrom
      (some (ofOption (fun content : ContentId => uuidValue content.uuid) event.contentId)) =
        some (event.contentId.map ContentId.uuid) := by
    cases event.contentId with
    | none => rfl
    | some content => simp [JsonValue.optional, ofOption, uuidValue, uuidFrom, readBack.uuid]
  have userBack : JsonValue.optional forms.uuidFrom
      (event.userId.map fun user => uuidValue user.uuid) =
        some (event.userId.map UserId.uuid) := by
    cases event.userId with
    | none => rfl
    | some user => simp [JsonValue.optional, uuidValue, uuidFrom, readBack.uuid]
  have countBack : JsonValue.optional countFrom (event.count.map countValue) = some event.count :=
    optional_entry (fun count there => countFrom_countValue (fits count there))
      (by rintro _ _ ⟨⟩)
  simp only [fromValue, kind, contentType, contentId, userId, count, timestamp, fromFields,
    typeBack, idBack, userBack, countBack, required, SseEventType.fromValue,
    SseEventType.fromName_name, timestampFrom, readBack.instant, Option.bind_eq_bind,
    Option.bind_some]
  have sameId : (event.contentId.map ContentId.uuid).map ContentId.mk = event.contentId := by
    cases event.contentId <;> rfl
  have sameUser : (event.userId.map UserId.uuid).map UserId.mk = event.userId := by
    cases event.userId <;> rfl
  rw [sameId, sameUser]
  rfl

end RoundTrip

/-! ### An instance -/

instance : Countable SseLikeEvent := by
  have : Countable Char := Function.Injective.countable fun _ _ => Char.toNat_inj.mp
  have : Countable String := Function.Injective.countable fun _ _ => String.toList_inj.mp
  have : Countable ContentType :=
    Function.Injective.countable (f := ContentType.name) fun ⟨_⟩ ⟨_⟩ => congrArg _
  have : Countable ContentId :=
    Function.Injective.countable (f := ContentId.uuid) fun ⟨_⟩ ⟨_⟩ => congrArg _
  have : Countable UserId :=
    Function.Injective.countable (f := UserId.uuid) fun ⟨_⟩ ⟨_⟩ => congrArg _
  have : Countable SseEventType :=
    Function.Injective.countable SseEventType.name_injective
  have fields : Function.Injective fun event : SseLikeEvent => (event.event, event.contentType,
      event.contentId, event.userId, event.count, event.timestamp) := by
    rintro ⟨⟩ ⟨⟩ ⟨⟩
    rfl
  exact fields.countable

/-- The text of an event opens with a brace. -/
theorem plainJson_head (rfc3339 : DateTime → String) (event : SseLikeEvent) :
    (event.plainJson rfc3339).toList.head? = some '\x7b' := by
  have opens : ∃ rest, event.plainJson rfc3339 = "\x7b\"event\":\"" ++ rest := by
    unfold SseLikeEvent.plainJson
    simp only [String.append_assoc]
    exact ⟨_, rfl⟩
  have first : "\x7b\"event\":\"".toList.head? = some '\x7b' := by decide
  obtain ⟨rest, split⟩ := opens
  rw [split, String.toList_append, List.head?_append, first, Option.some_or]

open Classical in
/-- Text forms that write the given event as serde_json does, and the others in unary. -/
noncomputable def JsonForms.showing (shown : SseLikeEvent) : JsonForms where
  toText value :=
    if value = toValue unaryInstant shown then shown.plainJson unaryInstant
    else if written : ∃ event, toValue unaryInstant event = value then
      (JsonText.reference SseLikeEvent).toText written.choose
    else ""
  fromText text :=
    if text = shown.plainJson unaryInstant then some (toValue unaryInstant shown)
    else ((JsonText.reference SseLikeEvent).fromText text).map (toValue unaryInstant)
  rfc3339 := unaryInstant
  instant := Function.partialInv unaryInstant
  parseUuid := Function.partialInv Uuid.text

theorem JsonForms.showing_readBack (shown : SseLikeEvent) : (showing shown).ReadBack where
  value := by
    intro event
    by_cases same : toValue unaryInstant event = toValue unaryInstant shown
    · simp [showing, same]
    · have written : ∃ other, toValue unaryInstant other = toValue unaryInstant event :=
        ⟨event, rfl⟩
      have differs : (JsonText.reference SseLikeEvent).toText written.choose ≠
          shown.plainJson unaryInstant := by
        intro texts
        have head := plainJson_head unaryInstant shown
        simp only [← texts, JsonText.reference, String.toList_ofList,
          List.head?_replicate] at head
        split at head <;> simp at head
      simp only [showing, if_neg same, dif_pos written, if_neg differs]
      rw [(JsonText.reference SseLikeEvent).readBack, Option.map_some, written.choose_spec]
  instant := Function.partialInv_left unaryInstant_injective
  uuid := by
    apply Function.partialInv_left
    intro a b same
    apply Uuid.chars_inj
    simpa [Uuid.text] using congrArg String.toList same

end SocialApi
