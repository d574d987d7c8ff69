/-
Module: SocialApi.Domain.Model
Purpose: Identifiers, entities and errors of the domain layer, with the text
  form of a uuid that every store key is built from.
Trusted boundary: human-reviewed model of domain/ and of the uuid crate's
  hyphenated display
Main exports:
  Uuid, Uuid.text, ContentId, ContentType, UserId, Like, DomainError,
  ValidationResult
-/
import Mathlib

namespace SocialApi

/-- A 128-bit identifier.  Postgres compares uuids byte by byte, which is the
order of the numbers. -/
abbrev Uuid := Fin (2 ^ 128)

instance Uuid.size_neZero : NeZero (2 ^ 128) := ⟨by decide⟩

/-- `DateTime<Utc>`, in nanoseconds since the Unix epoch. -/
abbrev DateTime := Int

/-! ### The text of a uuid -/

/-- The last `width` lower-case hexadecimal digits of a number. -/
def hexDigits : Nat → Nat → List Char
  | 0, _ => []
  | width + 1, n => hexDigits width (n / 16) ++ [Nat.digitChar (n % 16)]

/-- The five dash-separated groups of the hyphenated form. -/
def Uuid.chars (id : Uuid) : List Char :=
  hexDigits 8 (id.val / 16 ^ 24) ++ '-' ::
    (hexDigits 4 (id.val / 16 ^ 20) ++ '-' ::
      (hexDigits 4 (id.val / 16 ^ 16) ++ '-' ::
        (hexDigits 4 (id.val / 16 ^ 12) ++ '-' :: hexDigits 12 id.val)))

/-- `Uuid` as `Display` prints it. -/
def Uuid.text (id : Uuid) : String := String.ofList id.chars

@[simp] theorem hexDigits_length (width n : Nat) :
    (hexDigits width n).length = width := by
  induction width generalizing n with
  | zero => rfl
  | succ width inductionHypothesis => simp [hexDigits, inductionHypothesis]

private theorem digitChar_inj {a b : Nat} (aLt : a < 16) (bLt : b < 16)
    (same : Nat.digitChar a = Nat.digitChar b) : a = b := by
  interval_cases a <;> interval_cases b <;> first | rfl | exact absurd same (by decide)

theorem hexDigits_inj {width a b : Nat}
    (same : hexDigits width a = hexDigits width b) :
    a % 16 ^ width = b % 16 ^ width := by
  induction width generalizing a b with
  | zero => simp [Nat.mod_one]
  | succ width inductionHypothesis =>
      obtain ⟨front, last⟩ := List.append_inj' same rfl
      have high := inductionHypothesis front
      have low : a % 16 = b % 16 :=
        digitChar_inj (Nat.mod_lt _ (by decide)) (Nat.mod_lt _ (by decide))
          (List.cons.inj last).1
      rw [Nat.pow_succ, Nat.mul_comm, Nat.mod_mul, Nat.mod_mul, high, low]

@[simp] theorem Uuid.chars_length (id : Uuid) : id.chars.length = 36 := by
  simp [Uuid.chars]

/-- Two uuids print alike only if they are equal. -/
theorem Uuid.chars_inj {a b : Uuid} (same : a.chars = b.chars) : a = b := by
  have dash : ∀ {w n m : Nat} {s t : List Char},
      hexDigits w n ++ '-' :: s = hexDigits w m ++ '-' :: t →
        n % 16 ^ w = m % 16 ^ w ∧ s = t := by
    intro w n m s t equal
    obtain ⟨front, back⟩ := List.append_inj equal (by simp)
    exact ⟨hexDigits_inj front, (List.cons.inj back).2⟩
  obtain ⟨first, rest⟩ := dash same
  obtain ⟨second, rest⟩ := dash rest
  obtain ⟨third, rest⟩ := dash rest
  obtain ⟨fourth, rest⟩ := dash rest
  have fifth := hexDigits_inj rest
  apply Fin.ext
  have aLt := a.isLt
  have bLt := b.isLt
  norm_num at first second third fourth fifth aLt bLt
  omega

/-! ### Entities -/

/-- `ContentId(pub Uuid)` -/
structure ContentId where
  uuid : Uuid
deriving DecidableEq, Repr

/-- `ContentType(String)`; a client may send any string. -/
structure ContentType where
  name : String
deriving DecidableEq, Repr

/-- `UserId(pub Uuid)` -/
structure UserId where
  uuid : Uuid
deriving DecidableEq, Repr

def ContentType.asStr (contentType : ContentType) : String := contentType.name

/-- Keys that end in a content type, a colon and a content id name one content:
the uuid is the last 36 characters. -/
theorem ContentId.key_inj (front : String) {contentType otherType : ContentType}
    {contentId otherId : ContentId}
    (same : front ++ contentType.asStr ++ ":" ++ contentId.uuid.text =
      front ++ otherType.asStr ++ ":" ++ otherId.uuid.text) :
    contentType = otherType ∧ contentId = otherId := by
  have chars := congrArg String.toList same
  simp only [String.toList_append, Uuid.text, String.toList_ofList] at chars
  obtain ⟨before, ids⟩ := List.append_inj' chars (by simp)
  have named := List.append_cancel_left (List.append_cancel_right before)
  cases contentType
  cases contentId
  cases String.toList_inj.mp named
  cases Uuid.chars_inj ids
  exact ⟨rfl, rfl⟩

/-- `None` for the pseudo type `all`. -/
def ContentType.asOpt (contentType : ContentType) : Option String :=
  if contentType.asStr = "all" then none else some contentType.asStr

/-- One row of the likes table. -/
structure Like where
  id : Uuid
  userId : UserId
  contentType : ContentType
  contentId : ContentId
  createdAt : DateTime
deriving DecidableEq, Repr

/-- `domain/errors.rs` -/
inductive DomainError where
  | internalError (text : String)
  | validationError (text : String)
  | invalidConfig (text : String)
  | unauthorized
  | contentNotFound (contentType contentId : String)
  | unknownContentType (contentType : String)
  | invalidContentId (text : String)
  | batchTooLarge (size : Nat)
  | invalidCursor (text : String)
  | invalidWindow (text : String)
  | rateLimited (retryAfter : Nat)
  | dependencyUnavailable (service : String)
  | dependencyDeserializeError (service : String)
  | dependencyNotFound (service : String)
  | dependencyHealtError (text : String)
  | databaseError (text : String)
  | databaseHealthError (text : String)
  | databaseNotFound (text : String)
  | cacheError (text : String)
  | cacheMiss
  | cacheHealthError (text : String)
  | cacheOffline
  | sseKeyError
deriving DecidableEq, Repr

/-- A cached verdict of an external service. -/
inductive ValidationResult where
  | valid (id : Uuid)
  | notFound
deriving DecidableEq, Repr

end SocialApi
