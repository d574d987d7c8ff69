/-
Module: SocialApi.Api.Query
Purpose: The query string of the route that lists a user's likes.
Trusted boundary: human-reviewed model of UserLikesQuery in api/dto.rs and of axum's `Query`,
  which reads a query string with form_urlencoded and the fields with the reader that serde
  derives; how bytes that are no UTF-8 are read is a parameter
Main exports: Utf8Lossy, UserLikesQuery, UserLikesQuery.ofPairs, UserLikesQuery.fromQuery
-/
import SocialApi.Api.Dto
import SocialApi.Codec.Decimal
import SocialApi.Codec.FormUrlencoded

namespace SocialApi

/-- `String::from_utf8_lossy`, which gives back a text from its bytes. -/
structure Utf8Lossy where
  decode : List UInt8 → String
  decode_utf8 : ∀ text, decode (utf8 text) = text

/-- An instance of the assumption. -/
noncomputable def Utf8Lossy.reference : Utf8Lossy where
  decode bytes := (Function.partialInv utf8 bytes).getD ""
  decode_utf8 text := by
    have injective : Function.Injective utf8 := fun _ _ => utf8_inj
    rw [Function.partialInv_left injective, Option.getD_some]

structure UserLikesQuery where
  contentType : Option String
  cursor : Option String
  limit : Option (Fin (2 ^ 64))
deriving DecidableEq, Repr

/-- The value of a field, if it is there; a field that occurs twice is an error. -/
def queryField (name : String) (pairs : List (String × String)) : Option (Option String) :=
  match pairs.filter fun pair => pair.1 = name with
  | [] => some none
  | [pair] => some (some pair.2)
  | _ => none

/-- An `Option<usize>` that is there has to be a number. -/
def usizeField : Option String → Option (Option (Fin (2 ^ 64)))
  | none => some none
  | some text => (Decimal.unsigned? 64 text).map some

/-- The reader that serde derives; other fields are ignored. -/
def UserLikesQuery.ofPairs (pairs : List (String × String)) : Option UserLikesQuery := do
  let contentType ← queryField "content_type" pairs
  let cursor ← queryField "cursor" pairs
  let limit ← usizeField (← queryField "limit" pairs)
  return { contentType := contentType, cursor := cursor, limit := limit }

/-- The query of a request, `none` when the request is rejected. -/
def UserLikesQuery.fromQuery (lossy : Utf8Lossy) (query : String) : Option UserLikesQuery :=
  ofPairs (FormUrlencoded.parse lossy.decode (utf8 query))

end SocialApi
