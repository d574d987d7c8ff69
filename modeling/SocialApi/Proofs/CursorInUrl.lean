/-
Module: SocialApi.Proofs.CursorInUrl
Purpose: What becomes of a cursor that a client puts into a URL as it was handed out.
Trusted boundary: none
Main exports:
  PlainChar, encode_alphanum, joinQuery, fromQuery_joinQuery, Rfc3339Chars,
  cursor_survives_url
-/
import SocialApi.Api.Query
import SocialApi.Application.LikeService

namespace SocialApi

open Process
open FormUrlencoded
open LikeService (getUserLikedItems lastKept)

/-! ### The symbols of a cursor -/

/-- A character whose byte has no six bits that stand for a plus or a slash, wherever they
start. -/
def PlainChar (c : Char) : Prop := c.toNat < 128 ∧ c.toNat % 64 < 62

instance (c : Char) : Decidable (PlainChar c) :=
  inferInstanceAs (Decidable (c.toNat < 128 ∧ c.toNat % 64 < 62))

/-- The byte of an ASCII character. -/
theorem utf8EncodeChar_ascii {c : Char} (ascii : c.toNat < 128) :
    String.utf8EncodeChar c = [UInt8.ofNat c.toNat] :=
  if_pos (Nat.le_of_lt_succ ascii)

theorem utf8_append (a b : String) : utf8 (a ++ b) = utf8 a ++ utf8 b := by
  rw [utf8, String.toList_append, List.flatMap_append]
  rfl

/-- A byte of an ASCII text is the number of one of its characters. -/
theorem char_of_mem_utf8 {text : String} (ascii : ∀ c ∈ text.toList, c.toNat < 128) {b : UInt8}
    (member : b ∈ utf8 text) : ∃ c ∈ text.toList, b.toNat = c.toNat := by
  obtain ⟨c, among, encoded⟩ := List.mem_flatMap.mp member
  have small := ascii c among
  rw [utf8EncodeChar_ascii small, List.mem_singleton] at encoded
  refine ⟨c, among, ?_⟩
  rw [encoded, UInt8.toNat_ofNat', Nat.mod_eq_of_lt (by omega)]

/-- What chrono's RFC 3339 text is made of. -/
def Rfc3339Chars (text : String) : Prop :=
  ∀ c ∈ text.toList, c.isDigit = true ∨ c ∈ ['-', ':', '.', '+', 'T', 'Z']

theorem plain_of_all {chars : List Char}
    (checked : chars.all (fun c => decide (PlainChar c)) = true) : ∀ c ∈ chars, PlainChar c := by
  intro c member
  exact of_decide_eq_true (List.all_eq_true.mp checked c member)

theorem plain_digit {c : Char} (digit : c.isDigit = true) : PlainChar c := by
  have bounds : 48 ≤ c.toNat ∧ c.toNat ≤ 57 := by
    simpa [Char.isDigit, UInt32.le_iff_toNat_le] using digit
  unfold PlainChar
  omega

theorem plain_rfc3339 {text : String} (written : Rfc3339Chars text) :
    ∀ c ∈ text.toList, PlainChar c := by
  intro c member
  rcases written c member with digit | mark
  · exact plain_digit digit
  · exact plain_of_all (by decide) c mark

theorem plain_hexDigits (width n : Nat) : ∀ c ∈ hexDigits width n, PlainChar c := by
  induction width generalizing n with
  | zero => simp [hexDigits]
  | succ width inductionHypothesis =>
      intro c member
      rcases List.mem_append.mp member with front | last
      · exact inductionHypothesis _ c front
      · have digits : ∀ d < 16, PlainChar (Nat.digitChar d) := by decide
        rw [List.mem_singleton.mp last]
        exact digits _ (Nat.mod_lt _ (by decide))

theorem plain_uuid (id : Uuid) : ∀ c ∈ id.text.toList, PlainChar c := by
  have dash : PlainChar '-' := by decide
  intro c member
  simp only [Uuid.text, String.toList_ofList, Uuid.chars, List.mem_append, List.mem_cons]
    at member
  rcases member with digits | rfl | digits | rfl | digits | rfl | digits | rfl | digits <;>
    first | exact dash | exact plain_hexDigits _ _ c digits

/-- The JSON text of a cursor is made of plain characters. -/
theorem plain_toVec {rfc3339 : DateTime → String} (written : ∀ t, Rfc3339Chars (rfc3339 t))
    (cursor : PaginationCursor) :
    ∀ b ∈ cursor.toVec rfc3339, b.toNat < 128 ∧ b.toNat % 64 < 62 := by
  have plain : ∀ c ∈ ("\x7b\"t\":\"" ++ rfc3339 cursor.t ++ "\",\"id\":\"" ++ cursor.id.text ++
      "\"\x7d").toList, PlainChar c := by
    intro c member
    simp only [String.toList_append, List.mem_append] at member
    rcases member with (((open_t | t) | open_id) | id) | close
    · exact plain_of_all (by decide) c open_t
    · exact plain_rfc3339 (written _) c t
    · exact plain_of_all (by decide) c open_id
    · exact plain_uuid _ c id
    · exact plain_of_all (by decide) c close
  intro b member
  obtain ⟨c, among, same⟩ := char_of_mem_utf8 (fun c among => (plain c among).1) member
  rw [same]
  exact plain c among

/-- The letters, digits and padding of base64 text. -/
def Base64Text (text : String) : Prop := ∀ c ∈ text.toList, c.isAlphanum = true ∨ c = '='

/-- A cursor is handed out as letters, digits and padding. -/
theorem encode_alphanum {json : CursorJson} (written : ∀ t, Rfc3339Chars (json.rfc3339 t))
    (cursor : PaginationCursor) :
    Base64Text (cursor.encode json) := by
  unfold Base64Text
  rw [PaginationCursor.encode, Base64.encode, String.toList_ofList]
  exact Base64.encodeChars_alphanum (plain_toVec written cursor)

/-! ### The query string -/

/-- Parameters as a client joins them. -/
def joinQuery : List String → String
  | [] => ""
  | [parameter] => parameter
  | parameter :: others => parameter ++ "&" ++ joinQuery others

/-- What is written as a parameter is read as that parameter. -/
theorem parse_joinQuery {α : Type} (decode : List UInt8 → α) (parameters : List String) :
    parse decode (utf8 (joinQuery parameters)) =
      parameters.flatMap fun parameter => parse decode (utf8 parameter) := by
  induction parameters using joinQuery.induct with
  | case1 => rfl
  | case2 parameter => simp [joinQuery]
  | case3 parameter others several inductionHypothesis =>
      have split : utf8 (parameter ++ "&" ++ joinQuery others) =
          utf8 parameter ++ ampersand :: utf8 (joinQuery others) := by
        rw [utf8_append, utf8_append, List.append_assoc]
        rfl
      rw [joinQuery, split, parse_append, inductionHypothesis, List.flatMap_cons]
      exact several

section Fields

variable {name value : String} {front back : List (String × String)}

theorem queryField_other {pair : String × String} (other : pair.1 ≠ name) :
    queryField name (front ++ pair :: back) = queryField name (front ++ back) := by
  simp only [queryField, List.filter_append, List.filter_cons, decide_eq_true_eq, if_neg other]

theorem queryField_own (absent : queryField name (front ++ back) = some none) :
    queryField name (front ++ (name, value) :: back) = some (some value) := by
  have empty : (front ++ back).filter (fun pair => pair.1 = name) = [] := by
    unfold queryField at absent
    split at absent
    · assumption
    · cases absent
    · cases absent
  rw [List.filter_append, List.append_eq_nil_iff] at empty
  simp only [queryField, List.filter_append, List.filter_cons, empty.1, empty.2]
  simp

/-- A cursor that is added to the pairs is the cursor of the query. -/
theorem UserLikesQuery.ofPairs_cursor {request : UserLikesQuery}
    (accepted : ofPairs (front ++ back) = some request) (absent : request.cursor = none) :
    ofPairs (front ++ ("cursor", value) :: back) = some { request with cursor := some value } := by
  have sameType : queryField "content_type" (front ++ ("cursor", value) :: back) =
      queryField "content_type" (front ++ back) := queryField_other (by simp)
  have sameLimit : queryField "limit" (front ++ ("cursor", value) :: back) =
      queryField "limit" (front ++ back) := queryField_other (by simp)
  unfold ofPairs at accepted ⊢
  rw [sameType, sameLimit]
  obtain ⟨contentType, typed, accepted⟩ := Option.bind_eq_some_iff.mp accepted
  obtain ⟨cursor, read, accepted⟩ := Option.bind_eq_some_iff.mp accepted
  obtain ⟨text, limited, accepted⟩ := Option.bind_eq_some_iff.mp accepted
  obtain ⟨limit, parsed, accepted⟩ := Option.bind_eq_some_iff.mp accepted
  obtain rfl := Option.some.inj accepted
  obtain rfl : cursor = none := absent
  simp only [typed, limited, parsed, queryField_own read, Option.bind_eq_bind, Option.bind_some]
  rfl

end Fields

/-! ### A cursor in a URL -/

theorem Base64Text.char {text : String} (symbols : Base64Text text) {c : Char}
    (member : c ∈ text.toList) :
    c.toNat < 128 ∧ c.toNat ≠ 37 ∧ c.toNat ≠ 38 ∧ c.toNat ≠ 43 := by
  rcases symbols c member with letter | rfl
  · simp only [Char.isAlphanum, Char.isAlpha, Char.isUpper, Char.isLower, Char.isDigit,
      Bool.or_eq_true, Bool.and_eq_true, decide_eq_true_eq, UInt32.le_iff_toNat_le,
      ge_iff_le] at letter
    change ((65 ≤ c.toNat ∧ c.toNat ≤ 90) ∨ (97 ≤ c.toNat ∧ c.toNat ≤ 122)) ∨
      (48 ≤ c.toNat ∧ c.toNat ≤ 57) at letter
    omega
  · decide

/-- None of the bytes that a query string gives a meaning to is in the text. -/
theorem Base64Text.notMem {text : String} (symbols : Base64Text text) :
    percent ∉ utf8 text ∧ ampersand ∉ utf8 text ∧ plus ∉ utf8 text := by
  have apart : ∀ b ∈ utf8 text, b.toNat ≠ 37 ∧ b.toNat ≠ 38 ∧ b.toNat ≠ 43 := by
    intro b member
    obtain ⟨c, among, same⟩ := char_of_mem_utf8 (fun c among => (symbols.char among).1) member
    rw [same]
    exact (symbols.char among).2
  exact ⟨fun member => (apart _ member).1 rfl, fun member => (apart _ member).2.1 rfl,
    fun member => (apart _ member).2.2 rfl⟩

/-- Base64 text that is placed unescaped as the cursor is received as it is. -/
theorem parse_cursor (lossy : Utf8Lossy) {text : String} (symbols : Base64Text text) :
    parse lossy.decode (utf8 ("cursor=" ++ text)) = [("cursor", text)] := by
  obtain ⟨noPercent, noAmpersand, noPlus⟩ := symbols.notMem
  have split : utf8 ("cursor=" ++ text) = utf8 "cursor" ++ equals :: utf8 text := by
    rw [utf8_append]
    rfl
  rw [split, parse_pair lossy.decode (by decide) noAmpersand (by decide),
    component_plain (by decide) (by decide), component_plain noPlus noPercent,
    lossy.decode_utf8, lossy.decode_utf8]

/-- Wherever among the parameters of an accepted request without a cursor the text is placed,
the request is accepted with the text as its cursor. -/
theorem fromQuery_joinQuery (lossy : Utf8Lossy) {text : String} (symbols : Base64Text text)
    {before after : List String} {request : UserLikesQuery}
    (accepted : UserLikesQuery.fromQuery lossy (joinQuery (before ++ after)) = some request)
    (absent : request.cursor = none) :
    UserLikesQuery.fromQuery lossy (joinQuery (before ++ ("cursor=" ++ text) :: after)) =
      some { request with cursor := some text } := by
  unfold UserLikesQuery.fromQuery at accepted ⊢
  rw [parse_joinQuery, List.flatMap_append] at accepted ⊢
  rw [List.flatMap_cons, parse_cursor lossy symbols]
  exact UserLikesQuery.ofPairs_cursor accepted absent

/-- What `get_user_liked_items` hands out is a cursor. -/
theorem nextCursor_encode {setting : Setting} {userId : UserId}
    {contentType cursorStr : Option String} {limit : Nat} {environment : Nat → Surroundings}
    {world after : World} {spawned : List LikeCall} {response : UserLikesResponse}
    (ran : (getUserLikedItems setting userId contentType cursorStr limit).run
      (World.handle setting) environment world = some (.done (.ok response), after, spawned))
    {text : String} (given : response.nextCursor = some text) :
    ∃ cursor : PaginationCursor, text = cursor.encode setting.cursorJson := by
  unfold getUserLikedItems at ran
  split at ran
  · cases ran
  split at ran
  · cases ran
  obtain ⟨answer, fetched, _, _, _, ran, _⟩ := (Program.run_perform _).mp ran
  cases answer with
  | error e => cases ran
  | ok rows =>
      dsimp only [Program.bind] at ran
      split at ran
      · cases kept : lastKept setting rows limit with
        | panicked message =>
            rw [kept] at ran
            cases ran
        | done lastItem =>
            rw [kept] at ran
            cases ran
            exact ⟨_, (Option.some.inj given).symm⟩
      · cases ran
        cases given

/-- A text is read as a cursor, or is an invalid cursor. -/
theorem decodeOpt_some (json : CursorJson) (text : String) :
    (∃ cursor, PaginationCursor.decodeOpt json (some text) = .ok (some cursor)) ∨
      ∃ reason, PaginationCursor.decodeOpt json (some text) = .error (.invalidCursor reason) := by
  cases bytes : Base64.decode text with
  | none => exact .inr ⟨"Bad Base64", by simp only [PaginationCursor.decodeOpt, bytes]⟩
  | some decoded =>
      cases read : json.fromSlice decoded with
      | none => exact .inr ⟨"Bad JSON", by simp only [PaginationCursor.decodeOpt, bytes, read]⟩
      | some cursor => exact .inl ⟨cursor, by simp only [PaginationCursor.decodeOpt, bytes, read]⟩

/-- The text comes through a URL unescaped, and is read back as the cursor. -/
structure SurvivesUrl (lossy : Utf8Lossy) (json : CursorJson) (cursor : PaginationCursor)
    (text : String) : Prop where
  unescaped : ∀ c ∈ text.toList, c ≠ '+' ∧ c ≠ '%' ∧ c ≠ '&'
  received : ∀ before after request,
    UserLikesQuery.fromQuery lossy (joinQuery (before ++ after)) = some request →
    request.cursor = none →
    UserLikesQuery.fromQuery lossy (joinQuery (before ++ ("cursor=" ++ text) :: after)) =
      some { request with cursor := some text }
  decoded : PaginationCursor.decodeOpt json (some text) = .ok (some cursor)

/-- A cursor survives the trip through a URL.  The text of every cursor is received as it is
and read back as the cursor, `get_user_liked_items` hands out no other texts, and every text
that is sent is a cursor or is refused as an invalid one. -/
theorem cursor_survives_url (setting : Setting) (lossy : Utf8Lossy)
    (written : ∀ t, Rfc3339Chars (setting.cursorJson.rfc3339 t)) :
    (∀ cursor : PaginationCursor,
      SurvivesUrl lossy setting.cursorJson cursor (cursor.encode setting.cursorJson)) ∧
    (∀ userId contentType cursorStr limit environment world response after spawned text,
      (getUserLikedItems setting userId contentType cursorStr limit).run (World.handle setting)
        environment world = some (.done (.ok response), after, spawned) →
      response.nextCursor = some text →
      ∃ cursor : PaginationCursor, text = cursor.encode setting.cursorJson) ∧
    ∀ text,
      (∃ cursor, PaginationCursor.decodeOpt setting.cursorJson (some text) = .ok (some cursor)) ∨
      ∃ reason, PaginationCursor.decodeOpt setting.cursorJson (some text) =
        .error (.invalidCursor reason) := by
  refine ⟨fun cursor => ?_, ?_, decodeOpt_some setting.cursorJson⟩
  · have symbols := encode_alphanum written cursor
    constructor
    · intro c member
      obtain ⟨_, noPercent, noAmpersand, noPlus⟩ := symbols.char member
      refine ⟨?_, ?_, ?_⟩ <;> rintro rfl
      · exact noPlus rfl
      · exact noPercent rfl
      · exact noAmpersand rfl
    · intro before after request accepted absent
      exact fromQuery_joinQuery lossy symbols accepted absent
    · exact PaginationCursor.decodeOpt_encode setting.cursorJson cursor
  · intro userId contentType cursorStr limit environment world response after spawned text ran
    exact nextCursor_encode ran

/-- The reference texts of instants are made of what chrono's are. -/
theorem rfc3339Chars_unaryInstant (t : DateTime) : Rfc3339Chars (unaryInstant t) := by
  intro c member
  unfold unaryInstant at member
  split at member
  · have checked : "1970-01-01T00:00:00Z".toList.all (fun c =>
        c.isDigit || ['-', ':', '.', '+', 'T', 'Z'].elem c) = true := by decide
    simpa using List.all_eq_true.mp checked c member
  · rw [String.toList_ofList] at member
    rcases List.mem_cons.mp member with sign | digit
    · right
      rw [sign]
      split <;> simp
    · left
      rw [List.eq_of_mem_replicate digit]
      rfl

theorem cursor_survives_url_reference :
    SurvivesUrl .reference .reference ⟨0, 0⟩ (PaginationCursor.encode .reference ⟨0, 0⟩) :=
  (cursor_survives_url .reference .reference rfc3339Chars_unaryInstant).1 ⟨0, 0⟩

end SocialApi
