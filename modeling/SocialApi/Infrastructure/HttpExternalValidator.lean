/-
Module: SocialApi.Infrastructure.HttpExternalValidator
Purpose: The validation of users and contents against the external APIs, behind the
  circuit breaker and the verdict cache, as programs over their steps.
Trusted boundary: human-reviewed model of clients/http_external_validator.rs and
  infrastructure/dto.rs; what an API answers is contributed by the surroundings, and
  the JSON text of a verdict and Unicode upper case are parameters
Main exports:
  HttpReply, ValidatorOp, Validator, ValidatorSetting, HttpExternalValidator.call,
  callProfileApi, callContentApi, validateUser, validateContent
-/
import SocialApi.Infrastructure.CircuitBreaker
import SocialApi.Infrastructure.Redis
import SocialApi.Process.System

namespace SocialApi

open Process

/-- The body of a Profile API answer. -/
structure UserDto where
  userId : Uuid
  displayName : String
  valid : Bool
deriving DecidableEq, Repr

/-- The body of a Content API answer. -/
structure ContentDto where
  id : Uuid
  contentType : String
deriving DecidableEq, Repr

/-- What comes of an HTTP request: no answer in time, or a status with a body that
can be read as a `Body` or not. -/
inductive HttpReply (Body : Type) where
  | unreachable
  | answered (status : Nat) (body : Option Body)
deriving DecidableEq, Repr

/-- `is_success` -/
def isSuccess (status : Nat) : Bool := 200 ≤ status ∧ status < 300

/-! ### Steps -/

/-- The steps that other requests can come between.  The last one is the request
going on to the protected handler, with the user id it was given. -/
inductive ValidatorOp where
  | getString (key : String)
  | setString (key value : String) (ttl : Nat)
  | checkState
  | reset
  | recordFailure
  | getProfile (url : String) (token : UserId)
  | getContent (url : String)
  | singleFlightInsert (cacheKey : String)
  | singleFlightRemove (cacheKey : String)
  | sleep (milliseconds : Nat)
  | nextRun (userId : UserId)
deriving DecidableEq

/-- What each step answers. -/
@[reducible] def ValidatorOp.Res : ValidatorOp → Type
  | .getString .. => Except DomainError (Option String)
  | .setString .. => Except DomainError Unit
  | .checkState => BreakerState
  | .reset => Unit
  | .recordFailure => Unit
  | .getProfile .. => HttpReply UserDto
  | .getContent .. => HttpReply ContentDto
  | .singleFlightInsert .. => Bool
  | .singleFlightRemove .. => Unit
  | .sleep .. => Unit
  | .nextRun .. => Unit

/-- A method body. -/
abbrev Validator := Program ValidatorOp ValidatorOp.Res

/-- Take one step. -/
abbrev perform (op : ValidatorOp) : Validator op.Res := Program.request op

/-- `serde_json` on a verdict. -/
def ValidationResult.jsonText : ValidationResult → String
  | .valid id => "\x7b\"Valid\":\"" ++ id.text ++ "\"\x7d"
  | .notFound => "\"NotFound\""

@[simp] theorem ValidationResult.jsonText_valid_length (id : Uuid) :
    (jsonText (.valid id)).toList.length = 48 := by
  simp [jsonText, Uuid.text]

/-- Two verdicts are never written alike: one has ten characters, the others have
forty-eight and differ in the uuid. -/
theorem ValidationResult.jsonText_injective :
    Function.Injective ValidationResult.jsonText := by
  intro a b same
  have sizes := congrArg (fun text : String => text.toList.length) same
  cases a with
  | notFound =>
      cases b with
      | notFound => rfl
      | valid id =>
          rw [ValidationResult.jsonText_valid_length] at sizes
          exact absurd sizes (by decide)
  | valid id =>
      cases b with
      | notFound =>
          rw [ValidationResult.jsonText_valid_length] at sizes
          exact absurd sizes (by decide)
      | valid other =>
          have chars := congrArg String.toList same
          simp only [jsonText, String.toList_append, Uuid.text,
            String.toList_ofList] at chars
          have ids := List.append_cancel_left (List.append_cancel_right chars)
          rw [Uuid.chars_inj ids]

/-- The parameters of a deployment. -/
structure ValidatorSetting where
  profileServiceUrl : String
  contentApis : String → Option String
  verdictJson : JsonText ValidationResult
  toUppercase : String → String
  /-- `Uuid::parse_str` -/
  parseStr : String → Option Uuid

/-- The value of a hexadecimal digit. -/
def hexValue? (c : Char) : Option Nat :=
  if '0' ≤ c ∧ c ≤ '9' then some (c.toNat - 48)
  else if 'a' ≤ c ∧ c ≤ 'f' then some (c.toNat - 87)
  else if 'A' ≤ c ∧ c ≤ 'F' then some (c.toNat - 55)
  else none

/-- `Uuid::parse_str` on the hyphenated form. -/
def Uuid.parseHyphenated (text : String) : Option Uuid :=
  let chars := text.toList
  let dashes := [8, 13, 18, 23]
  if chars.length = 36 ∧ ∀ i ∈ dashes, chars[i]? = some '-' then
    let digits := (chars.zipIdx.filter fun entry => entry.2 ∉ dashes).map Prod.fst
    (digits.mapM hexValue?).map fun values =>
      Fin.ofNat _ (values.foldl (fun value digit => value * 16 + digit) 0)
  else none

/-- An instance of the parameters: one content type, ASCII upper case, and tokens in
hyphenated form. -/
noncomputable def ValidatorSetting.reference : ValidatorSetting where
  profileServiceUrl := "http://profile-api"
  contentApis := fun name => if name = "post" then some "http://content-api" else none
  verdictJson := .ofInjective _ ValidationResult.jsonText_injective
  toUppercase := String.toUpper
  parseStr := Uuid.parseHyphenated

namespace HttpExternalValidator

def profileApi : String := "Profile API"

def userKey (token : UserId) : String := "val:user:" ++ token.uuid.text

def contentKey (cType : ContentType) (cId : ContentId) : String :=
  "val:content:" ++ cType.asStr ++ ":" ++ cId.uuid.text

def getCachedValidation (setting : ValidatorSetting) (key : String) :
    Validator (Option ValidationResult) := do
  match ← perform (.getString key) with
  | .error _ => return none
  | .ok none => return none
  | .ok (some s) => return setting.verdictJson.fromText s

def setCachedValidation (setting : ValidatorSetting) (key : String)
    (result : ValidationResult) (ttl : Nat) : Validator Unit := do
  let json := setting.verdictJson.toText result
  let _ ← perform (.setString key json ttl)
  return ()

/-- The end of `CircuitBreaker::call`, once the call has come back. -/
def recordOutcome {α : Type} :
    Except DomainError α → Validator (Except DomainError α)
  | .ok data => do
      perform .reset
      return .ok data
  | .error (.dependencyUnavailable service) => do
      perform .recordFailure
      return .error (.dependencyUnavailable service)
  | .error err => return .error err

/-- `CircuitBreaker::call` -/
def call {α : Type} (f : Validator (Except DomainError α)) :
    Validator (Except DomainError α) := do
  match ← perform .checkState with
  | .opened => return .error (.dependencyUnavailable "todo")
  | .closed | .halfOpen =>
      let result ← f
      recordOutcome result

/-- What `call_profile_api` makes of a reply; `valid` is read by nobody. -/
def profileVerdict : HttpReply UserDto → Except DomainError Uuid
  | .unreachable => .error (.dependencyUnavailable profileApi)
  | .answered status body =>
      if isSuccess status then
        match body with
        | none => .error (.dependencyDeserializeError profileApi)
        | some userData => .ok userData.userId
      else if status = 404 then .error (.dependencyNotFound profileApi)
      else .error (.dependencyUnavailable profileApi)

def callProfileApi (setting : ValidatorSetting) (token : UserId) :
    Validator (Except DomainError Uuid) :=
  let url := setting.profileServiceUrl ++ "/v1/auth/validate"
  call do
    let response ← perform (.getProfile url token)
    return profileVerdict response

/-- What `call_content_api` makes of a reply. -/
def contentVerdict (serviceName : String) (cType : ContentType) (cId : ContentId) :
    HttpReply ContentDto → Except DomainError Uuid
  | .unreachable => .error (.dependencyUnavailable serviceName)
  | .answered status body =>
      if isSuccess status then
        match body with
        | none => .error (.dependencyDeserializeError serviceName)
        | some content => .ok content.id
      else if status = 404 then .error (.contentNotFound cType.name cId.uuid.text)
      else .error (.dependencyUnavailable serviceName)

def callContentApi (setting : ValidatorSetting) (cType : ContentType) (cId : ContentId) :
    Validator (Except DomainError Uuid) :=
  match setting.contentApis cType.asStr with
  | none => return .error (.unknownContentType cType.name)
  | some baseUrl =>
      let url := baseUrl ++ "/v1/" ++ cType.asStr ++ "/" ++ cId.uuid.text
      let serviceName := setting.toUppercase cType.asStr ++ " API"
      call do
        let response ← perform (.getContent url)
        return contentVerdict serviceName cType cId response

/-- What `validate_user` keeps of a result: a user id, for five minutes. -/
def cacheUser (setting : ValidatorSetting) (cacheKey : String) :
    Except DomainError Uuid → Validator Unit
  | .ok userId => setCachedValidation setting cacheKey (.valid userId) 300
  | .error _ => return ()

/-- The end of `validate_user` for a token without a verdict. -/
def fetchUser (setting : ValidatorSetting) (token : UserId) :
    Validator (Except DomainError Uuid) := do
  let result ← callProfileApi setting token
  cacheUser setting (userKey token) result
  return result

def validateUser (setting : ValidatorSetting) (token : UserId) :
    Validator (Except DomainError Uuid) := do
  match ← getCachedValidation setting (userKey token) with
  | some (.valid userId) => return .ok userId
  | _ => fetchUser setting token

/-- What `validate_content` keeps of a result: contents that are there for an hour, and
contents that are not for five minutes. -/
def cacheVerdict (setting : ValidatorSetting) (cacheKey : String) :
    Except DomainError Uuid → Validator Unit
  | .ok uuid => setCachedValidation setting cacheKey (.valid uuid) 3600
  | .error (.contentNotFound _ _) => setCachedValidation setting cacheKey .notFound 300
  | .error _ => return ()

/-- The end of `validate_content` for the request that holds the lock. -/
def fetchContent (setting : ValidatorSetting) (cType : ContentType) (cId : ContentId) :
    Validator (Except DomainError Uuid) := do
  let cacheKey := contentKey cType cId
  let result ← callContentApi setting cType cId
  cacheVerdict setting cacheKey result
  perform (.singleFlightRemove cacheKey)
  return result

/-- `none` where the source calls itself again. -/
def validateContent (setting : ValidatorSetting) (cType : ContentType)
    (cId : ContentId) : Validator (Option (Except DomainError Uuid)) := do
  let cacheKey := contentKey cType cId
  match ← getCachedValidation setting cacheKey with
  | some (.valid uuid) => return some (.ok uuid)
  | some .notFound =>
      return some (.error (.contentNotFound cType.asStr cId.uuid.text))
  | none =>
  if ← perform (.singleFlightInsert cacheKey) then
    return some (← fetchContent setting cType cId)
  else
    perform (.sleep 50)
    return none

/-- The key of a user verdict names one token. -/
theorem userKey_inj {a b : UserId} (same : userKey a = userKey b) : a = b := by
  have chars := congrArg String.toList same
  simp only [userKey, String.toList_append, Uuid.text, String.toList_ofList] at chars
  have ids := Uuid.chars_inj (List.append_cancel_left chars)
  cases a
  cases b
  cases ids
  rfl

/-- No user verdict is stored under the key of a content verdict. -/
theorem contentKey_ne_userKey (cType : ContentType) (cId : ContentId) (token : UserId) :
    contentKey cType cId ≠ userKey token := by
  intro same
  have chars := congrArg String.toList same
  unfold contentKey userKey at chars
  simp only [String.toList_append] at chars
  have fifth : some 'c' = some 'u' := congrArg (fun list => list[4]?) chars
  exact absurd fifth (by decide)

end HttpExternalValidator

end SocialApi
