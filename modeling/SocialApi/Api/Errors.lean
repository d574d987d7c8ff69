/-
Module: SocialApi.Api.Errors
Purpose: The texts of the domain errors, and the response that a failed request gets.
Trusted boundary: human-reviewed model of domain/errors.rs and api/errors.rs
Main exports:
  DomainError.text, ErrorDetail, ApiError, ApiError.status, ApiError.code, ApiError.details,
  ApiError.detail
-/
import SocialApi.Codec.Json
import SocialApi.Domain.Model

namespace SocialApi

/-- `DomainError` as `Display` prints it. -/
def DomainError.text : DomainError → String
  | .internalError _ => "Unexpected error"
  | .validationError text => "Validation failed: " ++ text
  | .invalidConfig text => "Invalid configuration: " ++ text
  | .unauthorized => "Missing, malformed, or invalid token"
  | .contentNotFound contentType contentId =>
      "Content item does not exist or has been removed c_type:" ++ contentType ++
        ", c_id:" ++ contentId
  | .unknownContentType _ => "content_type not in configured registry"
  | .invalidContentId _ => "content_id is not a valid UUID v4"
  | .batchTooLarge _ => "Batch exceeds 100 items"
  | .invalidCursor _ => "Pagination cursor is malformed or expired"
  | .invalidWindow _ => "Time window not in [24h, 7d, 30d, all]"
  | .rateLimited _ => "Rate limit exceeded"
  | .dependencyUnavailable _ => "External service unreachable (after circuit breaker opens)"
  | .dependencyDeserializeError service =>
      "External service deserialize error: " ++ service
  | .dependencyNotFound service =>
      "External service respond not found: " ++ service ++ " (Circuit Breaker close)"
  | .dependencyHealtError text => "External service healt error: " ++ text
  | .databaseError text => "Database error: " ++ text
  | .databaseHealthError text => "Database healt error: " ++ text
  | .databaseNotFound text => "Database error: not found: " ++ text
  | .cacheError text => "Cache error: " ++ text
  | .cacheMiss => "Cache miss"
  | .cacheHealthError text => "Cache healt error : " ++ text
  | .cacheOffline => "Cache offline"
  | .sseKeyError => "Try to pubblish sse event on uknown item"

/-- The body of an error response, the value of its one field. -/
structure ErrorDetail where
  code : String
  message : String
  requestId : String
  details : Option JsonValue

/-- `ApiError(DomainError, String)` -/
structure ApiError where
  domainError : DomainError
  requestId : String

namespace ApiError

/-- The status, the code and the details that `into_response` picks. -/
def parts : DomainError → Nat × String × Option JsonValue
  | .unauthorized => (401, "UNAUTHORIZED", none)
  | .contentNotFound contentType contentId =>
      (404, "CONTENT_NOT_FOUND", some (.object
        [("content_type", .string contentType), ("content_id", .string contentId)]))
  | .unknownContentType contentType =>
      (400, "CONTENT_TYPE_UNKNOWN", some (.object [("content_type", .string contentType)]))
  | .invalidContentId _ => (400, "INVALID_CONTENT_ID", none)
  | .batchTooLarge _ => (400, "BATCH_TOO_LARGE", none)
  | .invalidCursor _ => (400, "INVALID_CURSOR", none)
  | .invalidWindow _ => (400, "INVALID_WINDOW", none)
  | .rateLimited retryAfter =>
      (429, "RATE_LIMITED", some (.object [("retry_after", .number retryAfter)]))
  | .dependencyUnavailable _ => (503, "DEPENDENCY_UNAVAILABLE", none)
  | _ => (500, "INTERNAL_ERROR", none)

def status (error : ApiError) : Nat := (parts error.domainError).1

def detail (error : ApiError) : ErrorDetail where
  code := (parts error.domainError).2.1
  message := error.domainError.text
  requestId := error.requestId
  details := (parts error.domainError).2.2

end ApiError

end SocialApi
