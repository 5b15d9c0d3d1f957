import Turnstile.Shop.Violation

/-!
The body of an error response: a code for programs, a message for people, and what is known beyond
that.
-/

namespace Turnstile.Http

/-- The body of an error response. -/
structure ErrorBody where
  code : String
  message : String
  detail : Option String
  timestamp : Instant
  details : Option (List Shop.Violation)

namespace ErrorBody

/-- A body with a code and a message. -/
def of (now : Instant) (code message : String) : ErrorBody := ⟨code, message, none, now, none⟩

/-- The body with a detail. -/
def withDetail (b : ErrorBody) (detail : String) : ErrorBody := { b with detail := some detail }

/-- The body with the violations of single fields. -/
def withDetails (b : ErrorBody) (details : List Shop.Violation) : ErrorBody :=
  { b with details := some details }

/-- A request without a key. -/
def invalidRequest (now : Instant) (detail : String) : ErrorBody :=
  (of now "INVALID_REQUEST" "Idempotency key is required").withDetail detail

/-- A repeat of a request that is still running. -/
def duplicateInProgress (now : Instant) (detail : String) : ErrorBody :=
  (of now "DUPLICATE_REQUEST"
    "A request with this idempotency key is being processed, please retry later").withDetail detail

/-- A repeat of a request that has completed. -/
def alreadyProcessed (now : Instant) (detail : String) : ErrorBody :=
  (of now "DUPLICATE_REQUEST" "This request has already been processed").withDetail detail

/-- A request that breaks rules. -/
def validation (now : Instant) (violations : List Shop.Violation) : ErrorBody :=
  (of now "VALIDATION_ERROR" "Request validation failed").withDetails violations

/-- A store that could not be asked. -/
def storeUnavailable (now : Instant) : ErrorBody :=
  of now "STORE_UNAVAILABLE" "Idempotency store is unavailable, request was not processed"

/-- Anything else. -/
def internal (now : Instant) : ErrorBody := of now "INTERNAL_ERROR" "An internal error occurred"

/-- The members that are there. -/
def members (b : ErrorBody) : List (String × Json) :=
  [("code", .string b.code), ("message", .string b.message),
   ("timestamp", Shop.stampJson b.timestamp)] ++
  (b.detail.elim [] fun detail => [("detail", .string detail)]) ++
  (b.details.elim [] fun details => [("details", .array (details.map Shop.Violation.toJson))])

/-- The body as JSON. -/
def toJson (b : ErrorBody) : Json := .ofMembers b.members

/-- Reads a body. -/
def decoder : Json.Decoder ErrorBody :=
  Json.Fields.decode <|
    ErrorBody.mk <$> .required "code" .string <*> .required "message" .string
      <*> .optional "detail" .string <*> .required "timestamp" Shop.stamp
      <*> .optional "details" (.list Shop.Violation.decoder)

end ErrorBody

end Turnstile.Http
