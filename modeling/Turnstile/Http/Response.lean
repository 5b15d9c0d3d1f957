import Turnstile.Guard.Call
import Turnstile.Http.ErrorBody

/-!
Responses, and the responses to the results of guarded calls. A fresh and a replayed outcome give
the same response.
-/

namespace Turnstile.Http

/-- The body of a response: nothing, JSON, text, or the series of the exposition endpoint. -/
inductive Body
  | empty
  | json (value : Json)
  | text (content : String)
  | series (totals : List (Series × Nat))

/-- The kind of content of a body. -/
def Body.contentType? : Body → Option String
  | .empty => none
  | .json _ => some "application/json"
  | .text _ => some "text/plain; charset=utf-8"
  | .series _ => some "text/plain; version=0.0.4"

/-- A response: a status, the kind of its content, a body, and the methods that are allowed if the
request's was not. -/
structure Response where
  status : Nat
  contentType : Option String
  body : Body
  allow : List String

namespace Response

/-- A response with a body. -/
def of (status : Nat) (body : Body) : Response := ⟨status, body.contentType?, body, []⟩

/-- The response to a method that an endpoint does not have. -/
def methodNotAllowed (allow : List String) : Response := { of 405 .empty with allow := allow }

/-- The response with everything but its body. -/
def withoutBody (r : Response) : Response := { r with body := .empty }

/-- A response with an error body. -/
def error (status : Nat) (b : ErrorBody) : Response := of status (.json b.toJson)

/-- The status code of a number, which is 200 for a number that is none. -/
def statusOf (n : Nat) : Nat := if 100 ≤ n ∧ n ≤ 999 then n else 200

/-- The response to an outcome. -/
def ofOutcome (o : Outcome) : Response :=
  of (statusOf o.status.toNat) (if o.hasBody then .json o.payload else .empty)

/-- The log event of a call that failed. -/
def failure (message name text : String) : List Effect :=
  [.log ⟨.error, message, [(name, .text text)]⟩]

/-- The response to a call that gave no outcome, and what is logged about it. -/
def ofCallError (now : Instant) : CallError Fault → List Effect × Response
  | .refused (.missingKey reason) => ([], error 400 (.invalidRequest now reason))
  | .refused (.inProgress key) => ([], error 409 (.duplicateInProgress now key))
  | .refused (.alreadyProcessed key) => ([], error 409 (.alreadyProcessed now key))
  | .refused (.store fault) =>
    (failure "Guarded request refused, record store unavailable" "error" fault.message,
     error 503 (.storeUnavailable now))
  | .aborted reason =>
    (failure "Guarded operation aborted" "reason" reason, error 500 (.internal now))
  | .operation (.invalid message) => ([], error 400 (.of now "VALIDATION_ERROR" message))
  | .operation fault =>
    (failure "Guarded operation failed" "error" fault.message, error 500 (.internal now))

/-- The response to the result of a call. -/
def ofResult (now : Instant) : Except (CallError Fault) Outcome → List Effect × Response
  | .ok outcome => ([], ofOutcome outcome)
  | .error error => ofCallError now error

end Response

end Turnstile.Http
