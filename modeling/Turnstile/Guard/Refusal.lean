import Turnstile.Fault

/-!
Why a guarded call gave no outcome.
-/

namespace Turnstile

/-- Why a call was refused before its operation could run. Keys are shown in their masked form. -/
inductive Refusal
  | missingKey (reason : String)
  | inProgress (key : String)
  | alreadyProcessed (key : String)
  | store (fault : Fault)
deriving DecidableEq, Repr

/-- Why a call gave no outcome: it was refused, its operation broke off, or its operation failed. -/
inductive CallError (ε : Type)
  | refused (refusal : Refusal)
  | aborted (reason : String)
  | operation (error : ε)
deriving DecidableEq, Repr

/-- The text of a refusal. -/
def Refusal.message : Refusal → String
  | .missingKey reason => "missing idempotency key: " ++ reason
  | .inProgress key => s!"a request with idempotency key '{key}' is already in progress"
  | .alreadyProcessed key => s!"a request with idempotency key '{key}' was already processed"
  | .store fault => "record store unavailable: " ++ fault.message

/-- Whether the request repeats an earlier one. -/
def Refusal.isDuplicate : Refusal → Bool
  | .inProgress _ | .alreadyProcessed _ => true
  | _ => false

namespace CallError

variable {ε : Type}

/-- The text of an error; the operation's own error is shown as it is. -/
def message (text : ε → String) : CallError ε → String
  | .refused refusal => refusal.message
  | .aborted reason => "guarded operation aborted: " ++ reason
  | .operation error => text error

/-- Whether the request repeats an earlier one. -/
def isDuplicate : CallError ε → Bool
  | .refused refusal => refusal.isDuplicate
  | _ => false

/-- The operation's own error. -/
def operationError? : CallError ε → Option ε
  | .operation error => some error
  | _ => none

end CallError

end Turnstile
