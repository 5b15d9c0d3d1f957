/-!
Faults: what goes wrong around a guarded operation and is not the operation's own business.
-/

namespace Turnstile

/-- A fault of a store, of the settings, of a document or of a request. -/
inductive Fault
  | server (detail : String)
  | settings (detail : String)
  | document (detail : String)
  | invalid (detail : String)
  | unavailable (detail : String)
  | internal (detail : String)
deriving DecidableEq, Repr

namespace Fault

/-- The text of a fault. -/
def message : Fault → String
  | .server detail => "Redis error: " ++ detail
  | .settings detail => "Configuration error: " ++ detail
  | .document detail => "Serialization error: " ++ detail
  | .invalid detail => "Validation error: " ++ detail
  | .unavailable detail => "Record store unavailable: " ++ detail
  | .internal detail => "Internal error: " ++ detail

/-- Whether the backing store failed, rather than its caller. -/
def isStoreFailure : Fault → Bool
  | .server _ | .unavailable _ => true
  | _ => false

end Fault

end Turnstile
