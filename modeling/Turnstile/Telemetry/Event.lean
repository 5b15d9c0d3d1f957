import Turnstile.Token

/-!
Log events: a level, a message and named values.
-/

namespace Turnstile

/-- The severity of an event, the most talkative first. -/
inductive Severity
  | trace
  | debug
  | info
  | warn
  | error
deriving DecidableEq, Repr

/-- The place of a severity in their order; a filter passes the severities from a rank on. -/
def Severity.rank : Severity → Nat
  | .trace => 5
  | .debug => 4
  | .info => 3
  | .warn => 2
  | .error => 1

/-- The severities, the most talkative first. -/
def Severity.all : List Severity := [.trace, .debug, .info, .warn, .error]

/-- The name of a severity. -/
def Severity.text : Severity → String
  | .trace => "TRACE"
  | .debug => "DEBUG"
  | .info => "INFO"
  | .warn => "WARN"
  | .error => "ERROR"

/-- A value of an event. -/
inductive Event.Value
  | text (value : String)
  | number (value : Nat)
  | owner (value : Token)
deriving DecidableEq

/-- An event as it is handed to the log. -/
structure Event where
  severity : Severity
  message : String
  fields : List (String × Event.Value)
deriving DecidableEq

end Turnstile
