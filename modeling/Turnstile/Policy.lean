import Turnstile.Json.Decode
import Turnstile.Time.Span

/-!
Policies: how one guarded operation treats its keys.
-/

namespace Turnstile

/-- What a repeat gets once the first request has completed. -/
inductive RepeatRule
  | returnCached
  | reject
deriving DecidableEq, Repr, Inhabited

/-- The rules by their names. -/
def RepeatRule.names : List (String × RepeatRule) :=
  [("return_cached", .returnCached), ("reject", .reject)]

/-- The name of a rule. -/
def RepeatRule.text : RepeatRule → String
  | .returnCached => "return_cached"
  | .reject => "reject"

/-- Reads a rule. -/
def RepeatRule.decoder : Json.Decoder RepeatRule := .choice RepeatRule.names

/-- How an operation is guarded: the scope of its keys, how long a lease and a cached outcome last,
and what repeats get. -/
structure Policy where
  scope : String
  timeout : Span
  window : Span
  repeats : RepeatRule
deriving Repr

/-- The policy of a scope without further settings: a lease of a minute, an outcome kept for an
hour. -/
def Policy.ofScope (scope : String) : Policy :=
  ⟨scope, .ofSeconds 60, .ofSeconds 3600, .returnCached⟩

end Turnstile
