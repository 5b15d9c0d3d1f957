import Turnstile.Text.Numeral

/-!
Measures: what is counted for the exposition endpoint. A measure adds one to each of its series; a
series is a metric with labelled values, and of a duration only the number of observations is shown.
-/

namespace Turnstile

/-- One thing that is counted. -/
inductive Measure
  | request (scope : String) (bypass : Bool)
  | replay (scope : String)
  | inProgress (scope : String)
  | rejected (scope : String)
  | execution (scope : String) (success : Bool)
  | stale (scope : String) (operation : String)
  | store (backend : String) (operation : String) (success : Bool)
  | http (method : String) (path : String) (status : Nat)
deriving DecidableEq, Repr

/-- A metric with its labels. A duration's series counts its observations. -/
structure Series where
  metric : String
  isDuration : Bool
  labels : List (String × String)
deriving DecidableEq, Repr

namespace Series

/-- The series of a plain counter. -/
def counter (metric : String) (labels : List (String × String)) : Series := ⟨metric, false, labels⟩

/-- The series that counts the observations of a duration. -/
def duration (metric : String) (labels : List (String × String)) : Series := ⟨metric, true, labels⟩

/-- Escapes the characters of a label value: a quote and a line feed are written behind a backslash,
and a backslash is doubled. Two backslashes in a row and a backslash in front of a quote are escaped
already and written once. `held` says that a backslash was read and is still to be written. -/
def escapeFrom (held : Bool) : List Char → List Char
  | [] => if held then ['\\', '\\'] else []
  | c :: rest =>
    if c = '\n' then '\\' :: 'n' :: escapeFrom held rest
    else if c = '"' then '\\' :: '"' :: escapeFrom false rest
    else if c = '\\' then
      if held then '\\' :: '\\' :: escapeFrom false rest else escapeFrom true rest
    else if held then '\\' :: '\\' :: c :: escapeFrom false rest
    else c :: escapeFrom false rest

/-- A label value with its escapes. -/
def escape (value : String) : String := .ofList (escapeFrom false value.toList)

/-- The name under which a series is exposed. -/
def name (s : Series) : String := if s.isDuration then s.metric ++ "_count" else s.metric

/-- The exposition line of a series without its value. -/
def text (s : Series) : String :=
  let labels := s.labels.map fun (label, value) => label ++ "=\"" ++ escape value ++ "\""
  s.name ++ "\x7b" ++ ",".intercalate labels ++ "\x7d"

end Series

namespace Measure

/-- The text of a truth value. -/
def flag (b : Bool) : String := if b then "true" else "false"

/-- The series that a measure adds one to. -/
def series : Measure → List Series
  | .request scope bypass =>
    .counter "idempotency_requests_total" [("scope", scope), ("bypass", flag bypass)] ::
      if bypass then [.counter "idempotency_bypass_total" [("scope", scope)]] else []
  | .replay scope => [.counter "idempotency_replays_total" [("scope", scope)]]
  | .inProgress scope => [.counter "idempotency_duplicates_in_progress_total" [("scope", scope)]]
  | .rejected scope => [.counter "idempotency_rejected_repeats_total" [("scope", scope)]]
  | .execution scope success =>
    [.counter "idempotency_executions_total" [("scope", scope), ("success", flag success)],
     .duration "idempotency_execution_duration_ms" [("scope", scope)]]
  | .stale scope operation =>
    [.counter "idempotency_stale_finalizations_total"
      [("scope", scope), ("operation", operation)]]
  | .store backend operation success =>
    [.counter "idempotency_store_operations_total"
      [("backend", backend), ("operation", operation), ("success", flag success)],
     .duration "idempotency_store_operation_duration_ms"
      [("backend", backend), ("operation", operation)]]
  | .http method path status =>
    [.counter "http_requests_total"
      [("method", method), ("path", path), ("status", Text.writeNat status)]]

/-- What a metric counts. -/
def help (metric : String) : Option String :=
  [("idempotency_requests_total", "Guarded requests received"),
   ("idempotency_bypass_total", "Requests that forced re-execution"),
   ("idempotency_replays_total", "Cached outcomes replayed without execution"),
   ("idempotency_duplicates_in_progress_total",
    "Duplicates rejected while the original was running"),
   ("idempotency_rejected_repeats_total", "Repeats rejected by operations that refuse replay"),
   ("idempotency_executions_total", "Guarded operation executions"),
   ("idempotency_execution_duration_ms", "Guarded operation latency in milliseconds"),
   ("idempotency_stale_finalizations_total",
    "Complete/release calls from a lease holder that lost its lease"),
   ("idempotency_store_operations_total", "Record store operations"),
   ("idempotency_store_operation_duration_ms", "Record store operation latency in milliseconds"),
   ("http_requests_total", "Total HTTP requests")].lookup metric

/-- The number of times each series was counted, in order of first appearance. -/
def totals (measures : List Measure) : List (Series × Nat) :=
  (measures.flatMap series).foldl add []
where
  /-- Adds one to a series. -/
  add (sums : List (Series × Nat)) (s : Series) : List (Series × Nat) :=
    match sums with
    | [] => [(s, 1)]
    | (t, n) :: rest => if t = s then (t, n + 1) :: rest else (t, n) :: add rest s

end Measure

end Turnstile
