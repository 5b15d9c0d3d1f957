import Turnstile.Telemetry.Counters
import Turnstile.Telemetry.Event
import Turnstile.Telemetry.Measure

/-!
Effects: what a step leaves behind besides its result, in order.
-/

namespace Turnstile

/-- A counter that goes up, a measure, a log event, or the start of a guarded operation. -/
inductive Effect
  | count (counter : Counter)
  | measure (measure : Measure)
  | log (event : Event)
  | invoke
deriving DecidableEq

namespace Effect

/-- The counters after some effects. -/
def counters (start : Counters) (effects : List Effect) : Counters :=
  effects.foldl (fun c e =>
    match e with
    | .count k => c.bump k
    | _ => c) start

/-- The measures among some effects. -/
def measures (effects : List Effect) : List Measure :=
  effects.filterMap fun e =>
    match e with
    | .measure m => some m
    | _ => none

/-- The log events among some effects. -/
def events (effects : List Effect) : List Event :=
  effects.filterMap fun e =>
    match e with
    | .log event => some event
    | _ => none

/-- The number of operations started by some effects. -/
def invocations (effects : List Effect) : Nat := effects.count .invoke

end Effect

end Turnstile
