import Turnstile.Fault
import Turnstile.Json.Decode
import Turnstile.Json.Printer
import Turnstile.Store.Basic
import Turnstile.Time.Stamp

/-!
Health: the state of the dependencies and of the service. Main statements: one dependency that does
not work makes the service unhealthy (`worst_eq_unhealthy_iff`), and the service is healthy exactly
when every dependency is (`worst_eq_healthy_iff`).
-/

namespace Turnstile

/-- How well a dependency or the service works. -/
inductive HealthStatus
  | healthy
  | degraded
  | unhealthy
deriving DecidableEq, Repr

namespace HealthStatus

/-- The name of a status. -/
def text : HealthStatus → String
  | .healthy => "healthy"
  | .degraded => "degraded"
  | .unhealthy => "unhealthy"

/-- Reads a status. -/
def decoder : Json.Decoder HealthStatus :=
  .choice [("healthy", .healthy), ("degraded", .degraded), ("unhealthy", .unhealthy)]

/-- The worst of some statuses; healthy when there is none. -/
def worst (statuses : List HealthStatus) : HealthStatus :=
  if statuses.contains .unhealthy then .unhealthy
  else if statuses.contains .degraded then .degraded
  else .healthy

/-- One dependency that does not work makes the service unhealthy. -/
theorem worst_eq_unhealthy_iff {statuses : List HealthStatus} :
    worst statuses = .unhealthy ↔ .unhealthy ∈ statuses := by
  simp only [worst, List.contains_iff_mem]
  split
  · simp_all
  · split <;> simp_all

/-- The service is healthy exactly when every dependency is. -/
theorem worst_eq_healthy_iff {statuses : List HealthStatus} :
    worst statuses = .healthy ↔ ∀ s ∈ statuses, s = .healthy := by
  simp only [worst, List.contains_iff_mem]
  constructor
  · intro h s hs
    cases s with
    | healthy => rfl
    | degraded => split at h <;> simp_all
    | unhealthy => simp_all
  · intro h
    have noneBad : .unhealthy ∉ statuses := fun bad => by cases h _ bad
    have noneSlow : .degraded ∉ statuses := fun slow => by cases h _ slow
    rw [if_neg noneBad, if_neg noneSlow]

end HealthStatus

/-- The state of a dependency: how long it took to answer, or what is wrong with it. -/
structure DependencyHealth where
  name : String
  status : HealthStatus
  latencyMs : Option Double
  message : Option String

namespace DependencyHealth

/-- A dependency that answered in time. -/
def healthy (name : String) (latency : Double) : DependencyHealth :=
  ⟨name, .healthy, some latency, none⟩

/-- A dependency that works badly. -/
def degraded (name message : String) : DependencyHealth := ⟨name, .degraded, none, some message⟩

/-- A dependency that does not work. -/
def unhealthy (name message : String) : DependencyHealth := ⟨name, .unhealthy, none, some message⟩

/-- The state as JSON. -/
def toJson (d : DependencyHealth) : Json :=
  .ofMembers [("name", .string d.name), ("status", .string d.status.text),
    ("latency_ms", d.latencyMs.elim .null fun l => .number (.double l)),
    ("message", .ofOption d.message)]

/-- Reads a state. -/
def decoder : Json.Decoder DependencyHealth :=
  Json.Fields.decode <|
    DependencyHealth.mk <$> .required "name" .string <*> .required "status" HealthStatus.decoder
      <*> .optional "latency_ms" .double <*> .optional "message" .string

end DependencyHealth

/-- The state of the service with its dependencies. -/
structure ServiceHealth where
  status : HealthStatus
  version : String
  uptimeSeconds : Nat
  dependencies : List DependencyHealth

namespace ServiceHealth

/-- The state of a service with the given dependencies. -/
def of (version : String) (uptimeSeconds : Nat) (dependencies : List DependencyHealth) :
    ServiceHealth :=
  ⟨.worst (dependencies.map (·.status)), version, uptimeSeconds, dependencies⟩

/-- The members that a health document always has. -/
def members (h : ServiceHealth) : List (String × Json) :=
  [("status", .string h.status.text), ("version", .string h.version),
   ("uptime_seconds", .nat h.uptimeSeconds),
   ("dependencies", .array (h.dependencies.map DependencyHealth.toJson))]

/-- The state as JSON. -/
def toJson (h : ServiceHealth) : Json := .ofMembers h.members

end ServiceHealth

/-- The health document of the service: its state at a time. -/
structure HealthReport where
  health : ServiceHealth
  timestamp : Instant

namespace HealthReport

/-- The document as JSON. -/
def toJson (r : HealthReport) : Json :=
  .ofMembers (("timestamp", .string (Stamp.write r.timestamp)) :: r.health.members)

/-- Reads a document. -/
def decoder : Json.Decoder HealthReport :=
  Json.Fields.decode <|
    (fun status version uptime timestamp dependencies =>
        ⟨⟨status, version, uptime, dependencies⟩, timestamp⟩)
      <$> .required "status" HealthStatus.decoder <*> .required "version" .string
      <*> .required "uptime_seconds" (.natBelow (Nat.pow 2 64))
      <*> .required "timestamp" (.parsed Stamp.read?)
      <*> .required "dependencies" (.list DependencyHealth.decoder)

end HealthReport

/-! ## Probing the store -/

/-- The version that the service reports. -/
def serviceVersion : String := "0.1.0"

/-- The latency of an answer that came at once. -/
def promptLatency : Double := .zero false

/-- The state of a store by the answer to its probe. A late answer is tolerated, a missing one is
not. -/
def storeHealth (backend : String) (answer : Attempt Pong) : DependencyHealth :=
  let name := "record_store:" ++ backend
  match answer with
  | .done .prompt => .healthy name promptLatency
  | .done .slow => { DependencyHealth.degraded name "High latency detected" with
      latencyMs := some promptLatency }
  | .done .silent => .unhealthy name "Ping timeout"
  | .failed fault => .unhealthy name ("Ping failed: " ++ fault.message)
  | .overflow => .unhealthy name ("Ping failed: " ++ overflowMessage)

end Turnstile
