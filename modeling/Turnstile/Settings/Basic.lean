import Turnstile.Json.Decode
import Turnstile.Policy

/-!
Settings of the service. Every field has a default, so any part of a settings document may be left
out. The same shape is read from strict JSON and from layered sources, where texts, numbers and
truth values stand in for each other; the difference is a dialect.
-/

namespace Turnstile

/-- Where records are kept. -/
inductive StoreBackend
  | memory
  | redis
deriving DecidableEq, Repr

/-- The backends by their names. -/
def StoreBackend.names : List (String × StoreBackend) := [("memory", .memory), ("redis", .redis)]

/-- The name of a backend. -/
def StoreBackend.text : StoreBackend → String
  | .memory => "memory"
  | .redis => "redis"

/-- Settings of the service itself. -/
structure ApplicationSettings where
  host : String
  port : Nat
  logLevel : String
  logFormat : String
  slowOperationMs : Nat

/-- Settings of the server of hashes. -/
structure ServerSettings where
  url : String
  keyPrefix : String

/-- Settings of one operation; what is not set follows the general settings. -/
structure OperationSettings where
  timeoutSecs : Option Nat
  resultExpireSecs : Option Nat

/-- Settings of guarded operations. -/
structure GuardSettings where
  store : StoreBackend
  keyHeader : String
  replayHeader : String
  keyPrefix : String
  timeoutSecs : Nat
  resultExpireSecs : Nat
  cleanupIntervalSecs : Nat
  operations : List (String × OperationSettings)

/-- All settings. -/
structure Settings where
  application : ApplicationSettings
  redis : ServerSettings
  guards : GuardSettings

/-! ## Defaults -/

/-- The service settings that hold unless others are given. -/
def ApplicationSettings.standard : ApplicationSettings := ⟨"0.0.0.0", 8080, "info", "pretty", 1500⟩

/-- The server settings that hold unless others are given. -/
def ServerSettings.standard : ServerSettings := ⟨"redis://127.0.0.1:6379", "guard"⟩

/-- The guard settings that hold unless others are given. -/
def GuardSettings.standard : GuardSettings :=
  ⟨.memory, "Idempotent-Key", "Idempotent-Replay", "idem", 60, 3600, 60, []⟩

/-- The settings that hold unless others are given. -/
def Settings.standard : Settings := ⟨.standard, .standard, .standard⟩

/-! ## Policies -/

/-- The policy of an operation: its own settings, and the general ones where it has none. -/
def GuardSettings.policyFor (s : GuardSettings) (scope : String) (repeats : RepeatRule) : Policy :=
  let own := s.operations.lookup scope
  { scope := scope
    timeout := .ofSeconds ((own.bind (·.timeoutSecs)).getD s.timeoutSecs)
    window := .ofSeconds ((own.bind (·.resultExpireSecs)).getD s.resultExpireSecs)
    repeats := repeats }

/-! ## Reading -/

/-- How a notation is read: its scalars, its values that may be missing, its records, and its tables
of values of one kind. -/
structure Dialect (ω : Type) where
  text : Decoder ω String
  natBelow : Nat → Decoder ω Nat
  choice : {α : Type} → List (String × α) → Decoder ω α
  option : {α : Type} → Decoder ω α → Decoder ω (Option α)
  record : {α : Type} → Schema ω α → Decoder ω α
  entries : {α : Type} → Decoder ω α → Decoder ω (List (String × α))

/-- The dialect of JSON. -/
def Dialect.strict : Dialect Json.Written where
  text := Json.Decoder.string
  natBelow := Json.Decoder.natBelow
  choice := Json.Decoder.choice
  option := Json.Decoder.option
  record := Json.Fields.decode
  entries := Json.Decoder.members

section

variable {ω : Type}

/-- A number of 64 bits. -/
def Dialect.count (d : Dialect ω) : Decoder ω Nat := d.natBelow (Nat.pow 2 64)

/-- Reads service settings. -/
def ApplicationSettings.decoder (d : Dialect ω) : Decoder ω ApplicationSettings :=
  let base := standard
  d.record <|
    ApplicationSettings.mk <$> .withDefault "host" d.text base.host
      <*> .withDefault "port" (d.natBelow 65536) base.port
      <*> .withDefault "log_level" d.text base.logLevel
      <*> .withDefault "log_format" d.text base.logFormat
      <*> .withDefault "slow_operation_ms" d.count base.slowOperationMs

/-- Reads server settings. -/
def ServerSettings.decoder (d : Dialect ω) : Decoder ω ServerSettings :=
  let base := standard
  d.record <|
    ServerSettings.mk <$> .withDefault "url" d.text base.url
      <*> .withDefault "key_prefix" d.text base.keyPrefix

/-- Reads the settings of an operation. -/
def OperationSettings.decoder (d : Dialect ω) : Decoder ω OperationSettings :=
  d.record <|
    OperationSettings.mk <$> .withDefault "timeout_secs" (d.option d.count) none
      <*> .withDefault "result_expire_secs" (d.option d.count) none

/-- Reads the settings of operations by their names; of several under one name the last counts. -/
def OperationSettings.mapDecoder (d : Dialect ω) : Decoder ω (List (String × OperationSettings)) :=
  fun w => (d.entries (decoder d) w).map List.reverse

/-- Reads guard settings. -/
def GuardSettings.decoder (d : Dialect ω) : Decoder ω GuardSettings :=
  let base := standard
  d.record <|
    GuardSettings.mk <$> .withDefault "store" (d.choice StoreBackend.names) base.store
      <*> .withDefault "key_header" d.text base.keyHeader
      <*> .withDefault "replay_header" d.text base.replayHeader
      <*> .withDefault "key_prefix" d.text base.keyPrefix
      <*> .withDefault "timeout_secs" d.count base.timeoutSecs
      <*> .withDefault "result_expire_secs" d.count base.resultExpireSecs
      <*> .withDefault "cleanup_interval_secs" d.count base.cleanupIntervalSecs
      <*> .withDefault "operations" (OperationSettings.mapDecoder d) base.operations

/-- Reads settings. -/
def Settings.decoder (d : Dialect ω) : Decoder ω Settings :=
  let base := standard
  d.record <|
    Settings.mk <$> .withDefault "application" (ApplicationSettings.decoder d) base.application
      <*> .withDefault "redis" (ServerSettings.decoder d) base.redis
      <*> .withDefault "idempotency" (GuardSettings.decoder d) base.guards

end

end Turnstile
