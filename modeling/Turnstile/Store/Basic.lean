import Turnstile.Fault
import Turnstile.Record
import Turnstile.Telemetry.Effect

/-!
Record stores. A store is a set of indivisible steps on a state. A step is given the time and, where
a lease may be granted, a token that was never used; it answers, or fails, or breaks off because the
end of a validity window is out of range.
-/

namespace Turnstile

/-- How a step ended. -/
inductive Attempt (α : Type)
  | done (value : α)
  | failed (fault : Fault)
  | overflow
deriving DecidableEq

/-- What is reported when the end of a validity window is out of range. -/
def overflowMessage : String := "`DateTime + TimeDelta` overflowed"

/-- The answer to a claim: a lease, or the record that stands in its way. -/
inductive Claim
  | acquired (owner : Token)
  | conflict (existing : Record)

/-- The answer to the end of a lease: it was recorded, or the lease had been lost before. -/
inductive Finality
  | applied
  | stale
deriving DecidableEq, Repr

/-- How a probe is answered: at once, late, or never. -/
inductive Pong
  | prompt
  | slow
  | silent
deriving DecidableEq, Repr

/-- What a step leaves: the new state, its effects in order, and how it ended. -/
structure Step (σ α : Type) where
  state : σ
  effects : List Effect
  result : Attempt α

/-- The time of a step and the token that it may grant. -/
structure Moment where
  now : Instant
  fresh : Token

/-- A store of records. -/
structure Store (σ : Type) where
  /-- The name of the backend. -/
  backend : String
  /-- Grants a lease on a key unless a record stands in its way. -/
  claim : σ → Moment → String → Span → Step σ Claim
  /-- Caches the outcome of a lease that is still held, for a validity window. -/
  complete : σ → Instant → String → Token → Outcome → Span → Step σ Finality
  /-- Removes the record of a lease that is still held. -/
  release : σ → Instant → String → Token → Step σ Finality
  /-- Grants a lease on a key whatever is recorded there. -/
  seize : σ → Moment → String → Span → Step σ Token
  /-- The record of a key. -/
  read : σ → Instant → String → Step σ (Option Record)
  /-- Removes the records that have ended and says how many they were. -/
  purge : σ → Instant → Step σ Nat
  /-- Asks whether the backend answers. -/
  ping : σ → Step σ Pong

end Turnstile
