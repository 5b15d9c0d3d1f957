import Turnstile.Guard.Call
import Turnstile.Rehearsal.Planned

/-!
Scenes: what a rehearsal carries from step to step. The clock of records stands still, so a record
ends either at once or not at all; tokens come from a supply in which no two are the same.
-/

namespace Turnstile.Rehearsal

/-- The time of a rehearsal. -/
def now : Instant :=
  { Instant.epoch with
    seconds := 1762000000
    first_le := by decide
    le_last := by decide }

/-- The state of a rehearsal: the store, the counters, the number of operations started, the next
token of the supply, and every effect so far. -/
structure Scene (σ : Type) where
  stage : Stage σ
  counters : Counters
  calls : Nat
  serial : Nat
  effects : List Effect

namespace Scene

variable {σ α : Type}

/-- The scene before the first step. -/
def of (bench : Bench σ) : Scene σ := ⟨.of bench.initial, .zero, 0, 1, []⟩

/-- The time and the next token. -/
def moment (s : Scene σ) : Moment := ⟨now, .serial s.serial⟩

/-- The scene after a step with effects. -/
def absorb (s : Scene σ) (stage : Stage σ) (effects : List Effect) : Scene σ :=
  { s with
    stage := stage
    counters := Effect.counters s.counters effects
    calls := s.calls + Effect.invocations effects
    serial := s.serial + 1
    effects := s.effects ++ effects }

/-- The scene after some log events. -/
def note (s : Scene σ) (effects : List Effect) : Scene σ := s.absorb s.stage effects

/-- Takes a traced step. -/
def traced (s : Scene σ) (t : Traced (Stage σ) α) : Scene σ × α :=
  (s.absorb t.state t.effects, t.value)

/-- Takes a step of the store. -/
def stepped (s : Scene σ) (step : Step (Stage σ) α) : Scene σ × Attempt α :=
  (s.absorb step.state step.effects, step.result)

/-- Changes the store behind the plans. -/
def modifyInner (s : Scene σ) (f : σ → σ) : Scene σ :=
  { s with stage := { s.stage with inner := f s.stage.inner } }

end Scene

end Turnstile.Rehearsal
