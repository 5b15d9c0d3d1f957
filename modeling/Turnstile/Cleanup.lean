import Turnstile.Guard.Call

/-!
The cleanup job: it purges a store at once and then once in every period.
-/

namespace Turnstile

/-- A running cleanup job: its period and the time of its next purge, in milliseconds of a timer. -/
structure CleanupJob where
  period : Nat
  next : Nat
deriving DecidableEq, Repr

namespace Cleanup

variable {σ : Type}

/-- What the job logs about a purge. -/
def report (backend : String) : Attempt Nat → List Effect
  | .done 0 => []
  | .done (n + 1) =>
    [.log ⟨.info, "Cleaned up " ++ Text.writeNat (n + 1) ++ " expired idempotency records",
      [("backend", .text backend)]⟩]
  | .failed fault =>
    [.log ⟨.error, "Failed to cleanup expired idempotency records: " ++ fault.message, []⟩]
  | .overflow => []

/-- One purge of the job. -/
def tick (store : Store σ) (s : σ) (now : Instant) : Traced σ Unit :=
  let step := store.purge s now
  ⟨step.state, step.effects ++ report store.backend step.result, ()⟩

/-- A job that starts at a time of the timer; a job without a period dies. -/
def start? (period now : Nat) : Option CleanupJob :=
  if period = 0 then none else some ⟨period, now⟩

/-- The number of purges that are due at a time of the timer. -/
def due (job : CleanupJob) (now : Nat) : Nat :=
  if now < job.next then 0 else (now - job.next) / job.period + 1

/-- The job after the purges that are due. -/
def advance (job : CleanupJob) (now : Nat) : CleanupJob :=
  { job with next := job.next + due job now * job.period }

end Cleanup

end Turnstile
