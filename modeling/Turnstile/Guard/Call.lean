import Turnstile.Guard.Refusal
import Turnstile.Key.Canonical
import Turnstile.Key.Extractor
import Turnstile.Policy
import Turnstile.Store.Basic
import Turnstile.Text.Mask
import Turnstile.Text.Quoted

/-!
Guarded calls. A call claims its key, runs its operation and ends its lease. It is split into the
steps between which other calls may run: the opening, which ends the call or grants it a lease; the
conclusion, which ends the lease once the operation has ended and takes place whether or not the
caller still waits; and the resolution, which a waiting caller makes of the conclusion.
-/

namespace Turnstile

/-- A store with the prefix of its canonical keys. -/
structure Guard (σ : Type) where
  store : Store σ
  keyPrefix : String

/-- A lease that was granted: the scope it counts for, the key and the token. -/
structure Lease where
  scope : String
  key : String
  owner : Token
deriving DecidableEq

/-- How the opening of a call ended: the call is over, its operation runs, or the opening broke
off. -/
inductive Opening
  | ended (result : Except Refusal Outcome)
  | running (lease : Lease)
  | brokenOff (message : String)

/-- How a guarded operation ended: with an outcome, with its own error, or by breaking off. -/
inductive Ending (ε : Type)
  | returned (outcome : Outcome)
  | failed (error : ε)
  | panicked (message : String)

/-- How the work under a lease ended. Work breaks off when its operation does, or when the end of
the window of its outcome is out of range. -/
inductive Conclusion (ε : Type)
  | outcome (outcome : Outcome)
  | failed (error : ε)
  | brokenOff (message : String)

/-- A state with the effects that led to it. -/
structure Traced (σ α : Type) where
  state : σ
  effects : List Effect
  value : α

/-- Puts effects in front. -/
def Traced.after {σ α : Type} (effects : List Effect) (t : Traced σ α) : Traced σ α :=
  { t with effects := effects ++ t.effects }

namespace Guard

variable {σ ε : Type}

/-- The canonical key of a client's key under a policy. -/
def canonicalKey (g : Guard σ) (policy : Policy) (rawKey : String) : String :=
  Turnstile.canonicalKey g.keyPrefix policy.scope rawKey

/-! ## Opening -/

/-- A log event of a scope. -/
def logFor (severity : Severity) (message scope : String) (fields : List (String × Event.Value)) :
    Effect :=
  .log ⟨severity, message, ("scope", .text scope) :: fields⟩

/-- What a repeat gets from the record that stands in its way. -/
def conflict (policy : Policy) (rawKey : String) (existing : Record) :
    List Effect × Except Refusal Outcome :=
  let key := Text.maskKey rawKey
  let shown := [("key", Event.Value.text key)]
  match existing.state, policy.repeats with
  | .pending, _ =>
    ([.count .inProgress, .measure (.inProgress policy.scope),
      logFor .warn "Duplicate request while original is in progress" policy.scope shown],
     .error (.inProgress key))
  | .completed, .reject =>
    ([.count .repeatRejected, .measure (.rejected policy.scope),
      logFor .warn "Repeated request rejected" policy.scope shown],
     .error (.alreadyProcessed key))
  | .completed, .returnCached =>
    match existing.outcome? with
    | some outcome =>
      ([.count .replayed, .measure (.replay policy.scope),
        logFor .info "Replaying cached outcome" policy.scope
          (shown ++ [("status", .number outcome.status.toNat)])],
       .ok outcome)
    | none =>
      ([.count .storeError],
       .error (.store (.internal "Completed idempotency record has no cached outcome")))

/-- A claim that failed. -/
def claimFailed (policy : Policy) (fault : Fault) : List Effect :=
  [.count .storeError,
   logFor .error "Record store unavailable, refusing to run guarded operation" policy.scope
     [("error", .text fault.message)]]

/-- The start of the operation under a fresh lease. -/
def granted (policy : Policy) (rawKey : String) (owner : Token) : List Effect :=
  [.count .new,
   logFor .debug "Lease acquired" policy.scope
     [("key", .text (Text.maskKey rawKey)), ("owner", .owner owner)],
   .invoke]

/-- Opens a call with a key that is not blank: claims the key, or seizes it for a bypass. -/
def openKey (g : Guard σ) (policy : Policy) (rawKey : String) (bypass : Bool) (s : σ)
    (m : Moment) : Traced σ Opening :=
  let key := g.canonicalKey policy rawKey
  let request := [Effect.measure (.request policy.scope bypass)]
  if bypass then
    let step := g.store.seize s m key policy.timeout
    let before := request ++ .count .bypassed :: step.effects
    match step.result with
    | .done owner =>
      let notice := logFor .info "Bypass requested, forcing re-execution" policy.scope
        [("key", .text (Text.maskKey rawKey))]
      ⟨step.state, before ++ notice :: granted policy rawKey owner,
        .running ⟨policy.scope, key, owner⟩⟩
    | .failed fault =>
      ⟨step.state, before ++ claimFailed policy fault, .ended (.error (.store fault))⟩
    | .overflow => ⟨step.state, before, .brokenOff overflowMessage⟩
  else
    let step := g.store.claim s m key policy.timeout
    let before := request ++ step.effects
    match step.result with
    | .done (.acquired owner) =>
      ⟨step.state, before ++ granted policy rawKey owner, .running ⟨policy.scope, key, owner⟩⟩
    | .done (.conflict existing) =>
      let (effects, result) := conflict policy rawKey existing
      ⟨step.state, before ++ effects, .ended result⟩
    | .failed fault =>
      ⟨step.state, before ++ claimFailed policy fault, .ended (.error (.store fault))⟩
    | .overflow => ⟨step.state, before, .brokenOff overflowMessage⟩

/-- Opens a call with a key that was extracted elsewhere. -/
def openWithKey (g : Guard σ) (policy : Policy) (rawKey : String) (bypass : Bool) (s : σ)
    (m : Moment) : Traced σ Opening :=
  if Text.allBlank rawKey then
    ⟨s, [.count .total, .count .missingKey],
      .ended (.error (.missingKey "idempotency key is blank"))⟩
  else Traced.after [.count .total] (g.openKey policy rawKey bypass s m)

/-- Opens a call with the key that an extractor finds in a request. -/
def openRequest (g : Guard σ) (policy : Policy) (extractor : Extractor) (source : KeySource)
    (bypass : Bool) (s : σ) (m : Moment) : Traced σ Opening :=
  match extractor.extract source with
  | .error reason =>
    ⟨s, [.count .total, .count .missingKey,
      logFor .warn "Rejecting request without idempotency key" policy.scope
        [("reason", .text reason)]],
      .ended (.error (.missingKey reason))⟩
  | .ok rawKey => Traced.after [.count .total] (g.openKey policy rawKey bypass s m)

/-! ## The end of a lease -/

/-- Caches the outcome of a lease. An outcome of a lost lease is not cached, and a store that fails
leaves the key pending; the caller's outcome does not depend on either. -/
def complete (g : Guard σ) (lease : Lease) (outcome : Outcome) (window : Span) (s : σ)
    (now : Instant) : Traced σ (Conclusion ε) :=
  let step := g.store.complete s now lease.key lease.owner outcome window
  match step.result with
  | .done .applied =>
    ⟨step.state, step.effects ++ [.count .completed,
      logFor .debug "Cached outcome" lease.scope
        [("owner", .owner lease.owner), ("status", .number outcome.status.toNat)]],
      .outcome outcome⟩
  | .done .stale =>
    ⟨step.state, step.effects ++ [.count .stale, .measure (.stale lease.scope "complete"),
      logFor .warn "Lease lost before completion, outcome not cached" lease.scope
        [("owner", .owner lease.owner)]],
      .outcome outcome⟩
  | .failed fault =>
    ⟨step.state, step.effects ++ [.count .storeError,
      logFor .error "Failed to mark idempotency key as completed" lease.scope
        [("error", .text fault.message)]],
      .outcome outcome⟩
  | .overflow => ⟨step.state, step.effects, .brokenOff overflowMessage⟩

/-- Gives a key free for another try. -/
def release (g : Guard σ) (lease : Lease) (reason : String) (s : σ) (now : Instant) :
    Traced σ Unit :=
  let step := g.store.release s now lease.key lease.owner
  let before := .count .failed :: step.effects
  match step.result with
  | .done .applied =>
    ⟨step.state, before ++ [
      logFor .info "Released idempotency key for retry" lease.scope [("reason", .text reason)]], ()⟩
  | .done .stale =>
    ⟨step.state, before ++ [.count .stale, .measure (.stale lease.scope "release"),
      logFor .warn "Lease lost before release" lease.scope
        [("owner", .owner lease.owner), ("reason", .text reason)]], ()⟩
  | .failed fault =>
    ⟨step.state, before ++ [.count .storeError,
      logFor .error "Failed to release idempotency key, it stays pending until its lease expires"
        lease.scope [("error", .text fault.message)]], ()⟩
  | .overflow => ⟨step.state, before, ()⟩

/-- Concludes the work under a lease when its operation has ended. An operation that breaks off
leaves the lease to the resolution. -/
def conclude (g : Guard σ) (lease : Lease) (window : Span) (ending : Ending ε) (s : σ)
    (now : Instant) : Traced σ (Conclusion ε) :=
  match ending with
  | .returned outcome =>
    Traced.after [.measure (.execution lease.scope true)] (g.complete lease outcome window s now)
  | .failed error =>
    let t := g.release lease "operation failed" s now
    ⟨t.state, .measure (.execution lease.scope false) :: t.effects, .failed error⟩
  | .panicked message => ⟨s, [], .brokenOff message⟩

/-- What is told of work that broke off. -/
def brokenOffText (message : String) : String :=
  "task N panicked with message " ++ Text.quoted message

/-- What a waiting caller makes of a conclusion: work that broke off releases its key. -/
def resolve (g : Guard σ) (lease : Lease) (conclusion : Conclusion ε) (s : σ) (now : Instant) :
    Traced σ (Except (CallError ε) Outcome) :=
  match conclusion with
  | .outcome outcome => ⟨s, [], .ok outcome⟩
  | .failed error => ⟨s, [], .error (.operation error)⟩
  | .brokenOff message =>
    let t := g.release lease "operation aborted" s now
    ⟨t.state, t.effects, .error (.aborted (brokenOffText message))⟩

/-! ## Whole calls -/

/-- The end of a lease whose caller waits for it. -/
def finish (g : Guard σ) (lease : Lease) (window : Span) (ending : Ending ε) (s : σ)
    (now : Instant) : Traced σ (Except (CallError ε) Outcome) :=
  let concluded := g.conclude lease window ending s now
  Traced.after concluded.effects (g.resolve lease concluded.value concluded.state now)

/-- The rest of a call after its opening, for an operation with a known ending. A call whose opening
broke off has no result. -/
def proceed (g : Guard σ) (policy : Policy) (ending : Ending ε) (now : Instant)
    (opening : Traced σ Opening) : Traced σ (Option (Except (CallError ε) Outcome)) :=
  match opening.value with
  | .ended (.ok outcome) => ⟨opening.state, opening.effects, some (.ok outcome)⟩
  | .ended (.error refusal) => ⟨opening.state, opening.effects, some (.error (.refused refusal))⟩
  | .brokenOff _ => ⟨opening.state, opening.effects, none⟩
  | .running lease =>
    let t := g.finish lease policy.window ending opening.state now
    ⟨t.state, opening.effects ++ t.effects, some t.value⟩

/-- A whole call with a given key, nothing else happening meanwhile. -/
def callWithKey (g : Guard σ) (policy : Policy) (rawKey : String) (bypass : Bool)
    (ending : Ending ε) (s : σ) (m : Moment) :
    Traced σ (Option (Except (CallError ε) Outcome)) :=
  g.proceed policy ending m.now (g.openWithKey policy rawKey bypass s m)

/-- A whole call with the key of a request, nothing else happening meanwhile. -/
def callRequest (g : Guard σ) (policy : Policy) (extractor : Extractor) (source : KeySource)
    (bypass : Bool) (ending : Ending ε) (s : σ) (m : Moment) :
    Traced σ (Option (Except (CallError ε) Outcome)) :=
  g.proceed policy ending m.now (g.openRequest policy extractor source bypass s m)

end Guard

end Turnstile
