import Turnstile.Proofs.Guard.Conformance

/-!
The opening of a call as a function of what the store answers: which effects stand before the claim,
which behind it, and what the opening comes to. Main statement: a caller without a key leaves the
store alone, and every other opening is its claim between these effects (`Guard.openFor_eq`).
-/

namespace Turnstile

open Store

variable {σ : Type}

namespace Caller

/-- The effects of a call without a key. -/
def keyless (c : Caller) (reason : String) : List Effect :=
  [.count .total, .count .missingKey] ++
    match c.key with
    | .given _ => []
    | .request _ _ =>
      [Guard.logFor .warn "Rejecting request without idempotency key" c.policy.scope
        [("reason", .text reason)]]

/-- The effects of a call before its claim. -/
def asking (c : Caller) : List Effect :=
  [.count .total, .measure (.request c.policy.scope c.bypass)] ++
    if c.bypass then [.count .bypassed] else []

/-- The effects of a call behind its claim. -/
def answered (c : Caller) (rawKey : String) : Attempt Answer → List Effect
  | .done (.claim (.acquired owner)) => Guard.granted c.policy rawKey owner
  | .done (.owner owner) =>
    Guard.logFor .info "Bypass requested, forcing re-execution" c.policy.scope
      [("key", .text (Text.maskKey rawKey))] :: Guard.granted c.policy rawKey owner
  | .done (.claim (.conflict existing)) => (Guard.conflict c.policy rawKey existing).1
  | .failed fault => Guard.claimFailed c.policy fault
  | _ => []

/-- The key of a caller is found or not, whatever the reason is. -/
theorem rawKey?_eq (c : Caller) : c.rawKey? = c.findKey.toOption := by
  obtain ⟨policy, origin, bypass⟩ := c
  cases origin with
  | given rawKey =>
    simp only [Caller.rawKey?, Caller.findKey]
    split <;> rfl
  | request extractor source => rfl

end Caller

namespace Guard

/-- What the answer to a claim makes of a call. -/
def openingOf (g : Guard σ) (c : Caller) (rawKey : String) : Attempt Answer → Opening
  | .done (.claim (.acquired owner)) | .done (.owner owner) =>
    .running (g.leaseFor c rawKey owner)
  | .done (.claim (.conflict existing)) => .ended (conflict c.policy rawKey existing).2
  | .failed fault => .ended (.error (.store fault))
  | _ => .brokenOff overflowMessage

variable (g : Guard σ) (s : σ) (m : Moment)

/-- An opening with a key is its claim, between the effects of the guard. -/
theorem openKey_eq (c : Caller) (rawKey : String) :
    let step := g.store.perform s (g.claimAt c rawKey m)
    (g.openKey c.policy rawKey c.bypass s m).after [.count .total] =
      ⟨step.state, c.asking ++ step.effects ++ c.answered rawKey step.result,
        g.openingOf c rawKey step.result⟩ := by
  obtain ⟨policy, origin, bypass⟩ := c
  cases bypass with
  | true =>
    simp only [openKey, if_true, claimAt, claimCall, perform, perform.as, Traced.after,
      Caller.asking]
    cases (g.store.seize s m (g.canonicalKey policy rawKey) policy.timeout).result with
    | done owner => simp [Attempt.map, Caller.answered, openingOf, leaseFor]
    | failed fault => simp [Attempt.map, Caller.answered, openingOf]
    | overflow => simp [Attempt.map, Caller.answered, openingOf]
  | false =>
    simp only [openKey, Bool.false_eq_true, if_false, claimAt, claimCall, perform, perform.as,
      Traced.after, Caller.asking]
    cases (g.store.claim s m (g.canonicalKey policy rawKey) policy.timeout).result with
    | done claim =>
      cases claim with
      | acquired owner => simp [Attempt.map, Caller.answered, openingOf, leaseFor]
      | conflict existing => simp [Attempt.map, Caller.answered, openingOf]
    | failed fault => simp [Attempt.map, Caller.answered, openingOf]
    | overflow => simp [Attempt.map, Caller.answered, openingOf]

/-- The opening of a call, by its key and the answer to its claim. -/
theorem openFor_eq (c : Caller) :
    g.openFor c s m = match c.findKey with
      | .error reason => ⟨s, c.keyless reason, .ended (.error (.missingKey reason))⟩
      | .ok rawKey =>
        let step := g.store.perform s (g.claimAt c rawKey m)
        ⟨step.state, c.asking ++ step.effects ++ c.answered rawKey step.result,
          g.openingOf c rawKey step.result⟩ := by
  obtain ⟨policy, origin, bypass⟩ := c
  cases origin with
  | given rawKey =>
    have opened := g.openKey_eq s m ⟨policy, .given rawKey, bypass⟩ rawKey
    simp only [openFor, openWithKey, Caller.findKey]
    cases Text.allBlank rawKey with
    | true => rfl
    | false => exact opened
  | request extractor source =>
    have opened := g.openKey_eq s m ⟨policy, .request extractor source, bypass⟩
    simp only [openFor, openRequest, Caller.findKey]
    cases extractor.extract source with
    | error reason => rfl
    | ok rawKey => exact opened rawKey

/-- A call of a journaled store is noted; its effects and its answer are those of the store. -/
theorem perform_journaled (s : Journaled σ) (t : Timed) :
    g.journaled.store.perform s t =
      ⟨s.take g.store t, (g.store.perform s.inner t).effects, (s.entry g.store t).answer⟩ := by
  obtain ⟨now, call⟩ := t
  cases call <;> rfl

/-- A lease is on the key that was claimed. -/
theorem key_of_openingOf {c : Caller} {rawKey : String} {answer : Attempt Answer} {lease : Lease}
    (leased : (g.openingOf c rawKey answer).lease? = some lease) :
    lease.key = g.canonicalKey c.policy rawKey := by
  unfold openingOf at leased
  split at leased <;> cases leased
  all_goals rfl

/-- A call that ends with its claim is refused, or answered from the record in its way. -/
theorem refuses_openingOf {g : Guard σ} {c : Caller} {rawKey : String} {answer : Attempt Answer}
    {result : Except Refusal Outcome} (ended : g.openingOf c rawKey answer = .ended result) :
    Refuses c.policy rawKey answer result := by
  unfold openingOf at ended
  split at ended
  · cases ended
  · cases ended
  · cases ended
    exact (refuses_conflict _ _ _).1
  · cases ended
    exact .failed _
  · cases ended

/-- What a caller makes of a conclusion is no refusal. -/
theorem resolve_ne_refused {ε : Type} (g : Guard σ) (lease : Lease) (conclusion : Conclusion ε)
    (s : σ) (now : Instant) (refusal : Refusal) :
    (g.resolve lease conclusion s now).value ≠ .error (.refused refusal) := by
  cases conclusion <;> simp [resolve]

/-- So a call is refused by its opening. -/
theorem value_eq_of_proceed {ε : Type} {g : Guard σ} {policy : Policy} {ending : Ending ε}
    {now : Instant} {opening : Traced σ Opening} {refusal : Refusal}
    (refused : (g.proceed policy ending now opening).value = some (.error (.refused refusal))) :
    opening.value = .ended (.error refusal) := by
  unfold proceed at refused
  cases value : opening.value with
  | ended result =>
    cases result with
    | ok outcome => simp [value] at refused
    | error other =>
      simp only [value, Option.some.injEq, Except.error.injEq, CallError.refused.injEq] at refused
      rw [refused]
  | running lease =>
    simp only [value, Option.some.injEq] at refused
    exact absurd refused (g.resolve_ne_refused lease _ _ now refusal)
  | brokenOff message => simp [value] at refused

end Guard

/-! ## Entrances -/

namespace Concourse

variable {ε : Type}

/-- A caller who enters without a key leaves the store alone; every other makes its claim. -/
theorem receive_eq (g : Guard σ) (c : Concourse σ ε) (caller : Caller) (fresh : Token) :
    c.receive g caller fresh = match caller.findKey with
      | .error reason =>
        { c with
          visits := c.visits ++
            [⟨caller, c.clock, .ended (.error (.missingKey reason)), .waiting, false⟩] }
      | .ok rawKey =>
        let claim := g.claimAt caller rawKey ⟨c.clock, fresh⟩
        { c with
          store := c.store.take g.store claim
          visits := c.visits ++
            [⟨caller, c.clock, g.openingOf caller rawKey (c.store.entry g.store claim).answer,
              .waiting, false⟩] } := by
  rw [receive, g.journaled.openFor_eq]
  cases caller.findKey with
  | error reason => rfl
  | ok rawKey =>
    simp only [g.perform_journaled]
    rfl

end Concourse

end Turnstile
