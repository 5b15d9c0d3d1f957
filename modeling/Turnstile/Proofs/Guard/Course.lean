import Turnstile.Proofs.Guard.Opening

/-!
The course of a call: what it does one thing at a time, with the store's answers still open. Between
any two of these things other calls may do theirs. Main statement: taken without a break, with the
answers of a store, the course of a call is the whole call (`Guard.run_courseOf`).
-/

namespace Turnstile

open Store

variable {σ ε : Type}

/-- What is left of a call: it has ended with a result if any, or it leaves an effect behind and
goes on, or it makes a call of the store and goes on with the answer. -/
inductive Course (ε : Type)
  | ends (result : Option (Except (CallError ε) Outcome))
  | leaves (effect : Effect) (rest : Course ε)
  | asks (call : Call) (answered : Attempt Answer → Course ε)

namespace Course

/-- Leaves effects behind, one after the other. -/
def after (effects : List Effect) (rest : Course ε) : Course ε := effects.foldr .leaves rest

/-- A course without a break on a store. Its first call is made at one time, and all others at a
later one. -/
def run (st : Store σ) (later : Instant) :
    Course ε → σ → Instant → Traced σ (Option (Except (CallError ε) Outcome))
  | .ends result, s, _ => ⟨s, [], result⟩
  | .leaves effect rest, s, now => (rest.run st later s now).after [effect]
  | .asks call answered, s, now =>
    let step := st.perform s ⟨now, call⟩
    ((answered step.result).run st later step.state later).after step.effects

/-- Whatever the store answers, as long as its calls return, all that a course leaves behind has a
property. -/
def Always : Course ε → (List Effect → Prop) → Prop
  | .ends _, P => P []
  | .leaves effect rest, P => rest.Always fun more => P (effect :: more)
  | .asks _ answered, P => ∀ answer, answer ≠ .overflow → (answered answer).Always P

end Course

namespace Guard

/-! ## The end of a lease -/

/-- The effects behind the answer to a completion. -/
def completed (lease : Lease) (outcome : Outcome) : Attempt Answer → List Effect
  | .done (.finality .applied) =>
    [.count .completed, logFor .debug "Cached outcome" lease.scope
      [("owner", .owner lease.owner), ("status", .number outcome.status.toNat)]]
  | .done (.finality .stale) =>
    [.count .stale, .measure (.stale lease.scope "complete"),
      logFor .warn "Lease lost before completion, outcome not cached" lease.scope
        [("owner", .owner lease.owner)]]
  | .failed fault =>
    [.count .storeError, logFor .error "Failed to mark idempotency key as completed" lease.scope
      [("error", .text fault.message)]]
  | _ => []

/-- The effects behind the answer to a release. -/
def released (lease : Lease) (reason : String) : Attempt Answer → List Effect
  | .done (.finality .applied) =>
    [logFor .info "Released idempotency key for retry" lease.scope [("reason", .text reason)]]
  | .done (.finality .stale) =>
    [.count .stale, .measure (.stale lease.scope "release"),
      logFor .warn "Lease lost before release" lease.scope
        [("owner", .owner lease.owner), ("reason", .text reason)]]
  | .failed fault =>
    [.count .storeError,
      logFor .error "Failed to release idempotency key, it stays pending until its lease expires"
        lease.scope [("error", .text fault.message)]]
  | _ => []

variable (g : Guard σ) (lease : Lease) (s : σ) (now : Instant)

/-- A completion is its call, with the effects of its answer behind it. -/
theorem complete_eq (outcome : Outcome) (window : Span) :
    let step := g.store.perform s ⟨now, .complete lease.key lease.owner outcome window⟩
    g.complete (ε := ε) lease outcome window s now =
      ⟨step.state, step.effects ++ completed lease outcome step.result,
        (Ending.returned outcome).conclusion (some step.result)⟩ := by
  simp only [complete, perform, perform.as]
  cases (g.store.complete s now lease.key lease.owner outcome window).result with
  | done value => cases value <;> rfl
  | failed fault => rfl
  | overflow => simp [Attempt.map, completed, Ending.conclusion]

/-- A release is counted, and is its call with the effects of its answer behind it. -/
theorem release_eq (reason : String) :
    let step := g.store.perform s ⟨now, .release lease.key lease.owner⟩
    g.release lease reason s now =
      ⟨step.state, .count .failed :: step.effects ++ released lease reason step.result, ()⟩ := by
  simp only [release, perform, perform.as]
  cases (g.store.release s now lease.key lease.owner).result with
  | done value => cases value <;> rfl
  | failed fault => rfl
  | overflow => simp [Attempt.map, released]

end Guard

/-! ## Courses -/

namespace Course

/-- Gives a key free for another try and goes on. -/
def releasing (lease : Lease) (reason : String) (rest : Course ε) : Course ε :=
  .leaves (.count .failed) <| .asks (.release lease.key lease.owner) fun answer =>
    .after (Guard.released lease reason answer) rest

/-- What a waiting caller does with a conclusion. -/
def resolving (lease : Lease) : Conclusion ε → Course ε
  | .outcome outcome => .ends (some (.ok outcome))
  | .failed error => .ends (some (.error (.operation error)))
  | .brokenOff message =>
    releasing lease "operation aborted"
      (.ends (some (.error (.aborted (Guard.brokenOffText message)))))

/-- What is done under a lease once its operation has ended. -/
def concluding (lease : Lease) (window : Span) : Ending ε → Course ε
  | .returned outcome =>
    .leaves (.measure (.execution lease.scope true)) <|
      .asks (.complete lease.key lease.owner outcome window) fun answer =>
        .after (Guard.completed lease outcome answer)
          (resolving lease ((Ending.returned outcome).conclusion (some answer)))
  | .failed error =>
    .leaves (.measure (.execution lease.scope false)) <|
      releasing lease "operation failed" (resolving lease (.failed error))
  | .panicked message => resolving lease (.brokenOff message)

/-- What is done after an opening. -/
def proceeding (policy : Policy) (ending : Ending ε) : Opening → Course ε
  | .ended result => .ends (some (result.mapError .refused))
  | .running lease => concluding lease policy.window ending
  | .brokenOff _ => .ends none

end Course

/-- The course of a call whose operation ends in a given way. -/
def Guard.courseOf (g : Guard σ) (c : Caller) (fresh : Token) (ending : Ending ε) : Course ε :=
  match c.findKey with
  | .error reason =>
    .after (c.keyless reason) (.ends (some (.error (.refused (.missingKey reason)))))
  | .ok rawKey =>
    .after c.asking <| .asks (g.claimCall c rawKey fresh) fun answer =>
      .after (c.answered rawKey answer) (.proceeding c.policy ending (g.openingOf c rawKey answer))

/-! ## Lemmas -/

theorem Traced.after_after {α : Type} (effects more : List Effect) (t : Traced σ α) :
    (t.after more).after effects = t.after (effects ++ more) := by
  simp [Traced.after]

namespace Course

section

variable (st : Store σ) (later : Instant) (s : σ) (now : Instant)

theorem run_after (effects : List Effect) (rest : Course ε) :
    (after effects rest).run st later s now = (rest.run st later s now).after effects := by
  induction effects with
  | nil => rfl
  | cons effect effects ih =>
    have step : (after (effect :: effects) rest).run st later s now =
        ((after effects rest).run st later s now).after [effect] := rfl
    rw [step, ih, Traced.after_after, List.singleton_append]

end

@[simp]
theorem always_ends {result : Option (Except (CallError ε) Outcome)} {P : List Effect → Prop} :
    (ends result).Always P ↔ P [] := Iff.rfl

/-- What is left behind first stands in front of all that is left later. -/
theorem always_after {effects : List Effect} {rest : Course ε} {P : List Effect → Prop} :
    (after effects rest).Always P ↔ rest.Always fun more => P (effects ++ more) := by
  induction effects generalizing P with
  | nil => rfl
  | cons effect effects ih => exact ih

theorem Always.mono {course : Course ε} {P Q : List Effect → Prop} (h : course.Always P)
    (imp : ∀ left, P left → Q left) : course.Always Q := by
  induction course generalizing P Q with
  | ends result => exact imp [] h
  | leaves effect rest ih => exact ih h fun more => imp (effect :: more)
  | asks call answered ih => exact fun answer unbroken => ih answer (h answer unbroken) imp

variable (g : Guard σ) (lease : Lease) (s : σ) (now : Instant)

theorem run_releasing (reason : String) (rest : Course ε) :
    let t := g.release lease reason s now
    (releasing lease reason rest).run g.store now s now =
      (rest.run g.store now t.state now).after t.effects := by
  intro t
  simp only [t, releasing, run, run_after, g.release_eq, Traced.after_after]
  simp

theorem run_resolving (conclusion : Conclusion ε) :
    let t := g.resolve lease conclusion s now
    (resolving lease conclusion).run g.store now s now = ⟨t.state, t.effects, some t.value⟩ := by
  cases conclusion with
  | outcome outcome => rfl
  | failed error => rfl
  | brokenOff message =>
    simp only [resolving, run_releasing, run, Traced.after, Guard.resolve, List.append_nil]

/-- What is done under a lease is its end. -/
theorem run_concluding (window : Span) (ending : Ending ε) :
    let t := g.finish lease window ending s now
    (concluding lease window ending).run g.store now s now =
      ⟨t.state, t.effects, some t.value⟩ := by
  cases ending with
  | returned outcome =>
    simp only [concluding, run, run_after, run_resolving, Guard.finish, Guard.conclude,
      g.complete_eq, Traced.after]
    simp
  | failed error =>
    simp only [concluding, run, run_releasing, run_resolving, Guard.finish, Guard.conclude,
      Traced.after]
    simp
  | panicked message => exact run_resolving g lease s now (.brokenOff message)

/-- What is done after an opening is the rest of the call. -/
theorem run_proceeding (policy : Policy) (ending : Ending ε) (effects : List Effect)
    (opening : Opening) :
    ((proceeding policy ending opening).run g.store now s now).after effects =
      g.proceed policy ending now ⟨s, effects, opening⟩ := by
  cases opening with
  | ended result =>
    cases result <;> simp [proceeding, run, Guard.proceed, Traced.after, Except.mapError]
  | running lease => simp only [proceeding, run_concluding, Guard.proceed, Traced.after]
  | brokenOff message => simp [proceeding, run, Guard.proceed, Traced.after]

end Course

/-- Without a break, the course of a call is the whole call. -/
theorem Guard.run_courseOf (g : Guard σ) (c : Caller) (ending : Ending ε) (s : σ) (m : Moment)
    (later : Instant) :
    (g.courseOf c m.fresh ending).run g.store later s m.now = g.callFor c ending s m later := by
  rw [callFor, g.openFor_eq, courseOf]
  cases c.findKey with
  | error reason => simp [Course.run_after, Course.run, Traced.after, proceed]
  | ok rawKey =>
    simp only [Course.run_after, Course.run, Traced.after_after]
    rw [Course.run_proceeding, ← List.append_assoc]
    rfl

end Turnstile
