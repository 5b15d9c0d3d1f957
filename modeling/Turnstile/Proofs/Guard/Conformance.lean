import Turnstile.Proofs.Guard.Finalization

/-!
What one guarded call does on a store of which nothing is known but that its calls return. Main
statement: a call whose caller stays takes one of three courses. It has no key and touches nothing;
or its one claim is refused and nothing runs; or it gets a lease, runs its operation once, makes the
one call that is due with the same key and token, and gives the operation's own result whatever the
store answers (`Guard.call_conforms`).
-/

namespace Turnstile

open Store

/-- A store whose calls return: none breaks off. -/
def Store.Returns {σ : Type} (st : Store σ) : Prop :=
  ∀ (s : σ) (t : Timed), (st.perform s t).result ≠ .overflow

/-- The key of a caller, or the reason why there is none. -/
def Caller.findKey (c : Caller) : Except String String :=
  match c.key with
  | .given rawKey => if Text.allBlank rawKey then .error "idempotency key is blank" else .ok rawKey
  | .request extractor source => extractor.extract source

/-- What a caller who stays is told of the ending of its operation. -/
def Ending.result {ε : Type} : Ending ε → Except (CallError ε) Outcome
  | .returned outcome => .ok outcome
  | .failed error => .error (.operation error)
  | .panicked message => .error (.aborted (Guard.brokenOffText message))

/-- What a caller is told when the answer to its claim is no lease. -/
inductive Refuses (policy : Policy) (rawKey : String) :
    Attempt Answer → Except Refusal Outcome → Prop
  | failed (fault : Fault) : Refuses policy rawKey (.failed fault) (.error (.store fault))
  | pending {existing : Record} (pending : existing.isPending = true) :
      Refuses policy rawKey (.done (.claim (.conflict existing)))
        (.error (.inProgress (Text.maskKey rawKey)))
  | rejected {existing : Record} (completed : existing.isCompleted = true)
      (rule : policy.repeats = .reject) :
      Refuses policy rawKey (.done (.claim (.conflict existing)))
        (.error (.alreadyProcessed (Text.maskKey rawKey)))
  | replayed {existing : Record} {outcome : Outcome} (completed : existing.isCompleted = true)
      (rule : policy.repeats = .returnCached) (cached : existing.outcome? = some outcome) :
      Refuses policy rawKey (.done (.claim (.conflict existing))) (.ok outcome)
  | uncached {existing : Record} (completed : existing.isCompleted = true)
      (rule : policy.repeats = .returnCached) (uncached : existing.outcome? = none) :
      Refuses policy rawKey (.done (.claim (.conflict existing)))
        (.error (.store (.internal "Completed idempotency record has no cached outcome")))

/-- The answer to a claim is a lease for a token. -/
inductive Grants : Attempt Answer → Token → Prop
  | claimed (owner : Token) : Grants (.done (.claim (.acquired owner))) owner
  | seized (owner : Token) : Grants (.done (.owner owner)) owner

variable {σ ε : Type}

/-- Effects of the store's own among those of the guard, which start no operation. -/
def Around (own effects : List Effect) : Prop :=
  ∃ before after, effects = before ++ own ++ after ∧ .invoke ∉ before ∧ .invoke ∉ after

namespace Guard

/-- The claim of a caller at its time. -/
def claimAt (g : Guard σ) (c : Caller) (rawKey : String) (m : Moment) : Timed :=
  ⟨m.now, g.claimCall c rawKey m.fresh⟩

/-- The lease of a caller for a token. -/
def leaseFor (g : Guard σ) (c : Caller) (rawKey : String) (owner : Token) : Lease :=
  ⟨c.policy.scope, g.canonicalKey c.policy rawKey, owner⟩

/-- A whole call of a caller who stays. Its operation ends at a later time. -/
def callFor (g : Guard σ) (c : Caller) (ending : Ending ε) (s : σ) (m : Moment) (later : Instant) :
    Traced σ (Option (Except (CallError ε) Outcome)) :=
  g.proceed c.policy ending later (g.openFor c s m)

end Guard

/-- The three courses of a call: what the store is asked, what is run, and what the caller is
told. -/
inductive Conforms (g : Guard σ) (c : Caller) (ending : Ending ε) (s : Journaled σ) (m : Moment)
    (later : Instant) : Traced (Journaled σ) (Option (Except (CallError ε) Outcome)) → Prop
  | keyless {reason : String} {effects : List Effect} (missing : c.findKey = .error reason)
      (idle : .invoke ∉ effects) :
      Conforms g c ending s m later ⟨s, effects, some (.error (.refused (.missingKey reason)))⟩
  | refused {rawKey : String} {effects : List Effect} {result : Except Refusal Outcome}
      (present : c.findKey = .ok rawKey)
      (refuses : Refuses c.policy rawKey (s.entry g.store (g.claimAt c rawKey m)).answer result)
      (idle : Around (g.store.perform s.inner (g.claimAt c rawKey m)).effects effects) :
      Conforms g c ending s m later
        ⟨s.take g.store (g.claimAt c rawKey m), effects, some (result.mapError .refused)⟩
  | executed {rawKey : String} {owner : Token} {opening closing : List Effect}
      {claimed : Journaled σ} {due : Timed} (present : c.findKey = .ok rawKey)
      (grants : Grants (s.entry g.store (g.claimAt c rawKey m)).answer owner)
      (claims : claimed = s.take g.store (g.claimAt c rawKey m))
      (finalizes : due = ⟨later, ending.due (g.leaseFor c rawKey owner) c.policy.window⟩)
      (before : Around (g.store.perform s.inner (g.claimAt c rawKey m)).effects opening)
      (after : Around (g.store.perform claimed.inner due).effects closing) :
      Conforms g c ending s m later
        ⟨claimed.take g.store due, opening ++ .invoke :: closing, some ending.result⟩

namespace Around

variable {own effects more : List Effect}

theorem cons {effect : Effect} (h : Around own effects) (idle : .invoke ≠ effect) :
    Around own (effect :: effects) := by
  obtain ⟨before, after, rfl, quiet, quiet'⟩ := h
  refine ⟨effect :: before, after, rfl, ?_, quiet'⟩
  simp [idle, quiet]

theorem append (h : Around own effects) (idle : .invoke ∉ more) : Around own (effects ++ more) := by
  obtain ⟨before, after, rfl, quiet, quiet'⟩ := h
  refine ⟨before, after ++ more, by simp, quiet, ?_⟩
  simp [idle, quiet']

theorem refl (own : List Effect) : Around own own := ⟨[], [], by simp, by simp, by simp⟩

end Around

namespace Guard

variable (g : Guard σ) (s : Journaled σ)

/-! ## The opening -/

/-- A repeat is told what the record in its way and the policy say, and nothing runs. -/
theorem refuses_conflict (policy : Policy) (rawKey : String) (existing : Record) :
    Refuses policy rawKey (.done (.claim (.conflict existing)))
        (conflict policy rawKey existing).2 ∧
      .invoke ∉ (conflict policy rawKey existing).1 := by
  unfold conflict
  cases state : existing.state with
  | pending => exact ⟨.pending (by simp [Record.isPending, state]), by simp [logFor]⟩
  | completed =>
    have completed : existing.isCompleted = true := by simp [Record.isCompleted, state]
    cases rule : policy.repeats with
    | reject => exact ⟨.rejected completed rule, by simp [logFor]⟩
    | returnCached =>
      cases cached : existing.outcome? with
      | some outcome => exact ⟨.replayed completed rule cached, by simp [logFor]⟩
      | none => exact ⟨.uncached completed rule cached, by simp⟩

/-- An opening is refused after its claim, or gets a lease and starts the operation. -/
inductive Opens (c : Caller) (rawKey : String) (claim : Timed) : Traced (Journaled σ) Opening → Prop
  | refused {effects : List Effect} {result : Except Refusal Outcome}
      (refuses : Refuses c.policy rawKey (s.entry g.store claim).answer result)
      (idle : Around (g.store.perform s.inner claim).effects effects) :
      Opens c rawKey claim ⟨s.take g.store claim, effects, .ended result⟩
  | granted {effects : List Effect} {owner : Token}
      (grants : Grants (s.entry g.store claim).answer owner)
      (idle : Around (g.store.perform s.inner claim).effects effects) :
      Opens c rawKey claim
        ⟨s.take g.store claim, effects ++ [.invoke], .running (g.leaseFor c rawKey owner)⟩

theorem Opens.cons {c : Caller} {rawKey : String} {claim : Timed} {t : Traced (Journaled σ) Opening}
    {effect : Effect} (h : Opens g s c rawKey claim t) (idle : .invoke ≠ effect) :
    Opens g s c rawKey claim (t.after [effect]) := by
  cases h with
  | refused refuses around => exact .refused refuses (around.cons idle)
  | granted grants around => exact .granted grants (around.cons idle)

/-- What is reported of a lease is followed by the start of the operation. -/
theorem granted_eq (policy : Policy) (rawKey : String) (owner : Token) :
    ∃ reports, granted policy rawKey owner = reports ++ [.invoke] ∧ .invoke ∉ reports :=
  ⟨[_, _], rfl, by simp [logFor]⟩

theorem invoke_not_mem_claimFailed (policy : Policy) (fault : Fault) :
    .invoke ∉ claimFailed policy fault := by
  simp [claimFailed, logFor]

/-- An opening with a key makes one claim, and starts the operation if it is granted. -/
theorem opens_openKey (returns : g.store.Returns) (c : Caller) (rawKey : String) (m : Moment) :
    Opens g s c rawKey (g.claimAt c rawKey m)
      (g.journaled.openKey c.policy rawKey c.bypass s m) := by
  obtain ⟨policy, origin, bypass⟩ := c
  let key := g.canonicalKey policy rawKey
  have returned := returns s.inner (g.claimAt ⟨policy, origin, bypass⟩ rawKey m)
  unfold openKey
  cases bypass with
  | true =>
    let step := g.store.seize s.inner m key policy.timeout
    have around : Around step.effects
        ([.measure (.request policy.scope true)] ++ .count .bypassed :: step.effects) :=
      ((Around.refl _).cons (by simp)).cons (by simp)
    simp only [if_true]
    split <;> rename_i result
    · rename_i owner
      have answer : (s.entry g.store (g.claimAt ⟨policy, origin, true⟩ rawKey m)).answer =
          .done (.owner owner) := congrArg (Attempt.map Answer.owner) result
      obtain ⟨reports, split, idle⟩ := granted_eq policy rawKey owner
      rw [split, ← List.cons_append, ← List.append_assoc]
      refine .granted (answer ▸ .seized owner) (around.append ?_)
      simp [logFor, idle]
    · rename_i fault
      have answer : (s.entry g.store (g.claimAt ⟨policy, origin, true⟩ rawKey m)).answer =
          .failed fault := congrArg (Attempt.map Answer.owner) result
      exact .refused (answer ▸ .failed fault)
        (around.append (invoke_not_mem_claimFailed policy fault))
    · exact absurd (congrArg (Attempt.map Answer.owner) result) returned
  | false =>
    let step := g.store.claim s.inner m key policy.timeout
    have around : Around step.effects ([.measure (.request policy.scope false)] ++ step.effects) :=
      (Around.refl _).cons (by simp)
    simp only [Bool.false_eq_true, if_false]
    split <;> rename_i result
    · rename_i owner
      have answer : (s.entry g.store (g.claimAt ⟨policy, origin, false⟩ rawKey m)).answer =
          .done (.claim (.acquired owner)) := congrArg (Attempt.map Answer.claim) result
      obtain ⟨reports, split, idle⟩ := granted_eq policy rawKey owner
      rw [split, ← List.append_assoc]
      exact .granted (answer ▸ .claimed owner) (around.append idle)
    · rename_i existing
      have answer : (s.entry g.store (g.claimAt ⟨policy, origin, false⟩ rawKey m)).answer =
          .done (.claim (.conflict existing)) := congrArg (Attempt.map Answer.claim) result
      obtain ⟨refuses, idle⟩ := refuses_conflict policy rawKey existing
      exact .refused (answer ▸ refuses) (around.append idle)
    · rename_i fault
      have answer : (s.entry g.store (g.claimAt ⟨policy, origin, false⟩ rawKey m)).answer =
          .failed fault := congrArg (Attempt.map Answer.claim) result
      exact .refused (answer ▸ .failed fault)
        (around.append (invoke_not_mem_claimFailed policy fault))
    · exact absurd (congrArg (Attempt.map Answer.claim) result) returned

/-- An opening without a key touches nothing; every other one makes its claim. -/
theorem opens_openFor (returns : g.store.Returns) (c : Caller) (m : Moment) :
    match c.findKey with
    | .error reason => ∃ effects, .invoke ∉ effects ∧
        g.journaled.openFor c s m = ⟨s, effects, .ended (.error (.missingKey reason))⟩
    | .ok rawKey => Opens g s c rawKey (g.claimAt c rawKey m) (g.journaled.openFor c s m) := by
  obtain ⟨policy, origin, bypass⟩ := c
  cases origin with
  | given rawKey =>
    simp only [openFor, openWithKey, Caller.findKey]
    cases blank : Text.allBlank rawKey with
    | true => exact ⟨_, by simp, rfl⟩
    | false =>
      exact (g.opens_openKey s returns ⟨policy, .given rawKey, bypass⟩ rawKey m).cons g s (by simp)
  | request extractor source =>
    simp only [openFor, openRequest, Caller.findKey]
    cases extractor.extract source with
    | error reason => exact ⟨_, by simp [logFor], rfl⟩
    | ok rawKey =>
      exact (g.opens_openKey s returns ⟨policy, .request extractor source, bypass⟩ rawKey m).cons
        g s (by simp)

/-! ## The end of the lease -/

section

variable (lease : Lease) (now : Instant)

/-- A release makes its call and starts no operation. -/
theorem around_release (reason : String) :
    let t := g.journaled.release lease reason s now
    let due : Timed := ⟨now, .release lease.key lease.owner⟩
    t.state = s.take g.store due ∧ Around (g.store.perform s.inner due).effects t.effects := by
  intro t due
  have around : Around (g.store.perform s.inner due).effects
      (.count .failed :: (g.store.perform s.inner due).effects) :=
    (Around.refl _).cons (by simp)
  simp only [t, release]
  split
  · exact ⟨rfl, around.append (by simp [logFor])⟩
  · exact ⟨rfl, around.append (by simp [logFor])⟩
  · exact ⟨rfl, around.append (by simp [logFor])⟩
  · exact ⟨rfl, around⟩

/-- A completion makes its call and starts no operation; the outcome is the same whatever the store
answers. -/
theorem around_complete (returns : g.store.Returns) (outcome : Outcome) (window : Span) :
    let t : Traced _ (Conclusion ε) := g.journaled.complete lease outcome window s now
    let due : Timed := ⟨now, .complete lease.key lease.owner outcome window⟩
    t.state = s.take g.store due ∧ t.value = .outcome outcome ∧
      Around (g.store.perform s.inner due).effects t.effects := by
  intro t due
  have around := Around.refl (g.store.perform s.inner due).effects
  simp only [t, complete]
  split <;> rename_i result
  · exact ⟨rfl, rfl, around.append (by simp [logFor])⟩
  · exact ⟨rfl, rfl, around.append (by simp [logFor])⟩
  · exact ⟨rfl, rfl, around.append (by simp [logFor])⟩
  · exact absurd (congrArg (Attempt.map Answer.finality) result) (returns s.inner due)

/-- The end of a lease makes the one call that is due and starts no operation; the caller is told
the ending of the operation, whatever the store answers. -/
theorem around_finish (returns : g.store.Returns) (window : Span) (ending : Ending ε) :
    let t := g.journaled.finish lease window ending s now
    let due : Timed := ⟨now, ending.due lease window⟩
    t.state = s.take g.store due ∧ t.value = ending.result ∧
      Around (g.store.perform s.inner due).effects t.effects := by
  cases ending with
  | returned outcome =>
    obtain ⟨state, value, around⟩ :=
      g.around_complete (ε := ε) s lease now returns outcome window
    simp only [finish, conclude, Traced.after, value, resolve, List.append_nil]
    exact ⟨state, rfl, around.cons (by simp)⟩
  | failed error =>
    obtain ⟨state, around⟩ := g.around_release s lease now "operation failed"
    simp only [finish, conclude, Traced.after, resolve, List.append_nil]
    exact ⟨state, rfl, around.cons (by simp)⟩
  | panicked message =>
    obtain ⟨state, around⟩ := g.around_release s lease now "operation aborted"
    exact ⟨state, rfl, around⟩

end

/-! ## The courses -/

/-- A call whose caller stays takes one of the three courses. -/
theorem conforms_journaled (returns : g.store.Returns) (c : Caller) (ending : Ending ε) (m : Moment)
    (later : Instant) : Conforms g c ending s m later (g.journaled.callFor c ending s m later) := by
  have opens := g.opens_openFor s returns c m
  rw [callFor]
  cases found : c.findKey with
  | error reason =>
    rw [found] at opens
    obtain ⟨effects, idle, opened⟩ := opens
    rw [opened]
    exact .keyless found idle
  | ok rawKey =>
    rw [found] at opens
    simp only at opens
    generalize g.journaled.openFor c s m = opening at opens
    cases opens with
    | @refused effects result refuses idle =>
      have told : g.journaled.proceed c.policy ending later
          ⟨s.take g.store (g.claimAt c rawKey m), effects, .ended result⟩ =
            ⟨s.take g.store (g.claimAt c rawKey m), effects, some (result.mapError .refused)⟩ := by
        cases result <;> rfl
      rw [told]
      exact .refused found refuses idle
    | @granted effects owner grants idle =>
      let claimed := s.take g.store (g.claimAt c rawKey m)
      let lease := g.leaseFor c rawKey owner
      obtain ⟨state, value, around⟩ :=
        g.around_finish claimed lease later returns c.policy.window ending
      have told : g.journaled.proceed c.policy ending later
          ⟨claimed, effects ++ [.invoke], .running lease⟩ =
            ⟨claimed.take g.store ⟨later, ending.due lease c.policy.window⟩,
              effects ++ .invoke :: (g.journaled.finish lease c.policy.window ending claimed
                later).effects, some ending.result⟩ := by
        simp only [proceed, state, value, List.append_assoc, List.singleton_append]
      rw [told]
      exact .executed found grants rfl rfl idle around

/-! ## The journal is only watched -/

/-- A step of the guard on a journaled store is the step on the store itself, with a journal. -/
def Mirrored {α : Type} (t : Traced (Journaled σ) α) (t' : Traced σ α) : Prop :=
  t' = ⟨t.state.inner, t.effects, t.value⟩

theorem mirrored_openKey (policy : Policy) (rawKey : String) (bypass : Bool) (m : Moment) :
    Mirrored (g.journaled.openKey policy rawKey bypass s m)
      (g.openKey policy rawKey bypass s.inner m) := by
  cases bypass with
  | true =>
    simp only [Mirrored, openKey, if_true, journaled, canonicalKey, Store.journaled, Journaled.note]
    split <;> rfl
  | false =>
    simp only [Mirrored, openKey, Bool.false_eq_true, if_false, journaled, canonicalKey,
      Store.journaled, Journaled.note]
    split <;> rfl

theorem mirrored_openFor (c : Caller) (m : Moment) :
    Mirrored (g.journaled.openFor c s m) (g.openFor c s.inner m) := by
  obtain ⟨policy, origin, bypass⟩ := c
  have opened : ∀ rawKey, _ := fun rawKey => g.mirrored_openKey s policy rawKey bypass m
  unfold Mirrored at opened
  cases origin with
  | given rawKey =>
    simp only [Mirrored, openFor, openWithKey, opened, Traced.after]
    split <;> rfl
  | request extractor source =>
    simp only [Mirrored, openFor, openRequest, opened, Traced.after]
    split <;> rfl

theorem mirrored_complete (lease : Lease) (outcome : Outcome) (window : Span) (now : Instant) :
    Mirrored (g.journaled.complete (ε := ε) lease outcome window s now)
      (g.complete lease outcome window s.inner now) := by
  simp only [Mirrored, complete, journaled, Store.journaled, Journaled.note]
  split <;> rfl

theorem mirrored_release (lease : Lease) (reason : String) (now : Instant) :
    Mirrored (g.journaled.release lease reason s now) (g.release lease reason s.inner now) := by
  simp only [Mirrored, release, journaled, Store.journaled, Journaled.note]
  split <;> rfl

theorem mirrored_finish (lease : Lease) (window : Span) (ending : Ending ε) (now : Instant) :
    Mirrored (g.journaled.finish lease window ending s now)
      (g.finish lease window ending s.inner now) := by
  cases ending with
  | returned outcome =>
    have completed := g.mirrored_complete (ε := ε) s lease outcome window now
    simp only [Mirrored, finish, conclude, Traced.after] at completed ⊢
    rw [completed]
    generalize g.journaled.complete lease outcome window s now = t
    cases value : t.value with
    | outcome outcome => simp only [resolve]
    | failed error => simp only [resolve]
    | brokenOff message =>
      have released := g.mirrored_release t.state lease "operation aborted" now
      unfold Mirrored at released
      simp only [resolve, released]
  | failed error =>
    have released := g.mirrored_release s lease "operation failed" now
    unfold Mirrored at released
    simp only [Mirrored, finish, conclude, Traced.after, resolve, released]
  | panicked message =>
    have released := g.mirrored_release s lease "operation aborted" now
    unfold Mirrored at released
    simp only [Mirrored, finish, conclude, Traced.after, resolve, released]

theorem mirrored_callFor (c : Caller) (ending : Ending ε) (m : Moment) (later : Instant) :
    Mirrored (g.journaled.callFor c ending s m later) (g.callFor c ending s.inner m later) := by
  have opened := g.mirrored_openFor s c m
  simp only [Mirrored, callFor, proceed] at opened ⊢
  rw [opened]
  generalize g.journaled.openFor c s m = t
  cases value : t.value with
  | ended result => cases result <;> rfl
  | running lease =>
    have finished := g.mirrored_finish t.state lease c.policy.window ending later
    unfold Mirrored at finished
    simp only [finished]
  | brokenOff message => rfl

/-! ## Whole calls -/

theorem callFor_given (g : Guard σ) (policy : Policy) (rawKey : String) (bypass : Bool)
    (ending : Ending ε) (s : σ) (m : Moment) :
    g.callFor ⟨policy, .given rawKey, bypass⟩ ending s m m.now =
      g.callWithKey policy rawKey bypass ending s m := rfl

theorem callFor_request (g : Guard σ) (policy : Policy) (extractor : Extractor)
    (source : KeySource) (bypass : Bool) (ending : Ending ε) (s : σ) (m : Moment) :
    g.callFor ⟨policy, .request extractor source, bypass⟩ ending s m m.now =
      g.callRequest policy extractor source bypass ending s m := rfl

/-- On any store whose calls return, a call whose caller stays takes one of the three courses, and
the journal that tells so changes nothing. -/
theorem call_conforms (g : Guard σ) (returns : g.store.Returns) (c : Caller) (ending : Ending ε)
    (s : Journaled σ) (m : Moment) (later : Instant) :
    Conforms g c ending s m later (g.journaled.callFor c ending s m later) ∧
      Mirrored (g.journaled.callFor c ending s m later) (g.callFor c ending s.inner m later) :=
  ⟨g.conforms_journaled s returns c ending m later, g.mirrored_callFor s c ending m later⟩

end Guard

/-! ### A store that fails -/

/-- A store that grants every claim and fails at everything else. -/
def spiteful : Store Unit where
  backend := "memory"
  claim s m _ _ := ⟨s, [], .done (.acquired m.fresh)⟩
  complete s _ _ _ _ _ := ⟨s, [], .failed (.unavailable "connection refused")⟩
  release s _ _ _ := ⟨s, [], .failed (.unavailable "connection refused")⟩
  seize s _ _ _ := ⟨s, [], .failed (.unavailable "connection refused")⟩
  read s _ _ := ⟨s, [], .failed (.unavailable "connection refused")⟩
  purge s _ := ⟨s, [], .failed (.unavailable "connection refused")⟩
  ping s := ⟨s, [], .failed (.unavailable "connection refused")⟩

theorem returns_spiteful : spiteful.Returns := by
  rintro s ⟨now, call⟩ broke
  cases call <;> cases broke

/-- A caller with a key of its own. -/
def patient : Caller := ⟨Policy.ofScope "s", .given "k1", false⟩

/-- On a store that fails to complete its lease, a caller still gets the outcome of its
operation. -/
theorem call_conforms_spiteful :
    let g : Guard Unit := ⟨spiteful, defaultKeyPrefix⟩
    let ending : Ending Unit := .returned ⟨200, .null⟩
    let m : Moment := ⟨.epoch, .serial 1⟩
    let t := g.journaled.callFor patient ending (.of ()) m .epoch
    spiteful.Returns ∧ (Conforms g patient ending (.of ()) m .epoch t ∧
      Guard.Mirrored t (g.callFor patient ending () m .epoch)) ∧
      t.value = some (.ok ⟨200, .null⟩) := by
  intro g ending m t
  exact ⟨returns_spiteful, g.call_conforms returns_spiteful patient ending (.of ()) m .epoch, rfl⟩

end Turnstile
