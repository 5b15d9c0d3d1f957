import Turnstile.Proofs.Guard.Balance

/-!
The exposition of guarded calls. Counters are kept twice: by the guard, for all of its calls, and in
the series that are exposed, for each scope. Whatever the store answers, what a call leaves behind
shows the same in both. Main statements: so it is on every course of a call
(`Guard.always_courseOf`), and, however calls interleave, for the calls of every scope and for all
calls once none is in flight (`Crowd.exposition_agrees`).
-/

namespace Turnstile

open Store

variable {σ ε : Type}

/-- Whether an operation breaks off. -/
def Ending.panics : Ending ε → Bool
  | .panicked _ => true
  | .returned _ | .failed _ => false

/-! ## Readings -/

/-- Exposed counters show what is counted: requests are exposed once they have a key, and executions
unless they break off, while those that break off are counted as failed. -/
structure Counters.Shown (n : Counters) (exposed : Exposed → Nat) (panicked : Nat) : Prop where
  requests : exposed .requests + n.missingKeys = n.total
  bypassRequests : exposed .bypassRequests = n.bypassed
  bypasses : exposed .bypasses = n.bypassed
  replays : exposed .replays = n.replayed
  inProgress : exposed .inProgress = n.inProgress
  rejected : exposed .rejected = n.repeatRejected
  stale : exposed .stale = n.stale
  executions : exposed .executions + panicked = n.new
  failures : exposed .failures + panicked = n.failed

theorem Counters.Shown.add {n n' : Counters} {exposed exposed' : Exposed → Nat}
    {panicked panicked' : Nat} (h : n.Shown exposed panicked) (h' : n'.Shown exposed' panicked') :
    (n + n').Shown (fun k => exposed k + exposed' k) (panicked + panicked') := by
  obtain ⟨requests, bypassRequests, bypasses, replays, inProgress, rejected, stale, executions,
    failures⟩ := h
  obtain ⟨requests', bypassRequests', bypasses', replays', inProgress', rejected', stale',
    executions', failures'⟩ := h'
  constructor
  · show _ + (n.missingKeys + n'.missingKeys) = n.total + n'.total
    omega
  · show _ = n.bypassed + n'.bypassed
    omega
  · show _ = n.bypassed + n'.bypassed
    omega
  · show _ = n.replayed + n'.replayed
    omega
  · show _ = n.inProgress + n'.inProgress
    omega
  · show _ = n.repeatRejected + n'.repeatRejected
    omega
  · show _ = n.stale + n'.stale
    omega
  · show _ = n.new + n'.new
    omega
  · show _ = n.failed + n'.failed
    omega

namespace Effect

/-- The values of the exposed counters after some effects, of one scope or of all. -/
def exposed (scope? : Option String) (effects : List Effect) (k : Exposed) : Nat :=
  k.reading scope? (measures effects)

/-- What a call of a scope leaves behind: its measures bear the scope, and they show what it counts,
where the start of an operation that breaks off stands for a panic. -/
structure Matched (scope : String) (panics : Bool) (effects : List Effect) : Prop where
  single : ∀ m ∈ measures effects, m.scope? = some scope
  shown : (counters .zero effects).Shown (exposed none effects)
    (if panics then invocations effects else 0)

theorem measures_append (effects more : List Effect) :
    measures (effects ++ more) = measures effects ++ measures more := List.filterMap_append

theorem exposed_append (scope? : Option String) (effects more : List Effect) (k : Exposed) :
    exposed scope? (effects ++ more) k = exposed scope? effects k + exposed scope? more k := by
  rw [exposed, measures_append, Exposed.reading_append]
  rfl

theorem exposed_none (effects : List Effect) :
    exposed none effects = fun k => (measures effects).countP k.counts := by
  funext k
  have all : k.countsOf none = k.counts := funext fun m => Bool.and_true _
  rw [exposed, Exposed.reading_eq, all]

namespace Matched

variable {scope : String} {panics : Bool} {effects more : List Effect}

theorem append (h : Matched scope panics effects) (h' : Matched scope panics more) :
    Matched scope panics (effects ++ more) where
  single m hm := by
    rw [measures_append, List.mem_append] at hm
    exact hm.elim (h.single m) (h'.single m)
  shown := by
    have shown := h.shown.add h'.shown
    rw [Counters.counters_append]
    convert shown using 1
    · funext k
      exact exposed_append none effects more k
    · cases panics with
      | true => exact List.count_append
      | false => rfl

/-- Effects that start no operation match if their measures show what they count. -/
theorem of_idle (idle : invocations effects = 0)
    (single : ∀ m ∈ measures effects, m.scope? = some scope)
    (shown : (counters .zero effects).Shown (fun k => (measures effects).countP k.counts) 0) :
    Matched scope panics effects := by
  refine ⟨single, ?_⟩
  rw [exposed_none, idle, ite_self]
  exact shown

end Matched

end Effect

/-! ## A single call -/

namespace Caller

open Effect

variable (c : Caller) (panics : Bool)

theorem matched_keyless (reason : String) :
    Matched c.policy.scope panics (c.keyless reason) := by
  unfold keyless
  split <;> exact .of_idle rfl (by simp [measures, Guard.logFor]) (by constructor <;> rfl)

theorem matched_asking : Matched c.policy.scope panics c.asking := by
  unfold asking
  cases c.bypass <;>
    exact .of_idle rfl (by simp [measures, Measure.scope?]) (by constructor <;> rfl)

end Caller

namespace Guard

open Effect

variable (policy : Policy) (lease : Lease) (panics : Bool)

theorem matched_claimFailed (fault : Fault) :
    Matched policy.scope panics (claimFailed policy fault) :=
  .of_idle rfl (by simp [measures, claimFailed, logFor]) (by constructor <;> rfl)

theorem matched_notice (message : String) (fields : List (String × Event.Value)) :
    Matched policy.scope panics [logFor .info message policy.scope fields] :=
  .of_idle rfl (by simp [measures, logFor]) (by constructor <;> rfl)

/-- A repeat is counted and exposed alike, whatever record stands in its way. -/
theorem matched_conflict (rawKey : String) (existing : Record) :
    Matched policy.scope panics (conflict policy rawKey existing).1 := by
  unfold conflict
  split
  · exact .of_idle rfl (by simp [measures, logFor, Measure.scope?]) (by constructor <;> rfl)
  · exact .of_idle rfl (by simp [measures, logFor, Measure.scope?]) (by constructor <;> rfl)
  · split
    · exact .of_idle rfl (by simp [measures, logFor, Measure.scope?]) (by constructor <;> rfl)
    · exact .of_idle rfl (by simp [measures]) (by constructor <;> rfl)

theorem matched_completed (outcome : Outcome) (answer : Attempt Answer) :
    Matched lease.scope panics (completed lease outcome answer) := by
  unfold completed
  split <;>
    exact .of_idle rfl (by simp [measures, logFor, Measure.scope?]) (by constructor <;> rfl)

theorem matched_released (reason : String) (answer : Attempt Answer) :
    Matched lease.scope panics (released lease reason answer) := by
  unfold released
  split <;>
    exact .of_idle rfl (by simp [measures, logFor, Measure.scope?]) (by constructor <;> rfl)

/-- The start of an operation is matched by what is measured and counted at its end. -/
theorem matched_granted (rawKey : String) (owner : Token) (ending : Ending ε) :
    Matched policy.scope ending.panics (granted policy rawKey owner ++
      match ending with
      | .returned _ => [.measure (.execution policy.scope true)]
      | .failed _ => [.measure (.execution policy.scope false), .count .failed]
      | .panicked _ => [.count .failed]) := by
  cases ending <;>
    refine ⟨by simp [measures, granted, logFor, Measure.scope?], ?_⟩ <;> rw [exposed_none] <;>
      constructor <;> rfl

end Guard

/-- Whatever the store answers, what is left under a lease matches the start of its operation. -/
theorem Course.always_concluding (policy : Policy) (rawKey key : String) (owner : Token)
    (window : Span) (ending : Ending ε) :
    (concluding ⟨policy.scope, key, owner⟩ window ending).Always fun more =>
      Effect.Matched policy.scope ending.panics (Guard.granted policy rawKey owner ++ more) := by
  have started := Guard.matched_granted policy rawKey owner ending
  have released := Guard.matched_released ⟨policy.scope, key, owner⟩ ending.panics
  cases ending with
  | returned outcome =>
    intro answer unbroken
    have concluded : (Ending.returned (ε := ε) outcome).conclusion (some answer) =
        .outcome outcome := by
      cases answer with
      | overflow => exact absurd rfl unbroken
      | done value => rfl
      | failed fault => rfl
    have completed := Guard.matched_completed ⟨policy.scope, key, owner⟩ false outcome answer
    rw [always_after, concluded, resolving, always_ends]
    simpa using started.append completed
  | failed error =>
    intro answer unbroken
    rw [always_after, resolving, always_ends]
    simpa using started.append (released "operation failed" answer)
  | panicked message =>
    intro answer unbroken
    rw [always_after, always_ends]
    simpa using started.append (released "operation aborted" answer)

/-- Whatever the store answers, all that a call leaves behind is counted and exposed alike. -/
theorem Guard.always_courseOf (g : Guard σ) (c : Caller) (fresh : Token) (ending : Ending ε) :
    (g.courseOf c fresh ending).Always (Effect.Matched c.policy.scope ending.panics) := by
  unfold courseOf
  split
  · rename_i reason missing
    rw [Course.always_after, Course.always_ends, List.append_nil]
    exact c.matched_keyless ending.panics reason
  · rename_i rawKey found
    rw [Course.always_after]
    refine Course.Always.mono (P := Effect.Matched c.policy.scope ending.panics) ?_
      fun more => (c.matched_asking ending.panics).append
    intro answer unbroken
    rw [Course.always_after]
    -- once the claim is answered, the call is over or its operation runs
    have stops : ∀ {effects : List Effect} {result : Option (Except (CallError ε) Outcome)},
        Effect.Matched c.policy.scope ending.panics effects →
        (Course.ends result).Always fun more =>
          Effect.Matched c.policy.scope ending.panics (effects ++ more) := by
      intro effects result matched
      rwa [Course.always_ends, List.append_nil]
    have runs : ∀ owner, (Course.proceeding c.policy ending
        (.running (g.leaseFor c rawKey owner))).Always fun more =>
          Effect.Matched c.policy.scope ending.panics (granted c.policy rawKey owner ++ more) :=
      fun owner => Course.always_concluding c.policy rawKey _ owner c.policy.window ending
    have silent : Effect.Matched c.policy.scope ending.panics [] :=
      .of_idle rfl (fun m hm => by cases hm) (by constructor <;> rfl)
    cases answer with
    | overflow => exact stops silent
    | failed fault => exact stops (matched_claimFailed c.policy ending.panics fault)
    | done value =>
      cases value with
      | claim claim =>
        cases claim with
        | acquired owner => exact runs owner
        | conflict existing => exact stops (matched_conflict c.policy ending.panics rawKey existing)
      | owner owner =>
        exact (runs owner).mono fun more => (matched_notice c.policy ending.panics _ _).append
      | finality value => exact stops silent
      | record value => exact stops silent
      | count value => exact stops silent

/-! ## Crowds -/

/-- Whether a call is made under a policy of a scope, if one is given. -/
def Party.isOf (scope? : Option String) (p : Party ε) : Bool :=
  scope?.all (· = p.caller.policy.scope)

namespace Crowd

/-- What the calls of a scope count, or all calls if none is given. -/
def countersOf (c : Crowd σ ε) (scope? : Option String) : Counters :=
  Effect.counters .zero ((c.parties.filter (·.isOf scope?)).flatMap Party.left)

/-- The number of operations that were started by calls of a scope, or by any if none is given, and
broke off. -/
def panicked (c : Crowd σ ε) (endings : List (Ending ε)) (scope? : Option String) : Nat :=
  Effect.invocations <|
    ((c.parties.zip endings).filter fun x => x.1.isOf scope? && x.2.panics).flatMap (·.1.left)

end Crowd

/-- What is left behind by a call is read of its scope and of no other. -/
theorem Effect.Matched.exposed_eq {p : Party ε} {panics : Bool}
    (h : Matched p.caller.policy.scope panics p.left) (scope? : Option String) (k : Exposed) :
    exposed scope? p.left k = if p.isOf scope? then exposed none p.left k else 0 :=
  k.reading_of_scope scope? h.single

/-- If what each party left behind is counted and exposed alike, so it is for the parties of a
scope. -/
theorem Crowd.shown_parties {c : Crowd σ ε} {endings : List (Ending ε)} (scope? : Option String)
    (h : List.Forall₂ (fun p ending => Effect.Matched p.caller.policy.scope ending.panics p.left)
      c.parties endings) :
    (c.countersOf scope?).Shown (Effect.exposed scope? (c.parties.flatMap Party.left))
      (c.panicked endings scope?) := by
  simp only [countersOf, panicked]
  generalize c.parties = parties at h ⊢
  induction h with
  | nil => constructor <;> rfl
  | @cons p ending parties endings matched rest ih =>
    have read : Effect.exposed scope? ((p :: parties).flatMap Party.left) = fun k =>
        (if p.isOf scope? then Effect.exposed none p.left k else 0) +
          Effect.exposed scope? (parties.flatMap Party.left) k := by
      funext k
      rw [List.flatMap_cons, Effect.exposed_append, matched.exposed_eq]
    rw [read, List.zip_cons_cons]
    cases here : p.isOf scope? with
    | true =>
      rw [List.filter_cons_of_pos (by simpa using here), List.flatMap_cons,
        Counters.counters_append]
      simp only [if_true]
      convert matched.shown.add ih using 1
      cases panics : ending.panics <;> simp [here, panics, Effect.invocations]
    | false =>
      rw [List.filter_cons_of_neg (by simp [here]), List.filter_cons_of_neg (by simp [here])]
      simpa using ih

namespace Crowd

variable {g : Guard σ} {c : Crowd σ ε} {endings : List (Ending ε)}

/-- What is exposed is what the parties measured. -/
theorem exposed_effects (discreet : g.store.Discreet) {s : σ} (reached : Reaches g (.empty s) c)
    (scope? : Option String) :
    Effect.exposed scope? c.effects = Effect.exposed scope? (c.parties.flatMap Party.left) := by
  funext k
  refine additive_effects (f := fun effects => Effect.exposed scope? effects k)
    (fun effects more => Effect.exposed_append scope? effects more k) (fun s t => ?_) reached
  refine k.reading_of_no_scope scope? fun m hm => discreet s t m ?_
  obtain ⟨effect, left, measured⟩ := List.mem_filterMap.1 hm
  cases effect <;> simp at measured
  exact measured ▸ left

/-- What every party that has come to its end left behind is counted and exposed alike. -/
theorem matched_parties (enrolled : Enrolled g c endings) (unbroken : c.Unbroken)
    (rest : c.AtRest) :
    List.Forall₂ (fun p ending => Effect.Matched p.caller.policy.scope ending.panics p.left)
      c.parties endings := by
  have leaves := enrolled.forall₂_parties
    (P := fun p ending => p.Leaves (Effect.Matched p.caller.policy.scope ending.panics))
    (fun caller fresh ending _ => g.always_courseOf caller fresh ending)
    fun {s s' own p p'} ending moves left => by
      have same : p'.caller = p.caller := by cases moves <;> rfl
      rw [same]
      exact left.move moves
  have settled : ∀ p ∈ c.parties, (∀ e ∈ p.asked, e.answer ≠ .overflow) ∧
      ∃ result, p.rest = .ends result := fun p hp => ⟨unbroken p hp, rest p hp⟩
  refine ((List.forall₂_and_left _ _).2 ⟨settled, leaves⟩).imp ?_
  rintro p ending ⟨⟨unbroken, result, ended⟩, leaves⟩
  exact leaves.left unbroken ended

/-- Whatever was exposed before, and however calls interleave, the exposed counters rise by what is
counted as soon as no call is in flight: over all scopes by what the guard counts, and of each scope
by what the calls under policies of the scope count. -/
theorem exposition_agrees (quiet : g.store.Quiet) (discreet : g.store.Discreet)
    (enrolled : Enrolled g c endings) (unbroken : c.Unbroken) (rest : c.AtRest)
    (past : List Measure) :
    (∃ rise : Exposed → Nat,
      (∀ k, k.reading none (past ++ Effect.measures c.effects) = k.reading none past + rise k) ∧
      c.counters.Shown rise (c.panicked endings none)) ∧
    ∀ scope, ∃ rise : Exposed → Nat,
      (∀ k, k.reading (some scope) (past ++ Effect.measures c.effects) =
        k.reading (some scope) past + rise k) ∧
      (c.countersOf (some scope)).Shown rise (c.panicked endings (some scope)) := by
  obtain ⟨s, reached⟩ := enrolled.exists_reaches
  have shown := fun scope? => shown_parties scope? (matched_parties enrolled unbroken rest)
  simp only [← exposed_effects discreet reached] at shown
  have all : c.countersOf none = c.counters := by
    have whole : c.parties.filter (·.isOf none) = c.parties :=
      List.filter_eq_self.2 fun p hp => rfl
    rw [counters_eq quiet reached, countersOf, whole]
  have rises : ∀ scope? k, k.reading scope? (past ++ Effect.measures c.effects) =
      k.reading scope? past + Effect.exposed scope? c.effects k :=
    fun scope? k => k.reading_append scope? past _
  exact ⟨⟨_, rises none, all ▸ shown none⟩,
    fun scope => ⟨_, rises (some scope), shown (some scope)⟩⟩

/-! ### A crowd of two -/

theorem quiet_spiteful : spiteful.Quiet := by
  rintro s ⟨now, call⟩ k counted
  cases call <;> cases counted

theorem discreet_spiteful : spiteful.Discreet := by
  rintro s ⟨now, call⟩ m measured
  cases call <;> cases measured

/-- A caller of another scope who goes past what is recorded. -/
def pushy : Caller := ⟨Policy.ofScope "t", .given "k1", true⟩

/-- Two calls take turns: an operation breaks off and its lease cannot be given back; a caller of
another scope who goes past what is recorded is refused. The panic is counted as new and as failed,
but is no execution; the other scope shows its one request and its bypass. -/
theorem exposition_agrees_spiteful :
    let g : Guard Unit := ⟨spiteful, defaultKeyPrefix⟩
    let endings : List (Ending Unit) := [.panicked "boom", .returned ⟨200, .null⟩]
    ∃ (c : Crowd Unit Unit) (rise riseOfT : Exposed → Nat),
      Enrolled g c endings ∧ c.Unbroken ∧ c.AtRest ∧
      c.counters = { Counters.zero with
        total := 2, new := 1, bypassed := 1, failed := 1, storeErrors := 2 } ∧
      c.counters.Shown rise (c.panicked endings none) ∧ c.panicked endings none = 1 ∧
      (c.countersOf (some "t")).Shown riseOfT (c.panicked endings (some "t")) ∧
      riseOfT .requests = 1 ∧ riseOfT .bypassRequests = 1 := by
  intro g endings
  let c₀ : Crowd Unit Unit := ⟨(), [], [
    .entering g patient (.serial 1) (.panicked "boom"),
    .entering g pushy (.serial 2) (.returned ⟨200, .null⟩)]⟩
  have entered : Enrolled g c₀ endings :=
    ((Enrolled.empty ()).enter patient (.serial 1) (.panicked "boom")).enter pushy (.serial 2)
      (.returned ⟨200, .null⟩)
  -- the two take turns until both have come to their ends
  let turns : List (Nat × Instant) := (List.replicate 10 [(0, .epoch), (1, .epoch)]).flatten
  obtain ⟨c, enrolled, whole, rest, counted, executed, requested, bypassed⟩ :
      ∃ c : Crowd Unit Unit, Enrolled g c endings ∧ c.Unbroken ∧ c.AtRest ∧
        c.counters = { Counters.zero with
          total := 2, new := 1, bypassed := 1, failed := 1, storeErrors := 2 } ∧
        Exposed.executions.reading none (Effect.measures c.effects) = 0 ∧
        Exposed.requests.reading (some "t") (Effect.measures c.effects) = 1 ∧
        Exposed.bypassRequests.reading (some "t") (Effect.measures c.effects) = 1 :=
    ⟨c₀.play g turns, entered.proceeds (proceeds_play g c₀ turns), by decide +kernel⟩
  obtain ⟨⟨rise, rises, shown⟩, ofScope⟩ :=
    exposition_agrees quiet_spiteful discreet_spiteful enrolled whole rest []
  obtain ⟨riseOfT, risesOfT, shownOfT⟩ := ofScope "t"
  refine ⟨c, rise, riseOfT, enrolled, whole, rest, counted, shown, ?_, shownOfT, ?_, ?_⟩
  · have executions := shown.executions
    have began : c.counters.new = 1 := congrArg Counters.new counted
    have rose := (rises .executions).symm.trans executed
    omega
  · have rose := (risesOfT .requests).symm.trans requested
    exact (Nat.zero_add _).symm.trans rose
  · have rose := (risesOfT .bypassRequests).symm.trans bypassed
    exact (Nat.zero_add _).symm.trans rose

end Crowd

end Turnstile
