import Turnstile.Guard.Call
import Turnstile.Proofs.Store.Journal

/-!
The concourse: any number of calls on one guard, step by step and in any order. A caller enters and
claims its key; if it gets a lease, its operation starts, ends, and its work is concluded, whether
or not the caller still waits; a caller that still waits resolves the conclusion. A caller may leave
at any time before that. Between the steps the clock moves on and the store may be purged.
-/

namespace Turnstile

/-! ## Callers -/

/-- Where the key of a call comes from. -/
inductive KeyOrigin
  | given (rawKey : String)
  | request (extractor : Extractor) (source : KeySource)

/-- What a caller brings: the policy of the operation, a key, and whether to go past what is
recorded. -/
structure Caller where
  policy : Policy
  key : KeyOrigin
  bypass : Bool

/-- The key that a caller claims with; none if it is missing or blank. -/
def Caller.rawKey? (c : Caller) : Option String :=
  match c.key with
  | .given rawKey => if Text.allBlank rawKey then none else some rawKey
  | .request extractor source => (extractor.extract source).toOption

/-- What the store grants with a lease to a caller. -/
def Caller.grant (c : Caller) (since : Instant) (lease : Lease) : Store.Grant :=
  ⟨lease.key, lease.owner, since, c.policy.timeout, c.bypass⟩

namespace Guard

variable {σ : Type}

/-- Opens the call of a caller. -/
def openFor (g : Guard σ) (c : Caller) (s : σ) (m : Moment) : Traced σ Opening :=
  match c.key with
  | .given rawKey => g.openWithKey c.policy rawKey c.bypass s m
  | .request extractor source => g.openRequest c.policy extractor source c.bypass s m

/-- The guard of a journaled store. -/
def journaled (g : Guard σ) : Guard (Store.Journaled σ) := ⟨g.store.journaled, g.keyPrefix⟩

/-- The call of the store by which a caller claims a key. -/
def claimCall (g : Guard σ) (c : Caller) (rawKey : String) (fresh : Token) : Store.Call :=
  let key := g.canonicalKey c.policy rawKey
  if c.bypass then .seize key c.policy.timeout fresh else .claim key c.policy.timeout fresh

end Guard

/-! ## Visits -/

/-- The lease of an opening that went well. -/
def Opening.lease? : Opening → Option Lease
  | .running lease => some lease
  | .ended _ | .brokenOff _ => none

/-- How far a call has come that got a lease. -/
inductive Progress (ε : Type)
  | waiting
  | working
  | ended (ending : Ending ε)
  | concluded (ending : Ending ε) (conclusion : Conclusion ε)
  | resolved (ending : Ending ε) (conclusion : Conclusion ε)
    (result : Except (CallError ε) Outcome)

/-- How the operation ended, if it has. -/
def Progress.ending? {ε : Type} : Progress ε → Option (Ending ε)
  | .waiting | .working => none
  | .ended ending | .concluded ending _ | .resolved ending _ _ => some ending

/-- A call that was opened: who made it and when, how the opening ended, how far the call has come
since, and whether its caller left before the end. -/
structure Visit (ε : Type) where
  caller : Caller
  since : Instant
  opening : Opening
  progress : Progress ε
  gone : Bool

namespace Visit

variable {ε : Type}

/-- The lease of a visit, if it got one. -/
def lease? (v : Visit ε) : Option Lease := v.opening.lease?

/-- What the store granted to a visit, if it got a lease. -/
def grant? (v : Visit ε) : Option Store.Grant := v.lease?.map (v.caller.grant v.since)

/-- The token of a visit, if it got one. -/
def owner? (v : Visit ε) : Option Token := v.lease?.map (·.owner)

/-- Who made a visit, and the lease that it got. -/
def entrance (v : Visit ε) : Caller × Option Lease := (v.caller, v.lease?)

/-- Whether the caller got its result. -/
def IsResolved (v : Visit ε) : Prop :=
  ∃ ending conclusion result, v.progress = .resolved ending conclusion result

end Visit

/-! ## The concourse -/

/-- The state of a journaled store, the clock, and all visits in the order of their openings. -/
structure Concourse (σ ε : Type) where
  store : Store.Journaled σ
  clock : Instant
  visits : List (Visit ε)

namespace Concourse

variable {σ ε : Type}

/-- A concourse that nobody has entered. -/
def empty (inner : σ) (clock : Instant) : Concourse σ ε := ⟨.of inner, clock, []⟩

/-- Another state of a visit. -/
def put (c : Concourse σ ε) (i : Nat) (v : Visit ε) : Concourse σ ε :=
  { c with visits := c.visits.set i v }

/-- A caller enters. -/
def receive (g : Guard σ) (c : Concourse σ ε) (caller : Caller) (fresh : Token) : Concourse σ ε :=
  let t := g.journaled.openFor caller c.store ⟨c.clock, fresh⟩
  { c with
    store := t.state
    visits := c.visits ++ [⟨caller, c.clock, t.value, .waiting, false⟩] }

/-- The work under a lease is concluded. -/
def conclude (g : Guard σ) (c : Concourse σ ε) (i : Nat) (v : Visit ε) (lease : Lease)
    (ending : Ending ε) : Concourse σ ε :=
  let t := g.journaled.conclude lease v.caller.policy.window ending c.store c.clock
  { c.put i { v with progress := .concluded ending t.value } with store := t.state }

/-- A waiting caller resolves the conclusion. -/
def resolve (g : Guard σ) (c : Concourse σ ε) (i : Nat) (v : Visit ε) (lease : Lease)
    (ending : Ending ε) (conclusion : Conclusion ε) : Concourse σ ε :=
  let t := g.journaled.resolve lease conclusion c.store c.clock
  { c.put i { v with progress := .resolved ending conclusion t.value } with store := t.state }

/-- One step. A token that is drawn was never granted before. -/
inductive Step (g : Guard σ) : Concourse σ ε → Concourse σ ε → Prop
  | tick {c : Concourse σ ε} {now : Instant} (later : c.clock ≤ now) :
      Step g c { c with clock := now }
  | purge (c : Concourse σ ε) :
      Step g c { c with store := (g.journaled.store.purge c.store c.clock).state }
  | enter {c : Concourse σ ε} (caller : Caller) {fresh : Token}
      (new : ∀ v ∈ c.visits, v.owner? ≠ some fresh) : Step g c (c.receive g caller fresh)
  | start {c : Concourse σ ε} {i : Nat} {v : Visit ε} {lease : Lease}
      (here : c.visits[i]? = some v) (leased : v.lease? = some lease)
      (waiting : v.progress = .waiting) : Step g c (c.put i { v with progress := .working })
  | finish {c : Concourse σ ε} {i : Nat} {v : Visit ε} {lease : Lease} (ending : Ending ε)
      (here : c.visits[i]? = some v) (leased : v.lease? = some lease)
      (working : v.progress = .working) : Step g c (c.put i { v with progress := .ended ending })
  | conclude {c : Concourse σ ε} {i : Nat} {v : Visit ε} {lease : Lease} {ending : Ending ε}
      (here : c.visits[i]? = some v) (leased : v.lease? = some lease)
      (ended : v.progress = .ended ending) : Step g c (c.conclude g i v lease ending)
  | resolve {c : Concourse σ ε} {i : Nat} {v : Visit ε} {lease : Lease} {ending : Ending ε}
      {conclusion : Conclusion ε} (here : c.visits[i]? = some v) (leased : v.lease? = some lease)
      (concluded : v.progress = .concluded ending conclusion) (stays : v.gone = false) :
      Step g c (c.resolve g i v lease ending conclusion)
  | leave {c : Concourse σ ε} {i : Nat} {v : Visit ε} (here : c.visits[i]? = some v)
      (unresolved : ¬v.IsResolved) : Step g c (c.put i { v with gone := true })

/-- What can be reached step by step. -/
inductive Reaches (g : Guard σ) (start : Concourse σ ε) : Concourse σ ε → Prop
  | refl : Reaches g start start
  | step {c c' : Concourse σ ε} (reached : Reaches g start c) (step : Step g c c') :
      Reaches g start c'

theorem Reaches.trans {g : Guard σ} {c₀ c₁ c₂ : Concourse σ ε} (h : Reaches g c₀ c₁)
    (h' : Reaches g c₁ c₂) : Reaches g c₀ c₂ := by
  induction h' with
  | refl => exact h
  | step _ step ih => exact ih.step step

end Concourse

/-! ## Calls of the store -/

/-- The call by which the work under a lease is concluded. An operation that breaks off makes
none. -/
def Ending.call? {ε : Type} (lease : Lease) (window : Span) : Ending ε → Option Store.Call
  | .returned outcome => some (.complete lease.key lease.owner outcome window)
  | .failed _ => some (.release lease.key lease.owner)
  | .panicked _ => none

/-- The conclusion of an ending, given the answer to the call that it makes. -/
def Ending.conclusion {ε : Type} (answer : Option (Attempt Store.Answer)) :
    Ending ε → Conclusion ε
  | .returned outcome =>
    match answer with
    | some .overflow => .brokenOff overflowMessage
    | _ => .outcome outcome
  | .failed error => .failed error
  | .panicked message => .brokenOff message

/-- The call by which a waiting caller resolves a conclusion: none unless the work broke off. -/
def Conclusion.call? {ε : Type} (lease : Lease) : Conclusion ε → Option Store.Call
  | .outcome _ | .failed _ => none
  | .brokenOff _ => some (.release lease.key lease.owner)

namespace Guard

open Store

variable {σ ε : Type} (g : Guard σ) (s : Journaled σ)

/-- A call that opens with a key claims it, and gets a lease exactly if the store grants one. -/
theorem openKey_take (policy : Policy) (rawKey : String) (bypass : Bool) (m : Moment) :
    let t := g.journaled.openKey policy rawKey bypass s m
    let key := g.canonicalKey policy rawKey
    let call := if bypass then Store.Call.seize key policy.timeout m.fresh
      else .claim key policy.timeout m.fresh
    t.state = s.take g.store ⟨m.now, call⟩ ∧
      (s.entry g.store ⟨m.now, call⟩).grant? =
        t.value.lease?.map fun l => ⟨l.key, l.owner, m.now, policy.timeout, bypass⟩ := by
  intro t key call
  let key' := g.journaled.canonicalKey policy rawKey
  -- the journal holds the answer of the store as the guard got it
  cases bypass with
  | true =>
    have answer : (s.entry g.store ⟨m.now, call⟩).answer =
      (g.journaled.store.seize s m key' policy.timeout).result.map .owner := rfl
    rw [Entry.grant?, answer]
    simp only [t, openKey, if_true]
    split <;> rename_i h <;> exact ⟨rfl, by simp only [key', h]; rfl⟩
  | false =>
    have answer : (s.entry g.store ⟨m.now, call⟩).answer =
      (g.journaled.store.claim s m key' policy.timeout).result.map .claim := rfl
    rw [Entry.grant?, answer]
    simp only [t, openKey, Bool.false_eq_true, if_false]
    split <;> rename_i h <;> exact ⟨rfl, by simp only [key', h]; rfl⟩

/-- A caller without a key leaves the store alone; every other caller claims its key, and gets a
lease exactly if the store grants one. -/
theorem openFor_take (c : Caller) (m : Moment) :
    let t := g.journaled.openFor c s m
    match c.rawKey? with
    | none => t.state = s ∧ t.value.lease? = none
    | some rawKey =>
      t.state = s.take g.store ⟨m.now, g.claimCall c rawKey m.fresh⟩ ∧
        (s.entry g.store ⟨m.now, g.claimCall c rawKey m.fresh⟩).grant? =
          t.value.lease?.map (c.grant m.now) := by
  obtain ⟨policy, origin, bypass⟩ := c
  cases origin with
  | given rawKey =>
    simp only [openFor, openWithKey, Caller.rawKey?]
    cases blank : Text.allBlank rawKey with
    | true => exact ⟨rfl, rfl⟩
    | false => exact g.openKey_take s policy rawKey bypass m
  | request extractor source =>
    simp only [openFor, openRequest, Caller.rawKey?]
    cases extractor.extract source with
    | error reason => exact ⟨rfl, rfl⟩
    | ok rawKey => exact g.openKey_take s policy rawKey bypass m

/-- A call that may be made, as a list of calls at a time. -/
def dated (call : Option Store.Call) (now : Instant) : List Timed := call.toList.map (⟨now, ·⟩)

theorem journal_run_dated (call : Option Store.Call) (now : Instant) :
    (s.run g.store (dated call now)).journal =
      s.journal ++ call.toList.map fun call => s.entry g.store ⟨now, call⟩ := by
  cases call with
  | none => simp [dated]
  | some call => rfl

theorem finalizes?_claimCall (c : Caller) (rawKey : String) (fresh : Token) :
    (g.claimCall c rawKey fresh).finalizes? = none := by
  cases h : c.bypass <;> simp [claimCall, h, Store.Call.finalizes?]

theorem fresh?_claimCall (c : Caller) (rawKey : String) (fresh : Token) :
    (g.claimCall c rawKey fresh).fresh? = some fresh := by
  cases h : c.bypass <;> simp [claimCall, h, Store.Call.fresh?]

theorem key?_claimCall (c : Caller) (rawKey : String) (fresh : Token) :
    (g.claimCall c rawKey fresh).key? = some (g.canonicalKey c.policy rawKey) := by
  cases h : c.bypass <;> simp [claimCall, h, Store.Call.key?]

variable (lease : Lease) (window : Span) (now : Instant)

/-- A conclusion makes the call of its ending, and none else. -/
theorem state_conclude (ending : Ending ε) :
    (g.journaled.conclude lease window ending s now).state =
      s.run g.store (dated (ending.call? lease window) now) := by
  cases ending with
  | returned outcome =>
    simp only [conclude, complete, Traced.after]
    split <;> rfl
  | failed error =>
    simp only [conclude, release]
    split <;> rfl
  | panicked message => rfl

/-- What an ending leads to depends on the answer to its call. -/
theorem value_conclude (ending : Ending ε) :
    (g.journaled.conclude lease window ending s now).value =
      ending.conclusion ((ending.call? lease window).map fun call =>
        (s.entry g.store ⟨now, call⟩).answer) := by
  cases ending with
  | returned outcome =>
    have answer : (s.entry g.store ⟨now, .complete lease.key lease.owner outcome window⟩).answer =
      (g.journaled.store.complete s now lease.key lease.owner outcome window).result.map
        .finality := rfl
    simp only [conclude, complete, Traced.after, Ending.call?, Option.map_some, answer,
      Ending.conclusion]
    split <;> rename_i h <;> simp only [h, Attempt.map]
  | failed error => rfl
  | panicked message => rfl

/-- A resolution makes the call of its conclusion, and none else. -/
theorem state_resolve (conclusion : Conclusion ε) :
    (g.journaled.resolve lease conclusion s now).state =
      s.run g.store (dated (conclusion.call? lease) now) := by
  cases conclusion with
  | outcome outcome => rfl
  | failed error => rfl
  | brokenOff message =>
    simp only [resolve, release]
    split <;> rfl

end Guard

end Turnstile
