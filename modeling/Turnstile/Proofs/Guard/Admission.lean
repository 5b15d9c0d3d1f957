import Turnstile.Proofs.Guard.Opening
import Turnstile.Proofs.Guard.Replay

/-!
What a claim is answered, in terms of what happened to its key before. A lease stands in the way of
a caller as long as it is the last one on the key, nobody has ended it, and less than its timeout
has passed since it was granted; an outcome answers for the operation as long as it stands on the
key. Main statement: a caller is refused, or answered from the cache, in these cases only, and in
every other case gets a lease and starts to work (`Concourse.admitted_exactly`).
-/

namespace Turnstile

open Store

variable {σ ε : Type}

/-! ## Openings by what is seen -/

namespace Guard

variable {g : Guard σ} (view : View g.store) (s : Journaled σ) (m : Moment)

/-- What a claim is answered: the record that stands in its way, or else a lease. -/
theorem answer_claimAt {c : Caller} (rawKey : String) (inRange : c.policy.timeout.InRange m.now) :
    (s.entry g.store (g.claimAt c rawKey m)).answer =
      match c.bypass, view.sight s.inner m.now (g.canonicalKey c.policy rawKey) with
      | false, some r => .done (.claim (.conflict r))
      | false, none => .done (.claim (.acquired m.fresh))
      | true, _ => .done (.owner m.fresh) := by
  obtain ⟨policy, origin, bypass⟩ := c
  obtain ⟨ends, hends⟩ := inRange.exists_deadline?
  have hends : m.now.deadline? policy.timeout = some ends := hends
  have unpurged : (g.claimAt ⟨policy, origin, bypass⟩ rawKey m).call ≠ .purge := by
    cases bypass <;> simp [claimAt, claimCall]
  refine (view.result_perform s.inner _ unpurged).trans ?_
  cases bypass with
  | true => simp [claimAt, claimCall, Sight.next, Sight.grant, Record.pending?, hends]
  | false =>
    cases seen : view.sight s.inner m.now (g.canonicalKey policy rawKey) <;>
      simp [claimAt, claimCall, Sight.next, Sight.grant, Record.pending?, hends, seen]

/-- A caller with a key is refused if a record is seen of it, unless the caller goes past it; every
other gets a lease and starts to work. -/
theorem openFor_of_seen {c : Caller} {rawKey : String} {r : Record} (found : c.findKey = .ok rawKey)
    (inRange : c.policy.timeout.InRange m.now) (stays : c.bypass = false)
    (seen : view.sight s.inner m.now (g.canonicalKey c.policy rawKey) = some r) :
    (g.journaled.openFor c s m).value = .ended (conflict c.policy rawKey r).2 := by
  have answer := answer_claimAt view s m rawKey inRange
  rw [stays, seen] at answer
  rw [g.journaled.openFor_eq, found]
  simp only [g.perform_journaled]
  rw [show g.journaled.claimAt c rawKey m = g.claimAt c rawKey m from rfl, answer]
  rfl

theorem openFor_of_free {c : Caller} {rawKey : String} (found : c.findKey = .ok rawKey)
    (inRange : c.policy.timeout.InRange m.now)
    (free : c.bypass = true ∨ view.sight s.inner m.now (g.canonicalKey c.policy rawKey) = none) :
    (g.journaled.openFor c s m).value = .running (g.leaseFor c rawKey m.fresh) ∧
      .invoke ∈ (g.journaled.openFor c s m).effects := by
  have answer := answer_claimAt view s m rawKey inRange
  rw [g.journaled.openFor_eq, found]
  simp only [g.perform_journaled]
  rw [show g.journaled.claimAt c rawKey m = g.claimAt c rawKey m from rfl, answer]
  cases bypass : c.bypass with
  | true => exact ⟨rfl, by simp [Caller.answered, granted]⟩
  | false =>
    rw [free.resolve_left (by simp [bypass])]
    exact ⟨rfl, by simp [Caller.answered, granted]⟩

end Guard

/-- A caller wants one key only. -/
theorem Caller.Wants.unique {g : Guard σ} {caller : Caller} {key key' : String}
    (wants : caller.Wants g key) (wants' : caller.Wants g key') : key = key' := by
  obtain ⟨rawKey, found, rfl⟩ := wants
  obtain ⟨rawKey', found', rfl⟩ := wants'
  cases found.symm.trans found'
  rfl

/-! ## Results -/

namespace Visit

variable {v : Visit ε} {refusal : Refusal}

/-- A caller is refused exactly if the call was opened so. -/
theorem result?_eq_refused_iff
    (worked : ∀ ending conclusion result, v.progress = .resolved ending conclusion result →
      result ≠ .error (.refused refusal)) :
    v.result? = some (.error (.refused refusal)) ↔ v.opening = .ended (.error refusal) := by
  unfold result?
  split
  · rename_i opened
    simp [opened]
  · rename_i opened
    simp [opened]
  · rename_i ending conclusion result opened progress
    simpa [opened] using worked ending conclusion result progress
  · rename_i not_ok not_refused _
    simpa using not_refused refusal

end Visit

namespace Concourse

variable {g : Guard σ} {c : Concourse σ ε} {inner : σ} {start : Instant} {key : String}

/-- An operation that ran leads to no refusal. -/
theorem Reaches.resolved_ne_refused (reached : Reaches g (.empty inner start) c) :
    ∀ v ∈ c.visits, ∀ ending conclusion result, v.progress = .resolved ending conclusion result →
      ∀ refusal, result ≠ .error (.refused refusal) := by
  refine reached.forall_visits ?_ ?_
  · rintro caller since opening ending conclusion result progress
    cases progress
  · rintro s s' now v v' move moves ih ending conclusion result progress refusal
    cases moves with
    | start leased waiting => cases progress
    | finish leased working => cases progress
    | conclude leased ended concludes => cases progress
    | resolve leased concluded stays resolves =>
      subst resolves
      cases progress
      exact g.journaled.resolve_ne_refused _ _ _ _ refusal
    | leave unresolved => exact ih _ _ _ progress refusal

/-! ## Leases that stand in the way -/

/-- A lease stands in the way of others on its key: it is the last one that was granted on the key,
nobody has ended it, and its timeout has not passed since. -/
structure Blocks (c : Concourse σ ε) (w : Visit ε) (key : String) : Prop where
  last : c.LastOn w key
  held : ∃ lease ends, w.lease? = some lease ∧ finals lease.owner c.store.journal = [] ∧
    w.since.add? w.caller.policy.timeout = some ends ∧ c.clock < ends

/-- The last lease on a key stands there as it was granted, as long as nobody tried to end it. -/
theorem Reaches.standing_of_lastOn (reached : Reaches g (.empty inner start) c)
    (law : GrantsFresh g.store) (fits : ∀ e ∈ c.store.journal, e.Fits) {w : Visit ε} {lease : Lease}
    (last : c.LastOn w key) (leased : w.lease? = some lease)
    (unended : finals lease.owner c.store.journal = []) :
    ∃ ends, standing key c.store.journal = some ⟨lease.owner, w.since, ends, .held⟩ ∧
      w.since.add? w.caller.policy.timeout = some ends := by
  have linked := reached.linked law
  have lastGrant := last.grant leased linked
  obtain ⟨ends, stands, limit⟩ := held_of_lastOn (fun e he => (fits e he).inRange)
    linked.pairwise_owner lastGrant unended
  refine ⟨ends, stands, ?_⟩
  have mem : w.caller.grant w.since lease ∈ c.store.journal.filterMap Entry.grant? := by
    obtain ⟨i, here⟩ := last.exists_here
    rw [linked.grants]
    exact List.mem_filterMap.2 ⟨w, List.mem_of_getElem? here, Visit.grant?_of_lease? leased⟩
  obtain ⟨e, he, granted⟩ := List.mem_filterMap.1 mem
  have fit := fits e he _ (Entry.window?_of_grant? granted)
  rw [now_of_grant? granted] at fit
  exact fit.deadline?_eq ▸ limit

variable {view : View g.store}

section

variable (reached : Reaches g (.empty inner start) c) (blank : view.Blank inner)
  (fits : ∀ e ∈ c.store.journal, e.Fits)
include reached blank fits

/-- A pending record is seen of a key exactly if a lease stands in the way there. -/
theorem Reaches.exists_blocks_iff :
    (∃ w, c.Blocks w key) ↔
      ∃ r, view.sight c.store.inner c.clock key = some r ∧ r.isPending = true := by
  have inRange : ∀ e ∈ c.store.journal, e.InRange := fun e he => (fits e he).inRange
  constructor
  · rintro ⟨w, last, lease, ends, leased, unended, limit, live⟩
    obtain ⟨ends', stands, limit'⟩ :=
      reached.standing_of_lastOn view.grantsFresh fits last leased unended
    cases limit.symm.trans limit'
    obtain ⟨r, seen, -, pending⟩ := reached.isPending blank inRange unended stands rfl live
    exact ⟨r, seen, pending⟩
  · rintro ⟨r, seen, pending⟩
    have linked := reached.linked view.grantsFresh
    have expects := seen
    rw [(reached.faithful blank inRange).seen] at expects
    obtain ⟨stands, hstands, hr, live⟩ := expected_eq_some_iff.1 expects
    obtain ⟨a, lastGrant, granted⟩ := exists_lastOn_of_standing inRange hstands
    obtain ⟨w, lease, last, leased, owned⟩ := exists_lastOn linked lastGrant
    obtain ⟨i, here⟩ := last.exists_here
    have mine : r.owner = lease.owner :=
      (Standing.owner_of_record? hr).trans (granted.symm.trans owned.symm)
    have unended : finals lease.owner c.store.journal = [] := by
      by_contra some_final
      have ended := reached.not_isPending blank inRange here leased some_final seen mine
      rw [pending] at ended
      cases ended
    obtain ⟨ends, stands', limit⟩ :=
      reached.standing_of_lastOn view.grantsFresh fits last leased unended
    cases hstands.symm.trans stands'
    exact ⟨w, last, lease, ends, leased, unended, limit, live⟩

/-- Where an outcome stands, no lease stands in the way. -/
theorem Reaches.not_blocks_of_caches {w w' : Visit ε} {outcome : Outcome}
    (caches : c.Caches w key outcome) : ¬c.Blocks w' key := by
  intro blocks
  obtain ⟨r, seen, cached⟩ := (reached.exists_caches_iff blank fun e he => (fits e he).inRange).1
    ⟨w, caches⟩
  obtain ⟨r', seen', pending⟩ := (reached.exists_blocks_iff blank fits).1 ⟨w', blocks⟩
  cases seen.symm.trans seen'
  have state : r.state = .pending := of_decide_eq_true pending
  simp [Record.outcome?, state] at cached

/-- What is seen of a key is a lease that stands in the way or an outcome. -/
theorem Reaches.blocks_or_caches {r : Record}
    (seen : view.sight c.store.inner c.clock key = some r) :
    (∃ w, c.Blocks w key) ∧ r.state = .pending ∨
      ∃ w outcome, c.Caches w key outcome ∧ r.state = .completed ∧ r.outcome? = some outcome := by
  have inRange : ∀ e ∈ c.store.journal, e.InRange := fun e he => (fits e he).inRange
  cases state : r.state with
  | pending =>
    have pending : r.isPending = true := decide_eq_true state
    exact .inl ⟨(reached.exists_blocks_iff blank fits).2 ⟨r, seen, pending⟩, rfl⟩
  | completed =>
    have expects := seen
    rw [(reached.faithful blank inRange).seen] at expects
    obtain ⟨stands, -, hr, -⟩ := expected_eq_some_iff.1 expects
    cases fate : stands.fate with
    | held =>
      have pending := (Standing.isPending_of_record? hr).2 fate
      simp [Record.isPending, state] at pending
    | freed => exact absurd fate ((Standing.exists_record?_iff key stands).1 ⟨r, hr⟩)
    | settled outcome =>
      have cached := (Standing.outcome?_of_record? hr).2 fate
      obtain ⟨w, caches⟩ := (reached.exists_caches_iff blank inRange).2 ⟨r, seen, cached⟩
      exact .inr ⟨w, outcome, caches, rfl, cached⟩

end

/-! ## Entrances -/

/-- How a caller is let in: by what stands on its key. -/
inductive Admits (g : Guard σ) (c : Concourse σ ε) (caller : Caller) : Opening → Prop
  | keyless {reason : String} (keyless : caller.rawKey? = none) :
      Admits g c caller (.ended (.error (.missingKey reason)))
  | busy {w : Visit ε} {key shown : String} (stays : caller.bypass = false)
      (wants : caller.Wants g key) (blocks : c.Blocks w key) :
      Admits g c caller (.ended (.error (.inProgress shown)))
  | rejected {w : Visit ε} {key shown : String} {outcome : Outcome} (stays : caller.bypass = false)
      (rule : caller.policy.repeats = .reject) (wants : caller.Wants g key)
      (caches : c.Caches w key outcome) :
      Admits g c caller (.ended (.error (.alreadyProcessed shown)))
  | replayed {w : Visit ε} {key : String} {outcome : Outcome} (stays : caller.bypass = false)
      (rule : caller.policy.repeats = .returnCached) (wants : caller.Wants g key)
      (caches : c.Caches w key outcome) : Admits g c caller (.ended (.ok outcome))
  | leased {lease : Lease} (wants : caller.Wants g lease.key)
      (free : caller.bypass = true ∨ (∀ w, ¬c.Blocks w lease.key) ∧
        ∀ w outcome, ¬c.Caches w lease.key outcome) : Admits g c caller (.running lease)

/-- The window that a caller asks for is among those of the journal. -/
theorem timeout_inRange {caller : Caller} {fresh : Token} {rawKey : String}
    (found : caller.findKey = .ok rawKey)
    (inRange : ∀ e ∈ (c.receive g caller fresh).store.journal, e.InRange) :
    caller.policy.timeout.InRange c.clock := by
  rw [receive_eq, found] at inRange
  let claim := g.claimAt caller rawKey ⟨c.clock, fresh⟩
  have asked : caller.policy.timeout ∈ claim.call.window? := by
    cases bypass : caller.bypass <;>
      simp [claim, Guard.claimAt, Guard.claimCall, bypass, Call.window?]
  have taken := inRange (c.store.entry g.store claim) (by simp [claim])
  exact taken _ asked

/-- Every caller is let in by what stands on its key, and whoever gets a lease starts to work. -/
theorem Reaches.admits (reached : Reaches g (.empty inner start) c) (blank : view.Blank inner)
    {caller : Caller} {fresh : Token}
    (fits : ∀ e ∈ (c.receive g caller fresh).store.journal, e.Fits) :
    Admits g c caller (c.arrival g caller fresh).opening ∧
      ∀ lease, (c.arrival g caller fresh).opening = .running lease →
        .invoke ∈ (g.journaled.openFor caller c.store ⟨c.clock, fresh⟩).effects := by
  have earlier : ∀ e ∈ c.store.journal, e.Fits := by
    intro e he
    refine fits e ?_
    rw [receive_eq]
    cases caller.findKey with
    | error reason => exact he
    | ok rawKey => exact List.mem_append_left _ he
  rw [arrival]
  cases found : caller.findKey with
  | error reason =>
    have none : caller.rawKey? = none := by
      rw [Caller.rawKey?_eq, found]
      rfl
    rw [g.journaled.openFor_eq, found]
    exact ⟨.keyless none, fun lease running => nomatch running⟩
  | ok rawKey =>
    let key := g.canonicalKey caller.policy rawKey
    have wants : caller.Wants g key := by
      refine ⟨rawKey, ?_, rfl⟩
      rw [Caller.rawKey?_eq, found]
      rfl
    have inRange : caller.policy.timeout.InRange c.clock :=
      timeout_inRange found fun e he => (fits e he).inRange
    cases bypass : caller.bypass with
    | true =>
      obtain ⟨opened, invokes⟩ :=
        g.openFor_of_free view c.store ⟨c.clock, fresh⟩ found inRange (.inl bypass)
      rw [opened]
      exact ⟨.leased wants (.inl bypass), fun _ _ => invokes⟩
    | false =>
      cases seen : view.sight c.store.inner c.clock key with
      | none =>
        obtain ⟨opened, invokes⟩ :=
          g.openFor_of_free view c.store ⟨c.clock, fresh⟩ found inRange (.inr seen)
        rw [opened]
        refine ⟨.leased wants (.inr ⟨fun w blocks => ?_, fun w outcome caches => ?_⟩),
          fun _ _ => invokes⟩
        · obtain ⟨r, seen', -⟩ := (reached.exists_blocks_iff blank earlier).1 ⟨w, blocks⟩
          cases seen.symm.trans seen'
        · obtain ⟨r, seen', -⟩ :=
            (reached.exists_caches_iff blank fun e he => (earlier e he).inRange).1 ⟨w, caches⟩
          cases seen.symm.trans seen'
      | some r =>
        have opened :=
          g.openFor_of_seen view c.store ⟨c.clock, fresh⟩ found inRange bypass seen
        rw [opened]
        refine ⟨?_, fun lease running => nomatch running⟩
        rcases reached.blocks_or_caches blank earlier seen with
          ⟨⟨w, blocks⟩, pending⟩ | ⟨w, outcome, caches, completed, cached⟩
        · simp only [Guard.conflict, pending]
          exact .busy bypass wants blocks
        · cases rule : caller.policy.repeats with
          | reject =>
            simp only [Guard.conflict, completed, rule]
            exact .rejected bypass rule wants caches
          | returnCached =>
            simp only [Guard.conflict, completed, rule, cached]
            exact .replayed bypass rule wants caches

/-- What keeps a caller out decides how the caller is let in. -/
theorem Admits.of_blocks {caller : Caller} {opening : Opening} (admits : Admits g c caller opening)
    (clear : ∀ w w' outcome, c.Caches w key outcome → ¬c.Blocks w' key)
    (stays : caller.bypass = false) (wants : caller.Wants g key) {w : Visit ε}
    (blocks : c.Blocks w key) : ∃ shown, opening = .ended (.error (.inProgress shown)) := by
  cases admits with
  | keyless keyless =>
    obtain ⟨rawKey, found, -⟩ := wants
    cases keyless.symm.trans found
  | busy _ _ _ => exact ⟨_, rfl⟩
  | rejected _ _ wants' caches =>
    cases wants.unique wants'
    exact absurd blocks (clear _ _ _ caches)
  | replayed _ _ wants' caches =>
    cases wants.unique wants'
    exact absurd blocks (clear _ _ _ caches)
  | leased wants' free =>
    cases wants.unique wants'
    exact absurd blocks ((free.resolve_left (by simp [stays])).1 w)

theorem Admits.of_caches {caller : Caller} {opening : Opening} (admits : Admits g c caller opening)
    (clear : ∀ w w' outcome, c.Caches w key outcome → ¬c.Blocks w' key)
    (stays : caller.bypass = false) (rule : caller.policy.repeats = .reject)
    (wants : caller.Wants g key) {w : Visit ε} {outcome : Outcome}
    (caches : c.Caches w key outcome) :
    ∃ shown, opening = .ended (.error (.alreadyProcessed shown)) := by
  cases admits with
  | keyless keyless =>
    obtain ⟨rawKey, found, -⟩ := wants
    cases keyless.symm.trans found
  | busy _ wants' blocks =>
    cases wants.unique wants'
    exact absurd blocks (clear _ _ _ caches)
  | rejected _ _ _ _ => exact ⟨_, rfl⟩
  | replayed _ rule' _ _ => cases rule.symm.trans rule'
  | leased wants' free =>
    cases wants.unique wants'
    exact absurd caches ((free.resolve_left (by simp [stays])).2 w outcome)

theorem Admits.of_free {caller : Caller} {opening : Opening} (admits : Admits g c caller opening)
    (wants : caller.Wants g key) (unblocked : ∀ w, ¬c.Blocks w key)
    (uncached : ∀ w outcome, ¬c.Caches w key outcome) :
    ∃ lease, opening = .running lease ∧ lease.key = key := by
  cases admits with
  | keyless keyless =>
    obtain ⟨rawKey, found, -⟩ := wants
    cases keyless.symm.trans found
  | busy _ wants' blocks =>
    cases wants.unique wants'
    exact absurd blocks (unblocked _)
  | rejected _ _ wants' caches =>
    cases wants.unique wants'
    exact absurd caches (uncached _ _)
  | replayed _ _ wants' caches =>
    cases wants.unique wants'
    exact absurd caches (uncached _ _)
  | @leased lease wants' _ => exact ⟨lease, rfl, wants'.unique wants⟩

/-- **Admission.** Take any calls on one store in memory, in any order of their steps, whose windows
neither overflow nor are cut. When a caller enters, a lease of another visit may stand in the way on
its key, or an outcome may stand there. The caller is told that a call is in progress exactly in the
first case, that the key was processed or its outcome exactly in the second, as the policy has it,
and in neither of these cases if it goes past what is recorded. Whoever finds neither a lease nor an
outcome gets a lease on the key and starts to work. -/
theorem admitted_exactly (keyPrefix : String) {start : Instant} {c : Concourse Memory.State ε}
    (reached : Reaches ⟨Memory.store, keyPrefix⟩ (.empty .empty start) c)
    (fits : ∀ e ∈ c.store.journal, e.Fits) {j : Nat} {v : Visit ε} (here : c.visits[j]? = some v) :
    let g : Guard Memory.State := ⟨Memory.store, keyPrefix⟩
    ∃ c₀ fresh, Reaches g (.empty .empty start) c₀ ∧
      Step g c₀ (c₀.receive g v.caller fresh) ∧ Reaches g (c₀.receive g v.caller fresh) c ∧
      c₀.visits.length = j ∧ c₀.clock = v.since ∧
      ((∃ shown, v.result? = some (.error (.refused (.inProgress shown)))) ↔
        v.caller.bypass = false ∧ ∃ key w, v.caller.Wants g key ∧ c₀.Blocks w key) ∧
      ((∃ shown, v.result? = some (.error (.refused (.alreadyProcessed shown)))) ↔
        v.caller.bypass = false ∧ v.caller.policy.repeats = .reject ∧
          ∃ key w outcome, v.caller.Wants g key ∧ c₀.Caches w key outcome) ∧
      (∀ outcome, v.result? = some (.ok outcome) ∧ v.progress.ending? = none ↔
        v.caller.bypass = false ∧ v.caller.policy.repeats = .returnCached ∧
          ∃ key w, v.caller.Wants g key ∧ c₀.Caches w key outcome) ∧
      ∀ key, v.caller.Wants g key → v.caller.bypass = false → (∀ w, ¬c₀.Blocks w key) →
        (∀ w outcome, ¬c₀.Caches w key outcome) →
          ∃ lease, v.opening = .running lease ∧ lease.key = key ∧
            .invoke ∈ (g.journaled.openFor v.caller c₀.store ⟨c₀.clock, fresh⟩).effects := by
  intro g
  have blank : Memory.view.Blank .empty := Memory.blank_empty
  obtain ⟨c₀, fresh, reached₀, entered, onward, length, arrived⟩ := reached.exists_arrival here
  have grows : c₀.store.journal <+: (c₀.receive g v.caller fresh).store.journal :=
    (Reaches.step .refl entered).journal_grows
  have fits₁ : ∀ e ∈ (c₀.receive g v.caller fresh).store.journal, e.Fits :=
    fun e he => fits e (onward.journal_grows.subset he)
  have fits₀ : ∀ e ∈ c₀.store.journal, e.Fits := fun e he => fits₁ e (grows.subset he)
  obtain ⟨admits, invokes⟩ := reached₀.admits blank fits₁
  rw [← arrived.opening] at admits invokes
  have clear : ∀ {key} w w' outcome, c₀.Caches w key outcome → ¬c₀.Blocks w' key :=
    fun w w' outcome caches => reached₀.not_blocks_of_caches blank fits₀ caches
  have refused : ∀ refusal, v.result? = some (.error (.refused refusal)) ↔
      v.opening = .ended (.error refusal) := fun refusal =>
    Visit.result?_eq_refused_iff fun ending conclusion result progress =>
      reached.resolved_ne_refused v (List.mem_of_getElem? here) ending conclusion result progress
        refusal
  refine ⟨c₀, fresh, reached₀, entered, onward, length, arrived.since.symm, ?_, ?_, ?_, ?_⟩
  · simp only [refused]
    constructor
    · rintro ⟨shown, opened⟩
      rw [opened] at admits
      cases admits with
      | busy stays wants blocks => exact ⟨stays, _, _, wants, blocks⟩
    · rintro ⟨stays, key, w, wants, blocks⟩
      exact admits.of_blocks clear stays wants blocks
  · simp only [refused]
    constructor
    · rintro ⟨shown, opened⟩
      rw [opened] at admits
      cases admits with
      | rejected stays rule wants caches => exact ⟨stays, rule, _, _, _, wants, caches⟩
    · rintro ⟨stays, rule, key, w, outcome, wants, caches⟩
      exact admits.of_caches clear stays rule wants caches
  · intro outcome
    have idle : v.lease? = none → v.progress = .waiting := by
      intro none
      rw [Visit.lease?, arrived.opening] at none
      exact arrived.idle none
    rw [Visit.result?_eq_ok_iff idle, arrived.opening]
    exact reached₀.opening_arrival_iff blank fun e he => (fits₀ e he).inRange
  · intro key wants stays unblocked uncached
    obtain ⟨lease, opened, onKey⟩ := admits.of_free wants unblocked uncached
    exact ⟨lease, opened, onKey, invokes lease opened⟩

/-- A caller who claims a key right after another did. -/
def repeated : Concourse Memory.State Unit :=
  ((empty .empty .epoch).receive rivalGuard (rival false) (.serial 1)).receive rivalGuard
    (rival false) (.serial 2)

/-- Whether a caller is told that a call is in progress. -/
def toldBusy (v : Visit Unit) : Bool :=
  match v.result? with
  | some (.error (.refused (.inProgress _))) => true
  | _ => false

/-- The caller in `repeated` is told that a call is in progress, and the lease of the other stands
in the way. -/
theorem admitted_exactly_repeated :
    Reaches rivalGuard (.empty .empty .epoch) repeated ∧
      (∀ e ∈ repeated.store.journal, e.Fits) ∧
      ∃ v, repeated.visits[1]? = some v ∧ toldBusy v = true ∧
        ∃ (c₀ : Concourse Memory.State Unit) (key : String) (w : Visit Unit),
          Reaches rivalGuard (.empty .empty .epoch) c₀ ∧ c₀.visits.length = 1 ∧
            v.caller.Wants rivalGuard key ∧ c₀.Blocks w key := by
  have reached : Reaches rivalGuard (.empty .empty .epoch) repeated :=
    .step (.step .refl (.enter (rival false) (by simp [empty])))
      (.enter (rival false) (by decide +kernel))
  have fits : ∀ e ∈ repeated.store.journal, e.Fits := by decide +kernel
  have here : ∃ v, repeated.visits[1]? = some v := ⟨_, rfl⟩
  obtain ⟨v, here⟩ := here
  have told : (repeated.visits[1]?).any toldBusy = true := by decide +kernel
  rw [here] at told
  have told : toldBusy v = true := told
  obtain ⟨c₀, fresh, reached₀, -, -, length, -, busy, -⟩ :=
    admitted_exactly defaultKeyPrefix reached fits here
  have refused : ∃ shown, v.result? = some (.error (.refused (.inProgress shown))) := by
    unfold toldBusy at told
    split at told
    · exact ⟨_, by assumption⟩
    · cases told
  obtain ⟨-, key, w, wants, blocks⟩ := busy.1 refused
  exact ⟨reached, fits, v, here, told, c₀, key, w, reached₀, length, wants, blocks⟩

end Concourse

end Turnstile
