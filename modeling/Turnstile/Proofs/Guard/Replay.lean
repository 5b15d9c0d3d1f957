import Turnstile.Proofs.Guard.Exclusive
import Turnstile.Proofs.Guard.Finalization
import Turnstile.Proofs.Store.Provenance

/-!
Replays: calls that end with an outcome although their operation never ran. Main statement: in a
concourse over the store in memory a call is answered so exactly if it may be answered from the
cache, and then with the outcome that the operation of the last lease on its key returned and that
was cached for it, as long as the outcome is valid; no outcome whose completion came too late is
ever replayed (`Concourse.replay_authoritative`).
-/

namespace Turnstile

open Store

variable {σ ε : Type}

/-! ## Openings -/

/-- A repeat is given an outcome when its policy allows it and the record in its way has one. -/
theorem Guard.conflict_eq_ok_iff {policy : Policy} {rawKey : String} {existing : Record}
    {outcome : Outcome} :
    (conflict policy rawKey existing).2 = .ok outcome ↔
      policy.repeats = .returnCached ∧ existing.outcome? = some outcome := by
  unfold conflict
  cases state : existing.state with
  | pending => simp [Record.outcome?, state]
  | completed =>
    cases policy.repeats with
    | reject => simp
    | returnCached => cases existing.outcome? <;> simp

/-- A claim meets the record that is seen of its key. -/
theorem Store.View.claim_eq_conflict_iff {st : Store σ} (view : View st) {s : σ} {m : Moment}
    {key : String} {lease : Span} {r : Record} :
    (st.claim s m key lease).result = .done (.conflict r) ↔ view.sight s m.now key = some r := by
  have answer := view.result_perform s ⟨m.now, .claim key lease m.fresh⟩ (by simp)
  simp only [perform, perform.as, Sight.next, Sight.grant] at answer
  cases seen : view.sight s m.now key with
  | some existing =>
    rw [seen] at answer
    obtain ⟨value, done, same⟩ := Attempt.map_eq_done_iff.1 answer
    cases same
    rw [done]
    simp
  | none =>
    rw [seen] at answer
    constructor
    · intro met
      rw [met] at answer
      simp only at answer
      split at answer <;> cases answer
    · intro none
      cases none

namespace Guard

variable {g : Guard σ} (view : View g.store) {s : Journaled σ} {m : Moment} {outcome : Outcome}

/-- A call ends with an outcome at its opening exactly if it does not go past what is recorded, its
policy allows replays, and a record with that outcome is seen of its key. -/
theorem openKey_eq_ok_iff {policy : Policy} {rawKey : String} {bypass : Bool} :
    (g.journaled.openKey policy rawKey bypass s m).value = .ended (.ok outcome) ↔
      bypass = false ∧ policy.repeats = .returnCached ∧
        ∃ r, view.sight s.inner m.now (g.canonicalKey policy rawKey) = some r ∧
          r.outcome? = some outcome := by
  unfold openKey
  cases bypass with
  | true =>
    simp only [if_true]
    split <;> simp
  | false =>
    simp only [Bool.false_eq_true, if_false, true_and]
    let key := g.canonicalKey policy rawKey
    have met : ∀ r, view.sight s.inner m.now key = some r →
        (g.journaled.store.claim s m key policy.timeout).result = .done (.conflict r) :=
      fun r seen => view.claim_eq_conflict_iff.2 seen
    -- the answer of the store decides, and it is a conflict only if a record is seen
    split <;> rename_i result
    · refine ⟨nofun, fun ⟨_, r, seen, _⟩ => ?_⟩
      cases (met r seen).symm.trans result
    · rename_i existing
      have seen : view.sight s.inner m.now key = some existing :=
        view.claim_eq_conflict_iff.1 result
      simp [key, seen, conflict_eq_ok_iff]
    · refine ⟨nofun, fun ⟨_, r, seen, _⟩ => ?_⟩
      cases (met r seen).symm.trans result
    · refine ⟨nofun, fun ⟨_, r, seen, _⟩ => ?_⟩
      cases (met r seen).symm.trans result

/-- So it is with every caller who brings a key, and no caller without one gets an outcome. -/
theorem openFor_eq_ok_iff {caller : Caller} :
    (g.journaled.openFor caller s m).value = .ended (.ok outcome) ↔
      caller.bypass = false ∧ caller.policy.repeats = .returnCached ∧
        ∃ rawKey r, caller.rawKey? = some rawKey ∧
          view.sight s.inner m.now (g.canonicalKey caller.policy rawKey) = some r ∧
          r.outcome? = some outcome := by
  obtain ⟨policy, origin, bypass⟩ := caller
  cases origin with
  | given rawKey =>
    simp only [openFor, openWithKey, Caller.rawKey?]
    cases blank : Text.allBlank rawKey with
    | true => simp
    | false => simpa [Traced.after] using openKey_eq_ok_iff view
  | request extractor source =>
    simp only [openFor, openRequest, Caller.rawKey?]
    cases extractor.extract source with
    | error reason => simp [Except.toOption]
    | ok rawKey => simpa [Traced.after, Except.toOption] using openKey_eq_ok_iff view

end Guard

/-! ## The source of an outcome -/

/-- A held lease that is settled has a record with the outcome, and no other has. -/
theorem Store.Standing.outcome?_of_record? {key : String} {g : Standing} {r : Record}
    (h : g.record? key = some r) {outcome : Outcome} :
    r.outcome? = some outcome ↔ g.fate = .settled outcome := by
  unfold record? at h
  split at h <;> cases h <;> simp_all [Record.outcome?]

namespace Visit.Account

variable {v : Visit ε} {lease : Lease} {ends : List Entry} {e : Entry}

/-- An outcome that was cached under a lease was returned by the operation of its visit, for whose
window it was cached, and nothing else was done to end the lease. -/
theorem of_applied (h : v.Account lease ends) (he : e ∈ ends) {key : String} {owner : Token}
    {outcome : Outcome} {window : Span} (call : e.call = .complete key owner outcome window)
    (applied : e.answer = .done (.finality .applied)) :
    ends = [e] ∧ v.progress.ending? = some (.returned outcome) ∧
      window = v.caller.policy.window := by
  obtain ⟨calls, follows⟩ := h
  have made : e.call ∈ v.progress.calls lease v.caller.policy.window :=
    calls ▸ List.mem_map_of_mem he
  have never : ∀ conclusion : Conclusion ε, e.call ∉ (conclusion.call? lease).toList := by
    intro conclusion mem
    cases conclusion <;> simp [Conclusion.call?, call] at mem
  cases progress : v.progress with
  | waiting => simp [progress, Progress.calls] at made
  | working => simp [progress, Progress.calls] at made
  | ended ending => simp [progress, Progress.calls] at made
  | concluded ending conclusion =>
    rw [progress] at calls made
    cases ending with
    | returned returned =>
      obtain ⟨first, rfl, -⟩ := List.map_eq_singleton_iff.1 calls
      cases List.mem_singleton.1 he
      simp_all [Progress.calls, Ending.call?, Progress.ending?]
    | failed error => simp [Progress.calls, Ending.call?, call] at made
    | panicked message => simp [Progress.calls, Ending.call?] at made
  | resolved ending conclusion result =>
    rw [progress] at calls made follows
    have follows : conclusion = ending.conclusion (ends.head?.map (·.answer)) := follows
    cases ending with
    | returned returned =>
      obtain ⟨first, rest, rfl, completes, releases⟩ := List.map_eq_cons_iff.1 calls
      have releases : rest.map (·.call) = (conclusion.call? lease).toList := releases
      have here : e = first := by
        rcases List.mem_cons.1 he with rfl | mem
        · rfl
        · exact absurd (releases ▸ List.mem_map_of_mem mem) (never conclusion)
      subst here
      have kept : conclusion = .outcome returned := by
        rw [follows]
        exact Ending.conclusion_returned returned (by simp [applied])
      have nothing : rest = [] := by
        rw [kept] at releases
        exact List.map_eq_nil_iff.1 releases
      rw [call] at completes
      cases completes
      exact ⟨by rw [nothing], rfl, rfl⟩
    | failed error =>
      rcases List.mem_append.1 made with made | made
      · simp [Ending.call?, call] at made
      · exact absurd made (never conclusion)
    | panicked message =>
      rcases List.mem_append.1 made with made | made
      · simp [Ending.call?] at made
      · exact absurd made (never conclusion)

end Visit.Account

namespace Concourse

variable {g : Guard σ} {c c' : Concourse σ ε} {key : String} {outcome : Outcome}

/-- A visit got the last lease on a key. -/
def LastOn (c : Concourse σ ε) (v : Visit ε) (key : String) : Prop :=
  v.Holds key ∧ ∃ earlier later, c.visits = earlier ++ v :: later ∧ ∀ w ∈ later, ¬w.Holds key

/-- An outcome stands on a key: the operation of the visit with the last lease on the key returned
it, the one call that ended the lease cached it, and its window has not ended. -/
structure Caches (c : Concourse σ ε) (v : Visit ε) (key : String) (outcome : Outcome) : Prop where
  last : c.LastOn v key
  returned : v.progress.ending? = some (.returned outcome)
  cached : ∃ lease e ends, v.lease? = some lease ∧ finals lease.owner c.store.journal = [e] ∧
    e.call = .complete key lease.owner outcome v.caller.policy.window ∧
    e.answer = .done (.finality .applied) ∧
    e.now.deadline? v.caller.policy.window = some ends ∧ c.clock < ends

/-- The last lease on a key in the journal is that of the visit with the last lease on it. -/
theorem exists_lastOn (linked : Linked c.store.journal c.visits) {a : Grant}
    (last : a.LastOn key (c.store.journal.filterMap Entry.grant?)) :
    ∃ v lease, c.LastOn v key ∧ v.lease? = some lease ∧ lease.owner = a.owner := by
  obtain ⟨here, before, after, grants, others⟩ := last
  rw [linked.grants] at grants
  obtain ⟨xs, rest, visits, -, fromHere⟩ := List.filterMap_eq_append_iff.1 grants
  obtain ⟨ys, v, later, rfl, -, granted, onward⟩ := List.filterMap_eq_cons_iff.1 fromHere
  obtain ⟨lease, leased, rfl⟩ := Option.map_eq_some_iff.1 granted
  refine ⟨v, lease, ⟨⟨lease, leased, here⟩, xs ++ ys, later, by simp [visits], ?_⟩, leased, rfl⟩
  rintro w hw ⟨lease', leased', here'⟩
  have mem : w.caller.grant w.since lease' ∈ after := by
    rw [← onward]
    exact List.mem_filterMap.2 ⟨w, hw, Visit.grant?_of_lease? leased'⟩
  exact others _ mem here'

theorem LastOn.grant {v : Visit ε} {lease : Lease} (last : c.LastOn v key)
    (leased : v.lease? = some lease) (linked : Linked c.store.journal c.visits) :
    (v.caller.grant v.since lease).LastOn key (c.store.journal.filterMap Entry.grant?) := by
  obtain ⟨⟨lease', leased', here⟩, earlier, later, visits, others⟩ := last
  cases leased.symm.trans leased'
  rw [linked.grants, visits]
  refine ⟨here, earlier.filterMap Visit.grant?, later.filterMap Visit.grant?, ?_, ?_⟩
  · simp [Visit.grant?_of_lease? leased]
  · intro b hb here'
    obtain ⟨w, hw, granted⟩ := List.mem_filterMap.1 hb
    obtain ⟨lease', leased', rfl⟩ := Option.map_eq_some_iff.1 granted
    exact others w hw ⟨lease', leased', here'⟩

theorem LastOn.exists_here {v : Visit ε} (last : c.LastOn v key) :
    ∃ i : Nat, c.visits[i]? = some v := by
  obtain ⟨-, earlier, later, visits, -⟩ := last
  refine List.mem_iff_getElem?.1 ?_
  rw [visits]
  exact List.mem_append_right _ List.mem_cons_self

variable {inner : σ} {start : Instant} {view : View g.store}

/-- An outcome that was cached for the last lease on a key is seen of it until its window ends,
whatever is done under other leases. -/
theorem Reaches.seen_of_complete (reached : Reaches g (.empty inner start) c)
    (blank : view.Blank inner) (inRange : ∀ e ∈ c.store.journal, e.InRange) {v : Visit ε}
    {lease : Lease} (last : c.LastOn v key) (leased : v.lease? = some lease) {e : Entry}
    (he : e ∈ c.store.journal) {window : Span} {ends : Instant}
    (call : e.call = .complete key lease.owner outcome window)
    (applied : e.answer = .done (.finality .applied)) (limit : e.now.deadline? window = some ends)
    (before : c.clock < ends) :
    ∃ r, view.sight c.store.inner c.clock key = some r ∧ r.outcome? = some outcome := by
  have linked := reached.linked view.grantsFresh
  have faithful := reached.faithful blank inRange
  obtain ⟨i, here⟩ := last.exists_here
  have mem : e ∈ finals lease.owner c.store.journal := mem_finals_iff.2 ⟨he, by rw [call]; rfl⟩
  obtain ⟨alone, -, -⟩ := (linked.account here leased).of_applied mem call applied
  have lastGrant := last.grant leased linked
  have distinct := linked.pairwise_owner
  have answered := faithful.answered
  rw [faithful.seen]
  obtain ⟨past, later, journal⟩ := List.append_of_mem he
  rw [journal] at alone lastGrant distinct answered inRange ⊢
  have unended : finals lease.owner later = [] := by
    have mine : finals lease.owner [e] = [e] := finals_eq_self (by simp [call, Call.finalizes?])
    rw [← List.singleton_append, finals_append, finals_append, mine] at alone
    have length := congrArg List.length alone
    simp only [List.length_append, List.length_singleton] at length
    exact List.eq_nil_of_length_eq_zero (by omega)
  obtain ⟨stands, hstands, -, settled, limit'⟩ :=
    settled_of_complete answered (inRange e (by simp)) distinct lastGrant call applied unended
  cases limit.symm.trans limit'
  obtain ⟨r, hr⟩ := (Standing.exists_record?_iff key stands).2 (by simp [settled])
  exact ⟨r, expected_eq_some_iff.2 ⟨stands, hstands, hr, before⟩,
    (Standing.outcome?_of_record? hr).2 settled⟩

/-- What is seen of a key has an outcome exactly if the outcome stands there for the last lease. -/
theorem Reaches.exists_caches_iff (reached : Reaches g (.empty inner start) c)
    (blank : view.Blank inner) (inRange : ∀ e ∈ c.store.journal, e.InRange) :
    (∃ w, c.Caches w key outcome) ↔
      ∃ r, view.sight c.store.inner c.clock key = some r ∧ r.outcome? = some outcome := by
  constructor
  · rintro ⟨w, last, -, lease, e, ends, leased, only, call, applied, limit, before⟩
    have there : e ∈ finals lease.owner c.store.journal := only ▸ List.mem_singleton_self e
    exact reached.seen_of_complete blank inRange last leased (mem_finals_iff.1 there).1 call applied
      limit before
  · rintro ⟨r, seen, cached⟩
    have linked := reached.linked view.grantsFresh
    rw [(reached.faithful blank inRange).seen] at seen
    obtain ⟨stands, hstands, hr, live⟩ := expected_eq_some_iff.1 seen
    have settled := (Standing.outcome?_of_record? hr).1 cached
    obtain ⟨a, last, granted⟩ := exists_lastOn_of_standing inRange hstands
    obtain ⟨e, he, window, call, applied, limit⟩ := exists_complete_of_settled hstands settled
    obtain ⟨w, lease, lastVisit, leased, owned⟩ := exists_lastOn linked last
    rw [← granted, ← owned] at call
    obtain ⟨i, here⟩ := lastVisit.exists_here
    have mem : e ∈ finals lease.owner c.store.journal := mem_finals_iff.2 ⟨he, by rw [call]; rfl⟩
    obtain ⟨only, returned, rfl⟩ := (linked.account here leased).of_applied mem call applied
    exact ⟨w, lastVisit, returned, lease, e, _, leased, only, call, applied, limit, live⟩

end Concourse

/-! ## Entrances -/

namespace Visit

variable {v v' : Visit ε} {outcome : Outcome}

/-- What a caller gets, if the call is over and the caller has stayed. -/
def result? (v : Visit ε) : Option (Except (CallError ε) Outcome) :=
  match v.opening, v.progress with
  | .ended (.ok outcome), _ => some (.ok outcome)
  | .ended (.error refusal), _ => some (.error (.refused refusal))
  | .running _, .resolved _ _ result => some result
  | _, _ => none

/-- One visit goes on as another: who made it, when, and how it was opened stay, and without a lease
nothing happens to it. -/
structure Continues (v v' : Visit ε) : Prop where
  caller : v'.caller = v.caller
  since : v'.since = v.since
  opening : v'.opening = v.opening
  idle : v.lease? = none → v'.progress = v.progress

theorem Continues.refl (v : Visit ε) : v.Continues v := ⟨rfl, rfl, rfl, fun _ => rfl⟩

theorem Continues.trans {v'' : Visit ε} (h : v.Continues v') (h' : v'.Continues v'') :
    v.Continues v'' where
  caller := h'.caller.trans h.caller
  since := h'.since.trans h.since
  opening := h'.opening.trans h.opening
  idle none := (h'.idle (by rw [lease?, h.opening]; exact none)).trans (h.idle none)

/-- A visit with a lease goes on in any way. -/
theorem continues_of_lease? {lease : Lease} (leased : v.lease? = some lease)
    (progress : Progress ε) : v.Continues { v with progress := progress } :=
  ⟨rfl, rfl, rfl, fun none => nomatch leased.symm.trans none⟩

/-- A caller gets an outcome without an operation exactly if the call was opened with it. -/
theorem result?_eq_ok_iff (idle : v.lease? = none → v.progress = .waiting) :
    v.result? = some (.ok outcome) ∧ v.progress.ending? = none ↔
      v.opening = .ended (.ok outcome) := by
  constructor
  · rintro ⟨result, unended⟩
    unfold result? at result
    split at result
    · cases result
      assumption
    · cases result
    · rename_i ending conclusion given progress
      rw [progress] at unended
      cases unended
    · cases result
  · intro opened
    have waiting := idle (by rw [lease?, opened]; rfl)
    rw [result?, opened, waiting]
    exact ⟨rfl, rfl⟩

end Visit

namespace Concourse

variable {g : Guard σ} {c c' : Concourse σ ε} {inner : σ} {start : Instant}

/-- The visit of a caller who enters. -/
def arrival (g : Guard σ) (c : Concourse σ ε) (caller : Caller) (fresh : Token) : Visit ε :=
  ⟨caller, c.clock, (g.journaled.openFor caller c.store ⟨c.clock, fresh⟩).value, .waiting, false⟩

/-- A step is an entrance, or every visit goes on. -/
theorem Step.enters_or_continues (step : Step g c c') :
    (∃ caller fresh, c' = c.receive g caller fresh) ∨
      ∀ (i : Nat) (v' : Visit ε), c'.visits[i]? = some v' →
        ∃ v, c.visits[i]? = some v ∧ v.Continues v' := by
  have goesOn : ∀ {i : Nat} {v w : Visit ε}, c.visits[i]? = some v → v.Continues w →
      ∀ (j : Nat) (v' : Visit ε), (c.visits.set i w)[j]? = some v' →
        ∃ v, c.visits[j]? = some v ∧ v.Continues v' := by
    intro i v w here continues j v' hj
    rcases getElem?_set_cases hj with ⟨rfl, rfl⟩ | ⟨-, hj⟩
    · exact ⟨v, here, continues⟩
    · exact ⟨v', hj, .refl v'⟩
  cases step with
  | tick later => exact .inr fun i v' here => ⟨v', here, .refl v'⟩
  | purge => exact .inr fun i v' here => ⟨v', here, .refl v'⟩
  | @enter caller fresh new => exact .inl ⟨caller, fresh, rfl⟩
  | start here leased waiting => exact .inr (goesOn here (Visit.continues_of_lease? leased _))
  | finish ending here leased working =>
    exact .inr (goesOn here (Visit.continues_of_lease? leased _))
  | conclude here leased ended => exact .inr (goesOn here (Visit.continues_of_lease? leased _))
  | resolve here leased concluded stays =>
    exact .inr (goesOn here (Visit.continues_of_lease? leased _))
  | leave here unresolved => exact .inr (goesOn here ⟨rfl, rfl, rfl, fun _ => rfl⟩)

/-- Every visit goes back to the entrance of its caller. -/
theorem Reaches.exists_arrival (reached : Reaches g (.empty inner start) c) {j : Nat} {v : Visit ε}
    (here : c.visits[j]? = some v) :
    ∃ c₀ fresh, Reaches g (.empty inner start) c₀ ∧ Step g c₀ (c₀.receive g v.caller fresh) ∧
      Reaches g (c₀.receive g v.caller fresh) c ∧ c₀.visits.length = j ∧
      (c₀.arrival g v.caller fresh).Continues v := by
  induction reached generalizing v with
  | refl => cases here
  | @step c c' reached step ih =>
    have earlier : ∀ {w}, c.visits[j]? = some w → w.Continues v →
        ∃ c₀ fresh, Reaches g (.empty inner start) c₀ ∧ Step g c₀ (c₀.receive g v.caller fresh) ∧
          Reaches g (c₀.receive g v.caller fresh) c' ∧ c₀.visits.length = j ∧
          (c₀.arrival g v.caller fresh).Continues v := by
      intro w hw continues
      obtain ⟨c₀, fresh, reached₀, entered, onward, length, arrived⟩ := ih hw
      rw [← continues.caller] at entered onward arrived
      exact ⟨c₀, fresh, reached₀, entered, onward.step step, length, arrived.trans continues⟩
    rcases step.enters_or_continues with ⟨caller, fresh, rfl⟩ | goesOn
    · rw [receive, List.getElem?_append] at here
      split at here
      · exact earlier here (.refl v)
      · rename_i beyond
        rw [List.getElem?_singleton] at here
        split at here <;> cases here
        exact ⟨c, fresh, reached, step, .refl, by omega, .refl _⟩
    · obtain ⟨w, hw, continues⟩ := goesOn j v here
      exact earlier hw continues

variable {view : View g.store}

/-- A caller who enters gets an outcome without an operation exactly if replays are allowed and the
outcome stands on the caller's key. -/
theorem Reaches.opening_arrival_iff (reached : Reaches g (.empty inner start) c)
    (blank : view.Blank inner) (inRange : ∀ e ∈ c.store.journal, e.InRange) {caller : Caller}
    {fresh : Token} {outcome : Outcome} :
    (c.arrival g caller fresh).opening = .ended (.ok outcome) ↔
      caller.bypass = false ∧ caller.policy.repeats = .returnCached ∧
        ∃ key w, caller.Wants g key ∧ c.Caches w key outcome := by
  refine (Guard.openFor_eq_ok_iff view).trans (and_congr_right fun _ => and_congr_right fun _ => ?_)
  constructor
  · rintro ⟨rawKey, r, hraw, seen, cached⟩
    obtain ⟨w, caches⟩ := (reached.exists_caches_iff blank inRange).2 ⟨r, seen, cached⟩
    exact ⟨_, w, ⟨rawKey, hraw, rfl⟩, caches⟩
  · rintro ⟨key, w, ⟨rawKey, hraw, rfl⟩, caches⟩
    obtain ⟨r, seen, cached⟩ := (reached.exists_caches_iff blank inRange).1 ⟨w, caches⟩
    exact ⟨rawKey, r, hraw, seen, cached⟩

/-- No outcome stands for a lease whose completion came too late, or will come too late. -/
theorem Reaches.not_caches_of_stale {c₀ : Concourse σ ε}
    (reached : Reaches g (.empty inner start) c) (law : GrantsFresh g.store)
    (onward : Reaches g c₀ c) {e : Entry} (he : e ∈ c.store.journal) {key : String}
    {owner : Token} {outcome : Outcome} {window : Span}
    (call : e.call = .complete key owner outcome window)
    (stale : e.answer = .done (.finality .stale)) {w : Visit ε} {key' : String}
    {outcome' : Outcome} (caches : c₀.Caches w key' outcome') : w.owner? ≠ some owner := by
  intro owned
  obtain ⟨lease, e₀, ends, leased, only, call₀, applied, -⟩ := caches.cached
  cases owned.symm.trans (Visit.owner?_of_lease? leased)
  have there : e₀ ∈ finals lease.owner c₀.store.journal := only ▸ List.mem_singleton_self e₀
  obtain ⟨earlier, ended⟩ := mem_finals_iff.1 there
  have mem := onward.journal_grows.subset earlier
  have linked := reached.linked law
  -- the visit has come further since, but the one call that ended its lease stays
  obtain ⟨v, hv, owned⟩ := linked.known mem ended
  obtain ⟨lease', leased', same⟩ := Visit.owner?_eq_some_iff.1 owned
  obtain ⟨i, here⟩ := List.mem_iff_getElem?.1 hv
  have account := linked.account here leased'
  rw [same] at account
  obtain ⟨alone, -⟩ := account.of_applied (mem_finals_iff.2 ⟨mem, ended⟩) call₀ applied
  have late := mem_finals_iff.2 ⟨he, by rw [call]; rfl⟩
  rw [alone, List.mem_singleton] at late
  rw [late, applied] at stale
  cases stale

/-- **Replay.** Take any calls on one store in memory, in any order of their steps, some of which
may seize their keys. A call gets an outcome without an operation of its own exactly if it did not
go past what is recorded, its policy allows replays, and the outcome stood on its key when it
entered: the operation of the last lease on the key had returned it, the completion was applied, and
its window had not ended. A completion that comes too late is never that of such a lease. So once an
outcome was cached for the last lease on a key, be it a seized one, every caller who may be answered
from the cache gets it until its window ends or the next lease is granted. -/
theorem replay_authoritative (keyPrefix : String) {start : Instant} {c : Concourse Memory.State ε}
    (reached : Reaches ⟨Memory.store, keyPrefix⟩ (.empty .empty start) c)
    (inRange : ∀ e ∈ c.store.journal, e.InRange) :
    let g : Guard Memory.State := ⟨Memory.store, keyPrefix⟩
    (∀ (j : Nat) (v : Visit ε), c.visits[j]? = some v →
      ∃ c₀ fresh, Reaches g (.empty .empty start) c₀ ∧
        Step g c₀ (c₀.receive g v.caller fresh) ∧ Reaches g (c₀.receive g v.caller fresh) c ∧
        c₀.visits.length = j ∧ c₀.clock = v.since ∧
        ∀ outcome, v.result? = some (.ok outcome) ∧ v.progress.ending? = none ↔
          v.caller.bypass = false ∧ v.caller.policy.repeats = .returnCached ∧
            ∃ key w, v.caller.Wants g key ∧ c₀.Caches w key outcome) ∧
    (∀ e ∈ c.store.journal, ∀ key owner outcome window,
      e.call = .complete key owner outcome window → e.answer = .done (.finality .stale) →
        ∀ c₀ w key' outcome', Reaches g c₀ c → c₀.Caches w key' outcome' →
          w.owner? ≠ some owner) ∧
    (∀ (w : Visit ε) (key : String) (lease : Lease) (e : Entry) (outcome : Outcome) (window : Span)
      (ends : Instant), c.LastOn w key → w.lease? = some lease → e ∈ c.store.journal →
      e.call = .complete key lease.owner outcome window →
      e.answer = .done (.finality .applied) → e.now.deadline? window = some ends →
      c.clock < ends → ∀ (caller : Caller) (fresh : Token), caller.bypass = false →
        caller.policy.repeats = .returnCached → caller.Wants g key →
          (c.receive g caller fresh).visits = c.visits ++ [c.arrival g caller fresh] ∧
            (c.arrival g caller fresh).result? = some (.ok outcome)) := by
  intro g
  have blank : Memory.view.Blank .empty := Memory.blank_empty
  refine ⟨?_, ?_, ?_⟩
  · intro j v here
    obtain ⟨c₀, fresh, reached₀, entered, onward, length, arrived⟩ := reached.exists_arrival here
    refine ⟨c₀, fresh, reached₀, entered, onward, length, arrived.since.symm, fun outcome => ?_⟩
    have earlier : c₀.store.journal <+: c.store.journal :=
      ((Reaches.step .refl entered).trans onward).journal_grows
    have idle : v.lease? = none → v.progress = .waiting := by
      intro none
      rw [Visit.lease?, arrived.opening] at none
      exact arrived.idle none
    rw [Visit.result?_eq_ok_iff idle, arrived.opening]
    exact reached₀.opening_arrival_iff blank fun e he => inRange e (earlier.subset he)
  · intro e he key owner outcome window call stale c₀ w key' outcome' onward caches
    exact reached.not_caches_of_stale Memory.view.grantsFresh onward he call stale caches
  · intro w key lease e outcome window ends last leased he call applied limit before caller fresh
      stays repeats wants
    obtain ⟨rawKey, hraw, rfl⟩ := wants
    obtain ⟨r, seen, cached⟩ :=
      reached.seen_of_complete blank inRange last leased he call applied limit before
    have opened : (c.arrival g caller fresh).opening = .ended (.ok outcome) :=
      (Guard.openFor_eq_ok_iff Memory.view).2 ⟨stays, repeats, rawKey, r, hraw, seen, cached⟩
    exact ⟨rfl, ((Visit.result?_eq_ok_iff fun _ => rfl).2 opened).1⟩

/-- A visit whose operation runs and ends, and whose work is concluded. -/
def work (g : Guard σ) (c : Concourse σ ε) (i : Nat) (v : Visit ε) (lease : Lease)
    (ending : Ending ε) : Concourse σ ε :=
  let ended := { v with progress := .ended ending }
  ((c.put i { v with progress := .working }).put i ended).conclude g i ended lease ending

theorem reaches_work {i : Nat} {v : Visit ε} {lease : Lease} (here : c.visits[i]? = some v)
    (leased : v.lease? = some lease) (waiting : v.progress = .waiting) (ending : Ending ε) :
    Reaches g c (c.work g i v lease ending) := by
  have working := getElem?_put here (w := { v with progress := .working })
  have ended := getElem?_put working (w := { v with progress := .ended ending })
  refine .step ?_ (.conclude ended leased rfl)
  refine .step ?_ (.finish (v := { v with progress := .working }) ending working leased rfl)
  exact .step .refl (.start here leased waiting)

theorem journal_work (g : Guard σ) (c : Concourse σ ε) (i : Nat) (v : Visit ε) (lease : Lease)
    (ending : Ending ε) :
    (c.work g i v lease ending).store.journal =
      c.store.journal ++ (ending.call? lease v.caller.policy.window).toList.map fun call =>
        c.store.entry g.store ⟨c.clock, call⟩ := by
  rw [work, conclude, g.state_conclude, g.journal_run_dated]
  rfl

/-- A caller for a key that others want as well. -/
def rival (bypass : Bool) : Caller := ⟨Policy.ofScope "s", .given "k", bypass⟩

/-- The guard that such callers come to. -/
def rivalGuard : Guard Memory.State := ⟨Memory.store, defaultKeyPrefix⟩

/-- The lease of such a caller. -/
def rivalLease (owner : Token) : Lease :=
  ⟨"s", rivalGuard.canonicalKey (Policy.ofScope "s") "k", owner⟩

/-- The visit of the one who claims the key. -/
def displaced : Visit Unit := (empty .empty .epoch).arrival rivalGuard (rival false) (.serial 1)

/-- One caller claims the key, then another seizes it. -/
def rivals : Concourse Memory.State Unit :=
  ((empty .empty .epoch).receive rivalGuard (rival false) (.serial 1)).receive rivalGuard
    (rival true) (.serial 2)

/-- The visit of the one who seizes the key. -/
def displacing : Visit Unit :=
  ((empty .empty .epoch).receive rivalGuard (rival false) (.serial 1)).arrival rivalGuard
    (rival true) (.serial 2)

/-- The operation of the second caller ends before that of the first. -/
def overtaken : Concourse Memory.State Unit :=
  (rivals.work rivalGuard 1 displacing (rivalLease (.serial 2)) (.returned ⟨201, .null⟩)).work
    rivalGuard 0 displaced (rivalLease (.serial 1)) (.returned ⟨200, .null⟩)

theorem reaches_overtaken : Reaches rivalGuard (.empty .empty .epoch) overtaken := by
  have entered : Reaches rivalGuard (.empty .empty .epoch) rivals :=
    .step (.step .refl (.enter (rival false) (by simp [empty])))
      (.enter (rival true) (by decide +kernel))
  have leased : displaced.lease? = some (rivalLease (.serial 1)) := by decide +kernel
  have leased' : displacing.lease? = some (rivalLease (.serial 2)) := by decide +kernel
  exact (entered.trans (reaches_work rfl leased' rfl _)).trans (reaches_work rfl leased rfl _)

/-- In `overtaken` the completion of the displaced lease comes too late, and whoever comes next gets
the outcome of the other. -/
theorem replay_authoritative_overtaken :
    let lease := rivalLease (.serial 1)
    Reaches rivalGuard (.empty .empty .epoch) overtaken ∧
      (∀ e ∈ overtaken.store.journal, e.InRange) ∧
      (∃ e ∈ overtaken.store.journal,
        e.call = .complete lease.key lease.owner ⟨200, .null⟩ (rival false).policy.window ∧
          e.answer = .done (.finality .stale)) ∧
      (overtaken.arrival rivalGuard (rival false) (.serial 3)).result? =
        some (.ok ⟨201, .null⟩) := by
  intro lease
  let window := (rival false).policy.window
  let lease' := rivalLease (.serial 2)
  let halfway := rivals.work rivalGuard 1 displacing lease' (.returned ⟨201, .null⟩)
  let first := rivals.store.entry Memory.store ⟨.epoch,
    .complete lease'.key lease'.owner ⟨201, .null⟩ window⟩
  let second := halfway.store.entry Memory.store ⟨.epoch,
    .complete lease.key lease.owner ⟨200, .null⟩ window⟩
  have journal : overtaken.store.journal = rivals.store.journal ++ [first] ++ [second] := by
    rw [overtaken, journal_work, journal_work]
    rfl
  have applied : (Memory.store.complete rivals.store.inner .epoch lease'.key lease'.owner
    ⟨201, .null⟩ window).result = .done .applied := by decide +kernel
  have stale : (Memory.store.complete halfway.store.inner .epoch lease.key lease.owner
    ⟨200, .null⟩ window).result = .done .stale := by decide +kernel
  have fits : ∀ e ∈ overtaken.store.journal, e.Fits := by decide +kernel
  have inRange : ∀ e ∈ overtaken.store.journal, e.InRange := fun e he => (fits e he).inRange
  obtain ⟨progress, progress', visits⟩ : ∃ progress progress', overtaken.visits =
    [{ displaced with progress := progress }, { displacing with progress := progress' }] :=
    ⟨_, _, rfl⟩
  have leased' : displacing.lease? = some lease' := by decide +kernel
  have last : overtaken.LastOn { displacing with progress := progress' } lease'.key :=
    ⟨⟨lease', leased', rfl⟩, [{ displaced with progress := progress }], [], visits, by simp⟩
  have limit : Instant.epoch.deadline? window = some ⟨3600, 0, by decide, by decide, by decide⟩ :=
    by decide +kernel
  have before : overtaken.clock < ⟨3600, 0, by decide, by decide, by decide⟩ := by decide +kernel
  have wants : (rival false).Wants rivalGuard lease'.key := ⟨"k", by decide +kernel, rfl⟩
  have replay := replay_authoritative defaultKeyPrefix reaches_overtaken inRange
  refine ⟨reaches_overtaken, inRange, ⟨second, by rw [journal]; simp, rfl, ?_⟩, ?_⟩
  · exact congrArg (Attempt.map Answer.finality) stale
  · refine (replay.2.2 _ lease'.key lease' first ⟨201, .null⟩ window _ last leased' ?_ rfl ?_ limit
      before (rival false) (.serial 3) rfl rfl wants).2
    · rw [journal]
      simp
    · exact congrArg (Attempt.map Answer.finality) applied

end Concourse

end Turnstile
