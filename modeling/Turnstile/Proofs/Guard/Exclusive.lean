import Turnstile.Proofs.Guard.Account
import Turnstile.Proofs.Memory.Sight
import Turnstile.Proofs.Store.Tenure

/-!
Exclusion: two calls of the same key do not both hold a lease in force. Main statement: in a
concourse over the store in memory a lease gives way to the next one on its key only after its
operation failed and its key was released, or after its window or that of its outcome had ended;
so operations of one key overlap only after the window of the earlier lease had ended, and of the
calls that race for a free key exactly one gets a lease (`Concourse.lease_exclusive`).
-/

namespace Turnstile

open Store

variable {σ ε : Type}

/-! ## Lists -/

theorem exists_split_of_lt {α : Type} {l : List α} {i j : Nat} {a b : α} (lt : i < j)
    (ha : l[i]? = some a) (hb : l[j]? = some b) :
    ∃ xs ys zs, l = xs ++ [a] ++ ys ++ [b] ++ zs := by
  induction l generalizing i j with
  | nil => simp at ha
  | cons x rest ih =>
    obtain ⟨j, rfl⟩ : ∃ k, j = k + 1 := ⟨j - 1, by omega⟩
    cases i with
    | zero =>
      cases ha
      obtain ⟨ys, zs, rfl⟩ := List.append_of_mem (List.mem_of_getElem? (i := j) hb)
      exact ⟨[], ys, zs, by simp⟩
    | succ i =>
      obtain ⟨xs, ys, zs, rfl⟩ := ih (Nat.lt_of_succ_lt_succ lt) ha hb
      exact ⟨x :: xs, ys, zs, by simp⟩

/-- What is picked from a list in order stands in the list in order. -/
theorem exists_split_of_filterMap {α γ : Type} {f : α → Option γ} {l : List α} {as bs cs : List γ}
    {a b : γ} (h : l.filterMap f = as ++ [a] ++ bs ++ [b] ++ cs) :
    ∃ xs x ys y zs, l = xs ++ [x] ++ ys ++ [y] ++ zs ∧ f x = some a ∧ f y = some b := by
  simp only [List.append_assoc, List.singleton_append] at h
  obtain ⟨xs, l', rfl, -, h⟩ := List.filterMap_eq_append_iff.1 h
  obtain ⟨xs', x, l'', rfl, -, hx, h⟩ := List.filterMap_eq_cons_iff.1 h
  obtain ⟨ys, l''', rfl, -, h⟩ := List.filterMap_eq_append_iff.1 h
  obtain ⟨ys', y, zs, rfl, -, hy, -⟩ := List.filterMap_eq_cons_iff.1 h
  exact ⟨xs ++ xs', x, ys ++ ys', y, zs, by simp, hx, hy⟩

/-! ## Giving way -/

/-- An operation that failed or broke off. -/
def Ending.IsFailure : Ending ε → Prop
  | .returned _ => False
  | .failed _ | .panicked _ => True

/-- How the lease of a visit gave way by a given time, told from the journal up to that time and
from the whole journal: its operation failed and its key was released; it was never completed and
its window had ended; its outcome was cached and the window of the outcome had ended. -/
inductive Visit.GaveWay (v : Visit ε) (a : Grant) (before journal : List Entry) (now : Instant) :
    Prop
  | released {ending : Ending ε} (ended : v.progress.ending? = some ending)
      (failed : ending.IsFailure) {e : Entry} (there : e ∈ before) (released : e.Releases a)
  | lapsed (incomplete : ∀ e ∈ journal, ∀ window, ¬e.Completes a window) {ends : Instant}
      (limit : v.since.add? v.caller.policy.timeout = some ends) (expired : ends ≤ now)
  | outlived {e : Entry} (there : e ∈ before) (completed : e.Completes a v.caller.policy.window)
      {ends : Instant} (limit : e.now.add? v.caller.policy.window = some ends)
      (expired : ends ≤ now)

/-- A caller whose key is a given one. -/
def Caller.Wants (caller : Caller) (g : Guard σ) (key : String) : Prop :=
  ∃ rawKey, caller.rawKey? = some rawKey ∧ g.canonicalKey caller.policy rawKey = key

/-- A visit that got a lease on a given key. -/
def Visit.Holds (v : Visit ε) (key : String) : Prop :=
  ∃ lease, v.lease? = some lease ∧ lease.key = key

namespace Visit.Account

variable {v : Visit ε} {lease : Lease} {journal : List Entry} {e : Entry}

/-- A lease is ended only by the calls that its visit makes. -/
theorem call_mem (h : v.Account lease (finals lease.owner journal)) (he : e ∈ journal)
    (ends : e.call.finalizes? = some lease.owner) :
    e.call ∈ v.progress.calls lease v.caller.policy.window := by
  rw [← h.calls]
  exact List.mem_map_of_mem (mem_finals_iff.2 ⟨he, ends⟩)

/-- An outcome is cached for the window of the visit. -/
theorem window_of_completes (h : v.Account lease (finals lease.owner journal)) (he : e ∈ journal)
    {window : Span} (completes : e.Completes (v.caller.grant v.since lease) window) :
    window = v.caller.policy.window ∧ ∃ ending, v.progress.ending? = some ending := by
  obtain ⟨⟨outcome, call⟩, -⟩ := completes
  have mem := h.call_mem he (by rw [call]; rfl)
  rw [call] at mem
  cases progress : v.progress with
  | waiting => simp [progress, Progress.calls] at mem
  | working => simp [progress, Progress.calls] at mem
  | ended ending => simp [progress, Progress.calls] at mem
  | concluded ending conclusion =>
    cases ending <;> simp_all [Progress.calls, Ending.call?, Progress.ending?]
  | resolved ending conclusion result =>
    cases ending <;> cases conclusion <;>
      simp_all [Progress.calls, Ending.call?, Conclusion.call?, Progress.ending?]

/-- As long as the store breaks off no completion, a lease is released only when its operation
failed. -/
theorem failed_of_releases (h : v.Account lease (finals lease.owner journal)) (he : e ∈ journal)
    (releases : e.Releases (v.caller.grant v.since lease))
    (unbroken : ∀ e ∈ finals lease.owner journal, e.answer ≠ .overflow) :
    ∃ ending, v.progress.ending? = some ending ∧ ending.IsFailure := by
  obtain ⟨call, -⟩ := releases
  have mem := h.call_mem he (by rw [call]; rfl)
  rw [call] at mem
  cases progress : v.progress with
  | waiting => simp [progress, Progress.calls] at mem
  | working => simp [progress, Progress.calls] at mem
  | ended ending => simp [progress, Progress.calls] at mem
  | concluded ending conclusion =>
    cases ending with
    | returned outcome => simp [progress, Progress.calls, Ending.call?] at mem
    | failed error => exact ⟨_, rfl, trivial⟩
    | panicked message => exact ⟨_, rfl, trivial⟩
  | resolved ending conclusion result =>
    cases ending with
    | returned outcome =>
      have outcome_of_unbroken : conclusion = .outcome outcome := by
        have follows := h.follows
        rw [progress] at follows
        rw [show conclusion = _ from follows]
        refine Ending.conclusion_returned outcome fun broken => ?_
        obtain ⟨e', first, broke⟩ := Option.map_eq_some_iff.1 broken
        exact unbroken e' (List.mem_of_mem_head? first) broke
      simp [progress, outcome_of_unbroken, Progress.calls, Ending.call?, Conclusion.call?] at mem
    | failed error => exact ⟨_, rfl, trivial⟩
    | panicked message => exact ⟨_, rfl, trivial⟩

end Visit.Account

namespace Concourse

variable {g : Guard σ} {c : Concourse σ ε} {inner : σ} {start : Instant}

variable {view : View g.store}

theorem Reaches.regular (reached : Reaches g (.empty inner start) c) (blank : view.Blank inner)
    (fits : ∀ e ∈ c.store.journal, e.Fits) {key : String}
    (unseized : ∀ v ∈ c.visits, ∀ lease, v.lease? = some lease → lease.key = key →
      v.caller.bypass = false) : Regular key c.store.journal := by
  have linked := reached.linked view.grantsFresh
  obtain ⟨-, chronological, -⟩ := reached.exists_calls
  rw [Chronological, List.pairwise_map] at chronological
  refine ⟨(reached.faithful blank fun e he => (fits e he).inRange).answered, chronological, fits,
    ?_, ?_⟩
  · exact linked.pairwise_owner
  · intro e he a granted here
    have mem : a ∈ c.store.journal.filterMap Entry.grant? := List.mem_filterMap.2 ⟨e, he, granted⟩
    rw [linked.grants] at mem
    obtain ⟨v, hv, granted'⟩ := List.mem_filterMap.1 mem
    obtain ⟨lease, leased, rfl⟩ := Option.map_eq_some_iff.1 granted'
    exact unseized v hv lease leased here

/-- A store that answers from what is seen breaks off no completion whose window is in range. -/
theorem unbroken_of_regular {key : String} {journal : List Entry} (regular : Regular key journal)
    {owner : Token} : ∀ e ∈ finals owner journal, e.answer ≠ .overflow := by
  intro e he broken
  obtain ⟨mem, ends⟩ := List.mem_filter.1 he
  obtain ⟨before, after, rfl⟩ := List.append_of_mem mem
  have inRange := (regular.fits e (by simp)).inRange
  have answer := regular.answered before e after rfl
  obtain ⟨⟨now, call⟩, answer'⟩ := e
  cases broken
  cases call with
  | complete key owner outcome window =>
    have answer := answer (by simp)
    rw [Sight.snd_next_complete _ key owner outcome (inRange window rfl)] at answer
    cases answer
  | release key owner =>
    have answer := answer (by simp)
    rw [Sight.snd_next_release] at answer
    cases answer
  | claim key lease fresh => simp [Call.finalizes?] at ends
  | seize key lease fresh => simp [Call.finalizes?] at ends
  | read key => simp [Call.finalizes?] at ends
  | purge => simp [Call.finalizes?] at ends

/-- Of two leases on one key the earlier gave way before the later was granted. -/
theorem Reaches.gaveWay (reached : Reaches g (.empty inner start) c) (blank : view.Blank inner)
    (fits : ∀ e ∈ c.store.journal, e.Fits) {key : String}
    (unseized : ∀ v ∈ c.visits, ∀ lease, v.lease? = some lease → lease.key = key →
      v.caller.bypass = false)
    {i j : Nat} {v w : Visit ε} {a b : Grant} (lt : i < j) (hv : c.visits[i]? = some v)
    (hw : c.visits[j]? = some w) (granted : v.grant? = some a) (granted' : w.grant? = some b)
    (here : a.key = key) (here' : b.key = key) :
    ∃ before claimed after, c.store.journal = before ++ [claimed] ++ after ∧
      claimed.grant? = some b ∧ (∃ e ∈ before, e.grant? = some a) ∧
      v.GaveWay a before c.store.journal w.since := by
  have regular := reached.regular blank fits unseized
  have linked := reached.linked view.grantsFresh
  obtain ⟨lease, leased, rfl⟩ := Option.map_eq_some_iff.1 granted
  obtain ⟨lease', leased', rfl⟩ := Option.map_eq_some_iff.1 granted'
  have account := linked.account hv leased
  obtain ⟨xs, ys, zs, visits⟩ := exists_split_of_lt lt hv hw
  have grants := linked.grants
  simp only [visits, List.filterMap_append, List.filterMap_cons, granted, granted',
    List.filterMap_nil] at grants
  obtain ⟨before, eA, between, eB, after, journal, hA, hB⟩ := exists_split_of_filterMap grants
  rw [journal] at regular account ⊢
  subst here
  obtain ⟨ends, fate, told, told', ended⟩ := regular.gaveWay hA hB here'
  rw [now_of_grant? hB] at ended
  refine ⟨before ++ [eA] ++ between, eB, after, rfl, hB, ⟨eA, by simp, hA⟩, ?_⟩
  -- what is told of the earlier lease is told by an entry before the later grant
  have earlier : ∀ e ∈ before ++ [eA] ++ between ++ [eB], e.grant? = none →
      e ∈ before ++ [eA] ++ between := by
    intro e he ungranted
    rcases List.mem_append.1 he with he | he
    · exact he
    · rw [List.mem_singleton.1 he, hB] at ungranted
      cases ungranted
  cases fate with
  | held =>
    rcases ended with settled | expired
    · cases settled
    · exact .lapsed told'.1 told.2 expired
  | settled outcome =>
    obtain ⟨e, he, window, completes, limit⟩ := told
    obtain ⟨rfl, -⟩ := account.window_of_completes (List.mem_append_left _ he) completes
    rcases ended with settled | expired
    · cases settled
    · exact .outlived (earlier e he completes.grant?) completes limit expired
  | freed =>
    obtain ⟨e, he, releases⟩ := told
    obtain ⟨ending, ended, failed⟩ := account.failed_of_releases (List.mem_append_left _ he)
      releases (unbroken_of_regular regular)
    exact .released ended failed (earlier e he releases.grant?) releases

/-- As long as an operation runs, a later lease on its key was granted only after its window had
ended. -/
theorem Reaches.lapsed (reached : Reaches g (.empty inner start) c) (blank : view.Blank inner)
    (fits : ∀ e ∈ c.store.journal, e.Fits) {key : String}
    (unseized : ∀ v ∈ c.visits, ∀ lease, v.lease? = some lease → lease.key = key →
      v.caller.bypass = false)
    {i j : Nat} {v w : Visit ε} (lt : i < j) (hv : c.visits[i]? = some v)
    (hw : c.visits[j]? = some w) (holds : v.Holds key) (holds' : w.Holds key)
    (runs : v.progress.ending? = none) :
    ∃ ends, v.since.add? v.caller.policy.timeout = some ends ∧ ends ≤ w.since := by
  obtain ⟨lease, leased, here⟩ := holds
  obtain ⟨lease', leased', here'⟩ := holds'
  obtain ⟨before, claimed, after, journal, -, -, gaveWay⟩ :=
    reached.gaveWay blank fits unseized lt hv hw (Visit.grant?_of_lease? leased)
      (Visit.grant?_of_lease? leased') here here'
  cases gaveWay with
  | released ended failed there released =>
    rw [runs] at ended
    cases ended
  | lapsed incomplete limit expired => exact ⟨_, limit, expired⟩
  | outlived there completed limit expired =>
    have account := (reached.linked view.grantsFresh).account hv leased
    have mem := List.mem_append_left after (List.mem_append_left [claimed] there)
    obtain ⟨-, ending, ended⟩ := account.window_of_completes (journal ▸ mem) completed
    rw [runs] at ended
    cases ended

/-! ## Races -/

/-- Calls that grant nothing leave a key unseen. -/
theorem unseen_run {s : Journaled σ} {now : Instant} {key : String} {calls : List Timed}
    (unseen : view.sight s.inner now key = none)
    (quiet : ∀ t ∈ calls, t.now = now ∧ t.call.fresh? = none) :
    view.sight (s.run g.store calls).inner now key = none := by
  induction calls generalizing s with
  | nil => exact unseen
  | cons t rest ih =>
    obtain ⟨rfl, ungranting⟩ := quiet t List.mem_cons_self
    rw [Journaled.run_cons]
    refine ih ?_ fun u hu => quiet u (List.mem_cons_of_mem _ hu)
    rw [view.sight_take, Sight.later, Sight.next_fst_of_none unseen ungranting]
    rfl

/-- A caller whose key is not seen gets a lease. -/
theorem holds_receive {caller : Caller} {fresh : Token} {key : String}
    (unseen : view.sight c.store.inner c.clock key = none) (wants : caller.Wants g key)
    (inRange : ∀ e ∈ (c.receive g caller fresh).store.journal, e.InRange) :
    ∃ lease, (g.journaled.openFor caller c.store ⟨c.clock, fresh⟩).value.lease? = some lease ∧
      lease.key = key := by
  obtain ⟨rawKey, hraw, rfl⟩ := wants
  have opened := g.openFor_take c.store caller ⟨c.clock, fresh⟩
  simp only [hraw] at opened
  obtain ⟨state, granted⟩ := opened
  let t : Timed := ⟨c.clock, g.claimCall caller rawKey fresh⟩
  have window : caller.policy.timeout ∈ t.call.window? := by
    cases bypass : caller.bypass <;> simp [t, Guard.claimCall, bypass, Call.window?]
  have mem : c.store.entry g.store t ∈ (c.receive g caller fresh).store.journal := by
    rw [receive, state, Journaled.journal_take]
    simp [t]
  obtain ⟨ends, hends⟩ := (inRange _ mem _ window).exists_deadline?
  have hends : c.clock.deadline? caller.policy.timeout = some ends := hends
  have answer : (c.store.entry g.store t).answer = ((view.sight c.store.inner c.clock).next t).2 :=
    view.result_perform c.store.inner t (by
      cases bypass : caller.bypass <;> simp [t, Guard.claimCall, bypass])
  have some_granted : ((c.store.entry g.store t).grant?).isSome := by
    rw [Entry.grant?, answer]
    cases bypass : caller.bypass <;>
      simp [t, Journaled.entry, Guard.claimCall, bypass, Sight.next, Sight.grant, unseen,
        Record.pending?, hends]
  rw [granted, Option.isSome_map, Option.isSome_iff_exists] at some_granted
  obtain ⟨lease, leased⟩ := some_granted
  refine ⟨lease, leased, ?_⟩
  rw [leased, Option.map_some] at granted
  have same : (g.claimCall caller rawKey fresh).key? = some lease.key := key?_of_grant? granted
  rw [g.key?_claimCall] at same
  exact (Option.some.inj same).symm

/-- A caller who wants another key leaves a key unseen. -/
theorem unseen_receive {caller : Caller} {fresh : Token} {key : String}
    (unseen : view.sight c.store.inner c.clock key = none) (other : ¬caller.Wants g key) :
    view.sight (c.receive g caller fresh).store.inner c.clock key = none := by
  have opened := g.openFor_take c.store caller ⟨c.clock, fresh⟩
  rw [receive]
  cases hraw : caller.rawKey? with
  | none =>
    simp only [hraw] at opened
    rw [opened.1]
    exact unseen
  | some rawKey =>
    simp only [hraw] at opened
    have elsewhere : (g.claimCall caller rawKey fresh).key? ≠ some key := by
      intro same
      rw [g.key?_claimCall] at same
      exact other ⟨rawKey, hraw, Option.some.inj same⟩
    rw [opened.1, view.sight_take ⟨_, _⟩ ⟨c.clock, g.claimCall caller rawKey fresh⟩, Sight.later,
      Sight.next_fst_of_ne _ _ elsewhere, unseen]
    rfl

/-- From a time on at which a key was not seen, either a caller got a lease on it, or nobody has
wanted it and it is still not seen. -/
theorem Reaches.exists_holds {c₀ : Concourse σ ε} (reached : Reaches g c₀ c) {key : String}
    (unseen : view.sight c₀.store.inner c₀.clock key = none)
    (inRange : ∀ e ∈ c.store.journal, e.InRange) :
    ∃ new, c.visits.map Visit.entrance = c₀.visits.map Visit.entrance ++ new ∧
      ((∃ x ∈ new, ∃ lease, x.2 = some lease ∧ lease.key = key) ∨
        view.sight c.store.inner c.clock key = none ∧ ∀ x ∈ new, ¬x.1.Wants g key) := by
  induction reached with
  | refl => exact ⟨[], by simp, .inr ⟨unseen, by simp⟩⟩
  | @step c c' reached step ih =>
    have earlier : ∀ e ∈ c.store.journal, e.InRange :=
      fun e he => inRange e ((Reaches.step .refl step).journal_grows.subset he)
    obtain ⟨new, visits, race⟩ := ih earlier
    rcases step.enters_or_quiet with ⟨caller, fresh, rfl⟩ | ⟨same, le, calls, ran, quiet⟩
    · let lease? := (g.journaled.openFor caller c.store ⟨c.clock, fresh⟩).value.lease?
      refine ⟨new ++ [(caller, lease?)], ?_, ?_⟩
      · rw [receive, List.map_append, visits, List.append_assoc]
        rfl
      · rcases race with ⟨x, mem, held⟩ | ⟨unseen, nobody⟩
        · exact .inl ⟨x, List.mem_append_left _ mem, held⟩
        · by_cases wants : caller.Wants g key
          · obtain ⟨lease, leased, here⟩ := holds_receive unseen wants inRange
            exact .inl ⟨(caller, lease?), by simp, lease, leased, here⟩
          · refine .inr ⟨unseen_receive unseen wants, fun x mem => ?_⟩
            rcases List.mem_append.1 mem with mem | mem
            · exact nobody x mem
            · rw [List.mem_singleton.1 mem]
              exact wants
    · refine ⟨new, by rw [same, visits], ?_⟩
      rcases race with held | ⟨unseen, nobody⟩
      · exact .inl held
      · refine .inr ⟨?_, nobody⟩
        rw [view.sight_of_le _ le, Sight.later, ran, unseen_run unseen quiet]
        rfl

/-- A lease was granted at or before the present time. -/
theorem Reaches.since_le (reached : Reaches g (.empty inner start) c) (law : GrantsFresh g.store)
    {i : Nat} {v : Visit ε} {lease : Lease} (hv : c.visits[i]? = some v)
    (leased : v.lease? = some lease) : v.since ≤ c.clock := by
  have mem : v.caller.grant v.since lease ∈ c.visits.filterMap Visit.grant? :=
    List.mem_filterMap.2 ⟨v, List.mem_of_getElem? hv, Visit.grant?_of_lease? leased⟩
  rw [← (reached.linked law).grants] at mem
  obtain ⟨e, he, granted⟩ := List.mem_filterMap.1 mem
  obtain ⟨-, -, before⟩ := reached.exists_calls
  have le := before e he
  rw [now_of_grant? granted] at le
  exact le

/-- Of the callers that race for a free key exactly one gets a lease, as long as no lease that was
granted on it in the race has ended. -/
theorem Reaches.existsUnique_holds {c₀ : Concourse σ ε}
    (reached₀ : Reaches g (.empty inner start) c₀) (reached : Reaches g c₀ c)
    (blank : view.Blank inner) (fits : ∀ e ∈ c.store.journal, e.Fits) {key : String}
    (unseized : ∀ v ∈ c.visits, ∀ lease, v.lease? = some lease → lease.key = key →
      v.caller.bypass = false)
    (unseen : view.sight c₀.store.inner c₀.clock key = none)
    (inForce : ∀ i v, c₀.visits.length ≤ i → c.visits[i]? = some v → v.Holds key →
      v.progress.ending? = none ∧
        ∃ ends, v.since.add? v.caller.policy.timeout = some ends ∧ c.clock < ends)
    (wanted : ∃ i v, c₀.visits.length ≤ i ∧ c.visits[i]? = some v ∧ v.caller.Wants g key) :
    ∃! i, c₀.visits.length ≤ i ∧ ∃ v, c.visits[i]? = some v ∧ v.Holds key := by
  have all := reached₀.trans reached
  obtain ⟨new, visits, race⟩ := reached.exists_holds unseen fun e he => (fits e he).inRange
  -- an earlier holder would have to have lapsed before the later one came
  have alone : ∀ i j v w, i < j → c₀.visits.length ≤ i → c.visits[i]? = some v →
      c.visits[j]? = some w → v.Holds key → w.Holds key → False := by
    intro i j v w lt le hv hw holds holds'
    obtain ⟨runs, ends, limit, lives⟩ := inForce i v le hv holds
    obtain ⟨ends', limit', expired⟩ := all.lapsed blank fits unseized lt hv hw holds holds' runs
    obtain ⟨lease', leased', -⟩ := holds'
    have since := all.since_le view.grantsFresh hw leased'
    rw [limit] at limit'
    cases limit'
    exact absurd lives (not_lt.2 (le_trans expired since))
  have shifted : ∀ k, (c.visits.map Visit.entrance)[c₀.visits.length + k]? = new[k]? := by
    intro k
    rw [visits, List.getElem?_append_right (by simp), List.length_map, Nat.add_sub_cancel_left]
  have someone : ∃ i, c₀.visits.length ≤ i ∧ ∃ v, c.visits[i]? = some v ∧ v.Holds key := by
    rcases race with ⟨x, mem, lease, leased, here⟩ | ⟨-, nobody⟩
    · obtain ⟨k, hk⟩ := List.mem_iff_getElem?.1 mem
      rw [← shifted, List.getElem?_map, Option.map_eq_some_iff] at hk
      obtain ⟨v, hv, rfl⟩ := hk
      exact ⟨_, Nat.le_add_right _ k, v, hv, lease, leased, here⟩
    · obtain ⟨i, v, le, hv, wants⟩ := wanted
      obtain ⟨k, rfl⟩ := Nat.exists_eq_add_of_le le
      have mem := List.mem_of_getElem? (l := new) (i := k) (a := v.entrance) (by
        rw [← shifted, List.getElem?_map, hv, Option.map_some])
      exact absurd wants (nobody _ mem)
  obtain ⟨i, le, v, hv, holds⟩ := someone
  refine ⟨i, ⟨le, v, hv, holds⟩, ?_⟩
  rintro j ⟨le', w, hw, holds'⟩
  rcases Nat.lt_trichotomy i j with lt | rfl | lt
  · exact (alone i j v w lt le hv hw holds holds').elim
  · rfl
  · exact (alone j i w v lt le' hw hv holds' holds).elim

/-- **Exclusion.** Take any calls on one store in memory, in any order of their steps, none of which
seizes the key. Of two leases on the key the earlier gave way before the later was granted; as long
as the operation of the earlier runs, its window had ended before; and of the callers that race for
the key while it is free exactly one gets a lease, as long as no lease granted in the race has
ended. -/
theorem lease_exclusive (keyPrefix : String) {start : Instant} {c : Concourse Memory.State ε}
    (reached : Reaches ⟨Memory.store, keyPrefix⟩ (.empty .empty start) c)
    (fits : ∀ e ∈ c.store.journal, e.Fits) (key : String)
    (unseized : ∀ v ∈ c.visits, ∀ lease, v.lease? = some lease → lease.key = key →
      v.caller.bypass = false) :
    (∀ (i j : Nat) (v w : Visit ε) (a b : Grant), i < j → c.visits[i]? = some v →
      c.visits[j]? = some w → v.grant? = some a → w.grant? = some b → a.key = key → b.key = key →
      ∃ before claimed after, c.store.journal = before ++ [claimed] ++ after ∧
        claimed.grant? = some b ∧ (∃ e ∈ before, e.grant? = some a) ∧
        v.GaveWay a before c.store.journal w.since) ∧
    (∀ (i j : Nat) (v w : Visit ε), i < j → c.visits[i]? = some v → c.visits[j]? = some w →
      v.Holds key → w.Holds key → v.progress.ending? = none →
      ∃ ends, v.since.add? v.caller.policy.timeout = some ends ∧ ends ≤ w.since) ∧
    (∀ c₀ : Concourse Memory.State ε,
      Reaches ⟨Memory.store, keyPrefix⟩ (.empty .empty start) c₀ →
      Reaches ⟨Memory.store, keyPrefix⟩ c₀ c →
      Memory.live? c₀.store.inner c₀.clock key = none →
      (∀ (i : Nat) (v : Visit ε), c₀.visits.length ≤ i → c.visits[i]? = some v → v.Holds key →
        v.progress.ending? = none ∧
          ∃ ends, v.since.add? v.caller.policy.timeout = some ends ∧ c.clock < ends) →
      (∃ i v, c₀.visits.length ≤ i ∧ c.visits[i]? = some v ∧
        v.caller.Wants ⟨Memory.store, keyPrefix⟩ key) →
      ∃! i, c₀.visits.length ≤ i ∧ ∃ v, c.visits[i]? = some v ∧ v.Holds key) := by
  refine ⟨?_, ?_, ?_⟩
  · intro i j v w a b lt hv hw granted granted' here here'
    exact reached.gaveWay Memory.blank_empty fits unseized lt hv hw granted
      granted' here here'
  · intro i j v w lt hv hw holds holds' runs
    exact reached.lapsed Memory.blank_empty fits unseized lt hv hw holds
      holds' runs
  · intro c₀ reached₀ onward unseen inForce wanted
    exact reached₀.existsUnique_holds onward Memory.blank_empty fits unseized
      unseen inForce wanted

/-- A caller whose lease has no length. -/
def hurry : Caller := ⟨⟨"s", ⟨0⟩, ⟨1⟩, .returnCached⟩, .given "k", false⟩

/-- Two callers in a hurry, one after the other at the same time. -/
def hurried : Concourse Memory.State Unit :=
  let g : Guard Memory.State := ⟨Memory.store, "idem"⟩
  ((empty .empty .epoch).receive g hurry (.serial 1)).receive g hurry (.serial 2)

/-- Both callers of `hurried` get a lease on their key; the first had ended when the second was
granted. -/
theorem lease_exclusive_hurried :
    let g : Guard Memory.State := ⟨Memory.store, "idem"⟩
    let key := g.canonicalKey hurry.policy "k"
    Reaches g (.empty .empty .epoch) hurried ∧ (∀ e ∈ hurried.store.journal, e.Fits) ∧
      (∀ v ∈ hurried.visits, v.caller.bypass = false) ∧
      ∃ v w, hurried.visits = [v, w] ∧ v.Holds key ∧ w.Holds key ∧
        ∃ ends, v.since.add? v.caller.policy.timeout = some ends ∧ ends ≤ w.since := by
  intro g key
  have reached : Reaches g (.empty .empty .epoch) hurried :=
    .step (.step .refl (.enter hurry (by simp [empty]))) (.enter hurry (by decide +kernel))
  have fits : ∀ e ∈ hurried.store.journal, e.Fits := by decide +kernel
  have unseized : ∀ v ∈ hurried.visits, v.caller.bypass = false := by decide +kernel
  have leases : hurried.visits.map (·.lease?) =
      [some ⟨"s", key, .serial 1⟩, some ⟨"s", key, .serial 2⟩] := by decide +kernel
  have idle : ∀ v ∈ hurried.visits, v.progress.ending?.isNone := by decide +kernel
  obtain ⟨v, rest, visits, hv, hrest⟩ := List.map_eq_cons_iff.1 leases
  obtain ⟨w, none, rfl, hw, hnone⟩ := List.map_eq_cons_iff.1 hrest
  rw [List.map_eq_nil_iff] at hnone
  subst hnone
  have holds : v.Holds key := ⟨_, hv, rfl⟩
  have holds' : w.Holds key := ⟨_, hw, rfl⟩
  have exclusive := lease_exclusive "idem" reached fits key fun v hv _ _ _ => unseized v hv
  refine ⟨reached, fits, unseized, v, w, visits, holds, holds', ?_⟩
  exact exclusive.2.1 0 1 v w Nat.one_pos (by rw [visits]; rfl) (by rw [visits]; rfl) holds holds'
    (Option.isNone_iff_eq_none.1 (idle v (by rw [visits]; simp)))

end Concourse

end Turnstile
