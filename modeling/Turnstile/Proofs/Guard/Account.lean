import Turnstile.Proofs.Guard.Concourse
import Turnstile.Proofs.Store.View

/-!
The journal of the store and the visits of a concourse tell the same story: the store granted the
leases of the visits in the order in which they were opened, and a lease was ended by the calls that
its visit has made so far, and by nobody else. Main statement: so it is in every concourse that can
be reached (`Concourse.Reaches.linked`).
-/

namespace Turnstile

open Store

variable {σ ε : Type}

/-! ## Accounts -/

/-- The calls by which a visit has ended its lease so far. -/
def Progress.calls (lease : Lease) (window : Span) : Progress ε → List Call
  | .waiting | .working | .ended _ => []
  | .concluded ending _ => (ending.call? lease window).toList
  | .resolved ending conclusion _ =>
    (ending.call? lease window).toList ++ (conclusion.call? lease).toList

/-- A conclusion follows from the ending and the answer to the call that it made. -/
def Progress.Follows (answer : Option (Attempt Answer)) : Progress ε → Prop
  | .waiting | .working | .ended _ => True
  | .concluded ending conclusion | .resolved ending conclusion _ =>
    conclusion = ending.conclusion answer

/-- What a visit did is what the entries say that end its lease. -/
structure Visit.Account (v : Visit ε) (lease : Lease) (ends : List Entry) : Prop where
  calls : ends.map (·.call) = v.progress.calls lease v.caller.policy.window
  follows : v.progress.Follows (ends.head?.map (·.answer))

/-- A journal and the visits that it tells of:

* `grants`: the leases that it grants are those of the visits, in order;
* `distinct`: no two visits have the same token;
* `backed`: a lease is ended only after it was granted;
* `account`: the visits did what the entries say. -/
structure Linked (journal : List Entry) (visits : List (Visit ε)) : Prop where
  grants : journal.filterMap Entry.grant? = visits.filterMap Visit.grant?
  distinct : ∀ {i j : Nat} {v w : Visit ε} {owner : Token}, visits[i]? = some v →
    visits[j]? = some w → v.owner? = some owner → w.owner? = some owner → i = j
  backed : Throughout (fun before e => ∀ owner, e.call.finalizes? = some owner →
    ∃ a ∈ before.filterMap Entry.grant?, a.owner = owner) journal
  account : ∀ {i : Nat} {v : Visit ε} {lease : Lease}, visits[i]? = some v →
    v.lease? = some lease → v.Account lease (finals lease.owner journal)

/-! ## Lemmas -/

theorem filterMap_set_of_eq {α β : Type} (f : α → Option β) {l : List α} {i : Nat} {a a' : α}
    (here : l[i]? = some a) (same : f a' = f a) : (l.set i a').filterMap f = l.filterMap f := by
  induction l generalizing i with
  | nil => rfl
  | cons b rest ih =>
    cases i with
    | zero =>
      cases here
      simp [List.filterMap_cons, same]
    | succ i => simp [List.filterMap_cons, ih here]

theorem map_set_of_eq {α β : Type} (f : α → β) {l : List α} {i : Nat} {a a' : α}
    (here : l[i]? = some a) (same : f a' = f a) : (l.set i a').map f = l.map f := by
  have picked := filterMap_set_of_eq (some ∘ f) here (congrArg some same)
  rwa [List.filterMap_eq_map] at picked

theorem getElem?_set_cases {α : Type} {l : List α} {i j : Nat} {a' b : α}
    (h : (l.set i a')[j]? = some b) : j = i ∧ b = a' ∨ j ≠ i ∧ l[j]? = some b := by
  by_cases same : j = i
  · subst same
    rw [List.getElem?_set_self'] at h
    cases hl : l[j]? <;> rw [hl] at h <;> cases h
    exact .inl ⟨rfl, rfl⟩
  · rw [List.getElem?_set_ne (Ne.symm same)] at h
    exact .inr ⟨same, h⟩

theorem Visit.owner?_eq_some_iff {v : Visit ε} {owner : Token} :
    v.owner? = some owner ↔ ∃ lease, v.lease? = some lease ∧ lease.owner = owner :=
  Option.map_eq_some_iff

theorem Visit.owner?_of_lease? {v : Visit ε} {lease : Lease} (h : v.lease? = some lease) :
    v.owner? = some lease.owner :=
  owner?_eq_some_iff.2 ⟨lease, h, rfl⟩

theorem Visit.grant?_of_lease? {v : Visit ε} {lease : Lease} (h : v.lease? = some lease) :
    v.grant? = some (v.caller.grant v.since lease) := by
  rw [grant?, h, Option.map_some]

theorem Ending.finalizes?_of_call? {ending : Ending ε} {lease : Lease} {window : Span} {call : Call}
    (h : ending.call? lease window = some call) : call.finalizes? = some lease.owner := by
  cases ending <;> cases h
  all_goals rfl

/-- Work that returned an outcome ends with it, unless its completion broke off. -/
theorem Ending.conclusion_returned (outcome : Outcome) {answer : Option (Attempt Answer)}
    (unbroken : answer ≠ some .overflow) :
    (Ending.returned outcome : Ending ε).conclusion answer = .outcome outcome := by
  cases answer with
  | none => rfl
  | some a =>
    cases a with
    | overflow => exact absurd rfl unbroken
    | done value => rfl
    | failed fault => rfl

theorem Conclusion.finalizes?_of_call? {conclusion : Conclusion ε} {lease : Lease} {call : Call}
    (h : conclusion.call? lease = some call) : call.finalizes? = some lease.owner := by
  cases conclusion with
  | outcome outcome => cases h
  | failed error => cases h
  | brokenOff message =>
    cases h
    rfl

namespace Linked

variable {journal : List Entry} {visits : List (Visit ε)}

/-- A lease is ended with the token of a visit only. -/
theorem known (h : Linked journal visits) {e : Entry} (he : e ∈ journal) {owner : Token}
    (ends : e.call.finalizes? = some owner) : ∃ v ∈ visits, v.owner? = some owner := by
  obtain ⟨before, after, rfl⟩ := List.append_of_mem he
  obtain ⟨a, mem, rfl⟩ := h.backed before e after rfl owner ends
  have mem' : a ∈ visits.filterMap Visit.grant? := by
    rw [← h.grants, List.filterMap_append]
    exact List.mem_append_left _ mem
  obtain ⟨v, hv, granted⟩ := List.mem_filterMap.1 mem'
  obtain ⟨lease, leased, rfl⟩ := Option.map_eq_some_iff.1 granted
  exact ⟨v, hv, Visit.owner?_of_lease? leased⟩

/-- A lease is granted to a visit only. -/
theorem eq_of_owner (h : Linked journal visits) {i : Nat} {v : Visit ε} {lease : Lease} {a : Grant}
    (here : visits[i]? = some v) (leased : v.lease? = some lease)
    (mem : a ∈ journal.filterMap Entry.grant?) (owned : a.owner = lease.owner) :
    a = v.caller.grant v.since lease := by
  rw [h.grants] at mem
  obtain ⟨w, hw, granted⟩ := List.mem_filterMap.1 mem
  obtain ⟨lease', leased', rfl⟩ := Option.map_eq_some_iff.1 granted
  obtain ⟨j, hj⟩ := List.mem_iff_getElem?.1 hw
  have owned' := Visit.owner?_of_lease? leased'
  rw [show lease'.owner = lease.owner from owned] at owned'
  cases h.distinct here hj (Visit.owner?_of_lease? leased) owned'
  cases here.symm.trans hj
  cases leased.symm.trans leased'
  rfl

/-- No token is granted twice. -/
theorem pairwise_owner (h : Linked journal visits) :
    (journal.filterMap Entry.grant?).Pairwise (·.owner ≠ ·.owner) := by
  rw [h.grants]
  refine List.pairwise_filterMap.2 (List.pairwise_iff_getElem.2 ?_)
  intro i j hi hj lt a ha b hb same
  obtain ⟨lease, leased, rfl⟩ := Option.map_eq_some_iff.1 ha
  obtain ⟨lease', leased', rfl⟩ := Option.map_eq_some_iff.1 hb
  have owned := Visit.owner?_of_lease? leased'
  rw [show lease'.owner = lease.owner from same.symm] at owned
  have equal := h.distinct (List.getElem?_eq_getElem hi) (List.getElem?_eq_getElem hj)
    (Visit.owner?_of_lease? leased) owned
  omega

theorem nil : Linked [] ([] : List (Visit ε)) where
  grants := rfl
  distinct here := by simp at here
  backed := .nil
  account here := by simp at here

/-- An entry that neither grants nor ends a lease. -/
theorem append_silent (h : Linked journal visits) {e : Entry} (ungranted : e.grant? = none)
    (unending : e.call.finalizes? = none) : Linked (journal ++ [e]) visits where
  grants := by simp [ungranted, h.grants]
  distinct := h.distinct
  backed := Throughout.append h.backed (by simp [unending])
  account {_ _ lease} here leased := by
    have none : finals lease.owner [e] = [] := finals_eq_nil (by simp [unending])
    rw [finals_append, none, List.append_nil]
    exact h.account here leased

/-- A visit that has just opened, with the entry of its claim, if it made one. -/
theorem receive (h : Linked journal visits) {v : Visit ε} {new : List Entry}
    (waiting : v.progress = .waiting)
    (granted : new.filterMap Entry.grant? = v.grant?.toList)
    (unending : ∀ e ∈ new, e.call.finalizes? = none)
    (fresh : ∀ owner, v.owner? = some owner → ∀ w ∈ visits, w.owner? ≠ some owner) :
    Linked (journal ++ new) (visits ++ [v]) where
  grants := by
    rw [List.filterMap_append, List.filterMap_append, h.grants, granted]
    cases hv : v.grant? <;> simp [hv]
  distinct := by
    intro i j v' w owner hi hj hv hw
    rw [List.getElem?_append] at hi hj
    split at hi <;> split at hj
    · exact h.distinct hi hj hv hw
    · rw [List.getElem?_singleton] at hj
      split at hj <;> cases hj
      exact absurd hv (fresh owner hw v' (List.mem_of_getElem? hi))
    · rw [List.getElem?_singleton] at hi
      split at hi <;> cases hi
      exact absurd hw (fresh owner hv w (List.mem_of_getElem? hj))
    · rw [List.getElem?_singleton] at hi hj
      split at hi <;> split at hj <;> simp_all
      omega
  backed := Throughout.append_all h.backed fun e he => by simp [unending e he]
  account := by
    intro i w lease here leased
    have none : finals lease.owner new = [] := finals_eq_nil fun e he => by simp [unending e he]
    rw [finals_append, none, List.append_nil]
    rw [List.getElem?_append] at here
    split at here
    · exact h.account here leased
    · rw [List.getElem?_singleton] at here
      split at here <;> cases here
      -- nobody can have ended a lease whose token was drawn just now
      have unended : finals lease.owner journal = [] := finals_eq_nil fun e he ends =>
        have ⟨w, hw, same⟩ := h.known he ends
        fresh lease.owner (Visit.owner?_of_lease? leased) w hw same
      rw [unended]
      exact ⟨by rw [waiting]; rfl, by rw [waiting]; trivial⟩

/-- A visit that goes on, with the entries by which it ends its lease. -/
theorem update (h : Linked journal visits) {i : Nat} {v : Visit ε} (here : visits[i]? = some v)
    (progress : Progress ε) (gone : Bool) {new : List Entry}
    (mine : ∀ e ∈ new, ∃ owner, v.owner? = some owner ∧ e.call.finalizes? = some owner)
    (account : ∀ lease, v.lease? = some lease →
      { v with progress := progress, gone := gone }.Account lease
        (finals lease.owner journal ++ new)) :
    Linked (journal ++ new) (visits.set i { v with progress := progress, gone := gone }) where
  grants := by
    have ungranted : new.filterMap Entry.grant? = [] := by
      refine List.filterMap_eq_nil_iff.2 fun e he => ?_
      obtain ⟨owner, -, ends⟩ := mine e he
      exact grant?_of_finalizes? ends
    rw [List.filterMap_append, ungranted, List.append_nil, h.grants]
    have same : Visit.grant? { v with progress := progress, gone := gone } = v.grant? := rfl
    exact (filterMap_set_of_eq Visit.grant? here same).symm
  distinct := by
    intro j k w x owner hj hk hw hx
    rcases getElem?_set_cases hj with ⟨rfl, rfl⟩ | ⟨-, hj'⟩ <;>
      rcases getElem?_set_cases hk with ⟨rfl, rfl⟩ | ⟨-, hk'⟩
    · rfl
    · exact h.distinct here hk' hw hx
    · exact h.distinct hj' here hw hx
    · exact h.distinct hj' hk' hw hx
  backed := Throughout.append_all h.backed fun e he past owner ends => by
    obtain ⟨owner', owned, ends'⟩ := mine e he
    rw [ends] at ends'
    cases ends'
    obtain ⟨lease, leased, rfl⟩ := Visit.owner?_eq_some_iff.1 owned
    refine ⟨v.caller.grant v.since lease, ?_, rfl⟩
    rw [List.filterMap_append, h.grants]
    exact List.mem_append_left _
      (List.mem_filterMap.2 ⟨v, List.mem_of_getElem? here, Visit.grant?_of_lease? leased⟩)
  account := by
    intro j w lease hj leased
    rcases getElem?_set_cases hj with ⟨rfl, rfl⟩ | ⟨hji, hj⟩
    · have all : finals lease.owner new = new := finals_eq_self fun e he => by
        obtain ⟨owner, hv, ends⟩ := mine e he
        rw [ends, ← hv]
        exact Visit.owner?_of_lease? leased
      rw [finals_append, all]
      exact account lease leased
    · -- the entries are about another token than that of this visit
      have none : finals lease.owner new = [] := finals_eq_nil fun e he ends => by
        obtain ⟨owner, hv, ends'⟩ := mine e he
        rw [ends] at ends'
        exact hji (h.distinct hj here (Visit.owner?_of_lease? leased) (ends' ▸ hv))
      rw [finals_append, none, List.append_nil]
      exact h.account hj leased

/-- A visit that goes on without a call of the store. -/
theorem goOn (h : Linked journal visits) {i : Nat} {v : Visit ε} (here : visits[i]? = some v)
    (progress : Progress ε) (gone : Bool)
    (account : ∀ lease, v.lease? = some lease →
      { v with progress := progress, gone := gone }.Account lease (finals lease.owner journal)) :
    Linked journal (visits.set i { v with progress := progress, gone := gone }) := by
  have none : ∀ e ∈ ([] : List Entry), ∃ owner, v.owner? = some owner ∧
      e.call.finalizes? = some owner := by simp
  simpa using h.update here progress gone none (by simpa using account)

end Linked

/-! ## The steps of a concourse -/

namespace Concourse

variable {g : Guard σ} {c c' : Concourse σ ε}

/-- A caller who enters claims with a token that was never granted. -/
theorem linked_receive (law : GrantsFresh g.store) (h : Linked c.store.journal c.visits)
    (caller : Caller) {fresh : Token} (new : ∀ v ∈ c.visits, v.owner? ≠ some fresh) :
    Linked (c.receive g caller fresh).store.journal (c.receive g caller fresh).visits := by
  have opened := g.openFor_take c.store caller ⟨c.clock, fresh⟩
  simp only [receive]
  cases hraw : caller.rawKey? with
  | none =>
    simp only [hraw] at opened
    rw [opened.1, ← List.append_nil c.store.journal]
    refine h.receive rfl ?_ (by simp) ?_
    · simp [Visit.grant?, Visit.lease?, opened.2]
    · intro owner owned
      simp [Visit.owner?, Visit.lease?, opened.2] at owned
  | some rawKey =>
    simp only [hraw] at opened
    obtain ⟨state, granted⟩ := opened
    rw [state, Journaled.journal_take]
    refine h.receive rfl ?_ ?_ ?_
    · rw [List.filterMap_cons, granted, Visit.grant?, Visit.lease?]
      cases (g.journaled.openFor caller c.store ⟨c.clock, fresh⟩).value.lease? <;> rfl
    · intro e he
      rw [List.mem_singleton.1 he]
      exact g.finalizes?_claimCall caller rawKey fresh
    · intro owner owned
      obtain ⟨lease, leased, rfl⟩ := Visit.owner?_eq_some_iff.1 owned
      rw [Visit.lease?] at leased
      rw [leased] at granted
      have same := law.fresh?_of_grant? granted
      rw [g.fresh?_claimCall] at same
      rw [show lease.owner = fresh from (Option.some.inj same).symm]
      exact new

theorem linked_conclude (h : Linked c.store.journal c.visits) {i : Nat} {v : Visit ε}
    {lease : Lease} {ending : Ending ε} (here : c.visits[i]? = some v)
    (leased : v.lease? = some lease) (ended : v.progress = .ended ending) :
    Linked (c.conclude g i v lease ending).store.journal
      (c.conclude g i v lease ending).visits := by
  have before := h.account here leased
  have unended : finals lease.owner c.store.journal = [] := by
    simpa [ended, Progress.calls] using before.calls
  simp only [conclude, put, g.state_conclude, g.journal_run_dated]
  refine h.update here _ v.gone ?_ ?_
  · intro e he
    obtain ⟨call, made, rfl⟩ := List.mem_map.1 he
    exact ⟨lease.owner, Visit.owner?_of_lease? leased,
      Ending.finalizes?_of_call? (Option.mem_toList.1 made)⟩
  · intro lease' leased'
    cases leased.symm.trans leased'
    rw [unended, List.nil_append]
    constructor
    · simp [Progress.calls, Journaled.entry, Function.comp_def]
    · rw [Progress.Follows, g.value_conclude]
      cases ending.call? lease v.caller.policy.window <;> rfl

theorem linked_resolve (h : Linked c.store.journal c.visits) {i : Nat} {v : Visit ε}
    {lease : Lease} {ending : Ending ε} {conclusion : Conclusion ε}
    (here : c.visits[i]? = some v) (leased : v.lease? = some lease)
    (concluded : v.progress = .concluded ending conclusion) :
    Linked (c.resolve g i v lease ending conclusion).store.journal
      (c.resolve g i v lease ending conclusion).visits := by
  have before := h.account here leased
  simp only [resolve, put, g.state_resolve, g.journal_run_dated]
  refine h.update here _ v.gone ?_ ?_
  · intro e he
    obtain ⟨call, made, rfl⟩ := List.mem_map.1 he
    exact ⟨lease.owner, Visit.owner?_of_lease? leased,
      Conclusion.finalizes?_of_call? (Option.mem_toList.1 made)⟩
  · intro lease' leased'
    cases leased.symm.trans leased'
    obtain ⟨calls, follows⟩ := before
    rw [concluded] at calls follows
    constructor
    · simp only [List.map_append, calls, Progress.calls, List.map_map]
      simp [Journaled.entry, Function.comp_def]
    · show conclusion = _
      rw [show conclusion = _ from follows]
      cases ending with
      | returned outcome =>
        -- the answer to the completion stays the first one
        have some_final : finals lease.owner c.store.journal ≠ [] := by
          intro nil
          rw [nil] at calls
          cases calls
        obtain ⟨e, rest, made⟩ := List.exists_cons_of_ne_nil some_final
        rw [made]
        rfl
      | failed error => rfl
      | panicked message => rfl

/-- A step keeps journal and visits linked. -/
theorem Step.linked (law : GrantsFresh g.store) (step : Step g c c')
    (h : Linked c.store.journal c.visits) : Linked c'.store.journal c'.visits := by
  cases step with
  | tick later => exact h
  | purge => exact h.append_silent rfl rfl
  | enter caller new => exact linked_receive law h caller new
  | start here leased waiting =>
    rename_i v lease
    have before := h.account here leased
    refine h.goOn here .working v.gone fun lease' leased' => ?_
    cases leased.symm.trans leased'
    exact ⟨by rw [before.calls, waiting]; rfl, trivial⟩
  | finish ending here leased working =>
    rename_i v lease
    have before := h.account here leased
    refine h.goOn here (.ended ending) v.gone fun lease' leased' => ?_
    cases leased.symm.trans leased'
    exact ⟨by rw [before.calls, working]; rfl, trivial⟩
  | conclude here leased ended => exact linked_conclude h here leased ended
  | resolve here leased concluded stays => exact linked_resolve h here leased concluded
  | leave here unresolved =>
    rename_i i v
    refine h.goOn here v.progress true fun lease' leased' => ?_
    have before := h.account here leased'
    exact ⟨before.calls, before.follows⟩

/-- A step is an entrance, or it opens no visit and makes no call that could grant a lease. -/
theorem Step.enters_or_quiet (step : Step g c c') :
    (∃ caller fresh, c' = c.receive g caller fresh) ∨
      (c'.visits.map Visit.entrance = c.visits.map Visit.entrance ∧ c.clock ≤ c'.clock ∧
        ∃ calls : List Timed, c'.store = c.store.run g.store calls ∧
          ∀ t ∈ calls, t.now = c.clock ∧ t.call.fresh? = none) := by
  have dated : ∀ {call : Option Call}, (∀ made ∈ call, made.fresh? = none) →
      ∀ t ∈ Guard.dated call c.clock, t.now = c.clock ∧ t.call.fresh? = none := by
    intro call ungranting t ht
    obtain ⟨made, mem, rfl⟩ := List.mem_map.1 ht
    exact ⟨rfl, ungranting made (Option.mem_toList.1 mem)⟩
  cases step with
  | tick later => exact .inr ⟨rfl, later, [], rfl, by simp⟩
  | purge => exact .inr ⟨rfl, le_refl _, [⟨c.clock, .purge⟩], rfl, by simp [Call.fresh?]⟩
  | @enter caller fresh new => exact .inl ⟨caller, fresh, rfl⟩
  | start here leased waiting =>
    exact .inr ⟨map_set_of_eq Visit.entrance here rfl, le_refl _, [], rfl, by simp⟩
  | finish ending here leased working =>
    exact .inr ⟨map_set_of_eq Visit.entrance here rfl, le_refl _, [], rfl, by simp⟩
  | conclude here leased ended =>
    exact .inr ⟨map_set_of_eq Visit.entrance here rfl, le_refl _, _, g.state_conclude _ _ _ _ _,
      dated fun _ made => fresh?_of_finalizes? (Ending.finalizes?_of_call? made)⟩
  | resolve here leased concluded stays =>
    exact .inr ⟨map_set_of_eq Visit.entrance here rfl, le_refl _, _, g.state_resolve _ _ _ _,
      dated fun _ made => fresh?_of_finalizes? (Conclusion.finalizes?_of_call? made)⟩
  | leave here unresolved =>
    exact .inr ⟨map_set_of_eq Visit.entrance here rfl, le_refl _, [], rfl, by simp⟩

/-- A caller who enters makes at most one call of the store. -/
theorem exists_run_receive (g : Guard σ) (c : Concourse σ ε) (caller : Caller) (fresh : Token) :
    ∃ calls : List Timed, (c.receive g caller fresh).store = c.store.run g.store calls ∧
      ∀ t ∈ calls, t.now = c.clock := by
  have opened := g.openFor_take c.store caller ⟨c.clock, fresh⟩
  cases hraw : caller.rawKey? with
  | none =>
    simp only [hraw] at opened
    exact ⟨[], opened.1, by simp⟩
  | some rawKey =>
    simp only [hraw] at opened
    exact ⟨[⟨c.clock, g.claimCall caller rawKey fresh⟩], opened.1, by simp⟩

/-- A step of a concourse is a run of its store, at its clock. -/
theorem Step.exists_run (step : Step g c c') :
    ∃ calls : List Timed, c'.store = c.store.run g.store calls ∧
      (∀ t ∈ calls, t.now = c.clock) ∧ c.clock ≤ c'.clock := by
  rcases step.enters_or_quiet with ⟨caller, fresh, rfl⟩ | ⟨-, le, calls, ran, quiet⟩
  · obtain ⟨calls, ran, dated⟩ := exists_run_receive g c caller fresh
    exact ⟨calls, ran, dated, le_refl _⟩
  · exact ⟨calls, ran, fun t ht => (quiet t ht).1, le⟩

/-- What happens in a concourse is a run of its store, in the order of time. -/
theorem Reaches.exists_run {start : Concourse σ ε} (reached : Reaches g start c) :
    ∃ calls : List Timed, c.store = start.store.run g.store calls ∧ Chronological calls ∧
      (∀ t ∈ calls, start.clock ≤ t.now ∧ t.now ≤ c.clock) ∧ start.clock ≤ c.clock := by
  induction reached with
  | refl => exact ⟨[], rfl, List.Pairwise.nil, by simp, le_refl _⟩
  | @step c c' _ step ih =>
    obtain ⟨calls, ran, chronological, between, le⟩ := ih
    obtain ⟨more, ran', dated, le'⟩ := step.exists_run
    refine ⟨calls ++ more, ?_, ?_, ?_, le_trans le le'⟩
    · rw [ran', ran, Journaled.run_append]
    · refine List.pairwise_append.2 ⟨chronological, ?_, ?_⟩
      · exact List.pairwise_of_forall_mem_list fun t ht u hu => by rw [dated t ht, dated u hu]
      · intro t ht u hu
        rw [dated u hu]
        exact (between t ht).2
    · intro t ht
      rcases List.mem_append.1 ht with ht | ht
      · exact ⟨(between t ht).1, le_trans (between t ht).2 le'⟩
      · rw [dated t ht]
        exact ⟨le, le'⟩

/-- **Linking.** In every concourse that can be reached the journal and the visits tell the same. -/
theorem Reaches.linked (law : GrantsFresh g.store) {inner : σ} {clock : Instant}
    (reached : Reaches g (.empty inner clock) c) : Linked c.store.journal c.visits := by
  induction reached with
  | refl => exact Linked.nil
  | step _ step ih => exact step.linked law ih

/-! ## What the journal tells -/

variable {inner : σ} {start : Instant}

/-- The calls that the store took are those of its journal. -/
theorem Reaches.exists_calls (reached : Reaches g (.empty inner start) c) :
    c.store = (Journaled.of inner).run g.store (c.store.journal.map Entry.toTimed) ∧
      Chronological (c.store.journal.map Entry.toTimed) ∧
      ∀ e ∈ c.store.journal, e.now ≤ c.clock := by
  obtain ⟨calls, ran, chronological, between, -⟩ := reached.exists_run
  obtain ⟨new, added, same⟩ := Journaled.exists_journal_run g.store (.of inner) calls
  have journal : c.store.journal = new := by
    rw [ran]
    exact added
  rw [journal, same]
  refine ⟨ran, chronological, fun e he => ?_⟩
  exact (between e.toTimed (same ▸ List.mem_map_of_mem he)).2

/-- A journal only grows. -/
theorem Reaches.journal_grows {c₀ : Concourse σ ε} (reached : Reaches g c₀ c) :
    c₀.store.journal <+: c.store.journal := by
  obtain ⟨calls, ran, -⟩ := reached.exists_run
  obtain ⟨added, journal, -⟩ := Journaled.exists_journal_run g.store c₀.store calls
  exact ⟨added, by rw [ran, journal]⟩

variable {view : View g.store}

theorem Reaches.faithful (reached : Reaches g (.empty inner start) c) (blank : view.Blank inner)
    (inRange : ∀ e ∈ c.store.journal, e.InRange) : view.Faithful c.store c.clock := by
  obtain ⟨ran, chronological, before⟩ := reached.exists_calls
  rw [ran]
  refine View.faithful_run_of_blank blank chronological ?_ ?_
  · intro t ht
    obtain ⟨e, he, rfl⟩ := List.mem_map.1 ht
    exact inRange e he
  · intro t ht
    obtain ⟨e, he, rfl⟩ := List.mem_map.1 ht
    exact before e he

end Concourse

end Turnstile
