import Turnstile.Proofs.Guard.Account
import Turnstile.Proofs.Guard.Acts
import Turnstile.Proofs.Memory.Sight
import Turnstile.Proofs.Store.Remains

/-!
The end of a lease. Once its operation has ended a visit comes to rest, whether its caller stays or
leaves. Main statement: at rest the lease was ended by the one call that was due, except in two
cases: the caller left and the operation broke off, where no call is made and the key stays taken;
and the caller stayed and the completion itself broke off, where a second call is made
(`Concourse.finalized_iff`).
-/

namespace Turnstile

open Store

variable {σ ε : Type}

/-- The call that is due under a lease once its operation has ended. -/
def Ending.due (lease : Lease) (window : Span) : Ending ε → Call
  | .returned outcome => .complete lease.key lease.owner outcome window
  | .failed _ | .panicked _ => .release lease.key lease.owner

/-- An operation that broke off. -/
def Ending.BrokeOff : Ending ε → Prop
  | .panicked _ => True
  | .returned _ | .failed _ => False

/-- Nothing more happens to a visit: its caller got the result, or left a work that is concluded. -/
def Visit.AtRest (v : Visit ε) : Prop :=
  v.IsResolved ∨ (∃ ending conclusion, v.progress = .concluded ending conclusion) ∧ v.gone = true

/-- One of the entries is a completion that broke off. -/
def CompletionBrokeOff (ends : List Entry) : Prop :=
  ∃ e ∈ ends, (∃ key owner outcome window, e.call = .complete key owner outcome window) ∧
    e.answer = .overflow

/-- A visit whose caller left, or stayed, in one of the two cases in which its lease is not ended by
the one call that is due. -/
def Visit.Astray (v : Visit ε) (ending : Ending ε) (ends : List Entry) : Prop :=
  v.gone = true ∧ ending.BrokeOff ∨ v.gone = false ∧ CompletionBrokeOff ends

namespace Visit.Account

variable {v : Visit ε} {lease : Lease} {ends : List Entry} {ending : Ending ε}

/-- Every call that a visit makes under its lease is about its key and token. -/
theorem key?_of_mem (h : v.Account lease ends) {e : Entry} (he : e ∈ ends) :
    e.call.key? = some lease.key := by
  have mem : e.call ∈ v.progress.calls lease v.caller.policy.window := by
    rw [← h.calls]
    exact List.mem_map_of_mem he
  cases progress : v.progress with
  | waiting => simp [progress, Progress.calls] at mem
  | working => simp [progress, Progress.calls] at mem
  | ended ending => simp [progress, Progress.calls] at mem
  | concluded ending conclusion =>
    cases ending <;> simp_all [Progress.calls, Ending.call?, Call.key?]
  | resolved ending conclusion result =>
    cases ending <;> cases conclusion <;>
      simp_all [Progress.calls, Ending.call?, Conclusion.call?, Call.key?]
    all_goals rcases mem with mem | mem <;> simp [mem]

/-- An operation whose caller left made the call of its ending, if there is one. -/
theorem calls_of_gone (h : v.Account lease ends) {conclusion : Conclusion ε}
    (concluded : v.progress = .concluded ending conclusion) :
    ends.map (·.call) = [ending.due lease v.caller.policy.window] ↔ ¬ending.BrokeOff := by
  rw [h.calls, concluded]
  cases ending <;> simp [Progress.calls, Ending.call?, Ending.due, Ending.BrokeOff]

/-- An operation whose caller stayed made the call that is due, and no more unless its completion
broke off. -/
theorem calls_of_resolved (h : v.Account lease ends) {conclusion : Conclusion ε}
    {result : Except (CallError ε) Outcome}
    (resolved : v.progress = .resolved ending conclusion result) :
    ends.map (·.call) = [ending.due lease v.caller.policy.window] ↔ ¬CompletionBrokeOff ends := by
  obtain ⟨calls, follows⟩ := h
  rw [resolved] at calls follows
  have follows : conclusion = ending.conclusion (ends.head?.map (·.answer)) := follows
  have releases : ends.map (·.call) = [.release lease.key lease.owner] →
      ¬CompletionBrokeOff ends := by
    rintro only ⟨e, he, ⟨key, owner, outcome, window, call⟩, -⟩
    have mem : e.call ∈ ends.map (·.call) := List.mem_map_of_mem he
    rw [only, call, List.mem_singleton] at mem
    cases mem
  cases ending with
  | failed error =>
    subst follows
    exact iff_of_true calls (releases calls)
  | panicked message =>
    subst follows
    exact iff_of_true calls (releases calls)
  | returned outcome =>
    by_cases broken : ends.head?.map (·.answer) = some .overflow
    · -- the completion broke off: a release follows it
      rw [broken] at follows
      subst follows
      refine iff_of_false (by rw [calls]; simp [Progress.calls, Conclusion.call?, Ending.call?,
        Ending.conclusion]) (not_not.2 ?_)
      obtain ⟨e, first, broke⟩ := Option.map_eq_some_iff.1 broken
      obtain ⟨rest, rfl⟩ := List.head?_eq_some_iff.1 first
      exact ⟨e, by simp, ⟨_, _, _, _, (List.cons.inj calls).1⟩, broke⟩
    · rw [Ending.conclusion_returned outcome broken] at follows
      subst follows
      refine iff_of_true calls ?_
      rintro ⟨e, he, -, broke⟩
      obtain ⟨e', rest, rfl⟩ := List.exists_cons_of_ne_nil (List.ne_nil_of_mem he)
      have nil : rest = [] := List.map_eq_nil_iff.1 (List.cons.inj calls).2
      rw [nil, List.mem_singleton] at he
      exact broken (by rw [← broke, he]; rfl)

end Visit.Account

namespace Concourse

variable {g : Guard σ} {c : Concourse σ ε} {inner : σ} {start : Instant}

/-- A caller who got the result has stayed for it. -/
theorem Reaches.stayed (reached : Reaches g (.empty inner start) c) :
    ∀ v ∈ c.visits, v.IsResolved → v.gone = false := by
  refine reached.forall_visits ?_ ?_
  · rintro caller since opening ⟨ending, conclusion, result, progress⟩
    cases progress
  · rintro s s' now v v' move moves ih ⟨ending, conclusion, result, progress⟩
    cases moves with
    | start leased waiting => cases progress
    | finish leased working => cases progress
    | conclude leased ended concludes => cases progress
    | resolve leased concluded stays resolves => exact stays
    | leave unresolved => exact absurd ⟨_, _, _, progress⟩ unresolved

theorem getElem?_put {i : Nat} {v w : Visit ε} (here : c.visits[i]? = some v) :
    (c.put i w).visits[i]? = some w := by
  rw [put, List.getElem?_set_self (List.getElem?_eq_some_iff.1 here).1]

/-- A visit whose work is concluded comes to rest. -/
theorem exists_atRest_of_concluded {i : Nat} {v : Visit ε} {lease : Lease} {ending : Ending ε}
    {conclusion : Conclusion ε} (here : c.visits[i]? = some v) (leased : v.lease? = some lease)
    (concluded : v.progress = .concluded ending conclusion) :
    ∃ c' v', Reaches g c c' ∧ c'.visits[i]? = some v' ∧ v'.AtRest ∧ v'.caller = v.caller ∧
      v'.opening = v.opening ∧ v'.gone = v.gone ∧ v'.progress.ending? = some ending := by
  cases gone : v.gone with
  | true =>
    exact ⟨c, v, .refl, here, .inr ⟨⟨_, _, concluded⟩, gone⟩, rfl, rfl, gone,
      by rw [concluded]; rfl⟩
  | false =>
    exact ⟨_, _, .step .refl (.resolve here leased concluded gone), getElem?_put here,
      .inl ⟨_, _, _, rfl⟩, rfl, rfl, gone, rfl⟩

/-- A visit whose operation has ended comes to rest, whether its caller stays or has left. -/
theorem exists_atRest {i : Nat} {v : Visit ε} {lease : Lease} {ending : Ending ε}
    (here : c.visits[i]? = some v) (leased : v.lease? = some lease)
    (ended : v.progress.ending? = some ending) :
    ∃ c' v', Reaches g c c' ∧ c'.visits[i]? = some v' ∧ v'.AtRest ∧ v'.caller = v.caller ∧
      v'.opening = v.opening ∧ v'.gone = v.gone ∧ v'.progress.ending? = some ending := by
  cases progress : v.progress with
  | waiting => simp [progress, Progress.ending?] at ended
  | working => simp [progress, Progress.ending?] at ended
  | ended ending' =>
    rw [progress] at ended
    cases ended
    have step : Step g c (c.conclude g i v lease ending) := .conclude here leased progress
    obtain ⟨c', v', reached, rest⟩ :=
      exists_atRest_of_concluded (g := g) (c := c.conclude g i v lease ending)
        (getElem?_put here) leased rfl
    exact ⟨c', v', (Reaches.step .refl step).trans reached, rest⟩
  | concluded ending' conclusion =>
    rw [progress] at ended
    cases ended
    exact exists_atRest_of_concluded here leased progress
  | resolved ending' conclusion result =>
    exact ⟨c, v, .refl, here, .inl ⟨_, _, _, progress⟩, rfl, rfl, rfl, ended⟩

/-- At rest the lease was ended by the one call that was due, unless the visit went astray. -/
theorem Reaches.calls_iff (reached : Reaches g (.empty inner start) c)
    (law : GrantsFresh g.store) {i : Nat} {v : Visit ε} {lease : Lease} {ending : Ending ε}
    (here : c.visits[i]? = some v) (leased : v.lease? = some lease)
    (ended : v.progress.ending? = some ending) (atRest : v.AtRest) :
    (finals lease.owner c.store.journal).map (·.call) =
        [ending.due lease v.caller.policy.window] ↔
      ¬v.Astray ending (finals lease.owner c.store.journal) := by
  have account := (reached.linked law).account here leased
  rcases atRest with resolved | ⟨⟨ending', conclusion, concluded⟩, gone⟩
  · have stays := reached.stayed v (List.mem_of_getElem? here) resolved
    obtain ⟨ending', conclusion, result, resolved⟩ := resolved
    rw [resolved] at ended
    cases ended
    rw [account.calls_of_resolved resolved]
    simp [Visit.Astray, stays]
  · rw [concluded] at ended
    cases ended
    rw [account.calls_of_gone concluded]
    simp [Visit.Astray, gone]

variable {view : View g.store}

/-- A lease that somebody tried to end has no pending record in force any more. -/
theorem Reaches.not_isPending (reached : Reaches g (.empty inner start) c)
    (blank : view.Blank inner) (inRange : ∀ e ∈ c.store.journal, e.InRange) {i : Nat}
    {v : Visit ε} {lease : Lease} (here : c.visits[i]? = some v) (leased : v.lease? = some lease)
    (some_final : finals lease.owner c.store.journal ≠ []) {key : String} {r : Record}
    (seen : view.sight c.store.inner c.clock key = some r) (mine : r.owner = lease.owner) :
    r.isPending = false := by
  have linked := reached.linked view.grantsFresh
  have faithful := reached.faithful blank inRange
  obtain ⟨-, -, before⟩ := reached.exists_calls
  rw [faithful.seen] at seen
  obtain ⟨stands, hstands, hr, live⟩ := expected_eq_some_iff.1 seen
  have owned : stands.owner = lease.owner := (Standing.owner_of_record? hr).symm.trans mine
  have sameKey : lease.key = key := by
    obtain ⟨a, mem, rfl, granted⟩ := exists_grant?_of_standing hstands
    rw [linked.eq_of_owner here leased mem (granted.trans owned)]
    rfl
  obtain ⟨e, final⟩ := List.exists_mem_of_ne_nil _ some_final
  have about := (linked.account here leased).key?_of_mem final
  obtain ⟨mem, ends⟩ := mem_finals_iff.1 final
  have le := before e mem
  have range := inRange e mem
  obtain ⟨past, after, journal⟩ := List.append_of_mem mem
  -- the lease was granted before it was ended, so its token is not granted after that
  have once : ∀ a ∈ after.filterMap Entry.grant?, a.owner ≠ lease.owner := by
    intro a ha same
    obtain ⟨b, hb, owned'⟩ := linked.backed past e after journal lease.owner ends
    have distinct := linked.pairwise_owner
    rw [journal, List.filterMap_append, List.pairwise_append] at distinct
    refine distinct.2.2 b hb a ?_ (owned'.trans same.symm)
    rw [← List.singleton_append, List.filterMap_append]
    exact List.mem_append_right _ ha
  have split : c.store.journal = past ++ [e] ++ after := by simp [journal]
  have ended := over_of_ended (split ▸ faithful.answered) range le ends
    (about.trans (congrArg some sameKey)) once (split ▸ hstands) owned
  rcases ended with settled | expired
  · rw [← Bool.not_eq_true, Standing.isPending_of_record? hr]
    exact settled
  · exact absurd live (not_lt.2 expired)

/-- A lease that nobody tried to end has its record pending until it ends by itself or is
displaced. -/
theorem Reaches.isPending (reached : Reaches g (.empty inner start) c)
    (blank : view.Blank inner) (inRange : ∀ e ∈ c.store.journal, e.InRange) {owner : Token}
    (unended : finals owner c.store.journal = []) {key : String} {standing : Standing}
    (stands : Store.standing key c.store.journal = some standing)
    (mine : standing.owner = owner) (lives : c.clock < standing.ends) :
    ∃ r, view.sight c.store.inner c.clock key = some r ∧ r.owner = owner ∧ r.isPending = true := by
  have held := held_of_unended unended stands mine
  obtain ⟨r, hr⟩ := (Standing.exists_record?_iff key standing).2 (by simp [held])
  refine ⟨r, ?_, (Standing.owner_of_record? hr).trans mine,
    (Standing.isPending_of_record? hr).2 held⟩
  rw [(reached.faithful blank inRange).seen]
  exact expected_eq_some_iff.2 ⟨standing, stands, hr, lives⟩

/-- Nobody ends the lease of an operation that broke off after its caller left. -/
theorem Reaches.finals_eq_nil (reached : Reaches g (.empty inner start) c)
    (law : GrantsFresh g.store) {i : Nat} {v : Visit ε} {lease : Lease} {ending : Ending ε}
    (here : c.visits[i]? = some v) (leased : v.lease? = some lease)
    (ended : v.progress.ending? = some ending) (atRest : v.AtRest) (gone : v.gone = true)
    (broke : ending.BrokeOff) : finals lease.owner c.store.journal = [] := by
  rcases atRest with resolved | ⟨⟨ending', conclusion, concluded⟩, -⟩
  · rw [reached.stayed v (List.mem_of_getElem? here) resolved] at gone
    cases gone
  · rw [concluded] at ended
    cases ended
    have calls := ((reached.linked law).account here leased).calls
    rw [concluded] at calls
    cases ending with
    | returned outcome => exact broke.elim
    | failed error => exact broke.elim
    | panicked message => exact List.map_eq_nil_iff.1 calls

/-- **Finalization.** Take any calls on one store, in any order of their steps, and a lease whose
operation has ended. The visit comes to rest, whether its caller stays or has left. At rest the
lease was ended by exactly the call that was due, unless the visit went astray; if the caller left
and the operation broke off, no call was made at all. So on a store that answers from what is seen,
and when all windows are in range, no pending record of the lease is in force, but in that last
case, where the key stays taken until the lease ends by itself or is displaced. -/
theorem finalized_iff (g : Guard σ) (law : GrantsFresh g.store) {inner : σ} {start : Instant}
    {c : Concourse σ ε} (reached : Reaches g (.empty inner start) c) {i : Nat} {v : Visit ε}
    {lease : Lease} {ending : Ending ε} (here : c.visits[i]? = some v)
    (leased : v.lease? = some lease) (ended : v.progress.ending? = some ending) :
    let ends := finals lease.owner c.store.journal
    (∃ c' v', Reaches g c c' ∧ c'.visits[i]? = some v' ∧ v'.AtRest ∧ v'.caller = v.caller ∧
      v'.opening = v.opening ∧ v'.gone = v.gone ∧ v'.progress.ending? = some ending) ∧
    (v.AtRest →
      (ends.map (·.call) = [ending.due lease v.caller.policy.window] ↔ ¬v.Astray ending ends) ∧
      (v.gone = true ∧ ending.BrokeOff → ends = [])) ∧
    ∀ view : View g.store, view.Blank inner → (∀ e ∈ c.store.journal, e.InRange) → v.AtRest →
      (¬(v.gone = true ∧ ending.BrokeOff) → ∀ key r,
        view.sight c.store.inner c.clock key = some r → r.owner = lease.owner →
          r.isPending = false) ∧
      (v.gone = true ∧ ending.BrokeOff → ∀ stands,
        standing lease.key c.store.journal = some stands → stands.owner = lease.owner →
          c.clock < stands.ends →
            ∃ r, view.sight c.store.inner c.clock lease.key = some r ∧ r.owner = lease.owner ∧
              r.isPending = true) := by
  intro ends
  refine ⟨exists_atRest here leased ended, fun atRest => ⟨?_, ?_⟩, ?_⟩
  · exact reached.calls_iff law here leased ended atRest
  · rintro ⟨gone, broke⟩
    exact reached.finals_eq_nil law here leased ended atRest gone broke
  · intro view blank inRange atRest
    constructor
    · intro kept key r seen mine
      refine reached.not_isPending blank inRange here leased ?_ seen mine
      intro nil
      by_cases astray : v.Astray ending ends
      · rcases astray with lost | ⟨-, e, mem, -⟩
        · exact kept lost
        · rw [show ends = [] from nil] at mem
          cases mem
      · have calls := (reached.calls_iff law here leased ended atRest).2 astray
        rw [nil] at calls
        cases calls
    · rintro ⟨gone, broke⟩ stands hstands mine lives
      have unended := reached.finals_eq_nil law here leased ended atRest gone broke
      exact reached.isPending blank inRange unended hstands mine lives

/-- A caller who leaves. -/
def leaver : Caller := ⟨Policy.ofScope "s", .given "k1", false⟩

/-- The guard that such a caller comes to. -/
def leaverGuard : Guard Memory.State := ⟨Memory.store, defaultKeyPrefix⟩

/-- What such a caller gets before leaving. -/
def leaverLease : Lease := ⟨"s", leaverGuard.canonicalKey leaver.policy "k1", .serial 1⟩

/-- The visit of such a caller, as far as it has come. -/
def leaverVisit (progress : Progress String) (gone : Bool) : Visit String :=
  ⟨leaver, .epoch, (leaverGuard.journaled.openFor leaver (.of .empty) ⟨.epoch, .serial 1⟩).value,
    progress, gone⟩

/-- A caller leaves while the operation runs, and the work is concluded when the operation ends. -/
def deserted (ending : Ending String) : Concourse Memory.State String :=
  let entered := (empty .empty .epoch).receive leaverGuard leaver (.serial 1)
  let left := (entered.put 0 (leaverVisit .working false)).put 0 (leaverVisit .working true)
  let ended := left.put 0 (leaverVisit (.ended ending) true)
  ended.conclude leaverGuard 0 (leaverVisit (.ended ending) true) leaverLease ending

theorem lease?_leaverVisit (progress : Progress String) (gone : Bool) :
    (leaverVisit progress gone).lease? = some leaverLease := by
  have leased : (leaverVisit .waiting false).lease? = some leaverLease := by decide +kernel
  exact leased

theorem reaches_deserted (ending : Ending String) :
    Reaches leaverGuard (.empty .empty .epoch) (deserted ending) := by
  have here : ((empty .empty .epoch : Concourse Memory.State String).receive leaverGuard leaver
    (.serial 1)).visits[0]? = some (leaverVisit .waiting false) := rfl
  have working := getElem?_put here (w := leaverVisit .working false)
  have gone := getElem?_put working (w := leaverVisit .working true)
  have ended := getElem?_put gone (w := leaverVisit (.ended ending) true)
  refine .step ?_ (.conclude ended (lease?_leaverVisit _ _) rfl)
  refine .step ?_ (.finish ending gone (lease?_leaverVisit _ _) rfl)
  refine .step ?_ (.leave working ?_)
  · refine .step ?_ (.start here (lease?_leaverVisit _ _) rfl)
    exact .step .refl (.enter leaver (by simp [empty]))
  · rintro ⟨_, _, _, progress⟩
    cases progress

theorem visits_deserted (ending : Ending String) : ∃ conclusion,
    (deserted ending).visits[0]? = some (leaverVisit (.concluded ending conclusion) true) :=
  ⟨_, rfl⟩

/-- The outcome of an operation whose caller left is cached all the same. -/
theorem finalized_iff_deserted :
    let outcome : Outcome := ⟨200, .null⟩
    let c := deserted (.returned outcome)
    Reaches leaverGuard (.empty .empty .epoch) c ∧ ∃ v, c.visits[0]? = some v ∧
      v.lease? = some leaverLease ∧ v.progress.ending? = some (.returned outcome) ∧ v.gone = true ∧
      (finals leaverLease.owner c.store.journal).map (·.call) =
        [.complete leaverLease.key leaverLease.owner outcome v.caller.policy.window] := by
  intro outcome c
  obtain ⟨conclusion, here⟩ := visits_deserted (.returned outcome)
  have finalized := finalized_iff leaverGuard Memory.view.grantsFresh
    (reaches_deserted (.returned outcome)) here (lease?_leaverVisit _ _) rfl
  refine ⟨reaches_deserted _, _, here, lease?_leaverVisit _ _, rfl, rfl, ?_⟩
  refine (finalized.2.1 (.inr ⟨⟨_, _, rfl⟩, rfl⟩)).1.2 ?_
  rintro (⟨-, broke⟩ | ⟨stays, -⟩)
  · exact broke
  · cases stays

/-- A lease is not always ended: when the caller leaves and the operation breaks off, no call is
made, and the record stays pending and in force. -/
theorem not_finalized_deserted :
    ¬(∀ (c : Concourse Memory.State String) (i : Nat) (v : Visit String) (lease : Lease)
      (ending : Ending String), Reaches leaverGuard (.empty .empty .epoch) c →
      c.visits[i]? = some v → v.lease? = some lease → v.progress.ending? = some ending →
      v.AtRest → (finals lease.owner c.store.journal).map (·.call) =
        [ending.due lease v.caller.policy.window]) ∧
      (let c := deserted (.panicked "boom")
      ∃ r, Memory.live? c.store.inner c.clock leaverLease.key = some r ∧
        r.owner = leaverLease.owner ∧ r.isPending = true) := by
  obtain ⟨conclusion, here⟩ := visits_deserted (.panicked "boom")
  have reached := reaches_deserted (.panicked "boom")
  have atRest : (leaverVisit (.concluded (.panicked "boom") conclusion) true).AtRest :=
    .inr ⟨⟨_, _, rfl⟩, rfl⟩
  have nothing := reached.finals_eq_nil Memory.view.grantsFresh here (lease?_leaverVisit _ _) rfl
    atRest rfl trivial
  constructor
  · intro always
    have calls := always _ 0 _ _ _ reached here (lease?_leaverVisit _ _) rfl atRest
    rw [nothing] at calls
    cases calls
  · have pending : (Memory.live? (deserted (.panicked "boom")).store.inner
        (deserted (.panicked "boom")).clock leaverLease.key).any
        (fun r => r.isOwnedBy leaverLease.owner && r.isPending) = true := by decide +kernel
    obtain ⟨r, seen, both⟩ := (Option.any_eq_true _ _).1 pending
    rw [Bool.and_eq_true] at both
    exact ⟨r, seen, of_decide_eq_true both.1, both.2⟩

end Concourse

end Turnstile
