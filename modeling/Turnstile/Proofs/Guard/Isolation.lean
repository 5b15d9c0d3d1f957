import Mathlib.Logic.Equiv.Basic
import Turnstile.Proofs.Guard.Acts
import Turnstile.Proofs.Guard.Opening
import Turnstile.Proofs.Memory.Sight
import Turnstile.Proofs.Store.Renaming

/-!
Calls with different canonical keys do not meet. Of a run one may leave out all that is done by
callers of other keys, and all callers without one; the callers of the key go on as before, step by
step, with other fresh tokens if need be. Main statement: the store answers them the same, their
operations run at the same steps, they get the same results, and the same is read of the key at any
time, all up to the names of the tokens (`Concourse.keys_isolated`).
-/

namespace Turnstile

open Store

variable {σ ε : Type}

/-! ## Other tokens -/

/-- A lease for another token. -/
def Lease.rename (ρ : Token → Token) (l : Lease) : Lease := { l with owner := ρ l.owner }

/-- An opening with other tokens. -/
def Opening.rename (ρ : Token → Token) : Opening → Opening
  | .running lease => .running (lease.rename ρ)
  | .ended result => .ended result
  | .brokenOff message => .brokenOff message

/-- A visit with another token. -/
def Visit.rename (ρ : Token → Token) (v : Visit ε) : Visit ε :=
  { v with opening := v.opening.rename ρ }

section

variable {ρ : Token → Token}

theorem Visit.lease?_rename (v : Visit ε) :
    (v.rename ρ).lease? = v.lease?.map (Lease.rename ρ) := by
  obtain ⟨caller, since, opening, progress, gone⟩ := v
  cases opening <;> rfl

theorem Visit.owner?_rename (v : Visit ε) : (v.rename ρ).owner? = v.owner?.map ρ := by
  rw [owner?, lease?_rename, owner?, Option.map_map, Option.map_map]
  rfl

theorem Guard.claimAt_rename (g : Guard σ) (c : Caller) (rawKey : String) (now : Instant)
    (fresh : Token) :
    g.claimAt c rawKey ⟨now, ρ fresh⟩ = (g.claimAt c rawKey ⟨now, fresh⟩).rename ρ := by
  obtain ⟨policy, origin, bypass⟩ := c
  cases bypass <;> rfl

/-- An answer with other tokens opens a call with other tokens. -/
theorem Guard.openingOf_rename (g : Guard σ) (c : Caller) (rawKey : String)
    (answer : Attempt Answer) :
    g.openingOf c rawKey (answer.map (Answer.rename ρ)) =
      (g.openingOf c rawKey answer).rename ρ := by
  cases answer with
  | done value =>
    cases value with
    | claim claim => cases claim <;> rfl
    | owner owner => rfl
    | finality value => rfl
    | record value => rfl
    | count value => rfl
  | failed fault => rfl
  | overflow => rfl

theorem Ending.call?_rename (ending : Ending ε) (lease : Lease) (window : Span) :
    ending.call? (lease.rename ρ) window = (ending.call? lease window).map (Call.rename ρ) := by
  cases ending <;> rfl

theorem Conclusion.call?_rename (conclusion : Conclusion ε) (lease : Lease) :
    conclusion.call? (lease.rename ρ) = (conclusion.call? lease).map (Call.rename ρ) := by
  cases conclusion <;> rfl

/-- Of an answer only that it broke off counts for a conclusion. -/
theorem Ending.conclusion_rename (ending : Ending ε) (answer : Option (Attempt Answer)) :
    ending.conclusion (answer.map (Attempt.map (Answer.rename ρ))) = ending.conclusion answer := by
  cases ending with
  | returned outcome =>
    cases answer with
    | none => rfl
    | some answer => cases answer <;> rfl
  | failed error => rfl
  | panicked message => rfl

end

/-! ## Visits that go on -/

theorem Ending.key?_of_call? {ending : Ending ε} {lease : Lease} {window : Span} {call : Call}
    (h : ending.call? lease window = some call) : call.key? = some lease.key := by
  cases ending <;> cases h
  all_goals rfl

theorem Conclusion.key?_of_call? {conclusion : Conclusion ε} {lease : Lease} {call : Call}
    (h : conclusion.call? lease = some call) : call.key? = some lease.key := by
  cases conclusion <;> cases h
  rfl

namespace Store.View.Alike

variable {st : Store σ} {w : View st} {ρ : Token → Token} {key : String} {now : Instant}
  {s d : Journaled σ} {call : Option Call}

/-- A call about the key that may be made, made in both stores. -/
theorem run_dated (h : w.Alike ρ key now s d) (inj : Function.Injective ρ)
    (here : ∀ c ∈ call, c.key? = some key) :
    w.Alike ρ key now (s.run st (Guard.dated call now))
      (d.run st (Guard.dated (call.map (Call.rename ρ)) now)) := by
  cases call with
  | none => exact h
  | some call => exact h.take (t := ⟨now, call⟩) inj (here call rfl)

/-- A call about another key that may be made. -/
theorem run_dated_left (h : w.Alike ρ key now s d) (elsewhere : ∀ c ∈ call, c.key? ≠ some key) :
    w.Alike ρ key now (s.run st (Guard.dated call now)) d := by
  cases call with
  | none => exact h
  | some call => exact h.take_left (t := ⟨now, call⟩) (elsewhere call rfl)

/-- What the stores answer to it. -/
theorem answer_dated (h : w.Alike ρ key now s d) (inj : Function.Injective ρ)
    (here : ∀ c ∈ call, c.key? = some key) :
    (call.map (Call.rename ρ)).map (fun c => (d.entry st ⟨now, c⟩).answer) =
      (call.map fun c => (s.entry st ⟨now, c⟩).answer).map (Attempt.map (Answer.rename ρ)) := by
  cases call with
  | none => rfl
  | some call =>
    have same := h.entry (t := ⟨now, call⟩) inj (here call rfl)
    exact congrArg (fun e : Entry => some e.answer) same

end Store.View.Alike

namespace Visit.Moves

variable {g : Guard σ} {w : View g.store} {ρ : Token → Token} {key : String} {now : Instant}
  {s s' d : Journaled σ} {v v' : Visit ε} {move : Move ε}

/-- A visit with a lease on the key goes on in the same way where the store is alike. -/
theorem rename (moves : v.Moves g s now move s' v') (alike : w.Alike ρ key now s d)
    (inj : Function.Injective ρ) (here : ∀ lease, v.lease? = some lease → lease.key = key) :
    ∃ d', (v.rename ρ).Moves g d now move d' (v'.rename ρ) ∧ w.Alike ρ key now s' d' := by
  have renamed : ∀ {lease}, v.lease? = some lease →
      (v.rename ρ).lease? = some (lease.rename ρ) := by
    intro lease leased
    rw [lease?_rename, leased, Option.map_some]
  cases moves with
  | start leased waiting => exact ⟨d, .start (renamed leased) waiting, alike⟩
  | finish leased working => exact ⟨d, .finish (renamed leased) working, alike⟩
  | @conclude lease ending _ leased ended concludes =>
    subst concludes
    have about : ∀ c ∈ ending.call? lease v.caller.policy.window, c.key? = some key :=
      fun c made => (Ending.key?_of_call? made).trans (congrArg some (here lease leased))
    let t := g.journaled.conclude (lease.rename ρ) v.caller.policy.window ending d now
    have value : t.value =
        (g.journaled.conclude lease v.caller.policy.window ending s now).value := by
      rw [g.value_conclude, g.value_conclude, Ending.call?_rename, alike.answer_dated inj about,
        Ending.conclusion_rename]
    refine ⟨t.state, ?_, ?_⟩
    · rw [← value]
      exact .conclude (v := v.rename ρ) (renamed leased) ended rfl
    · rw [g.state_conclude, g.state_conclude, Ending.call?_rename]
      exact alike.run_dated inj about
  | @resolve lease ending conclusion _ leased concluded stays resolves =>
    subst resolves
    have about : ∀ c ∈ conclusion.call? lease, c.key? = some key :=
      fun c made => (Conclusion.key?_of_call? made).trans (congrArg some (here lease leased))
    let t := g.journaled.resolve (lease.rename ρ) conclusion d now
    have value : t.value = (g.journaled.resolve lease conclusion s now).value := by
      cases conclusion <;> rfl
    refine ⟨t.state, ?_, ?_⟩
    · rw [← value]
      exact .resolve (v := v.rename ρ) (renamed leased) concluded stays rfl
    · rw [g.state_resolve, g.state_resolve, Conclusion.call?_rename]
      exact alike.run_dated inj about
  | leave unresolved => exact ⟨d, .leave unresolved, alike⟩

/-- A visit with a lease on another key leaves the key alone. -/
theorem alike_of_ne (moves : v.Moves g s now move s' v') (alike : w.Alike ρ key now s d)
    (elsewhere : ∀ lease, v.lease? = some lease → lease.key ≠ key) :
    w.Alike ρ key now s' d := by
  cases moves with
  | start leased waiting => exact alike
  | finish leased working => exact alike
  | conclude leased ended concludes =>
    subst concludes
    rw [g.state_conclude]
    refine alike.run_dated_left fun c made same => ?_
    exact elsewhere _ leased (Option.some.inj ((Ending.key?_of_call? made).symm.trans same))
  | resolve leased concluded stays resolves =>
    subst resolves
    rw [g.state_resolve]
    refine alike.run_dated_left fun c made same => ?_
    exact elsewhere _ leased (Option.some.inj ((Conclusion.key?_of_call? made).symm.trans same))
  | leave unresolved => exact alike

/-- Who made a visit and how it was opened stays. -/
theorem kept (moves : v.Moves g s now move s' v') :
    v'.caller = v.caller ∧ v'.opening = v.opening := by
  cases moves <;> exact ⟨rfl, rfl⟩

end Visit.Moves

/-! ## Leaving out other callers -/

/-- The canonical key of a caller, if it has one. -/
def Caller.canonicalKey? (g : Guard σ) (c : Caller) : Option String :=
  c.rawKey?.map (g.canonicalKey c.policy)

section

variable {g : Guard σ} {c : Caller}

theorem Caller.canonicalKey?_of_error {reason : String} (found : c.findKey = .error reason) :
    c.canonicalKey? g = none := by
  rw [canonicalKey?, rawKey?_eq, found]
  rfl

theorem Caller.canonicalKey?_of_ok {rawKey : String} (found : c.findKey = .ok rawKey) :
    c.canonicalKey? g = some (g.canonicalKey c.policy rawKey) := by
  rw [canonicalKey?, rawKey?_eq, found]
  rfl

end

/-- Whether a caller claims a key. -/
def Caller.claims (g : Guard σ) (key : String) (c : Caller) : Bool := c.canonicalKey? g = some key

/-- The caller that enters by an act. -/
def Act.entrant? : Act ε → Option Caller
  | .enter caller _ => some caller
  | .tick _ | .purge | .move _ _ => none

/-- The place of a visit among those of the callers of a key. -/
def placeAmong (g : Guard σ) (key : String) (entered : List Caller) (i : Nat) : Nat :=
  (entered.take i).countP (·.claims g key)

/-- What is left of an act when only the callers of a key are left, given who entered before. A
visit takes the next place among those that are left, and draws another token. -/
def Act.only (g : Guard σ) (key : String) (ρ : Token → Token) (entered : List Caller) :
    Act ε → Option (Act ε)
  | .tick now => some (.tick now)
  | .purge => some .purge
  | .enter caller fresh => if caller.claims g key then some (.enter caller (ρ fresh)) else none
  | .move i what =>
    if entered[i]?.any (·.claims g key) then some (.move (placeAmong g key entered i) what)
    else none

/-- What is left of a run when only the callers of a key are left, given who entered before. -/
def onlyAfter (g : Guard σ) (key : String) (ρ : Token → Token) (entered : List Caller) :
    List (Act ε) → List (Act ε)
  | [] => []
  | act :: rest =>
    (act.only g key ρ entered).toList ++
      onlyAfter g key ρ (entered ++ act.entrant?.toList) rest

/-- A run of which only the callers of a key are left. -/
def only (g : Guard σ) (key : String) (ρ : Token → Token) (acts : List (Act ε)) : List (Act ε) :=
  onlyAfter g key ρ [] acts

section

variable {g : Guard σ} {key : String} {ρ : Token → Token}

theorem onlyAfter_append (entered : List Caller) (acts more : List (Act ε)) :
    onlyAfter g key ρ entered (acts ++ more) =
      onlyAfter g key ρ entered acts ++
        onlyAfter g key ρ (entered ++ acts.filterMap Act.entrant?) more := by
  induction acts generalizing entered with
  | nil => simp [onlyAfter]
  | cons act rest ih =>
    have entrants : act.entrant?.toList ++ rest.filterMap Act.entrant? =
        (act :: rest).filterMap Act.entrant? := by
      cases entrant : act.entrant? <;> simp [entrant]
    rw [List.cons_append, onlyAfter, ih, onlyAfter, List.append_assoc, List.append_assoc, entrants]

theorem only_append (acts more : List (Act ε)) :
    only g key ρ (acts ++ more) =
      only g key ρ acts ++ onlyAfter g key ρ (acts.filterMap Act.entrant?) more := by
  rw [only, onlyAfter_append, List.nil_append, only]

end

/-! ## Places -/

section

variable {α : Type} {p : α → Bool} {l : List α} {i : Nat} {a a' : α} (here : l[i]? = some a)
include here

theorem exists_split_at : ∃ before after, l = before ++ a :: after ∧ before.length = i := by
  obtain ⟨inside, rfl⟩ := List.getElem?_eq_some_iff.1 here
  refine ⟨l.take i, l.drop (i + 1), ?_, List.length_take_of_le (Nat.le_of_lt inside)⟩
  rw [List.getElem_cons_drop, List.take_append_drop]

/-- The place of an item among those that are left. -/
theorem getElem?_filter (left : p a = true) : (l.filter p)[(l.take i).countP p]? = some a := by
  obtain ⟨before, after, rfl, rfl⟩ := exists_split_at here
  rw [List.take_left, List.filter_append, List.countP_eq_length_filter,
    List.getElem?_append_right (Nat.le_refl _), Nat.sub_self, List.filter_cons_of_pos left]
  rfl

theorem filter_set_of_pos (left : p a = true) (left' : p a' = true) :
    (l.set i a').filter p = (l.filter p).set ((l.take i).countP p) a' := by
  obtain ⟨before, after, rfl, rfl⟩ := exists_split_at here
  rw [List.take_left, List.set_append_right _ _ (Nat.le_refl _), Nat.sub_self, List.set_cons_zero,
    List.filter_append, List.filter_append, List.countP_eq_length_filter,
    List.set_append_right _ _ (Nat.le_refl _), Nat.sub_self, List.filter_cons_of_pos left,
    List.filter_cons_of_pos left', List.set_cons_zero]

theorem filter_set_of_neg (out : p a = false) (out' : p a' = false) :
    (l.set i a').filter p = l.filter p := by
  obtain ⟨before, after, rfl, rfl⟩ := exists_split_at here
  rw [List.set_append_right _ _ (Nat.le_refl _), Nat.sub_self, List.set_cons_zero,
    List.filter_append, List.filter_append, List.filter_cons_of_neg (by simp [out']),
    List.filter_cons_of_neg (by simp [out])]

end

namespace Concourse

variable {g : Guard σ} {w : View g.store} {ρ : Token → Token} {key : String}
  {c c' d : Concourse σ ε}

/-- What can be told of a key in two concourses is the same but for the tokens:

* `visits`: the visits of its callers are the only ones, opened in the same way, as far in their
  work, and with the same results;
* `told`: the calls about the key were given the same answers;
* `read`: the same is read of the key now and at any later time. -/
structure Agrees (g : Guard σ) (key : String) (ρ : Token → Token) (c d : Concourse σ ε) : Prop where
  clock : d.clock = c.clock
  visits : d.visits = (c.visits.filter fun v => v.caller.claims g key).map (Visit.rename ρ)
  told : about key d.store.journal = (about key c.store.journal).map (Entry.rename ρ)
  read : ∀ now, c.clock ≤ now → (g.store.read d.store.inner now key).result =
    (g.store.read c.store.inner now key).result.map (Option.map (Record.rename ρ))

/-- The same, with what is seen of the key in place of what is read. -/
structure Twins (w : View g.store) (ρ : Token → Token) (key : String) (c d : Concourse σ ε) :
    Prop where
  clock : d.clock = c.clock
  visits : d.visits = (c.visits.filter fun v => v.caller.claims g key).map (Visit.rename ρ)
  alike : w.Alike ρ key c.clock c.store d.store

/-- Every lease is on the canonical key of its caller. -/
def KeysHeld (g : Guard σ) (c : Concourse σ ε) : Prop :=
  ∀ v ∈ c.visits, ∀ lease, v.lease? = some lease → v.caller.canonicalKey? g = some lease.key

theorem Does.keysHeld {act : Act ε} (does : Does g c act c') (held : c.KeysHeld g) :
    c'.KeysHeld g := by
  cases does with
  | tick later => exact held
  | purge => exact held
  | @enter caller fresh new =>
    rw [receive_eq]
    cases found : caller.findKey with
    | error reason =>
      intro v hv lease leased
      rcases List.mem_append.1 hv with hv | hv
      · exact held v hv lease leased
      · cases List.mem_singleton.1 hv
        cases leased
    | ok rawKey =>
      intro v hv lease leased
      rcases List.mem_append.1 hv with hv | hv
      · exact held v hv lease leased
      · cases List.mem_singleton.1 hv
        rw [Caller.canonicalKey?_of_ok found, g.key_of_openingOf leased]
  | move here moves =>
    intro x hx lease leased
    rcases List.mem_or_eq_of_mem_set hx with hx | rfl
    · exact held x hx lease leased
    · obtain ⟨caller, opening⟩ := moves.kept
      rw [Visit.lease?, opening] at leased
      rw [caller]
      exact held _ (List.mem_of_getElem? here) lease leased

theorem Runs.keysHeld {inner : σ} {start : Instant} {acts : List (Act ε)}
    (ran : Runs g (.empty inner start) acts c) : c.KeysHeld g := by
  induction ran with
  | nil => exact fun v hv => by cases hv
  | snoc ran does ih => exact does.keysHeld ih

/-- The visits of a concourse are those of the callers that entered in the run. -/
theorem Runs.callers {inner : σ} {start : Instant} {acts : List (Act ε)}
    (ran : Runs g (.empty inner start) acts c) :
    c.visits.map (·.caller) = acts.filterMap Act.entrant? := by
  induction ran with
  | nil => rfl
  | snoc ran does ih =>
    rw [List.filterMap_append, ← ih]
    cases does with
    | tick later => simp [Act.entrant?]
    | purge => simp [Act.entrant?]
    | enter caller new => simp [Act.entrant?, receive]
    | move here moves =>
      simp only [put, List.filterMap_cons, List.filterMap_nil, Act.entrant?, List.append_nil]
      exact map_set_of_eq (·.caller) here moves.kept.1

/-! ### One act -/

namespace Twins

variable (twins : Twins w ρ key c d)
include twins

/-- A token that no visit of the one has is another token that no visit of the other has. -/
theorem new_rename (inj : Function.Injective ρ) {fresh : Token}
    (new : ∀ v ∈ c.visits, v.owner? ≠ some fresh) : ∀ v ∈ d.visits, v.owner? ≠ some (ρ fresh) := by
  intro v hv owned
  rw [twins.visits] at hv
  obtain ⟨x, hx, rfl⟩ := List.mem_map.1 hv
  rw [Visit.owner?_rename] at owned
  obtain ⟨owner, owned, same⟩ := Option.map_eq_some_iff.1 owned
  exact new x (List.mem_filter.1 hx).1 (inj same ▸ owned)

/-- A caller of the key enters both. -/
theorem enter (inj : Function.Injective ρ) {caller : Caller} (fresh : Token)
    (wants : caller.claims g key = true) :
    Twins w ρ key (c.receive g caller fresh) (d.receive g caller (ρ fresh)) := by
  have wanted : caller.canonicalKey? g = some key := of_decide_eq_true wants
  rw [receive_eq, receive_eq, twins.clock]
  cases found : caller.findKey with
  | error reason =>
    rw [Caller.canonicalKey?_of_error found] at wanted
    cases wanted
  | ok rawKey =>
    rw [Caller.canonicalKey?_of_ok found] at wanted
    have here : (g.claimAt caller rawKey ⟨c.clock, fresh⟩).call.key? = some key :=
      (g.key?_claimCall caller rawKey fresh).trans wanted
    have alike := twins.alike
    refine ⟨rfl, ?_, ?_⟩
    · simp only [List.filter_append, List.map_append, twins.visits]
      rw [List.filter_cons_of_pos (by exact wants), g.claimAt_rename,
        View.Alike.entry (t := g.claimAt caller rawKey ⟨c.clock, fresh⟩) alike inj here]
      simp only [Entry.rename, g.openingOf_rename]
      rfl
    · simp only [g.claimAt_rename]
      exact View.Alike.take (t := g.claimAt caller rawKey ⟨c.clock, fresh⟩) alike inj here

/-- A caller of another key, or of none, enters the one. -/
theorem enter_other {caller : Caller} (fresh : Token) (other : caller.claims g key = false) :
    Twins w ρ key (c.receive g caller fresh) d := by
  rw [receive_eq]
  cases found : caller.findKey with
  | error reason =>
    refine ⟨twins.clock, ?_, twins.alike⟩
    rw [twins.visits, List.filter_append, List.filter_cons_of_neg (by simp [other]),
      List.filter_nil, List.append_nil]
  | ok rawKey =>
    refine ⟨twins.clock, ?_, ?_⟩
    · rw [twins.visits, List.filter_append, List.filter_cons_of_neg (by simp [other]),
        List.filter_nil, List.append_nil]
    · refine View.Alike.take_left (t := g.claimAt caller rawKey ⟨c.clock, fresh⟩) twins.alike ?_
      intro same
      have claimed : some (g.canonicalKey caller.policy rawKey) = some key :=
        (g.key?_claimCall caller rawKey fresh).symm.trans same
      rw [← Caller.canonicalKey?_of_ok found] at claimed
      exact of_decide_eq_false other claimed

end Twins

/-- Whatever is done in the one, what is left of it can be done in the other. -/
theorem Does.twins {act : Act ε} (does : Does g c act c') (twins : Twins w ρ key c d)
    (held : c.KeysHeld g) (inj : Function.Injective ρ) :
    ∃ d', Runs g d (act.only g key ρ (c.visits.map (·.caller))).toList d' ∧
      Twins w ρ key c' d' := by
  cases does with
  | @tick now later =>
    have later' : d.clock ≤ now := twins.clock ▸ later
    exact ⟨_, Runs.nil.snoc (.tick later'), rfl, twins.visits, twins.alike.later later⟩
  | purge =>
    have elsewhere : Call.purge.key? ≠ some key := by simp [Call.key?]
    refine ⟨_, Runs.nil.snoc .purge, twins.clock, twins.visits, ?_⟩
    have alike := (twins.alike.take_left (t := ⟨c.clock, .purge⟩) elsewhere).take_right
      (t := ⟨c.clock, .purge⟩) elsewhere
    rw [← twins.clock] at alike ⊢
    exact alike
  | @enter caller fresh new =>
    cases wants : caller.claims g key with
    | true =>
      refine ⟨_, ?_, twins.enter inj fresh wants⟩
      rw [Act.only, if_pos wants]
      exact Runs.nil.snoc (.enter caller (twins.new_rename inj new))
    | false =>
      refine ⟨d, ?_, twins.enter_other fresh wants⟩
      rw [Act.only, if_neg (by simp [wants])]
      exact .nil
  | @move i v v' move s here moves =>
    obtain ⟨caller, opening⟩ := moves.kept
    have stays : v'.caller.claims g key = v.caller.claims g key := by rw [caller]
    have leased : ∀ lease, v.lease? = some lease → v.caller.canonicalKey? g = some lease.key :=
      held v (List.mem_of_getElem? here)
    have entered : (c.visits.map (·.caller))[i]? = some v.caller := by
      rw [List.getElem?_map, here, Option.map_some]
    cases wants : v.caller.claims g key with
    | true =>
      have wanted : v.caller.canonicalKey? g = some key := of_decide_eq_true wants
      obtain ⟨s', moves', alike⟩ := moves.rename twins.alike inj fun lease hl =>
        Option.some.inj ((leased lease hl).symm.trans wanted)
      let j := placeAmong g key (c.visits.map (·.caller)) i
      have place : (c.visits.take i).countP (fun v => v.caller.claims g key) = j := by
        simp only [j, placeAmong, ← List.map_take, List.countP_map]
        rfl
      have here' : d.visits[j]? = some (v.rename ρ) := by
        rw [twins.visits, List.getElem?_map, ← place, getElem?_filter here wants, Option.map_some]
      rw [← twins.clock] at moves'
      refine ⟨{ d.put j (v'.rename ρ) with store := s' }, ?_, ?_⟩
      · rw [Act.only, if_pos (by rw [entered]; exact wants)]
        exact Runs.nil.snoc (.move here' moves')
      · refine ⟨twins.clock, ?_, alike⟩
        simp only [put]
        rw [filter_set_of_pos here wants (stays.trans wants), List.map_set, ← twins.visits, place]
    | false =>
      refine ⟨d, ?_, twins.clock, ?_, ?_⟩
      · rw [Act.only, if_neg (by rw [entered]; simp [wants])]
        exact .nil
      · simp only [put]
        rw [filter_set_of_neg here wants (stays.trans wants), twins.visits]
      · refine moves.alike_of_ne twins.alike fun lease hl same => ?_
        have claims : v.caller.claims g key = true := decide_eq_true (same ▸ leased lease hl)
        rw [wants] at claims
        cases claims

/-! ### Whole runs -/

variable {inner : σ} {start : Instant} {acts : List (Act ε)}

/-- What is left of a run can be done. -/
theorem Runs.twins (ran : Runs g (.empty inner start) acts c) (blank : w.Blank inner) (key : String)
    (inj : Function.Injective ρ) :
    ∃ d, Runs g (.empty inner start) (only g key ρ acts) d ∧ Twins w ρ key c d := by
  induction ran with
  | nil => exact ⟨_, .nil, rfl, rfl, by rw [empty, Journaled.of, blank]; rfl, rfl⟩
  | @snoc acts act c c' ran does ih =>
    obtain ⟨d, ran', twins⟩ := ih
    obtain ⟨d', goesOn, twins'⟩ := does.twins twins ran.keysHeld inj
    refine ⟨d', ?_, twins'⟩
    rw [only_append, onlyAfter, onlyAfter, List.append_nil, ← ran.callers]
    exact runs_append_iff.2 ⟨d, ran', goesOn⟩

theorem Twins.agrees (twins : Twins w ρ key c d) : Agrees g key ρ c d where
  clock := twins.clock
  visits := twins.visits
  told := twins.alike.told
  read now later := by
    have read : ∀ s : σ, (g.store.read s now key).result.map Answer.record =
        .done (.record (w.sight s now key)) :=
      fun s => w.result_perform s ⟨now, .read key⟩ (by simp)
    have known : ∀ s : σ, (g.store.read s now key).result = .done (w.sight s now key) := by
      intro s
      obtain ⟨r, done, same⟩ := Attempt.map_eq_done_iff.1 (read s)
      cases same
      exact done
    rw [known, known, (twins.alike.later later).seen]
    rfl

/-- **Isolation.** Leave out of a run on one store in memory all that is done by callers of other
keys, or of none, and let the others draw other tokens. What is left is a run, and at each of its
moments all that concerns the key is as it was at that moment of the whole run. -/
theorem keys_isolated (keyPrefix : String) {start : Instant} {acts : List (Act ε)}
    {c : Concourse Memory.State ε}
    (ran : Runs ⟨Memory.store, keyPrefix⟩ (.empty .empty start) acts c) (key : String)
    {ρ : Token → Token} (inj : Function.Injective ρ) :
    let g : Guard Memory.State := ⟨Memory.store, keyPrefix⟩
    ∃ d, Runs g (.empty .empty start) (only g key ρ acts) d ∧ Agrees g key ρ c d ∧
      ∀ before after, acts = before ++ after → ∃ m n rest,
        only g key ρ acts = only g key ρ before ++ rest ∧
          Runs g (.empty .empty start) before m ∧ Runs g m after c ∧
          Runs g (.empty .empty start) (only g key ρ before) n ∧ Runs g n rest d ∧
          Agrees g key ρ m n := by
  intro g
  have blank : Memory.view.Blank .empty := Memory.blank_empty
  obtain ⟨d, ran', twins⟩ := ran.twins blank key inj
  refine ⟨d, ran', twins.agrees, ?_⟩
  rintro before after rfl
  obtain ⟨m, first, second⟩ := runs_append_iff.1 ran
  obtain ⟨n, first', twins'⟩ := first.twins blank key inj
  rw [only_append] at ran' ⊢
  obtain ⟨n', left, right⟩ := runs_append_iff.1 ran'
  cases first'.unique left
  exact ⟨m, n, _, rfl, first, second, first', right, twins'.agrees⟩

/-- A caller with a key of its own choice. -/
def bearer (rawKey : String) : Caller := ⟨Policy.ofScope "s", .given rawKey, false⟩

/-- The guard that such callers come to. -/
def bearerGuard : Guard Memory.State := ⟨Memory.store, defaultKeyPrefix⟩

/-- Two callers of one key and one of another. The first of the two starts to work before the second
comes. -/
def crossing : List (Act Unit) :=
  [.enter (bearer "other") (.serial 1), .enter (bearer "k") (.serial 2), .move 1 .start,
    .enter (bearer "k") (.serial 3)]

theorem exists_runs_crossing : ∃ c, Runs bearerGuard (.empty .empty .epoch) crossing c := by
  show ∃ c, Runs bearerGuard (.empty .empty .epoch)
    ([] ++ [.enter (bearer "other") (.serial 1)] ++ [.enter (bearer "k") (.serial 2)] ++
      [.move 1 .start] ++ [.enter (bearer "k") (.serial 3)]) c
  let lease : Lease :=
    ⟨"s", bearerGuard.canonicalKey (Policy.ofScope "s") "k", .serial 2⟩
  refine ⟨_, .snoc (.snoc (.snoc (.snoc .nil (.enter _ ?_)) (.enter _ ?_))
    (.move rfl (.start (show _ = some lease from ?_) rfl))) (.enter _ ?_)⟩
  · simp [empty]
  · decide +kernel
  · decide +kernel
  · decide +kernel

/-- Without the caller of the other key, the two go on as before, the first with another token. -/
theorem keys_isolated_crossing :
    let key := bearerGuard.canonicalKey (Policy.ofScope "s") "k"
    let ρ := Equiv.swap (Token.serial 2) (.serial 7)
    Function.Injective ρ ∧
      only bearerGuard key ρ crossing =
        [.enter (bearer "k") (.serial 7), .move 0 .start, .enter (bearer "k") (.serial 3)] ∧
      ∃ c d, Runs bearerGuard (.empty .empty .epoch) crossing c ∧
        Runs bearerGuard (.empty .empty .epoch) (only bearerGuard key ρ crossing) d ∧
        Agrees bearerGuard key ρ c d := by
  intro key ρ
  have claims : (bearer "k").claims bearerGuard key = true := by decide +kernel
  have other : (bearer "other").claims bearerGuard key = false := by decide +kernel
  have renamed : ρ (.serial 2) = .serial 7 := Equiv.swap_apply_left _ _
  have kept : ρ (.serial 3) = .serial 3 :=
    Equiv.swap_apply_of_ne_of_ne (by decide +kernel) (by decide +kernel)
  obtain ⟨c, ran⟩ := exists_runs_crossing
  obtain ⟨d, ran', agrees, -⟩ := keys_isolated defaultKeyPrefix ran key ρ.injective
  refine ⟨ρ.injective, ?_, c, d, ran, ran', agrees⟩
  simp [only, crossing, onlyAfter, Act.only, Act.entrant?, placeAmong, claims, other, renamed, kept]

end Concourse

end Turnstile
