import Turnstile.Proofs.Guard.Concourse

/-!
What is done in a concourse, by name: a step is an act, and a run is a list of acts. Main
statements: the steps are the acts (`Concourse.step_iff_exists_does`), what is reached is what runs
reach (`Concourse.reaches_iff_exists_runs`), where an act leads is settled by the act
(`Concourse.Does.unique`), and what every visit keeps as it goes on holds of all visits
(`Concourse.Reaches.forall_visits`).
-/

namespace Turnstile

open Store

variable {σ ε : Type}

/-- What a call does once it was opened. -/
inductive Move (ε : Type)
  | start
  | finish (ending : Ending ε)
  | conclude
  | resolve
  | leave

/-- What is done in a concourse: the clock moves on, the store is purged, a caller enters with a
fresh token, or the visit at some place goes on. -/
inductive Act (ε : Type)
  | tick (now : Instant)
  | purge
  | enter (caller : Caller) (fresh : Token)
  | move (i : Nat) (move : Move ε)

/-- A visit goes on: what it leaves of the store and of itself. -/
inductive Visit.Moves (g : Guard σ) (s : Journaled σ) (now : Instant) (v : Visit ε) :
    Move ε → Journaled σ → Visit ε → Prop
  | start {lease : Lease} (leased : v.lease? = some lease) (waiting : v.progress = .waiting) :
      Moves g s now v .start s { v with progress := .working }
  | finish {lease : Lease} {ending : Ending ε} (leased : v.lease? = some lease)
      (working : v.progress = .working) :
      Moves g s now v (.finish ending) s { v with progress := .ended ending }
  | conclude {lease : Lease} {ending : Ending ε} {t : Traced (Journaled σ) (Conclusion ε)}
      (leased : v.lease? = some lease) (ended : v.progress = .ended ending)
      (concludes : t = g.journaled.conclude lease v.caller.policy.window ending s now) :
      Moves g s now v .conclude t.state { v with progress := .concluded ending t.value }
  | resolve {lease : Lease} {ending : Ending ε} {conclusion : Conclusion ε}
      {t : Traced (Journaled σ) (Except (CallError ε) Outcome)} (leased : v.lease? = some lease)
      (concluded : v.progress = .concluded ending conclusion) (stays : v.gone = false)
      (resolves : t = g.journaled.resolve lease conclusion s now) :
      Moves g s now v .resolve t.state { v with progress := .resolved ending conclusion t.value }
  | leave (unresolved : ¬v.IsResolved) : Moves g s now v .leave s { v with gone := true }

theorem Visit.Moves.unique {g : Guard σ} {s s₁ s₂ : Journaled σ} {now : Instant}
    {v v₁ v₂ : Visit ε} {move : Move ε} (h₁ : v.Moves g s now move s₁ v₁)
    (h₂ : v.Moves g s now move s₂ v₂) : s₁ = s₂ ∧ v₁ = v₂ := by
  cases h₁ with
  | start leased waiting =>
    cases h₂
    exact ⟨rfl, rfl⟩
  | finish leased working =>
    cases h₂
    exact ⟨rfl, rfl⟩
  | conclude leased ended concludes =>
    cases h₂ with
    | conclude leased' ended' concludes' =>
      cases leased.symm.trans leased'
      cases ended.symm.trans ended'
      cases concludes.trans concludes'.symm
      exact ⟨rfl, rfl⟩
  | resolve leased concluded stays resolves =>
    cases h₂ with
    | resolve leased' concluded' stays' resolves' =>
      cases leased.symm.trans leased'
      cases concluded.symm.trans concluded'
      cases resolves.trans resolves'.symm
      exact ⟨rfl, rfl⟩
  | leave unresolved =>
    cases h₂
    exact ⟨rfl, rfl⟩

namespace Concourse

/-- One step, by what is done. -/
inductive Does (g : Guard σ) (c : Concourse σ ε) : Act ε → Concourse σ ε → Prop
  | tick {now : Instant} (later : c.clock ≤ now) : Does g c (.tick now) { c with clock := now }
  | purge : Does g c .purge { c with store := (g.journaled.store.purge c.store c.clock).state }
  | enter (caller : Caller) {fresh : Token} (new : ∀ v ∈ c.visits, v.owner? ≠ some fresh) :
      Does g c (.enter caller fresh) (c.receive g caller fresh)
  | move {i : Nat} {v v' : Visit ε} {move : Move ε} {s : Journaled σ} (here : c.visits[i]? = some v)
      (moves : v.Moves g c.store c.clock move s v') :
      Does g c (.move i move) { c.put i v' with store := s }

/-- What is reached by a list of acts. -/
inductive Runs (g : Guard σ) (start : Concourse σ ε) : List (Act ε) → Concourse σ ε → Prop
  | nil : Runs g start [] start
  | snoc {acts : List (Act ε)} {act : Act ε} {c c' : Concourse σ ε} (ran : Runs g start acts c)
      (does : Does g c act c') : Runs g start (acts ++ [act]) c'

variable {g : Guard σ} {start c c' c₁ c₂ : Concourse σ ε}

/-- Every step is an act, and every act a step. -/
theorem step_iff_exists_does : Step g c c' ↔ ∃ act, Does g c act c' := by
  constructor
  · intro step
    cases step with
    | tick later => exact ⟨_, .tick later⟩
    | purge => exact ⟨_, .purge⟩
    | enter caller new => exact ⟨_, .enter caller new⟩
    | start here leased waiting => exact ⟨_, .move here (.start leased waiting)⟩
    | finish ending here leased working => exact ⟨_, .move here (.finish leased working)⟩
    | conclude here leased ended => exact ⟨_, .move here (.conclude leased ended rfl)⟩
    | resolve here leased concluded stays =>
      exact ⟨_, .move here (.resolve leased concluded stays rfl)⟩
    | leave here unresolved => exact ⟨_, .move here (.leave unresolved)⟩
  · rintro ⟨act, does⟩
    cases does with
    | tick later => exact .tick later
    | purge => exact .purge c
    | enter caller new => exact .enter caller new
    | move here moves =>
      cases moves with
      | start leased waiting => exact .start here leased waiting
      | finish leased working => exact .finish _ here leased working
      | conclude leased ended concludes =>
        subst concludes
        exact .conclude here leased ended
      | resolve leased concluded stays resolves =>
        subst resolves
        exact .resolve here leased concluded stays
      | leave unresolved => exact .leave here unresolved

/-- An act leads to one place only. -/
theorem Does.unique {act : Act ε} (h₁ : Does g c act c₁) (h₂ : Does g c act c₂) : c₁ = c₂ := by
  cases h₁ with
  | tick later =>
    cases h₂
    rfl
  | purge =>
    cases h₂
    rfl
  | enter caller new =>
    cases h₂
    rfl
  | move here moves =>
    cases h₂ with
    | move here' moves' =>
      cases here.symm.trans here'
      obtain ⟨rfl, rfl⟩ := moves.unique moves'
      rfl

/-- What is reached is what a run reaches. -/
theorem reaches_iff_exists_runs : Reaches g start c ↔ ∃ acts, Runs g start acts c := by
  constructor
  · intro reached
    induction reached with
    | refl => exact ⟨[], .nil⟩
    | step reached step ih =>
      obtain ⟨acts, ran⟩ := ih
      obtain ⟨act, does⟩ := step_iff_exists_does.1 step
      exact ⟨_, ran.snoc does⟩
  · rintro ⟨acts, ran⟩
    induction ran with
    | nil => exact .refl
    | snoc ran does ih => exact .step ih (step_iff_exists_does.2 ⟨_, does⟩)

/-- What holds of every visit at its entrance, and stays when the visit goes on, holds of all
visits. -/
theorem Reaches.forall_visits {P : Visit ε → Prop} {inner : σ} {clock : Instant}
    (reached : Reaches g (.empty inner clock) c)
    (entered : ∀ (caller : Caller) (since : Instant) (opening : Opening),
      P ⟨caller, since, opening, .waiting, false⟩)
    (moved : ∀ {s s' : Journaled σ} {now : Instant} {v v' : Visit ε} {move : Move ε},
      v.Moves g s now move s' v' → P v → P v') : ∀ v ∈ c.visits, P v := by
  induction reached with
  | refl => exact fun v hv => by cases hv
  | step _ step ih =>
    obtain ⟨act, does⟩ := step_iff_exists_does.1 step
    intro x hx
    cases does with
    | tick later => exact ih x hx
    | purge => exact ih x hx
    | enter caller new =>
      rcases List.mem_append.1 hx with hx | hx
      · exact ih x hx
      · rw [List.mem_singleton.1 hx]
        exact entered ..
    | move here moves =>
      rcases List.mem_or_eq_of_mem_set hx with hx | rfl
      · exact ih x hx
      · exact moved moves (ih _ (List.mem_of_getElem? here))

/-- A run may be cut anywhere. -/
theorem runs_append_iff {before after : List (Act ε)} :
    Runs g start (before ++ after) c ↔ ∃ m, Runs g start before m ∧ Runs g m after c := by
  constructor
  · intro ran
    induction after using List.reverseRecOn generalizing c with
    | nil => exact ⟨c, by simpa using ran, .nil⟩
    | append_singleton after act ih =>
      rw [← List.append_assoc] at ran
      generalize whole : before ++ after ++ [act] = acts at ran
      cases ran with
      | nil => simp at whole
      | snoc ran does =>
        obtain ⟨rfl, same⟩ := List.append_inj' whole rfl
        cases same
        obtain ⟨m, first, second⟩ := ih ran
        exact ⟨m, first, second.snoc does⟩
  · rintro ⟨m, first, second⟩
    induction second with
    | nil => simpa using first
    | snoc second does ih =>
      rw [← List.append_assoc]
      exact ih.snoc does

/-- A run leads to one place only. -/
theorem Runs.unique {acts : List (Act ε)} (h₁ : Runs g start acts c₁) (h₂ : Runs g start acts c₂) :
    c₁ = c₂ := by
  induction h₁ generalizing c₂ with
  | nil =>
    generalize none : ([] : List (Act ε)) = acts at h₂
    cases h₂ with
    | nil => rfl
    | snoc ran does => simp at none
  | @snoc acts act c c' ran does ih =>
    generalize whole : acts ++ [act] = more at h₂
    cases h₂ with
    | nil => simp at whole
    | snoc ran' does' =>
      obtain ⟨rfl, same⟩ := List.append_inj' whole rfl
      cases same
      cases ih ran'
      exact does.unique does'

end Concourse

end Turnstile
