import Turnstile.Proofs.Memory.Sight

/-!
Owner tokens fence the end of a lease. Main statement: after any calls of the store in memory, an
outcome is cached for a token, or a record removed, exactly if the token is that of the last lease
on the key and this lease is still in force; a call that comes too late leaves no trace
(`finality_iff_standing`).
-/

namespace Turnstile.Memory

open Store

/-! ## The end of a lease -/

/-- Whether a call is made of a state or not cannot be told: whatever is called afterwards, every
key reads the same at every later time. -/
def Unnoticed (s s' : State) (now : Instant) : Prop :=
  ∀ (calls : List Timed) (later : Instant) (key : String), Chronological calls →
    (∀ t ∈ calls, now ≤ t.now) → (∀ t ∈ calls, t.now ≤ later) → now ≤ later →
      (store.read ((Journaled.of s').run store calls).inner later key).result =
        (store.read ((Journaled.of s).run store calls).inner later key).result

theorem unnoticed_of_sight {s s' : State} {now : Instant} (same : sight s' now = sight s now) :
    Unnoticed s s' now := by
  intro calls later key chronological after before le
  have seen := view.sight_run (.of s') (.of s) same chronological after before le
  show Attempt.done (view.sight _ later key) = Attempt.done (view.sight _ later key)
  rw [seen]

/-- A call whose answer says that the lease was lost goes unnoticed. -/
theorem unnoticed_of_stale {s s' : State} {now : Instant} {call : Call}
    (seen : sight s' now = ((sight s now).next ⟨now, call⟩).1.later now)
    (stale : ((sight s now).next ⟨now, call⟩).2 = .done (.finality .stale)) :
    Unnoticed s s' now := by
  apply unnoticed_of_sight
  rw [seen, Sight.fst_next_of_stale stale, sight_later_self]

theorem result_complete (s : State) {now : Instant} (key : String) (owner : Token)
    (outcome : Outcome) {window : Span} (inRange : window.InRange now) :
    (complete s now key owner outcome window).result =
      .done (if (sight s now key).any (fun r => r.isOwnedBy owner && r.isPending) then .applied
        else .stale) := by
  have answer := (complete_next s now key owner outcome window).2
  rw [Sight.snd_next_complete _ key owner outcome inRange] at answer
  obtain ⟨f, hf, same⟩ := Attempt.map_eq_done_iff.1 answer
  rw [hf, Answer.finality.inj same]

theorem result_release (s : State) (now : Instant) (key : String) (owner : Token) :
    (release s now key owner).result =
      .done (if (sight s now key).any (·.isOwnedBy owner) then .applied else .stale) := by
  have answer := (release_next s now key owner).2
  rw [Sight.snd_next_release] at answer
  obtain ⟨f, hf, same⟩ := Attempt.map_eq_done_iff.1 answer
  rw [hf, Answer.finality.inj same]

theorem done_ite_eq_applied_iff {b : Bool} :
    (Attempt.done (if b then Finality.applied else .stale) = .done .applied) ↔ b = true := by
  cases b <;> simp

theorem done_ite_ne_applied_iff {b : Bool} :
    (Attempt.done (if b then Finality.applied else .stale) ≠ .done .applied) ↔ b = false := by
  cases b <;> simp

/-- **Fencing.** After any calls of the store, an outcome is cached for a token exactly if the last
lease on the key was granted to it, is held and has not ended; a record is removed for a token
exactly if the last lease on the key was granted to it, was not removed and has not ended. In every
other case the call answers that the lease was lost, and goes unnoticed. -/
theorem finality_iff_standing (calls : List Timed) (chronological : Chronological calls)
    (inRange : ∀ t ∈ calls, t.InRange) (now : Instant) (before : ∀ t ∈ calls, t.now ≤ now)
    (key : String) (owner : Token) (outcome : Outcome) (window : Span)
    (windowInRange : window.InRange now) :
    let s := (Journaled.of .empty).run store calls
    let completed := store.complete s.inner now key owner outcome window
    let released := store.release s.inner now key owner
    (completed.result = .done .applied ↔ ∃ g, standing key s.journal = some g ∧
        g.owner = owner ∧ g.fate = .held ∧ now < g.ends) ∧
      (released.result = .done .applied ↔ ∃ g, standing key s.journal = some g ∧
        g.owner = owner ∧ g.fate ≠ .freed ∧ now < g.ends) ∧
      (completed.result ≠ .done .applied →
        completed.result = .done .stale ∧ Unnoticed s.inner completed.state now) ∧
      (released.result ≠ .done .applied →
        released.result = .done .stale ∧ Unnoticed s.inner released.state now) := by
  intro s completed released
  have faithful : sight s.inner now = expected s.journal now :=
    (View.faithful_run_of_blank blank_empty chronological inRange before).seen
  obtain ⟨seenC, answerC⟩ := complete_next s.inner now key owner outcome window
  obtain ⟨seenR, answerR⟩ := release_next s.inner now key owner
  have resultC := result_complete s.inner key owner outcome windowInRange
  have resultR := result_release s.inner now key owner
  refine ⟨?_, ?_, ?_, ?_⟩
  · rw [← any_expected_pending_iff, ← faithful, ← done_ite_eq_applied_iff, ← resultC]
    rfl
  · rw [← any_expected_owned_iff, ← faithful, ← done_ite_eq_applied_iff, ← resultR]
    rfl
  · intro refused
    have stale : completed.result = .done .stale := by
      show (complete s.inner now key owner outcome window).result = _
      have lost := done_ite_ne_applied_iff.1 (resultC ▸ refused)
      rw [resultC, lost]
      rfl
    refine ⟨stale, unnoticed_of_stale seenC ?_⟩
    rw [← answerC]
    exact Attempt.map_eq_done_iff.2 ⟨_, stale, rfl⟩
  · intro refused
    have stale : released.result = .done .stale := by
      show (release s.inner now key owner).result = _
      have lost := done_ite_ne_applied_iff.1 (resultR ▸ refused)
      rw [resultR, lost]
      rfl
    refine ⟨stale, unnoticed_of_stale seenR ?_⟩
    rw [← answerR]
    exact Attempt.map_eq_done_iff.2 ⟨_, stale, rfl⟩

/-- A lease of no length, and the lease that takes its place at once. -/
def reclaimed : List Timed :=
  [⟨.epoch, .claim "k" ⟨0⟩ (.serial 1)⟩, ⟨.epoch, .claim "k" ⟨1⟩ (.serial 2)⟩]

/-- The second lease of `reclaimed` can be completed; the first one cannot, and trying to goes
unnoticed. -/
theorem finality_iff_standing_reclaimed :
    let s := (Journaled.of .empty).run store reclaimed
    let completed owner := store.complete s.inner .epoch "k" owner ⟨200, .null⟩ ⟨1⟩
    Chronological reclaimed ∧ (∀ t ∈ reclaimed, t.InRange) ∧
      (∀ t ∈ reclaimed, t.now ≤ Instant.epoch) ∧ Span.InRange ⟨1⟩ .epoch ∧
      (∃ g, standing "k" s.journal = some g ∧ g.owner = .serial 2 ∧ g.fate = .held ∧
        Instant.epoch < g.ends) ∧
      (completed (.serial 1)).result = .done .stale ∧
      Unnoticed s.inner (completed (.serial 1)).state .epoch := by
  intro s completed
  have chronological : Chronological reclaimed := by
    unfold Chronological reclaimed
    decide
  have window : Span.InRange ⟨1⟩ .epoch := rfl
  have inRange : ∀ t ∈ reclaimed, t.InRange := by
    simp only [reclaimed, List.mem_cons, List.not_mem_nil, or_false, forall_eq_or_imp, forall_eq]
    constructor <;> (rintro _ ⟨⟩; rfl)
  have before : ∀ t ∈ reclaimed, t.now ≤ Instant.epoch := by simp [reclaimed]
  have holder := finality_iff_standing reclaimed chronological inRange .epoch before "k"
    (.serial 2) ⟨200, .null⟩ ⟨1⟩ window
  have displaced := finality_iff_standing reclaimed chronological inRange .epoch before "k"
    (.serial 1) ⟨200, .null⟩ ⟨1⟩ window
  have refused : (completed (.serial 1)).result = .done .stale := rfl
  refine ⟨chronological, inRange, before, window, holder.1.1 rfl, ?_⟩
  exact displaced.2.2.1 (by rw [refused]; simp)

end Turnstile.Memory
