import Turnstile.Proofs.Store.Standing

/-!
Views of a store. A view says what is seen of a state at a time, and its laws say that the store
answers from what is seen and from nothing else. Main statements: two states of which the same is
seen cannot be told apart (`View.sight_run`), and a store that starts without records always shows
what its journal lets one expect (`View.faithful_run_of_blank`).
-/

namespace Turnstile.Store

/-- What is seen of a store, with the laws that make it a view:

* `sight_of_le`: what is seen later was seen before;
* `sight_perform`: after a call one sees what `Sight.next` says;
* `result_perform`: every call but a purge answers what `Sight.next` says. -/
structure View {σ : Type} (st : Store σ) where
  sight : σ → Instant → Sight
  sight_of_le : ∀ (s : σ) {earlier now : Instant}, earlier ≤ now →
    sight s now = (sight s earlier).later now
  sight_perform : ∀ (s : σ) (t : Timed),
    sight (st.perform s t).state t.now = ((sight s t.now).next t).1.later t.now
  result_perform : ∀ (s : σ) (t : Timed), t.call ≠ .purge →
    (st.perform s t).result = ((sight s t.now).next t).2

/-- Every answer of a journal but that of a purge is the one that the calls before let one
expect. -/
def Answered (journal : List Entry) : Prop :=
  Throughout (fun before e => e.call ≠ .purge →
    e.answer = ((expected before e.now).next e.toTimed).2) journal

namespace View

variable {σ : Type} {st : Store σ} (w : View st)

theorem sight_later_self (s : σ) (now : Instant) : (w.sight s now).later now = w.sight s now :=
  (w.sight_of_le s (le_refl now)).symm

theorem sight_take (s : Journaled σ) (t : Timed) :
    w.sight (s.take st t).inner t.now = ((w.sight s.inner t.now).next t).1.later t.now :=
  w.sight_perform s.inner t

/-- A store with a view grants leases to the tokens that it is brought. -/
theorem grantsFresh (w : View st) : GrantsFresh st where
  claim s m key lease owner granted := by
    have answer := w.result_perform s ⟨m.now, .claim key lease m.fresh⟩ (by simp)
    simp only [perform, perform.as, granted, Attempt.map, Sight.next, Sight.grant] at answer
    split at answer
    · simp at answer
    · split at answer <;> simp_all
  seize s m key lease owner granted := by
    have answer := w.result_perform s ⟨m.now, .seize key lease m.fresh⟩ (by simp)
    simp only [perform, perform.as, granted, Attempt.map, Sight.next, Sight.grant] at answer
    split at answer <;> simp_all

/-- Two states of which the same is seen now cannot be told apart later, whatever happens to both.
-/
theorem sight_run (s s' : Journaled σ) {now later : Instant} {calls : List Timed}
    (same : w.sight s.inner now = w.sight s'.inner now) (chronological : Chronological calls)
    (after : ∀ t ∈ calls, now ≤ t.now) (before : ∀ t ∈ calls, t.now ≤ later)
    (le : now ≤ later) :
    w.sight (s.run st calls).inner later = w.sight (s'.run st calls).inner later := by
  induction calls generalizing s s' now with
  | nil =>
    show w.sight s.inner later = w.sight s'.inner later
    rw [w.sight_of_le _ le, w.sight_of_le s'.inner le, same]
  | cons t rest ih =>
    obtain ⟨first, others⟩ := List.pairwise_cons.1 chronological
    have le' : now ≤ t.now := after t List.mem_cons_self
    have same' : w.sight s.inner t.now = w.sight s'.inner t.now := by
      rw [w.sight_of_le _ le', w.sight_of_le s'.inner le', same]
    rw [Journaled.run_cons, Journaled.run_cons]
    refine ih _ _ ?_ others first (fun u hu => before u (List.mem_cons_of_mem _ hu))
      (before t List.mem_cons_self)
    rw [w.sight_take, w.sight_take, same']

/-! ## What the journal lets one expect -/

/-- The journal tells all: one sees what it lets one expect, and so it was at each of its calls. -/
structure Faithful (s : Journaled σ) (now : Instant) : Prop where
  seen : w.sight s.inner now = expected s.journal now
  answered : Answered s.journal

namespace Faithful

variable {w} {s : Journaled σ} {now : Instant}

theorem later {later : Instant} (h : w.Faithful s now) (le : now ≤ later) :
    w.Faithful s later where
  seen := by rw [w.sight_of_le _ le, expected_of_le _ le, h.seen]
  answered := h.answered

/-- A call keeps the journal faithful. -/
theorem take {t : Timed} (h : w.Faithful s t.now) (inRange : t.InRange) :
    w.Faithful (s.take st t) t.now := by
  have seen := w.sight_perform s.inner t
  have answered := w.result_perform s.inner t
  rw [h.seen] at seen answered
  let e : Entry := ⟨t, (st.perform s.inner t).result⟩
  exact ⟨seen.trans (expected_append (e := e) inRange answered).symm,
    Throughout.append (e := e) h.answered answered⟩

/-- Calls one after the other keep the journal faithful. -/
theorem run {calls : List Timed} {later : Instant} (h : w.Faithful s now)
    (chronological : Chronological calls) (inRange : ∀ t ∈ calls, t.InRange)
    (after : ∀ t ∈ calls, now ≤ t.now) (before : ∀ t ∈ calls, t.now ≤ later) (le : now ≤ later) :
    w.Faithful (s.run st calls) later := by
  induction calls generalizing s now with
  | nil => exact h.later le
  | cons t rest ih =>
    obtain ⟨first, others⟩ := List.pairwise_cons.1 chronological
    have taken : w.Faithful (s.take st t) t.now :=
      (h.later (after t List.mem_cons_self)).take (inRange t List.mem_cons_self)
    exact ih taken others (fun u hu => inRange u (List.mem_cons_of_mem _ hu)) first
      (fun u hu => before u (List.mem_cons_of_mem _ hu)) (before t List.mem_cons_self)

end Faithful

/-- A state of which nothing is seen at any time. -/
def Blank (inner : σ) : Prop := ∀ now key, w.sight inner now key = none

variable {w}

theorem Blank.faithful {inner : σ} (blank : w.Blank inner) (now : Instant) :
    w.Faithful (.of inner) now where
  seen := funext (blank now)
  answered := .nil

/-- Any calls of a store without records keep the journal faithful. -/
theorem faithful_run_of_blank {inner : σ} (blank : w.Blank inner) {calls : List Timed}
    {now : Instant} (chronological : Chronological calls) (inRange : ∀ t ∈ calls, t.InRange)
    (before : ∀ t ∈ calls, t.now ≤ now) : w.Faithful ((Journaled.of inner).run st calls) now := by
  cases calls with
  | nil => exact blank.faithful now
  | cons first rest =>
    exact (blank.faithful first.now).run chronological inRange chronological.first_le before
      (before first List.mem_cons_self)

end View

end Turnstile.Store
