import Turnstile.Cleanup
import Turnstile.Proofs.Memory.Sight

/-!
Purges. Main statements: of a store with a view no other call can tell where it was purged
(`View.Swept.run`); and a purge of the store in memory removes the records that have ended and no
other, and counts them (`Memory.purge_eq`). Both together say what the cleanup job may do to a store
at any time (`Memory.purge_invisible`).
-/

namespace Turnstile

/-! ## Purged stores -/

namespace Store

variable {σ : Type} {st : Store σ}

/-- Two stores took the same calls, save purges of the first: the same is seen of both, and they
gave the same answers. -/
structure View.Swept (w : View st) (now : Instant) (s s' : Journaled σ) : Prop where
  seen : w.sight s.inner now = w.sight s'.inner now
  journal : s'.journal = s.journal.filter (!·.call.isPurge)

namespace View.Swept

variable {w : View st} {now : Instant} {s s' : Journaled σ} {t : Timed}

theorem later {earlier : Instant} (h : w.Swept earlier s s') (le : earlier ≤ now) :
    w.Swept now s s' where
  seen := by rw [w.sight_of_le _ le, w.sight_of_le s'.inner le, h.seen]
  journal := h.journal

/-- The first store is purged. -/
theorem purge (h : w.Swept t.now s s') (purged : t.call.isPurge = true) :
    w.Swept t.now (s.take st t) s' where
  seen := by
    rw [w.sight_take, ← h.seen, Sight.next, Call.isPurge_iff.1 purged]
    exact w.sight_later_self s.inner t.now
  journal := by
    rw [Journaled.journal_take, List.filter_append, h.journal]
    simp [Journaled.entry, purged]

/-- Both stores take another call. -/
theorem take (h : w.Swept t.now s s') (kept : t.call.isPurge = false) :
    w.Swept t.now (s.take st t) (s'.take st t) where
  seen := by rw [w.sight_take, w.sight_take, h.seen]
  journal := by
    have other : t.call ≠ .purge := fun purge => by simp [purge, Call.isPurge] at kept
    have same : s'.entry st t = s.entry st t := by
      rw [Journaled.entry, Journaled.entry, w.result_perform _ t other,
        w.result_perform _ t other, h.seen]
    rw [Journaled.journal_take, Journaled.journal_take, List.filter_append, h.journal, same]
    simp [Journaled.entry, kept]

/-- Both stores take the same calls, and the first one is purged in between. -/
theorem run {calls : List Timed} (h : w.Swept now s s') (chronological : Chronological calls)
    (after : ∀ t ∈ calls, now ≤ t.now) :
    ∃ last, w.Swept last (s.run st calls) (s'.run st (calls.filter (!·.call.isPurge))) := by
  induction calls generalizing s s' now with
  | nil => exact ⟨now, h⟩
  | cons t rest ih =>
    obtain ⟨first, others⟩ := List.pairwise_cons.1 chronological
    have here := h.later (after t List.mem_cons_self)
    rw [Journaled.run_cons]
    cases kept : t.call.isPurge with
    | true =>
      rw [List.filter_cons_of_neg (by simp [kept])]
      exact ih (here.purge kept) others first
    | false =>
      rw [List.filter_cons_of_pos (by simp [kept]), Journaled.run_cons]
      exact ih (here.take kept) others first

end View.Swept

/-- No call but a purge is answered otherwise because the store was purged. -/
theorem View.journal_run_filter (w : View st) (inner : σ) {calls : List Timed}
    (chronological : Chronological calls) :
    ((Journaled.of inner).run st (calls.filter (!·.call.isPurge))).journal =
      ((Journaled.of inner).run st calls).journal.filter (!·.call.isPurge) := by
  cases calls with
  | nil => rfl
  | cons t rest =>
    have start : w.Swept t.now (.of inner) (.of inner) := ⟨rfl, rfl⟩
    obtain ⟨last, swept⟩ := start.run chronological chronological.first_le
    exact swept.journal

end Store

/-! ## The store in memory -/

theorem Table.retain_retain {α : Type} (t : Table α) (keep : α → Bool) :
    (t.retain keep).retain keep = t.retain keep := by
  simp [retain, List.filter_filter]

namespace Memory

open Store

/-- The number of records that have ended. -/
def ended (s : State) (now : Instant) : Nat :=
  s.entries.countP fun entry => entry.2.isExpiredAt now

/-- The records that have ended are all that a purge takes from a state. -/
theorem ended_add_size (s : State) (now : Instant) :
    ended s now + (s.retain fun r => !r.isExpiredAt now).size = s.size := by
  have parts := List.length_eq_countP_add_countP (fun entry : String × Record =>
    entry.2.isExpiredAt now) (l := s.entries)
  rw [ended, Table.size, Table.retain, ← List.countP_eq_length_filter, Table.size, parts]
  simp

/-- A purge keeps the records that have not ended, as they are, and counts the others. -/
theorem purge_eq (s : State) (now : Instant) :
    purge s now = step (s.retain fun r => !r.isExpiredAt now) (.done (ended s now)) := by
  have gone : s.size - (s.retain fun r => !r.isExpiredAt now).size = ended s now := by
    rw [← ended_add_size s now, Nat.add_sub_cancel]
  rw [purge, gone]

theorem ended_retain (s : State) (now : Instant) :
    ended (s.retain fun r => !r.isExpiredAt now) now = 0 := by
  rw [ended, List.countP_eq_zero]
  intro entry mem
  simpa using (List.mem_filter.1 mem).2

/-- A second purge at the same time finds nothing to remove. -/
theorem purge_purge (s : State) (now : Instant) :
    purge (purge s now).state now = step (purge s now).state (.done 0) := by
  rw [purge_eq s, step, purge_eq, ended_retain, Table.retain_retain]

/-- A record is there after a purge exactly if it was there before and has not ended. -/
theorem find?_purge (s : State) (now : Instant) (key : String) (r : Record) :
    (purge s now).state.find? key = some r ↔ s.find? key = some r ∧ now < r.expiresAt := by
  rw [purge_eq, step, Table.find?_retain, Option.filter_eq_some_iff, Bool.not_eq_true',
    ← Instant.le_eq_false_iff]
  rfl

/-- **Purges are invisible.** Whatever a store in memory holds and wherever it is purged in a course
of calls, every other call is answered as it is without the purges. A purge counts what it removes:
every record that has ended is gone, and the others stay as they are and where they are. Another
purge at the same time removes nothing, and a turn of the cleanup job is a purge. -/
theorem purge_invisible :
    (∀ (s : State) (calls : List Timed), Chronological calls →
      ((Journaled.of s).run store (calls.filter (!·.call.isPurge))).journal =
        ((Journaled.of s).run store calls).journal.filter (!·.call.isPurge)) ∧
    ∀ (s : State) (now : Instant),
      let purged := store.purge s now
      purged.result = .done (ended s now) ∧ ended s now + purged.state.size = s.size ∧
      purged.state.entries = s.entries.filter (fun entry => now < entry.2.expiresAt) ∧
      (∀ key r, purged.state.find? key = some r ↔ s.find? key = some r ∧ now < r.expiresAt) ∧
      store.purge purged.state now = ⟨purged.state, [], .done 0⟩ ∧
      (Cleanup.tick store s now).state = purged.state := by
  refine ⟨fun s calls chronological => view.journal_run_filter s chronological, ?_⟩
  intro s now purged
  have kept : purged.state = s.retain fun r => !r.isExpiredAt now :=
    congrArg Step.state (purge_eq s now)
  refine ⟨congrArg Step.result (purge_eq s now), ?_, ?_, find?_purge s now, purge_purge s now, rfl⟩
  · rw [kept, ended_add_size]
  · rw [kept, Table.retain]
    refine List.filter_congr fun entry _ => ?_
    rw [Bool.eq_iff_iff, Bool.not_eq_true', Record.isExpiredAt,
      Instant.le_eq_false_iff, decide_eq_true_iff]

/-! ### A late holder -/

/-- A lease of no length, a purge that removes it, and a release that comes too late for it. -/
def lateRelease : List Timed :=
  [⟨.epoch, .claim "k" ⟨0⟩ (.serial 1)⟩, ⟨.epoch, .purge⟩, ⟨.epoch, .release "k" (.serial 1)⟩]

/-- The holder of a lease that was purged gets the answer that it would get if the record still
stood there; the purge removes one record, and another one none. -/
theorem purge_invisible_lateRelease :
    let s := (Journaled.of .empty).run store (lateRelease.take 1)
    Chronological lateRelease ∧
      ((Journaled.of .empty).run store lateRelease).journal.filter (!·.call.isPurge) =
        ((Journaled.of .empty).run store
          [⟨.epoch, .claim "k" ⟨0⟩ (.serial 1)⟩, ⟨.epoch, .release "k" (.serial 1)⟩]).journal ∧
      (store.purge s.inner .epoch).result = .done 1 ∧
      (store.purge (store.purge s.inner .epoch).state .epoch).result = .done 0 := by
  have chronological : Chronological lateRelease := by
    unfold Chronological lateRelease
    decide
  intro s
  obtain ⟨invisible, purges⟩ := purge_invisible
  obtain ⟨counted, -, -, -, again, -⟩ := purges s.inner .epoch
  exact ⟨chronological, (invisible .empty lateRelease chronological).symm, counted,
    congrArg Step.result again⟩

end Memory

end Turnstile
