import Turnstile.Proofs.Store.View

/-!
Completed records. A call leaves a completed record alone unless it seizes the key or is a release
by the holder of the record. Main statement: on any store with a view, such calls leave the record
to be seen until its end and no longer (`View.sight_run_settled`).
-/

namespace Turnstile.Store

variable {key : String} {r : Record}

/-- A call leaves the completed record of a key alone: it neither seizes the key nor is it a release
by the record's own token. -/
def Call.Keeps (key : String) (r : Record) : Call → Prop
  | .seize k _ _ => k ≠ key
  | .release k owner => k = key → owner ≠ r.owner
  | .claim .. | .complete .. | .read _ | .purge => True

instance (call : Call) : Decidable (call.Keeps key r) :=
  match call with
  | .seize k _ _ => inferInstanceAs (Decidable (k ≠ key))
  | .release k owner => inferInstanceAs (Decidable (k = key → owner ≠ r.owner))
  | .claim .. | .complete .. | .read _ | .purge => .isTrue trivial

/-- A completed record is seen unchanged after a call that leaves it alone. -/
theorem Sight.next_settled {v : Sight} {t : Timed} (seen : v key = some r)
    (completed : r.isCompleted = true) (kept : t.call.Keeps key r) :
    (v.next t).1 key = some r := by
  by_cases same : t.call.key? = some key
  · obtain ⟨now, call⟩ := t
    cases call with
    | claim k lease fresh =>
      cases same
      simp only [next, seen]
    | seize k lease fresh => exact absurd (Option.some.inj same) kept
    | complete k owner outcome window =>
      cases same
      have settled : r.isPending = false := by simp_all [Record.isCompleted, Record.isPending]
      simp only [next, seen, settled, Bool.and_false, Bool.false_eq_true, if_false]
    | release k owner =>
      cases same
      have other : r.isOwnedBy owner = false := by
        simpa [Record.isOwnedBy] using (kept rfl).symm
      simp only [next, seen, Option.any_some, other, Bool.false_eq_true, if_false]
    | read k => exact seen
    | purge => exact seen
  · rw [v.next_fst_of_ne t same, seen]

namespace View

variable {σ : Type} {st : Store σ} (w : View st)

/-- A completed record is seen until its end, and no longer, whatever calls that leave it alone are
taken before. -/
theorem sight_run_settled (s : Journaled σ) {now later : Instant} {calls : List Timed}
    (seen : w.sight s.inner now key = some r) (completed : r.isCompleted = true)
    (chronological : Chronological calls) (after : ∀ t ∈ calls, now ≤ t.now)
    (before : ∀ t ∈ calls, t.now ≤ later) (le : now ≤ later)
    (alive : ∀ t ∈ calls, t.now < r.expiresAt) (kept : ∀ t ∈ calls, t.call.Keeps key r) :
    w.sight (s.run st calls).inner later key =
      (some r).filter fun r => !r.isExpiredAt later := by
  induction calls generalizing s now with
  | nil =>
    show w.sight s.inner later key = _
    rw [w.sight_of_le _ le, Sight.later, seen]
  | cons t rest ih =>
    obtain ⟨first, others⟩ := List.pairwise_cons.1 chronological
    have ongoing : r.isExpiredAt t.now = false :=
      Instant.le_eq_false_iff.2 (alive t List.mem_cons_self)
    have seen' : w.sight s.inner t.now key = some r := by
      rw [w.sight_of_le _ (after t List.mem_cons_self), Sight.later, seen, Option.filter_some,
        ongoing]
      rfl
    have stays : w.sight (s.take st t).inner t.now key = some r := by
      rw [w.sight_take, Sight.later,
        Sight.next_settled seen' completed (kept t List.mem_cons_self), Option.filter_some, ongoing]
      rfl
    exact ih (s.take st t) stays others first (fun u hu => before u (List.mem_cons_of_mem _ hu))
      (before t List.mem_cons_self) (fun u hu => alive u (List.mem_cons_of_mem _ hu))
      (fun u hu => kept u (List.mem_cons_of_mem _ hu))

end View

end Turnstile.Store
