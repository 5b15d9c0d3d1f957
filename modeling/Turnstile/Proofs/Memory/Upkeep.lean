import Turnstile.Proofs.Store.Journal
import Turnstile.Store.Memory

/-!
What all records in memory share, seen or not. Main statements: a property that fresh leases have,
and that records keep when an outcome is put into them, stays a property of every record in the map
(`every_perform`, `every_run`), be the calls answered or broken off.
-/

namespace Turnstile.Memory

open Store

/-- Every record of a state has a property under its key. -/
def Every (P : String → Record → Prop) (s : State) : Prop :=
  ∀ key r, s.find? key = some r → P key r

variable {P : String → Record → Prop} {s : State}

namespace Every

theorem empty : Every P .empty := by
  intro key r found
  cases found

theorem insert (every : Every P s) {key : String} {r : Record} (has : P key r) :
    Every P (s.insert key r) := by
  intro k r' found
  rw [s.find?_insert] at found
  split at found
  · rename_i same
    cases found
    exact same ▸ has
  · exact every k r' found

theorem erase (every : Every P s) (key : String) : Every P (s.erase key) := by
  intro k r found
  rw [s.find?_erase] at found
  split at found
  · cases found
  · exact every k r found

theorem retain (every : Every P s) (keep : Record → Bool) : Every P (s.retain keep) := by
  intro k r found
  rw [s.find?_retain, Option.filter_eq_some_iff] at found
  exact every k r found.1

theorem of_live? (every : Every P s) {now : Instant} {key : String} {r : Record}
    (seen : live? s now key = some r) : P key r :=
  every key r (Option.filter_eq_some_iff.1 seen).1

end Every

/-- A call keeps a property: a lease that it grants has the property, and a record that has it keeps
it when an outcome is put in, with its old end as with a new one. -/
structure Keeps (P : String → Record → Prop) (e : Entry) : Prop where
  granted : ∀ a r, e.grant? = some a →
    Record.pending? a.since a.key a.owner a.lease = some r → P a.key r
  completed : ∀ key owner outcome window r, e.call = .complete key owner outcome window → P key r →
    P key (r.withOutcome outcome) ∧ ∀ ends, P key { r.withOutcome outcome with expiresAt := ends }

/-- A call that keeps a property of all records leaves it a property of all records. -/
theorem every_perform {t : Timed} (every : Every P s)
    (keeps : Keeps P ⟨t, (store.perform s t).result⟩) : Every P (store.perform s t).state := by
  obtain ⟨now, call⟩ := t
  cases call with
  | claim key lease fresh =>
    have granted := keeps.granted
    show Every P (claim s ⟨now, fresh⟩ key lease).state
    simp only [perform, perform.as, store, claim, grant] at granted ⊢
    cases seen : live? s now key with
    | some existing => exact every
    | none =>
      cases pending : Record.pending? now key fresh lease with
      | none => exact every
      | some r =>
        simp only [seen, pending] at granted
        exact every.insert (granted ⟨key, fresh, now, lease, false⟩ r rfl pending)
  | seize key lease fresh =>
    have granted := keeps.granted
    show Every P (grant s ⟨now, fresh⟩ key lease id).state
    simp only [perform, perform.as, store, grant] at granted ⊢
    cases pending : Record.pending? now key fresh lease with
    | none => exact every
    | some r =>
      simp only [pending] at granted
      exact every.insert (granted ⟨key, fresh, now, lease, true⟩ r rfl pending)
  | complete key owner outcome window =>
    show Every P (complete s now key owner outcome window).state
    rw [complete]
    cases seen : live? s now key with
    | none => exact every
    | some r =>
      obtain ⟨put, dated⟩ :=
        keeps.completed key owner outcome window r rfl (every.of_live? seen)
      dsimp only
      split
      · split
        · exact every.insert (dated _)
        · exact every.insert put
      · exact every
  | release key owner =>
    show Every P (release s now key owner).state
    rw [release]
    cases s.find? key with
    | none => exact every
    | some r =>
      dsimp only
      split
      · exact every.erase key
      · exact every
  | read key => exact every
  | purge => exact every.retain _

/-- Calls that keep a property of all records leave it a property of all records. -/
theorem every_run {s : Journaled State} {calls : List Timed} (every : Every P s.inner)
    (keeps : ∀ e ∈ (s.run store calls).journal, Keeps P e) :
    Every P (s.run store calls).inner := by
  induction calls generalizing s with
  | nil => exact every
  | cons t rest ih =>
    rw [Journaled.run_cons] at keeps ⊢
    refine ih (every_perform every (keeps (s.entry store t) ?_)) keeps
    obtain ⟨new, added, -⟩ := Journaled.exists_journal_run store (s.take store t) rest
    rw [added]
    simp

end Turnstile.Memory
