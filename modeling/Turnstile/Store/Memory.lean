import Turnstile.Store.Basic
import Turnstile.Table

/-!
The store in memory: a map from keys to records. A record that has ended stays in the map until it
is overwritten or purged, and is never seen.
-/

namespace Turnstile.Memory

/-- The state of the store. -/
abbrev State := Table Record

/-- The record of a key, if it has not ended. -/
def live? (s : State) (now : Instant) (key : String) : Option Record :=
  (s.find? key).filter fun r => !r.isExpiredAt now

/-- A step without effects. -/
def step {α : Type} (s : State) (result : Attempt α) : Step State α := ⟨s, [], result⟩

/-- Grants a lease: the record is put under the key whatever stands there. -/
def grant {α : Type} (s : State) (m : Moment) (key : String) (lease : Span) (answer : Token → α) :
    Step State α :=
  match Record.pending? m.now key m.fresh lease with
  | some r => step (s.insert key r) (.done (answer m.fresh))
  | none => step s .overflow

/-- Grants a lease unless a record of the key has not ended. -/
def claim (s : State) (m : Moment) (key : String) (lease : Span) : Step State Claim :=
  match live? s m.now key with
  | some existing => step s (.done (.conflict existing))
  | none => grant s m key lease .acquired

/-- Caches an outcome for a pending record that has not ended and belongs to the token. The outcome
is put in before the new end is computed. -/
def complete (s : State) (now : Instant) (key : String) (owner : Token) (outcome : Outcome)
    (window : Span) : Step State Finality :=
  match live? s now key with
  | some r =>
    if r.isOwnedBy owner && r.isPending then
      let r := r.withOutcome outcome
      match now.deadline? window with
      | some expiresAt => step (s.insert key { r with expiresAt := expiresAt }) (.done .applied)
      | none => step (s.insert key r) .overflow
    else step s (.done .stale)
  | none => step s (.done .stale)

/-- Removes the record of a key if it belongs to the token; one that has ended counts as lost. -/
def release (s : State) (now : Instant) (key : String) (owner : Token) : Step State Finality :=
  match s.find? key with
  | some r =>
    if r.isOwnedBy owner then
      step (s.erase key) (.done (if r.isExpiredAt now then .stale else .applied))
    else step s (.done .stale)
  | none => step s (.done .stale)

/-- Removes every record that has ended. -/
def purge (s : State) (now : Instant) : Step State Nat :=
  let kept := s.retain fun r => !r.isExpiredAt now
  step kept (.done (s.size - kept.size))

/-- The name of the backend. -/
def backend : String := "memory"

/-- The store in memory. -/
def store : Store State where
  backend := backend
  claim := claim
  complete := complete
  release := release
  seize := fun s m key lease => grant s m key lease id
  read := fun s now key => step s (.done (live? s now key))
  purge := purge
  ping := fun s => step s (.done .prompt)

end Turnstile.Memory
