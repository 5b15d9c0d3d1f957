import Turnstile.Proofs.Store.View
import Turnstile.Store.Memory

/-!
What is seen of the store in memory. Records that have ended stay in the map until they are
overwritten, purged or removed by a holder who comes too late; none of this can be told from the
answers. Main statement: after a call one sees what `Sight.next` says, and every call but a purge
answers what it says (`perform_next`). So the store in memory has a view (`view`).
-/

namespace Turnstile.Memory

open Store

/-- What is seen of a state at a time. -/
def sight (s : State) (now : Instant) : Sight := live? s now

/-! ## Single operations -/

theorem sight_eq (s : State) (now : Instant) : sight s now = Sight.later s.find? now := rfl

/-- What is seen later was seen before. -/
theorem sight_of_le (s : State) {earlier now : Instant} (h : earlier ≤ now) :
    sight s now = (sight s earlier).later now :=
  (Sight.later_later s.find? h).symm

theorem sight_later_self (s : State) (now : Instant) : (sight s now).later now = sight s now :=
  (sight_of_le s (le_refl now)).symm

theorem sight_insert (s : State) (key : String) (r : Record) (now : Instant) :
    sight (s.insert key r) now = ((sight s now).put key (some r)).later now := by
  have lookUp : (s.insert key r).find? = Sight.put s.find? key (some r) := by
    funext k
    exact s.find?_insert key k r
  rw [sight_eq, lookUp, Sight.later_put, Sight.later_put, sight_later_self, sight_eq]

theorem sight_erase (s : State) (key : String) (now : Instant) :
    sight (s.erase key) now = ((sight s now).put key none).later now := by
  have lookUp : (s.erase key).find? = Sight.put s.find? key none := by
    funext k
    exact s.find?_erase key k
  rw [sight_eq, lookUp, Sight.later_put, Sight.later_put, sight_later_self, sight_eq]

/-- A purge removes nothing that is seen. -/
theorem sight_purge (s : State) (now : Instant) : sight (purge s now).state now = sight s now := by
  funext key
  show ((s.retain fun r => !r.isExpiredAt now).find? key).filter _ = (s.find? key).filter _
  rw [s.find?_retain, Option.filter_filter]
  simp only [Bool.and_self]

/-- A holder who comes too late removes nothing that is seen. -/
theorem sight_erase_of_expired {s : State} {key : String} {r : Record} {now : Instant}
    (found : s.find? key = some r) (expired : r.isExpiredAt now = true) :
    sight (s.erase key) now = sight s now := by
  have unseen : sight s now key = none := by
    simp [sight, live?, found, expired, Option.filter]
  rw [sight_erase, Sight.later_put, sight_later_self]
  funext k
  by_cases h : k = key
  · rw [h, Sight.put_self, unseen]
    rfl
  · exact Sight.put_of_ne _ _ h

theorem sight_of_find? {s : State} {key : String} {r : Record} {now : Instant}
    (found : s.find? key = some r) :
    sight s now key = if r.isExpiredAt now then none else some r := by
  rw [sight, live?, found]
  cases expired : r.isExpiredAt now <;> simp [Option.filter, expired]

/-! ## Calls -/

theorem grant_next {α : Type} (s : State) (m : Moment) (key : String) (lease : Span)
    (answer : Token → α) (as : α → Answer) :
    let step := grant s m key lease answer
    let next := (sight s m.now).grant m.now key m.fresh lease (as ∘ answer)
    sight step.state m.now = next.1.later m.now ∧ step.result.map as = next.2 := by
  unfold grant Sight.grant
  cases Record.pending? m.now key m.fresh lease with
  | none => exact ⟨(sight_later_self s m.now).symm, rfl⟩
  | some r => exact ⟨sight_insert s key r m.now, rfl⟩

theorem claim_next (s : State) (m : Moment) (key : String) (lease : Span) :
    let step := claim s m key lease
    let next := (sight s m.now).next ⟨m.now, .claim key lease m.fresh⟩
    sight step.state m.now = next.1.later m.now ∧ step.result.map .claim = next.2 := by
  simp only [claim, Sight.next, sight]
  cases live? s m.now key with
  | some existing => exact ⟨(sight_later_self s m.now).symm, rfl⟩
  | none => exact grant_next s m key lease .acquired .claim

theorem complete_next (s : State) (now : Instant) (key : String) (owner : Token)
    (outcome : Outcome) (window : Span) :
    let step := complete s now key owner outcome window
    let next := (sight s now).next ⟨now, .complete key owner outcome window⟩
    sight step.state now = next.1.later now ∧ step.result.map .finality = next.2 := by
  simp only [complete, Sight.next, sight]
  cases live? s now key with
  | none => exact ⟨(sight_later_self s now).symm, rfl⟩
  | some r =>
    simp only
    split
    · cases now.deadline? window with
      | none => exact ⟨sight_insert s key _ now, rfl⟩
      | some ends => exact ⟨sight_insert s key _ now, rfl⟩
    · exact ⟨(sight_later_self s now).symm, rfl⟩

theorem release_next (s : State) (now : Instant) (key : String) (owner : Token) :
    let step := release s now key owner
    let next := (sight s now).next ⟨now, .release key owner⟩
    sight step.state now = next.1.later now ∧ step.result.map .finality = next.2 := by
  simp only [release, Sight.next]
  cases found : s.find? key with
  | none =>
    have unseen : sight s now key = none := by simp [sight, live?, found]
    simp only [unseen, Option.any_none]
    exact ⟨(sight_later_self s now).symm, rfl⟩
  | some r =>
    simp only [sight_of_find? found]
    cases owned : r.isOwnedBy owner with
    | false =>
      cases expired : r.isExpiredAt now <;>
        simpa [step, owned, Attempt.map] using (sight_later_self s now).symm
    | true =>
      -- the map loses the record in either case, but only a live one is seen to go
      cases expired : r.isExpiredAt now with
      | true =>
        simp only [if_true, Option.any_none]
        refine ⟨?_, rfl⟩
        rw [if_neg Bool.false_ne_true, sight_later_self]
        exact sight_erase_of_expired found expired
      | false =>
        simp only [Bool.false_eq_true, if_false, Option.any_some, owned, if_true]
        exact ⟨sight_erase s key now, rfl⟩

/-- What a call leaves to be seen, and what it answers. -/
theorem perform_next (s : State) (t : Timed) :
    sight (store.perform s t).state t.now = ((sight s t.now).next t).1.later t.now ∧
      (t.call ≠ .purge → (store.perform s t).result = ((sight s t.now).next t).2) := by
  obtain ⟨now, call⟩ := t
  cases call with
  | claim key lease fresh =>
    have claimed := claim_next s ⟨now, fresh⟩ key lease
    exact ⟨claimed.1, fun _ => claimed.2⟩
  | seize key lease fresh =>
    have granted := grant_next s ⟨now, fresh⟩ key lease id .owner
    exact ⟨granted.1, fun _ => granted.2⟩
  | complete key owner outcome window =>
    have completed := complete_next s now key owner outcome window
    exact ⟨completed.1, fun _ => completed.2⟩
  | release key owner =>
    have released := release_next s now key owner
    exact ⟨released.1, fun _ => released.2⟩
  | read key => exact ⟨(sight_later_self s now).symm, fun _ => rfl⟩
  | purge =>
    refine ⟨?_, fun h => absurd rfl h⟩
    show sight (purge s now).state now = (sight s now).later now
    rw [sight_purge, sight_later_self]

/-- The view of the store in memory. -/
def view : View store where
  sight := sight
  sight_of_le := sight_of_le
  sight_perform s t := (perform_next s t).1
  result_perform s t := (perform_next s t).2

theorem blank_empty : view.Blank .empty := fun _ _ => rfl

end Turnstile.Memory
