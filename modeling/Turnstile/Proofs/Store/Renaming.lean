import Turnstile.Proofs.Store.View

/-!
Other tokens for the same leases. A renaming gives every token another, no two tokens the same.
Stores look at tokens only to compare them, so calls with other tokens are answered with other
tokens and in no other way. Main statements: so it is for what is seen of the key of a call and for
its answer, whatever is seen of other keys (`Sight.next_rename`); two stores that are alike in what
they tell of a key stay so (`View.Alike.take`), and calls about other keys do not change that
(`View.Alike.take_left`).
-/

namespace Turnstile

/-- A record under another token. -/
def Record.rename (ρ : Token → Token) (r : Record) : Record := { r with owner := ρ r.owner }

namespace Store

/-! ## Calls and answers -/

/-- A claim answered with other tokens. -/
def renameClaim (ρ : Token → Token) : Claim → Claim
  | .acquired owner => .acquired (ρ owner)
  | .conflict existing => .conflict (existing.rename ρ)

/-- A call with other tokens. -/
def Call.rename (ρ : Token → Token) : Call → Call
  | .claim key lease fresh => .claim key lease (ρ fresh)
  | .seize key lease fresh => .seize key lease (ρ fresh)
  | .complete key owner outcome window => .complete key (ρ owner) outcome window
  | .release key owner => .release key (ρ owner)
  | .read key => .read key
  | .purge => .purge

/-- An answer with other tokens. -/
def Answer.rename (ρ : Token → Token) : Answer → Answer
  | .claim value => .claim (renameClaim ρ value)
  | .owner value => .owner (ρ value)
  | .finality value => .finality value
  | .record value => .record (value.map (Record.rename ρ))
  | .count value => .count value

/-- A call at its time, with other tokens. -/
def Timed.rename (ρ : Token → Token) (t : Timed) : Timed := ⟨t.now, t.call.rename ρ⟩

/-- A call that was taken and its answer, with other tokens. -/
def Entry.rename (ρ : Token → Token) (e : Entry) : Entry :=
  ⟨e.toTimed.rename ρ, e.answer.map (Answer.rename ρ)⟩

variable {ρ : Token → Token}

@[simp]
theorem key?_rename (call : Call) : (call.rename ρ).key? = call.key? := by
  cases call <;> rfl

theorem rename_eq_purge_iff {call : Call} : call.rename ρ = .purge ↔ call = .purge := by
  cases call <;> simp [Call.rename]

/-! ## Records -/

@[simp]
theorem isExpiredAt_rename (r : Record) (now : Instant) :
    (r.rename ρ).isExpiredAt now = r.isExpiredAt now := rfl

@[simp]
theorem isPending_rename (r : Record) : (r.rename ρ).isPending = r.isPending := rfl

theorem isOwnedBy_rename (inj : Function.Injective ρ) (r : Record) (owner : Token) :
    (r.rename ρ).isOwnedBy (ρ owner) = r.isOwnedBy owner := by
  simp [Record.isOwnedBy, Record.rename, inj.eq_iff]

/-- What is seen later of a record does not depend on its token. -/
theorem filter_rename (r : Option Record) (now : Instant) :
    (r.map (Record.rename ρ)).filter (fun r => !r.isExpiredAt now) =
      (r.filter fun r => !r.isExpiredAt now).map (Record.rename ρ) := by
  cases r with
  | none => rfl
  | some r => cases expired : r.isExpiredAt now <;> simp [Option.filter, expired]

/-- A lease for another token is another lease. -/
theorem pending?_rename (now : Instant) (key : String) (fresh : Token) (lease : Span) :
    Record.pending? now key (ρ fresh) lease =
      (Record.pending? now key fresh lease).map (Record.rename ρ) := by
  simp only [Record.pending?, Option.map_map]
  rfl

/-! ## Sights -/

/-- A lease for another token is seen where the lease is, and answered with the other token. -/
theorem Sight.grant_rename {v v' : Sight} {key : String}
    (same : v' key = (v key).map (Record.rename ρ)) (now : Instant) (fresh : Token) (lease : Span)
    {answer : Token → Answer} (answers : ∀ owner, answer (ρ owner) = (answer owner).rename ρ) :
    (v'.grant now key (ρ fresh) lease answer).1 key =
        ((v.grant now key fresh lease answer).1 key).map (Record.rename ρ) ∧
      (v'.grant now key (ρ fresh) lease answer).2 =
        (v.grant now key fresh lease answer).2.map (Answer.rename ρ) := by
  simp only [Sight.grant, pending?_rename]
  cases Record.pending? now key fresh lease with
  | none => exact ⟨same, rfl⟩
  | some r => simp [Attempt.map, answers]

/-- Where the same is seen of a key but for the tokens, a call about the key with other tokens
leaves the same to be seen of it, and is answered in the same way. -/
theorem Sight.next_rename (inj : Function.Injective ρ) {v v' : Sight} {t : Timed} {key : String}
    (about : t.call.key? = some key) (same : v' key = (v key).map (Record.rename ρ)) :
    (v'.next (t.rename ρ)).1 key = ((v.next t).1 key).map (Record.rename ρ) ∧
      (v'.next (t.rename ρ)).2 = (v.next t).2.map (Answer.rename ρ) := by
  obtain ⟨now, call⟩ := t
  cases call with
  | claim key lease fresh =>
    cases about
    simp only [Timed.rename, Call.rename, Sight.next, same]
    cases seen : v key with
    | some existing => exact ⟨by simp [same, seen], rfl⟩
    | none => exact grant_rename same now fresh lease fun _ => rfl
  | seize key lease fresh =>
    cases about
    exact grant_rename same now fresh lease fun _ => rfl
  | complete key owner outcome window =>
    cases about
    simp only [Timed.rename, Call.rename, Sight.next, same]
    cases seen : v key with
    | none => exact ⟨by simp [same, seen], rfl⟩
    | some r =>
      simp only [Option.map_some, isOwnedBy_rename inj, isPending_rename]
      split
      · cases now.deadline? window with
        | none => exact ⟨by simp [Record.rename, Record.withOutcome], rfl⟩
        | some ends => exact ⟨by simp [Record.rename, Record.withOutcome], rfl⟩
      · exact ⟨by simp [same, seen], rfl⟩
  | release key owner =>
    cases about
    have owned : (v' key).any (·.isOwnedBy (ρ owner)) = (v key).any (·.isOwnedBy owner) := by
      rw [same]
      cases v key <;> simp [isOwnedBy_rename inj]
    simp only [Timed.rename, Call.rename, Sight.next, owned]
    split
    · exact ⟨by simp, rfl⟩
    · exact ⟨same, rfl⟩
  | read key =>
    cases about
    exact ⟨same, by simp [Timed.rename, Call.rename, Sight.next, same, Attempt.map, Answer.rename]⟩
  | purge => cases about

/-! ## Two stores -/

/-- The entries of a journal that are about a key. -/
def about (key : String) (journal : List Entry) : List Entry :=
  journal.filter fun e => e.call.key? = some key

theorem about_append_of_eq {key : String} {e : Entry} (here : e.call.key? = some key)
    (journal : List Entry) : about key (journal ++ [e]) = about key journal ++ [e] := by
  simp [about, List.filter_append, here]

theorem about_append_of_ne {key : String} {e : Entry} (elsewhere : e.call.key? ≠ some key)
    (journal : List Entry) : about key (journal ++ [e]) = about key journal := by
  simp [about, List.filter_append, elsewhere]

namespace View

variable {σ : Type} {st : Store σ} {w : View st} {key : String} {now : Instant}
  {s d : Journaled σ} {t : Timed}

/-- The same is seen of a key in two stores and stands about it in their journals, but for the
tokens. -/
structure Alike (w : View st) (ρ : Token → Token) (key : String) (now : Instant)
    (s d : Journaled σ) : Prop where
  seen : w.sight d.inner now key = (w.sight s.inner now key).map (Record.rename ρ)
  told : about key d.journal = (about key s.journal).map (Entry.rename ρ)

namespace Alike

theorem later {later : Instant} (h : w.Alike ρ key now s d) (le : now ≤ later) :
    w.Alike ρ key later s d where
  seen := by
    rw [w.sight_of_le _ le, w.sight_of_le s.inner le, Sight.later, Sight.later, h.seen,
      filter_rename]
  told := h.told

/-- Stores that are alike answer calls about the key alike. -/
theorem entry (h : w.Alike ρ key t.now s d) (inj : Function.Injective ρ)
    (here : t.call.key? = some key) : d.entry st (t.rename ρ) = (s.entry st t).rename ρ := by
  have unpurged : t.call ≠ .purge := by
    intro purge
    rw [purge] at here
    cases here
  have answer := w.result_perform s.inner t unpurged
  have answer' := w.result_perform d.inner (t.rename ρ) (mt rename_eq_purge_iff.1 unpurged)
  rw [Journaled.entry, answer', Journaled.entry, answer, Entry.rename]
  congr 1
  exact (Sight.next_rename inj here h.seen).2

/-- And they stay alike. -/
theorem take (h : w.Alike ρ key t.now s d) (inj : Function.Injective ρ)
    (here : t.call.key? = some key) :
    w.Alike ρ key t.now (s.take st t) (d.take st (t.rename ρ)) where
  seen := by
    have next := (Sight.next_rename inj here h.seen).1
    rw [w.sight_take, show w.sight (d.take st (t.rename ρ)).inner t.now = _ from
      w.sight_take d (t.rename ρ), Sight.later, Sight.later, show (t.rename ρ).now = t.now from rfl,
      next, filter_rename]
  told := by
    have here' : (t.rename ρ).call.key? = some key := (key?_rename t.call).trans here
    rw [Journaled.journal_take, Journaled.journal_take, about_append_of_eq here',
      about_append_of_eq here, h.told, h.entry inj here, List.map_append]
    rfl

/-- What a call about another key leaves of this one. -/
theorem sight_take_of_ne (elsewhere : t.call.key? ≠ some key) (s : Journaled σ) :
    w.sight (s.take st t).inner t.now key = w.sight s.inner t.now key := by
  rw [w.sight_take, Sight.later, Sight.next_fst_of_ne _ _ elsewhere]
  exact congrFun (w.sight_later_self s.inner t.now) key

/-- A call about another key, or about none, keeps stores alike. -/
theorem take_left (h : w.Alike ρ key t.now s d) (elsewhere : t.call.key? ≠ some key) :
    w.Alike ρ key t.now (s.take st t) d where
  seen := by rw [sight_take_of_ne elsewhere, h.seen]
  told := by rw [Journaled.journal_take, about_append_of_ne elsewhere, h.told]

theorem take_right (h : w.Alike ρ key t.now s d) (elsewhere : t.call.key? ≠ some key) :
    w.Alike ρ key t.now s (d.take st t) where
  seen := by rw [sight_take_of_ne elsewhere, h.seen]
  told := by rw [Journaled.journal_take, about_append_of_ne elsewhere, h.told]

end Alike

end View

end Store

end Turnstile
