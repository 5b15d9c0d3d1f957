import Turnstile.Policy
import Turnstile.Proofs.Number.Order
import Turnstile.Proofs.Store.Journal

/-!
The ledger of a number of calls: what the counters must say at all times, and what they must say
when no call is in flight, given what went wrong with the store. Main statements: both hold of calls
together if they hold of each (`Counters.Orderly.add`, `Counters.Square.add`), and the duplicate
rate of counters in order is the rounded ratio of two counts and lies between zero and one
(`Counters.exists_duplicateRate`, `Counters.isShare_duplicateRate`).
-/

namespace Turnstile

open Store

variable {σ : Type}

/-! ## Troubles -/

/-- What goes wrong between a call and the store: a claim gives neither a lease nor anything to
answer with, or the end of a lease comes too late or fails. -/
inductive Trouble
  | early
  | staleCompletion
  | failedCompletion
  | staleRelease
  | failedRelease
deriving DecidableEq

/-- A completed record without an outcome is trouble where repeats are given outcomes. -/
def Store.Call.uncached? (rule : RepeatRule) (existing : Record) : Option Trouble :=
  if existing.isCompleted ∧ rule = .returnCached ∧ existing.outcome?.isNone then some .early
  else none

/-- The trouble that an answer of the store is. -/
def Store.Call.trouble? (rule : RepeatRule) : Call → Attempt Answer → Option Trouble
  | .claim _ _ _, .failed _ | .seize _ _ _, .failed _ => some .early
  | .claim _ _ _, .done (.claim (.conflict existing)) => uncached? rule existing
  | .complete _ _ _ _, .done (.finality .stale) => some .staleCompletion
  | .complete _ _ _ _, .failed _ => some .failedCompletion
  | .release _ _, .done (.finality .stale) => some .staleRelease
  | .release _ _, .failed _ => some .failedRelease
  | _, _ => none

/-- The trouble that an entry of a journal tells of. -/
def Store.Entry.trouble? (rule : RepeatRule) (e : Entry) : Option Trouble :=
  e.call.trouble? rule e.answer

/-- The answers that a call may get. -/
def Store.Call.Admits : Call → Attempt Answer → Prop
  | .claim _ _ _, answer => ∃ result : Attempt Claim, answer = result.map .claim
  | .seize _ _ _, answer => ∃ result : Attempt Token, answer = result.map .owner
  | .complete _ _ _ _, answer | .release _ _, answer =>
    ∃ result : Attempt Finality, answer = result.map .finality
  | .read _, answer => ∃ result : Attempt (Option Record), answer = result.map .record
  | .purge, answer => ∃ result : Attempt Nat, answer = result.map .count

theorem Store.admits_perform (st : Store σ) (s : σ) (t : Timed) :
    t.call.Admits (st.perform s t).result := by
  obtain ⟨now, call⟩ := t
  cases call <;> exact ⟨_, rfl⟩

/-! ## Counters -/

/-- A counter says how often it was counted. -/
theorem Effect.get_counters (start : Counters) (effects : List Effect) (k : Counter) :
    (counters start effects).get k = start.get k + effects.count (.count k) := by
  induction effects generalizing start with
  | nil => rfl
  | cons effect effects ih =>
    have first : counters start (effect :: effects) = counters (counters start [effect]) effects :=
      rfl
    rw [first, ih]
    cases effect with
    | count k' =>
      have bumped : counters start [.count k'] = start.bump k' := rfl
      rw [bumped, Counters.get_bump]
      by_cases same : k = k'
      · subst same
        simp
        omega
      · simp [same, Ne.symm same]
    | measure measure => simp [counters]
    | log event => simp [counters]
    | invoke => simp [counters]

namespace Counters

/-- At any time, a number of calls have counted no more requests as answered or begun than as
received, no more operations as ended than as begun, and nothing more often than they are. -/
structure Orderly (n : Counters) (calls : Nat) : Prop where
  received : n.missingKeys + n.new + n.duplicates ≤ n.total
  begun : n.completed + n.failed ≤ n.new
  bounded : ∀ k, n.get k ≤ calls

/-- When no call is in flight, every request received is counted once more, every operation begun is
counted once more or its completion went wrong, and what went wrong is counted. -/
structure Square (n : Counters) (troubles : List Trouble) : Prop where
  received : n.total = n.missingKeys + n.new + n.replayed + n.inProgress + n.repeatRejected +
    troubles.count .early
  begun : n.new = n.completed + n.failed + troubles.count .staleCompletion +
    troubles.count .failedCompletion
  stale : n.stale = troubles.count .staleCompletion + troubles.count .staleRelease
  storeErrors : n.storeErrors = troubles.count .early + troubles.count .failedCompletion +
    troubles.count .failedRelease

instance : Add Counters :=
  ⟨fun a b => ⟨a.total + b.total, a.missingKeys + b.missingKeys, a.new + b.new,
    a.bypassed + b.bypassed, a.replayed + b.replayed, a.inProgress + b.inProgress,
    a.repeatRejected + b.repeatRejected, a.completed + b.completed, a.failed + b.failed,
    a.stale + b.stale, a.storeErrors + b.storeErrors⟩⟩

theorem get_add (a b : Counters) (k : Counter) : (a + b).get k = a.get k + b.get k := by
  cases k <;> rfl

theorem ext_get {a b : Counters} (h : ∀ k, a.get k = b.get k) : a = b := by
  cases a
  cases b
  congr
  exacts [h .total, h .missingKey, h .new, h .bypassed, h .replayed, h .inProgress,
    h .repeatRejected, h .completed, h .failed, h .stale, h .storeError]

theorem get_zero (k : Counter) : zero.get k = 0 := by
  cases k <;> rfl

theorem mem_all (k : Counter) : k ∈ Counter.all := by
  cases k <;> decide

instance (n : Counters) (calls : Nat) : Decidable (n.Orderly calls) :=
  decidable_of_iff
    (n.missingKeys + n.new + n.duplicates ≤ n.total ∧ n.completed + n.failed ≤ n.new ∧
      ∀ k ∈ Counter.all, n.get k ≤ calls)
    ⟨fun h => ⟨h.1, h.2.1, fun k => h.2.2 k (mem_all k)⟩,
      fun h => ⟨h.received, h.begun, fun k _ => h.bounded k⟩⟩

instance (n : Counters) (troubles : List Trouble) : Decidable (n.Square troubles) :=
  decidable_of_iff
    (n.total = n.missingKeys + n.new + n.replayed + n.inProgress + n.repeatRejected +
        troubles.count .early ∧
      n.new = n.completed + n.failed + troubles.count .staleCompletion +
        troubles.count .failedCompletion ∧
      n.stale = troubles.count .staleCompletion + troubles.count .staleRelease ∧
      n.storeErrors = troubles.count .early + troubles.count .failedCompletion +
        troubles.count .failedRelease)
    ⟨fun h => ⟨h.1, h.2.1, h.2.2.1, h.2.2.2⟩,
      fun h => ⟨h.received, h.begun, h.stale, h.storeErrors⟩⟩

section

variable {a b : Counters}

theorem Orderly.add {calls calls' : Nat} (h : a.Orderly calls) (h' : b.Orderly calls') :
    (a + b).Orderly (calls + calls') := by
  refine ⟨?_, ?_, fun k => ?_⟩
  · have received := h.received
    have received' := h'.received
    simp only [duplicates] at received received'
    show a.missingKeys + b.missingKeys + (a.new + b.new) + (a.replayed + b.replayed +
      (a.inProgress + b.inProgress) + (a.repeatRejected + b.repeatRejected)) ≤ a.total + b.total
    omega
  · have begun := h.begun
    have begun' := h'.begun
    show a.completed + b.completed + (a.failed + b.failed) ≤ a.new + b.new
    omega
  · rw [get_add]
    exact Nat.add_le_add (h.bounded k) (h'.bounded k)

theorem Square.add {troubles troubles' : List Trouble} (h : a.Square troubles)
    (h' : b.Square troubles') : (a + b).Square (troubles ++ troubles') := by
  obtain ⟨received, begun, stale, storeErrors⟩ := h
  obtain ⟨received', begun', stale', storeErrors'⟩ := h'
  refine ⟨?_, ?_, ?_, ?_⟩ <;> simp only [List.count_append]
  · show a.total + b.total = a.missingKeys + b.missingKeys + (a.new + b.new) +
      (a.replayed + b.replayed) + (a.inProgress + b.inProgress) +
      (a.repeatRejected + b.repeatRejected) + _
    omega
  · show a.new + b.new = a.completed + b.completed + (a.failed + b.failed) + _ + _
    omega
  · show a.stale + b.stale = _
    omega
  · show a.storeErrors + b.storeErrors = _
    omega

end

/-- What is counted in one place and in another is counted in all. -/
theorem counters_append (effects more : List Effect) :
    Effect.counters .zero (effects ++ more) =
      Effect.counters .zero effects + Effect.counters .zero more := by
  refine ext_get fun k => ?_
  simp only [get_add, Effect.get_counters, List.count_append, get_zero, Nat.zero_add]

section

variable {n : Counters} {calls : Nat}

/-- The duplicate rate of counters in order is the rounded ratio of duplicates and requests. -/
theorem exists_duplicateRate (h : n.Orderly calls) (few : calls < Nat.pow 2 64)
    (nonzero : n.total ≠ 0) :
    ∃ part whole, Double.ofInt? n.duplicates = some part ∧ Double.ofInt? n.total = some whole ∧
      part.div? whole = some n.duplicateRate ∧ n.duplicateRate.IsShare := by
  have received := h.received
  have short : n.total < Nat.pow 2 64 := Nat.lt_of_le_of_lt (h.bounded .total) few
  obtain ⟨part, hpart⟩ := Double.exists_ofInt? (n := n.duplicates) (by omega)
  obtain ⟨whole, hwhole⟩ := Double.exists_ofInt? short
  obtain ⟨rate, hrate, share⟩ := Double.exists_div? (by omega) nonzero hpart hwhole
  have same : n.duplicateRate = rate := by
    rw [duplicateRate, if_neg nonzero, hpart, hwhole, Option.bind_some, Option.bind_some, hrate,
      Option.getD_some]
  exact ⟨part, whole, hpart, hwhole, same ▸ hrate, same ▸ share⟩

/-- The duplicate rate of counters in order lies between zero and one. -/
theorem isShare_duplicateRate (h : n.Orderly calls) (few : calls < Nat.pow 2 64) :
    n.duplicateRate.IsShare := by
  by_cases none : n.total = 0
  · rw [duplicateRate, if_pos none]
    exact Double.isShare_zero
  · obtain ⟨-, -, -, -, -, share⟩ := exists_duplicateRate h few none
    exact share

end

end Counters

end Turnstile
