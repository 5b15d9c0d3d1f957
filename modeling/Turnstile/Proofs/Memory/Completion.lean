import Turnstile.Proofs.Guard.Replay
import Turnstile.Proofs.Memory.Sight

/-!
Completions that break off. The store in memory puts an outcome into a record before it computes the
record's new end, and an end that is out of range stops it there. Main statement: a completion that
is not applied changes nothing, unless it comes from the holder of a pending record and the end of
its window is out of range; then the outcome is left in the record, with the end of the lease, and
repeats are answered with it until that end or until the holder releases the key
(`complete_all_or_nothing`).
-/

namespace Turnstile.Memory

open Store

variable {s : State} {now : Instant} {key : String} {owner : Token} {outcome : Outcome}
  {window : Span} {r : Record}

/-! ## One completion -/

/-- The record of a key that a token may complete, if there is one. -/
def completable? (s : State) (now : Instant) (key : String) (owner : Token) : Option Record :=
  (live? s now key).filter fun r => r.isOwnedBy owner && r.isPending

/-- A completion breaks off: a record is there to be completed, and the end of the window is out of
range. -/
structure BreaksOff (s : State) (now : Instant) (key : String) (owner : Token) (window : Span)
    (r : Record) : Prop where
  completable : completable? s now key owner = some r
  outOfRange : ¬window.InRange now

theorem complete_of_none (none_there : completable? s now key owner = none) :
    complete s now key owner outcome window = step s (.done .stale) := by
  rw [completable?] at none_there
  rw [complete]
  cases seen : live? s now key with
  | none => rfl
  | some r =>
    rw [seen, Option.filter_some] at none_there
    split at none_there
    · cases none_there
    · rename_i refused
      exact if_neg refused

theorem complete_of_some (there : completable? s now key owner = some r) :
    complete s now key owner outcome window =
      match now.deadline? window with
      | some ends => step (s.insert key { r.withOutcome outcome with expiresAt := ends })
          (.done .applied)
      | none => step (s.insert key (r.withOutcome outcome)) .overflow := by
  obtain ⟨seen, held⟩ := Option.filter_eq_some_iff.1 there
  rw [complete, seen]
  exact if_pos held

/-- The record of a lease becomes another one by its outcome. -/
theorem withOutcome_ne (pending : r.isPending = true) : r.withOutcome outcome ≠ r := by
  intro same
  rw [← same] at pending
  cases pending

namespace BreaksOff

variable (h : BreaksOff s now key owner window r)

include h

theorem seen : live? s now key = some r := (Option.filter_eq_some_iff.1 h.completable).1

theorem owned : r.isOwnedBy owner = true := by
  have held := (Option.filter_eq_some_iff.1 h.completable).2
  exact (Bool.and_eq_true_iff.1 held).1

theorem pending : r.isPending = true := by
  have held := (Option.filter_eq_some_iff.1 h.completable).2
  exact (Bool.and_eq_true_iff.1 held).2

/-- What a completion that breaks off leaves: the outcome is in the record, and the end of the lease
is still the end of the record. -/
theorem complete_eq (outcome : Outcome) :
    complete s now key owner outcome window = step (s.insert key (r.withOutcome outcome)) .overflow
    := by
  have endless : now.deadline? window = none :=
    Option.not_isSome_iff_eq_none.1 h.outOfRange
  rw [complete_of_some h.completable, endless]

theorem state_ne (outcome : Outcome) :
    (complete s now key owner outcome window).state ≠ s := by
  intro same
  rw [h.complete_eq] at same
  have found := (Option.filter_eq_some_iff.1 h.seen).1
  have stands : s.find? key = some (r.withOutcome outcome) := by
    rw [← same]
    exact s.find?_insert_self key _
  exact withOutcome_ne h.pending (Option.some.inj (stands.symm.trans found))

/-- The record that is left is seen until the end of the lease. -/
theorem sight_left (outcome : Outcome) {later : Instant} (before : later < r.expiresAt) :
    sight (complete s now key owner outcome window).state later key =
      some (r.withOutcome outcome) := by
  have lasts : (r.withOutcome outcome).isExpiredAt later = false :=
    Instant.le_eq_false_iff.2 before
  rw [h.complete_eq, step, sight_of_find? (s.find?_insert_self key _), lasts]
  rfl

/-- A repeat is answered with the outcome that is left. -/
theorem replays (outcome : Outcome) {later : Instant} (before : later < r.expiresAt)
    {keyPrefix rawKey : String} {caller : Caller} (named : caller.rawKey? = some rawKey)
    (same : canonicalKey keyPrefix caller.policy.scope rawKey = key)
    (plain : caller.bypass = false) (cached : caller.policy.repeats = .returnCached)
    (journal : List Entry) (fresh : Token) :
    ((Guard.mk store keyPrefix).journaled.openFor caller
      ⟨(complete s now key owner outcome window).state, journal⟩ ⟨later, fresh⟩).value =
        .ended (.ok outcome) := by
  refine (Guard.openFor_eq_ok_iff (g := ⟨store, keyPrefix⟩) view).2 ⟨plain, cached, rawKey, ?_⟩
  exact ⟨r.withOutcome outcome, named, same ▸ h.sight_left outcome before, rfl⟩

/-- The holder takes the record away by a release, whenever it comes. -/
theorem find?_release (outcome : Outcome) (later : Instant) :
    (release (complete s now key owner outcome window).state later key owner).state.find? key =
      none := by
  have owned : (r.withOutcome outcome).isOwnedBy owner = true := h.owned
  rw [h.complete_eq]
  simp only [release, step, Table.find?_insert_self, owned, if_true]
  exact Table.find?_erase_self _ key

end BreaksOff

/-- **All or nothing.** With a window in range a completion never breaks off. One that is not
applied leaves every record as it was exactly if it does not break off at a record that is there to
be completed. If it does, that record alone is changed: it holds the outcome, which callers of its
key get until the end of the lease, unless a release of the same token removes it. -/
theorem complete_all_or_nothing (s : State) (now : Instant) (key : String) (owner : Token)
    (outcome : Outcome) (window : Span) :
    let left := store.complete s now key owner outcome window
    (window.InRange now → left.result ≠ .overflow) ∧
      (left.result ≠ .done .applied →
        (left.state = s ↔ ∀ r, ¬BreaksOff s now key owner window r)) ∧
      ∀ r, BreaksOff s now key owner window r →
        left.result = .overflow ∧ left.state = s.insert key (r.withOutcome outcome) ∧
        (∀ (later : Instant) (keyPrefix rawKey : String) (caller : Caller) (journal : List Entry)
          (fresh : Token), later < r.expiresAt → caller.rawKey? = some rawKey →
          canonicalKey keyPrefix caller.policy.scope rawKey = key → caller.bypass = false →
          caller.policy.repeats = .returnCached →
          ((Guard.mk store keyPrefix).journaled.openFor caller ⟨left.state, journal⟩
            ⟨later, fresh⟩).value = .ended (.ok outcome)) ∧
        ∀ later, (store.release left.state later key owner).state.find? key = none := by
  intro left
  refine ⟨?inRange, ?refused, ?broken⟩
  case inRange =>
    intro inRange
    obtain ⟨ends, limit⟩ := inRange.exists_deadline?
    show (complete s now key owner outcome window).result ≠ .overflow
    cases there : completable? s now key owner with
    | none => simp [complete_of_none there, step]
    | some r => simp [complete_of_some there, limit, step]
  case refused =>
    intro refused
    refine ⟨fun same r broken => broken.state_ne outcome same, fun unbroken => ?_⟩
    show (complete s now key owner outcome window).state = s
    have refused : (complete s now key owner outcome window).result ≠ .done .applied := refused
    cases there : completable? s now key owner with
    | none => rw [complete_of_none there, step]
    | some r =>
      -- a record is there and the completion does not break off, so it is applied
      have inRange : window.InRange now := by
        by_contra outOfRange
        exact unbroken r ⟨there, outOfRange⟩
      obtain ⟨ends, limit⟩ := inRange.exists_deadline?
      simp [complete_of_some there, limit, step] at refused
  case broken =>
    intro r broken
    refine ⟨congrArg Step.result (broken.complete_eq outcome),
      congrArg Step.state (broken.complete_eq outcome), ?_, broken.find?_release outcome⟩
    intro later keyPrefix rawKey caller journal fresh before named same plain cached
    exact broken.replays outcome before named same plain cached journal fresh

/-! ### A window without an end -/

/-- A window that ends after the last year of the calendar. -/
def beyond : Span := .ofMillis 9000000000000000

/-- A store with a lease of a minute on a key. -/
def leased (key : String) : State :=
  (claim .empty ⟨.epoch, .serial 1⟩ key (.ofSeconds 60)).state

theorem breaksOff_leased (key : String) :
    ∃ r, BreaksOff (leased key) .epoch key (.serial 1) beyond r ∧ Instant.epoch < r.expiresAt := by
  obtain ⟨r, granted, held, after⟩ : ∃ r, leased key = Table.empty.insert key r ∧
      (r.isOwnedBy (.serial 1) && r.isPending) = true ∧ Instant.epoch < r.expiresAt :=
    ⟨_, rfl, rfl, Instant.le_eq_false_iff.1 rfl⟩
  have seen : live? (leased key) .epoch key = some r := by
    have lasts : r.isExpiredAt .epoch = false := Instant.le_eq_false_iff.2 after
    rw [← sight, granted, sight_of_find? (Table.find?_insert_self _ key r), lasts]
    rfl
  have endless : ¬beyond.InRange .epoch := by decide
  exact ⟨r, ⟨by rw [completable?, seen, Option.filter_some, if_pos held], endless⟩, after⟩

/-- A caller who repeats a call. -/
def repeater : Caller := ⟨Policy.ofScope "s", .given "k", false⟩

/-- The holder of a lease breaks off at a window without an end: the outcome is left behind, a
repeat is answered with it, and the release that follows takes it away. With a window of a second it
does not break off. -/
theorem complete_all_or_nothing_beyond :
    let key := canonicalKey "idem" "s" "k"
    let left := store.complete (leased key) .epoch key (.serial 1) ⟨200, .null⟩ beyond
    (store.complete (leased key) .epoch key (.serial 1) ⟨200, .null⟩ (.ofSeconds 1)).result ≠
        .overflow ∧
      left.result = .overflow ∧ left.state ≠ leased key ∧
      ((Guard.mk store "idem").journaled.openFor repeater ⟨left.state, []⟩
        ⟨.epoch, .serial 2⟩).value = .ended (.ok ⟨200, .null⟩) ∧
      (store.release left.state .epoch key (.serial 1)).state.find? key = none := by
  intro key left
  obtain ⟨r, broken, before⟩ := breaksOff_leased key
  obtain ⟨-, unchanged, halved⟩ :=
    complete_all_or_nothing (leased key) .epoch key (.serial 1) ⟨200, .null⟩ beyond
  obtain ⟨overflow, -, replayed, removed⟩ := halved r broken
  refine ⟨?_, overflow, ?_, ?_, removed .epoch⟩
  · exact (complete_all_or_nothing (leased key) .epoch key (.serial 1) ⟨200, .null⟩
      (.ofSeconds 1)).1 (by decide)
  · intro same
    exact (unchanged (by rw [overflow]; simp)).1 same r broken
  · exact replayed .epoch "idem" "k" repeater [] (.serial 2) before rfl rfl rfl rfl

/-- Not every completion that is not applied changes nothing: one that breaks off leaves a record
with the outcome. -/
theorem not_all_or_nothing :
    (¬∀ s now key owner outcome window,
      (store.complete s now key owner outcome window).result ≠ .done .applied →
        (store.complete s now key owner outcome window).state = s) ∧
    ¬∀ s now key owner outcome window r,
      (store.complete s now key owner outcome window).result = .overflow →
        (store.complete s now key owner outcome window).state.find? key = some r →
          r.outcome? = none := by
  obtain ⟨r, broken, -⟩ := breaksOff_leased "k"
  have breaks := broken.complete_eq ⟨200, .null⟩
  constructor
  · intro unchanged
    refine broken.state_ne ⟨200, .null⟩ (unchanged (leased "k") .epoch "k" (.serial 1) _ beyond ?_)
    show (complete (leased "k") .epoch "k" (.serial 1) ⟨200, .null⟩ beyond).result ≠ _
    rw [breaks]
    simp [step]
  · intro never
    have found : (complete (leased "k") .epoch "k" (.serial 1) ⟨200, .null⟩ beyond).state.find?
        "k" = some (r.withOutcome ⟨200, .null⟩) := by
      rw [breaks]
      exact Table.find?_insert_self _ "k" _
    cases never (leased "k") .epoch "k" (.serial 1) ⟨200, .null⟩ beyond _
      (congrArg Step.result breaks) found

end Turnstile.Memory
