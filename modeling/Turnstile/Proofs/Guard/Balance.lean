import Turnstile.Proofs.Guard.Crowd
import Turnstile.Proofs.Guard.Ledger

/-!
The balance of the counters. A single call keeps its own counters in order on every course, so those
of a crowd are in order at any time. Main statements: a course keeps the counters from the beginning
to the end of its call (`Guard.keeps_courseOf`), and the counters of a crowd balance however its
calls interleave (`Crowd.counters_balance`).
-/

namespace Turnstile

open Store

variable {σ ε : Type}

/-! ## Courses -/

namespace Course

variable (rule : RepeatRule)

/-- A course keeps counters orderly as long as no call of the store breaks off, and in the end they
are square. -/
def Keeps : Course ε → Counters → List Trouble → Prop
  | .ends _, n, troubles => n.Orderly 1 ∧ n.Square troubles
  | .leaves effect rest, n, troubles =>
    n.Orderly 1 ∧ rest.Keeps (Effect.counters n [effect]) troubles
  | .asks call answered, n, troubles =>
    n.Orderly 1 ∧ ∀ answer, call.Admits answer → answer ≠ .overflow →
      (answered answer).Keeps n (troubles ++ (call.trouble? rule answer).toList)

section

variable {rule} {rest : Course ε} {n : Counters} {troubles : List Trouble}

theorem Keeps.orderly {course : Course ε} (h : course.Keeps rule n troubles) : n.Orderly 1 := by
  cases course <;> exact h.1

/-- Only a counter that goes up can upset the counters. -/
theorem keeps_leaves_iff {effect : Effect} (uncounted : Effect.counters n [effect] = n) :
    (leaves effect rest).Keeps rule n troubles ↔ rest.Keeps rule n troubles := by
  refine ⟨fun h => ?_, fun h => ⟨h.orderly, ?_⟩⟩
  · have kept := h.2
    rwa [uncounted] at kept
  · rwa [uncounted]

@[simp]
theorem keeps_leaves_measure {measure : Measure} :
    (leaves (.measure measure) rest).Keeps rule n troubles ↔ rest.Keeps rule n troubles :=
  keeps_leaves_iff rfl

@[simp]
theorem keeps_leaves_log {event : Event} :
    (leaves (.log event) rest).Keeps rule n troubles ↔ rest.Keeps rule n troubles :=
  keeps_leaves_iff rfl

@[simp]
theorem keeps_leaves_invoke :
    (leaves .invoke rest).Keeps rule n troubles ↔ rest.Keeps rule n troubles :=
  keeps_leaves_iff rfl

@[simp]
theorem keeps_leaves_count {k : Counter} :
    (leaves (.count k) rest).Keeps rule n troubles ↔
      n.Orderly 1 ∧ rest.Keeps rule (n.bump k) troubles := Iff.rfl

@[simp]
theorem keeps_ends {result : Option (Except (CallError ε) Outcome)} :
    (ends result).Keeps rule n troubles ↔ n.Orderly 1 ∧ n.Square troubles := Iff.rfl

/-! ### Answers -/

section

variable {answered : Attempt Answer → Course ε} {key : String} {owner : Token}

/-- A call that ends a lease is applied, comes too late, or fails. -/
theorem keeps_asks_final {call : Call} {late lost : Trouble}
    (final : call.finalizes? = some owner)
    (isLate : call.trouble? rule (.done (.finality .stale)) = some late)
    (isLost : ∀ fault, call.trouble? rule (.failed fault) = some lost) (orderly : n.Orderly 1)
    (applied : (answered (.done (.finality .applied))).Keeps rule n troubles)
    (stale : (answered (.done (.finality .stale))).Keeps rule n (troubles ++ [late]))
    (failed : ∀ fault, (answered (.failed fault)).Keeps rule n (troubles ++ [lost])) :
    (asks call answered).Keeps rule n troubles := by
  have shape : ∀ answer, call.Admits answer →
      ∃ result : Attempt Finality, answer = result.map .finality := by
    cases call <;> first | exact fun _ => id | cases final
  have untroubled : call.trouble? rule (.done (.finality .applied)) = none := by
    cases call <;> rfl
  refine ⟨orderly, fun answer admits unbroken => ?_⟩
  obtain ⟨result, rfl⟩ := shape answer admits
  cases result with
  | done finality =>
    cases finality with
    | applied => simpa [Attempt.map, untroubled] using applied
    | stale => simpa [Attempt.map, isLate] using stale
  | failed fault => simpa [Attempt.map, isLost] using failed fault
  | overflow => exact absurd rfl unbroken

theorem keeps_asks_seize {lease : Span} {fresh : Token} (orderly : n.Orderly 1)
    (granted : ∀ owner, (answered (.done (.owner owner))).Keeps rule n troubles)
    (failed : ∀ fault, (answered (.failed fault)).Keeps rule n (troubles ++ [.early])) :
    (asks (.seize key lease fresh) answered).Keeps rule n troubles := by
  refine ⟨orderly, ?_⟩
  rintro answer ⟨result, rfl⟩ unbroken
  cases result with
  | done owner => simpa [Call.trouble?, Attempt.map] using granted owner
  | failed fault => exact failed fault
  | overflow => exact absurd rfl unbroken

theorem keeps_asks_claim {lease : Span} {fresh : Token} (orderly : n.Orderly 1)
    (granted : ∀ owner, (answered (.done (.claim (.acquired owner)))).Keeps rule n troubles)
    (refused : ∀ existing, (answered (.done (.claim (.conflict existing)))).Keeps rule n
      (troubles ++ (Call.uncached? rule existing).toList))
    (failed : ∀ fault, (answered (.failed fault)).Keeps rule n (troubles ++ [.early])) :
    (asks (.claim key lease fresh) answered).Keeps rule n troubles := by
  refine ⟨orderly, ?_⟩
  rintro answer ⟨result, rfl⟩ unbroken
  cases result with
  | done claim =>
    cases claim with
    | acquired owner => simpa [Call.trouble?, Attempt.map] using granted owner
    | conflict existing => exact refused existing
  | failed fault => exact failed fault
  | overflow => exact absurd rfl unbroken

end

end

/-! ### A single call -/

/-- The counters of a single call that has a key. -/
def received (bypass : Bool) : Counters :=
  { Counters.zero with total := 1, bypassed := bypass.toNat }

/-- The counters of a single call whose operation runs. -/
def running (bypass : Bool) : Counters := (received bypass).bump .new

variable {rule}

/-- A last release keeps the counters, whatever the store answers. -/
theorem keeps_releasing (bypass : Bool) (lease : Lease) (reason : String)
    (result : Option (Except (CallError ε) Outcome)) :
    (releasing lease reason (.ends result)).Keeps rule (running bypass) [] := by
  -- the release is counted as a failure first, then it is applied, comes too late or fails
  refine keeps_leaves_count.2 ⟨by decide +revert,
    keeps_asks_final rfl rfl (fun _ => rfl) (by decide +revert) ?_ ?_ fun fault => ?_⟩
  · exact keeps_leaves_log.2 (keeps_ends.2 (by decide +revert))
  · exact keeps_leaves_count.2 ⟨by decide +revert,
      keeps_leaves_measure.2 (keeps_leaves_log.2 (keeps_ends.2 (by decide +revert)))⟩
  · exact keeps_leaves_count.2 ⟨by decide +revert,
      keeps_leaves_log.2 (keeps_ends.2 (by decide +revert))⟩

/-- What is done under a lease keeps the counters. -/
theorem keeps_concluding (bypass : Bool) (lease : Lease) (window : Span) (ending : Ending ε) :
    (concluding lease window ending).Keeps rule (running bypass) [] := by
  cases ending with
  | returned outcome =>
    refine keeps_leaves_measure.2 (keeps_asks_final rfl rfl (fun _ => rfl)
      (by decide +revert) ?_ ?_ fun fault => ?_)
    · exact keeps_leaves_count.2 ⟨by decide +revert,
        keeps_leaves_log.2 (keeps_ends.2 (by decide +revert))⟩
    · exact keeps_leaves_count.2 ⟨by decide +revert,
        keeps_leaves_measure.2 (keeps_leaves_log.2 (keeps_ends.2 (by decide +revert)))⟩
    · exact keeps_leaves_count.2 ⟨by decide +revert,
        keeps_leaves_log.2 (keeps_ends.2 (by decide +revert))⟩
  | failed error => exact keeps_leaves_measure.2 (keeps_releasing ..)
  | panicked message => exact keeps_releasing ..

/-- An operation that is started under a fresh lease keeps the counters. -/
theorem keeps_granted (bypass : Bool) (policy : Policy) (rawKey : String) (lease : Lease)
    (window : Span) (ending : Ending ε) :
    (after (Guard.granted policy rawKey lease.owner) (concluding lease window ending)).Keeps rule
      (received bypass) [] :=
  keeps_leaves_count.2 ⟨by decide +revert, keeps_leaves_log.2 (keeps_leaves_invoke.2
    (keeps_concluding bypass lease window ending))⟩

/-- A claim that fails keeps the counters. -/
theorem keeps_claimFailed (bypass : Bool) (policy : Policy) (fault : Fault)
    (result : Option (Except (CallError ε) Outcome)) :
    (after (Guard.claimFailed policy fault) (ends result)).Keeps rule (received bypass) [.early] :=
  keeps_leaves_count.2 ⟨by decide +revert,
    keeps_leaves_log.2 (keeps_ends.2 (by decide +revert))⟩

/-- A repeat keeps the counters, whatever record stands in its way. -/
theorem keeps_conflict (policy : Policy) (rawKey : String) (existing : Record)
    (result : Option (Except (CallError ε) Outcome)) :
    (after (Guard.conflict policy rawKey existing).1 (ends result)).Keeps policy.repeats
      (received false) (Call.uncached? policy.repeats existing).toList := by
  unfold Guard.conflict Call.uncached?
  cases state : existing.state with
  | pending =>
    have pending : existing.isCompleted = false := by simp [Record.isCompleted, state]
    simp only [pending, Bool.false_eq_true, false_and, if_false]
    exact keeps_leaves_count.2 ⟨by decide, keeps_leaves_measure.2
      (keeps_leaves_log.2 (keeps_ends.2 (by decide)))⟩
  | completed =>
    have completed : existing.isCompleted = true := by simp [Record.isCompleted, state]
    cases rule : policy.repeats with
    | reject =>
      simp only [reduceCtorEq, false_and, and_false, if_false]
      exact keeps_leaves_count.2 ⟨by decide, keeps_leaves_measure.2
        (keeps_leaves_log.2 (keeps_ends.2 (by decide)))⟩
    | returnCached =>
      cases cached : existing.outcome? with
      | some outcome =>
        simp only [Option.isNone_some, Bool.false_eq_true, and_false, if_false]
        exact keeps_leaves_count.2 ⟨by decide, keeps_leaves_measure.2
          (keeps_leaves_log.2 (keeps_ends.2 (by decide)))⟩
      | none =>
        simp only [completed, Option.isNone_none, and_self, if_true]
        exact keeps_leaves_count.2 ⟨by decide, keeps_ends.2 (by decide)⟩

end Course

/-- A course keeps the counters from the beginning to the end of its call. -/
theorem Guard.keeps_courseOf (g : Guard σ) (c : Caller) (fresh : Token) (ending : Ending ε) :
    (g.courseOf c fresh ending).Keeps c.policy.repeats .zero [] := by
  obtain ⟨policy, origin, bypass⟩ := c
  unfold courseOf
  split
  · refine Course.keeps_leaves_count.2 ⟨by decide, Course.keeps_leaves_count.2 ⟨by decide, ?_⟩⟩
    cases origin with
    | given rawKey => exact Course.keeps_ends.2 (by decide)
    | request extractor source =>
      exact Course.keeps_leaves_log.2 (Course.keeps_ends.2 (by decide))
  · rename_i rawKey found
    refine Course.keeps_leaves_count.2 ⟨by decide, Course.keeps_leaves_measure.2 ?_⟩
    cases bypass with
    | true =>
      refine Course.keeps_leaves_count.2 ⟨by decide, Course.keeps_asks_seize (by decide)
        (fun owner => Course.keeps_leaves_log.2 ?_) fun fault => ?_⟩
      · exact Course.keeps_granted true policy rawKey (g.leaseFor _ rawKey owner) policy.window
          ending
      · exact Course.keeps_claimFailed true policy fault _
    | false =>
      refine Course.keeps_asks_claim (by decide) (fun owner => ?_) (fun existing => ?_)
        fun fault => ?_
      · exact Course.keeps_granted false policy rawKey (g.leaseFor _ rawKey owner) policy.window
          ending
      · exact Course.keeps_conflict policy rawKey existing _
      · exact Course.keeps_claimFailed false policy fault _

/-! ## Crowds -/

/-- What went wrong for a party. -/
def Party.troubles (p : Party ε) : List Trouble :=
  p.asked.filterMap (Entry.trouble? p.caller.policy.repeats)

/-- What went wrong for all parties. -/
def Crowd.troubles (c : Crowd σ ε) : List Trouble := c.parties.flatMap Party.troubles

/-- Unless a call of the store broke off, what is left of a party keeps the counters that it left
behind. -/
def Party.Balanced (p : Party ε) : Prop :=
  (∀ e ∈ p.asked, e.answer ≠ .overflow) →
    p.rest.Keeps p.caller.policy.repeats (Effect.counters .zero p.left) p.troubles

theorem Party.Moves.balanced {st : Store σ} {s s' : σ} {own : List Effect} {p p' : Party ε}
    (moves : p.Moves st s s' own p') (h : p.Balanced) : p'.Balanced := by
  cases moves with
  | @leave effect rest next =>
    intro unbroken
    have kept := h unbroken
    rw [next] at kept
    have counted : Effect.counters .zero (p.left ++ [effect]) =
      Effect.counters (Effect.counters .zero p.left) [effect] := List.foldl_append
    show rest.Keeps _ (Effect.counters .zero (p.left ++ [effect])) _
    rw [counted]
    exact kept.2
  | @ask call answered step now next performs =>
    -- the answer is one that the call admits, so the rest of the course keeps the counters
    intro unbroken
    have kept := h fun e he => unbroken e (List.mem_append_left _ he)
    rw [next] at kept
    have admits : call.Admits step.result := performs ▸ st.admits_perform s ⟨now, call⟩
    have more := kept.2 step.result admits
      (unbroken ⟨⟨now, call⟩, step.result⟩ (List.mem_append_right _ (by simp)))
    have told : (p.asked ++ [(⟨⟨now, call⟩, step.result⟩ : Entry)]).filterMap
        (Entry.trouble? p.caller.policy.repeats) =
          p.troubles ++ (call.trouble? p.caller.policy.repeats step.result).toList := by
      rw [List.filterMap_append, troubles]
      cases found : call.trouble? p.caller.policy.repeats step.result <;>
        simp [Entry.trouble?, found]
    rw [← told] at more
    exact more

namespace Counters

/-- What every party counts in order is in order in all. -/
theorem orderly_flatMap {parties : List (Party ε)}
    (h : ∀ p ∈ parties, (Effect.counters .zero p.left).Orderly 1) :
    (Effect.counters .zero (parties.flatMap Party.left)).Orderly parties.length := by
  induction parties with
  | nil =>
    show zero.Orderly 0
    decide
  | cons p parties ih =>
    rw [List.flatMap_cons, counters_append, List.length_cons, Nat.add_comm]
    exact (h p (by simp)).add (ih fun q hq => h q (List.mem_cons_of_mem _ hq))

/-- What is square for every party is square in all. -/
theorem square_flatMap {parties : List (Party ε)}
    (h : ∀ p ∈ parties, (Effect.counters .zero p.left).Square p.troubles) :
    (Effect.counters .zero (parties.flatMap Party.left)).Square
      (parties.flatMap Party.troubles) := by
  induction parties with
  | nil =>
    show zero.Square []
    decide
  | cons p parties ih =>
    rw [List.flatMap_cons, List.flatMap_cons, counters_append]
    exact (h p (by simp)).add (ih fun q hq => h q (List.mem_cons_of_mem _ hq))

end Counters

namespace Crowd

variable {g : Guard σ} {s : σ} {c : Crowd σ ε}

/-- The counters are those of all that the parties left behind. -/
theorem counters_eq (quiet : g.store.Quiet) (reached : Reaches g (.empty s) c) :
    c.counters = Effect.counters .zero (c.parties.flatMap Party.left) :=
  Counters.ext_get fun k => by
    rw [counters, Effect.get_counters, Effect.get_counters, count_effects quiet reached]

theorem balanced_parties (reached : Reaches g (.empty s) c) : ∀ p ∈ c.parties, p.Balanced :=
  forall_parties reached (fun caller fresh ending _ => g.keeps_courseOf caller fresh ending)
    fun moves => moves.balanced

/-- However calls interleave, and whatever the store answers as long as it answers, the counters are
in order at all times and square whenever no call is in flight; none of them overflows, nor does the
number of duplicates, and the duplicate rate lies between zero and one. -/
theorem counters_balance (quiet : g.store.Quiet) (reached : Reaches g (.empty s) c)
    (unbroken : c.Unbroken) (few : c.parties.length < Nat.pow 2 64) :
    c.counters.Orderly c.parties.length ∧
      (∀ k, c.counters.get k < Nat.pow 2 64) ∧ c.counters.duplicates < Nat.pow 2 64 ∧
      c.counters.duplicateRate.IsShare ∧ (c.AtRest → c.counters.Square c.troubles) := by
  have kept : ∀ p ∈ c.parties,
      p.rest.Keeps p.caller.policy.repeats (Effect.counters .zero p.left) p.troubles :=
    fun p hp => balanced_parties reached p hp (unbroken p hp)
  have orderly : c.counters.Orderly c.parties.length := by
    rw [counters_eq quiet reached]
    exact Counters.orderly_flatMap fun p hp => (kept p hp).orderly
  have short := fun k => Nat.lt_of_le_of_lt (orderly.bounded k) few
  refine ⟨orderly, short, ?_, Counters.isShare_duplicateRate orderly few, fun rest => ?_⟩
  · have total : c.counters.total < Nat.pow 2 64 := short .total
    have received := orderly.received
    omega
  · rw [counters_eq quiet reached]
    refine Counters.square_flatMap fun p hp => ?_
    obtain ⟨result, ended⟩ := rest p hp
    have last := kept p hp
    rw [ended] at last
    exact last.2

/-! ### A crowd of three -/

/-- A caller for a key that others want as well. -/
def contender (bypass : Bool) : Caller := ⟨Policy.ofScope "s", .given "k1", bypass⟩

/-- The guard that such callers come to. -/
def contenderGuard : Guard Memory.State := ⟨Memory.store, defaultKeyPrefix⟩

/-- Three callers have entered, and the second one goes past what is recorded. -/
def contention : Crowd Memory.State Unit where
  store := .empty
  effects := []
  parties := [
    .entering contenderGuard (contender false) (.serial 1) (.returned ⟨200, .null⟩),
    .entering contenderGuard (contender true) (.serial 2) (.returned ⟨201, .null⟩),
    .entering contenderGuard (contender false) (.serial 3) (.returned ⟨202, .null⟩)]

theorem reaches_contention : Reaches contenderGuard (.empty .empty) contention :=
  ((Relation.ReflTransGen.single (.enter ..)).tail (.enter ..)).tail (.enter ..)

/-- All three take turns for a number of rounds. -/
def rounds (n : Nat) : List (Nat × Instant) :=
  (List.replicate n [(0, .epoch), (1, .epoch), (2, .epoch)]).flatten

/-- Three calls take turns: the second one seizes the key from the first, whose completion comes too
late, and the third one is refused. Half-way two operations have begun and neither has ended. -/
theorem counters_balance_contention :
    let c := contention.play contenderGuard (rounds 7)
    let c' := c.play contenderGuard (rounds 5)
    (Reaches contenderGuard (.empty .empty) c ∧ c.Unbroken ∧ ¬c.AtRest ∧
      c.counters = { Counters.zero with total := 3, new := 2, bypassed := 1, inProgress := 1 } ∧
      c.counters.Orderly 3 ∧ c.counters.duplicateRate.IsShare) ∧
    Reaches contenderGuard c c' ∧ c'.Unbroken ∧ c'.AtRest ∧
      c'.counters = { c.counters with completed := 1, stale := 1 } ∧
      c'.troubles = [.staleCompletion] ∧ c'.counters.Square c'.troubles := by
  intro c c'
  have reached : Reaches contenderGuard (.empty .empty) c :=
    reaches_contention.trans (proceeds_play contenderGuard contention (rounds 7)).reaches
  have finished : Reaches contenderGuard c c' := (proceeds_play contenderGuard c (rounds 5)).reaches
  obtain ⟨whole, flight, three, counted⟩ : c.Unbroken ∧ ¬c.AtRest ∧ c.parties.length = 3 ∧
      c.counters =
        { Counters.zero with total := 3, new := 2, bypassed := 1, inProgress := 1 } := by
    decide +kernel
  obtain ⟨whole', rest, three', counted', troubles⟩ : c'.Unbroken ∧ c'.AtRest ∧
      c'.parties.length = 3 ∧ c'.counters = { c.counters with completed := 1, stale := 1 } ∧
      c'.troubles = [.staleCompletion] := by
    decide +kernel
  have few : 3 < Nat.pow 2 64 := by decide
  obtain ⟨orderly, -, -, share, -⟩ :=
    counters_balance Memory.quiet_store reached whole (three ▸ few)
  obtain ⟨-, -, -, -, square⟩ :=
    counters_balance Memory.quiet_store (reached.trans finished) whole' (three' ▸ few)
  exact ⟨⟨reached, whole, flight, counted, three ▸ orderly, share⟩, finished, whole', rest,
    counted', troubles, square rest⟩

end Crowd

end Turnstile
